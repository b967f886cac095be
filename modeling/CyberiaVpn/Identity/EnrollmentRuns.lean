import CyberiaVpn.Identity.Enrollment

/-!
# Runs of the enrollment store

Any number of accounts call `Issue`, `Consume`, `Enroll` and `Device` in
any order and with any clock; a run is the list of their calls in the
order of the store's mutex.

`Effect` says once what a call can do to the store and `step_effect` that
there is nothing else. The rest follows from it: a pending challenge was
issued (`success_issued`), a digest that is gone stays gone
(`success_ne_of_absent`), and a device that an enrollment answered is in
the table from then on (`enrolled_stays`).
-/

namespace CyberiaVpn.Identity

open Control Data

inductive Op where
  | issue (accountID deviceID : Text) (now : Time) (random : Option Nonce)
  | consume (accountID deviceID value : Text) (now : Time)
  | enroll (request : EnrollmentRequest) (now : Time)
  | device (accountID deviceID : Text)
  deriving DecidableEq

inductive Answer where
  | challenge (challenge : Challenge)
  | consumed
  | device (device : DeviceIdentity)
  deriving DecidableEq

/-- A call with its answer. -/
abbrev Event := Op × Except EnrollmentError Answer

def step (C : Crypto) (s : EnrollmentStore) : Op → Except EnrollmentError Answer × EnrollmentStore
  | .issue accountID deviceID now random =>
      ((s.issue C accountID deviceID now random).1.map .challenge,
        (s.issue C accountID deviceID now random).2)
  | .consume accountID deviceID value now =>
      ((s.consume C accountID deviceID value now).1.map fun _ => .consumed,
        (s.consume C accountID deviceID value now).2)
  | .enroll request now =>
      ((s.enroll C request now).1.map .device, (s.enroll C request now).2)
  | .device accountID deviceID => ((s.device accountID deviceID).map .device, s)

/-- The store after some calls. -/
def after (C : Crypto) (s : EnrollmentStore) (ops : List Op) : EnrollmentStore :=
  ops.foldl (fun s op => (step C s op).2) s

/-- The calls with their answers. -/
def events (C : Crypto) : EnrollmentStore → List Op → List Event
  | _, [] => []
  | s, op :: ops => (op, (step C s op).1) :: events C (step C s op).2 ops

/-! ## Presenting a challenge -/

structure Presented where
  accountID : Text
  deviceID : Text
  value : Text
  now : Time
  deriving DecidableEq

def Op.presented : Op → Option Presented
  | .consume accountID deviceID value now => some ⟨accountID, deviceID, value, now⟩
  | .enroll request now => some ⟨request.accountID, request.deviceID, request.challenge, now⟩
  | _ => none

/-- What a successful `Consume` or `Enroll` was granted on. -/
def success : Event → Option Presented
  | (op, .ok _) => op.presented
  | (_, .error _) => none

def successes (es : List Event) : List Presented := es.filterMap success

/-- The random bytes of the calls to `Issue`. -/
def drawn (ops : List Op) : List Text :=
  ops.filterMap fun
    | .issue _ _ _ (some nonce) => some nonce.value
    | _ => none

/-! ## What a call does -/

section

variable (C : Crypto) (s : EnrollmentStore)

/-- The challenge of a presentation is pending for its account and device. -/
structure Pends (x : Presented) (p : PendingChallenge) : Prop where
  length : x.value.length = 32
  found : s.challenges.lookup (C.sha256 x.value) = some p
  account : p.accountID = x.accountID
  device : p.deviceID = x.deviceID

def spent (x : Presented) : EnrollmentStore :=
  { s with challenges := s.challenges.erase (C.sha256 x.value) }

/-- Everything a call can do. -/
inductive Effect (op : Op) : Except EnrollmentError Answer → EnrollmentStore → Prop where
  | same {r} (hr : success (op, r) = none) (hleft : r = .error .invalidChallenge →
      ∀ x, op.presented = some x → ¬∃ p, Pends C s x p) : Effect op r s
  | pruned {accountID deviceID now random} {e : EnrollmentError}
      (hop : op = .issue accountID deviceID now random) : Effect op (.error e) (s.pruned now)
  | issued {accountID deviceID now nonce} (hop : op = .issue accountID deviceID now (some nonce))
      (hids : validIdentifier accountID = true ∧ validIdentifier deviceID = true)
      (hfresh : C.sha256 nonce.value ∉ (s.pruned now).challenges)
      (hroom : Table.size (s.pruned now).challenges < s.capacity) :
      Effect op (.ok (.challenge ⟨nonce.value, now.add s.ttl⟩))
        { s.pruned now with
          challenges := (s.pruned now).challenges.insert (C.sha256 nonce.value)
            ⟨accountID, deviceID, now.add s.ttl⟩ }
  | expired {x p} (hop : op.presented = some x) (hp : Pends C s x p)
      (hexpired : p.expiresAt.after x.now = false) :
      Effect op (.error .invalidChallenge) (spent C s x)
  | consumed {x p} (hop : op = .consume x.accountID x.deviceID x.value x.now)
      (hp : Pends C s x p) (hvalid : p.expiresAt.after x.now = true) :
      Effect op (.ok .consumed) (spent C s x)
  | enrolled {request now p device} (hop : op = .enroll request now)
      (hproof : verifyEnrollment C request = .ok device)
      (hp : Pends C s ⟨request.accountID, request.deviceID, request.challenge, now⟩ p)
      (hvalid : p.expiresAt.after now = true) (hnew : device.deviceID ∉ s.devices)
      (hroom : Table.size s.devices < s.capacity) :
      Effect op (.ok (.device device))
        { spent C s ⟨request.accountID, request.deviceID, request.challenge, now⟩ with
          devices := s.devices.insert device.deviceID device }

end

section

variable {C : Crypto} {s : EnrollmentStore}

theorem effect_issue (accountID deviceID : Text) (now : Time) (random : Option Nonce) :
    Effect C s (.issue accountID deviceID now random)
      ((s.issue C accountID deviceID now random).1.map .challenge)
      (s.issue C accountID deviceID now random).2 := by
  rw [EnrollmentStore.issue]
  split
  · exact .same rfl nofun
  next hids =>
  dsimp only
  split
  · exact .pruned rfl
  next hroom =>
  split
  · exact .pruned rfl
  next nonce =>
  split
  · exact .pruned rfl
  next hfresh =>
  refine .issued rfl ?_ hfresh (Int.not_le.mp hroom)
  simpa using hids

/-- What `consumeLocked` does with a presentation. -/
theorem consumeLocked_cases (x : Presented) :
    let o := s.consumeLocked C x.accountID x.deviceID x.value x.now
    ((¬∃ p, Pends C s x p) ∧ o = (.error .invalidChallenge, s)) ∨
      ∃ p, Pends C s x p ∧
        ((p.expiresAt.after x.now = false ∧ o = (.error .invalidChallenge, spent C s x)) ∨
          (p.expiresAt.after x.now = true ∧ o = (.ok (), spent C s x))) := by
  intro o
  simp only [o, EnrollmentStore.consumeLocked]
  split
  · next hlength => exact Or.inl ⟨fun ⟨_, hp⟩ => hlength hp.length, rfl⟩
  next hlength =>
  cases hp : s.challenges.lookup (C.sha256 x.value) with
  | none => exact Or.inl ⟨fun ⟨_, hp'⟩ => (nomatch hp.symm.trans hp'.found), rfl⟩
  | some p =>
      dsimp only
      split
      · next hmatch =>
          refine Or.inl ⟨fun ⟨p', hp'⟩ => ?_, rfl⟩
          obtain rfl := Option.some.inj (hp.symm.trans hp'.found)
          exact hmatch.elim (absurd hp'.account) (absurd hp'.device)
      next hmatch =>
      obtain ⟨haccount, hdevice⟩ := not_or.mp hmatch
      refine Or.inr ⟨p, ⟨not_not.mp hlength, hp, not_not.mp haccount, not_not.mp hdevice⟩, ?_⟩
      cases hafter : p.expiresAt.after x.now with
      | false => exact Or.inl ⟨rfl, rfl⟩
      | true => exact Or.inr ⟨rfl, rfl⟩

theorem effect_consume (x : Presented) :
    Effect C s (.consume x.accountID x.deviceID x.value x.now)
      ((s.consume C x.accountID x.deviceID x.value x.now).1.map fun _ => .consumed)
      (s.consume C x.accountID x.deviceID x.value x.now).2 := by
  rw [EnrollmentStore.consume]
  rcases consumeLocked_cases x with ⟨hnone, ho⟩ | ⟨p, hp, ⟨hexpired, ho⟩ | ⟨hvalid, ho⟩⟩ <;>
    rw [ho]
  · exact .same rfl fun _ y hy => Option.some.inj hy ▸ hnone
  · exact .expired rfl hp hexpired
  · exact .consumed rfl hp hvalid

/-- A proof that verifies is for a device of the account, with the key that
it was made with. -/
theorem verifyEnrollment_device {request : EnrollmentRequest} {device : DeviceIdentity}
    (h : verifyEnrollment C request = .ok device) :
    device = ⟨request.accountID, request.deviceID, request.publicKey,
      encodeToString (C.sha256 request.publicKey).1⟩ := by
  simp only [verifyEnrollment, Effects.bind_eq_ok, Effects.reject_eq_ok] at h
  obtain ⟨_, -, _, -, _, -, _, -, hdevice⟩ := h
  exact (Except.ok.inj hdevice).symm

theorem verifyEnrollment_ids {request : EnrollmentRequest} {device : DeviceIdentity}
    (h : verifyEnrollment C request = .ok device) :
    device.accountID = request.accountID ∧ device.deviceID = request.deviceID := by
  rw [verifyEnrollment_device h]
  exact ⟨rfl, rfl⟩

theorem verifyEnrollment_error {request : EnrollmentRequest} {e : EnrollmentError}
    (h : verifyEnrollment C request = .error e) : e ≠ .invalidChallenge := by
  simp only [verifyEnrollment, Effects.bind_eq_error, Effects.reject_eq_error] at h
  rcases h with ⟨-, rfl⟩ | ⟨_, -, ⟨-, rfl⟩ | ⟨_, -, ⟨-, rfl⟩ | ⟨_, -, ⟨-, rfl⟩ | ⟨_, -, h⟩⟩⟩⟩
  case inr.inr.inr.inr => cases h
  all_goals rintro ⟨⟩

theorem effect_enroll (request : EnrollmentRequest) (now : Time) :
    Effect C s (.enroll request now) ((s.enroll C request now).1.map .device)
      (s.enroll C request now).2 := by
  rw [EnrollmentStore.enroll]
  split
  · next e hproof =>
      exact .same rfl fun he => absurd (Except.error.inj he) (verifyEnrollment_error hproof)
  next device hproof =>
  obtain ⟨haccount, hdevice⟩ := verifyEnrollment_ids hproof
  split
  · exact .same rfl nofun
  next hnew =>
  split
  · exact .same rfl nofun
  next hroom =>
  rw [haccount, hdevice]
  rcases consumeLocked_cases (C := C) (s := s)
    ⟨request.accountID, request.deviceID, request.challenge, now⟩ with
    ⟨hnone, ho⟩ | ⟨p, hp, ⟨hexpired, ho⟩ | ⟨hvalid, ho⟩⟩ <;> simp only [ho]
  · exact .same rfl fun _ y hy => Option.some.inj hy ▸ hnone
  · exact .expired rfl hp hexpired
  · have heffect := Effect.enrolled (C := C) rfl hproof hp hvalid hnew (Int.not_le.mp hroom)
    rwa [hdevice] at heffect

/-- Nothing else happens. -/
theorem step_effect (C : Crypto) (s : EnrollmentStore) (op : Op) :
    Effect C s op (step C s op).1 (step C s op).2 := by
  cases op with
  | issue accountID deviceID now random => exact effect_issue accountID deviceID now random
  | consume accountID deviceID value now => exact effect_consume ⟨accountID, deviceID, value, now⟩
  | enroll request now => exact effect_enroll request now
  | device accountID deviceID =>
      refine .same ?_ fun _ _ hx => nomatch hx
      rw [step]
      cases s.device accountID deviceID <;> rfl

/-! ## Pending challenges -/

variable {op : Op} {r : Except EnrollmentError Answer} {s' : EnrollmentStore}

/-- A pending challenge was pending before, or is the one just issued. -/
theorem Effect.pending (h : Effect C s op r s') {δ : Digest} {p : PendingChallenge}
    (hp : s'.challenges.lookup δ = some p) :
    s.challenges.lookup δ = some p ∨ ∃ now nonce,
      op = .issue p.accountID p.deviceID now (some nonce) ∧ C.sha256 nonce.value = δ ∧
        r = .ok (.challenge ⟨nonce.value, p.expiresAt⟩) ∧ p.expiresAt = now.add s.ttl ∧
        validIdentifier p.accountID = true ∧ validIdentifier p.deviceID = true := by
  have hspent : ∀ x, (spent C s x).challenges.lookup δ = some p → s.challenges.lookup δ = some p := by
    intro x hx
    by_cases hδ : δ = C.sha256 x.value
    · rw [hδ, spent, AList.lookup_erase] at hx
      cases hx
    · rwa [spent, AList.lookup_erase_ne hδ] at hx
  cases h with
  | same => exact Or.inl hp
  | pruned => exact Or.inl (Table.lookup_keep_eq_some.mp hp).1
  | @issued accountID deviceID now nonce hop hids hfresh hroom =>
      by_cases hδ : δ = C.sha256 nonce.value
      · subst hδ
        rw [AList.lookup_insert] at hp
        obtain rfl := Option.some.inj hp
        exact Or.inr ⟨now, nonce, hop, rfl, rfl, rfl, hids⟩
      · rw [AList.lookup_insert_ne hδ] at hp
        exact Or.inl (Table.lookup_keep_eq_some.mp hp).1
  | expired => exact Or.inl (hspent _ hp)
  | consumed => exact Or.inl (hspent _ hp)
  | enrolled => exact Or.inl (hspent _ hp)

/-- A grant is on a pending challenge in its time, which is then gone. -/
theorem Effect.granted (h : Effect C s op r s') {x : Presented} (hx : success (op, r) = some x) :
    (∃ p, Pends C s x p ∧ p.expiresAt.after x.now = true) ∧
      C.sha256 x.value ∉ s'.challenges := by
  have hgone : C.sha256 x.value ∉ (spent C s x).challenges := by
    rw [← AList.lookup_eq_none]
    exact AList.lookup_erase _ _
  cases h with
  | same hr => rw [hr] at hx; cases hx
  | pruned => cases hx
  | issued hop => subst hop; cases hx
  | expired => cases hx
  | consumed hop hp hvalid =>
      subst hop
      obtain rfl := Option.some.inj hx
      exact ⟨⟨_, hp, hvalid⟩, hgone⟩
  | enrolled hop hproof hp hvalid =>
      subst hop
      obtain rfl := Option.some.inj hx
      exact ⟨⟨_, hp, hvalid⟩, hgone⟩

/-- A digest that is not pending becomes so only by being drawn. -/
theorem Effect.absent (h : Effect C s op r s') {δ : Digest} (hδ : δ ∉ s.challenges)
    (hdrawn : ∀ v ∈ drawn [op], C.sha256 v ≠ δ) : δ ∉ s'.challenges := by
  intro hmem
  obtain ⟨p, hp⟩ := Table.mem_iff_lookup.mp hmem
  rcases h.pending hp with hold | ⟨now, nonce, rfl, hnonce, -⟩
  · exact hδ (Table.mem_iff_lookup.mpr ⟨p, hold⟩)
  · exact hdrawn nonce.value (List.mem_singleton.mpr rfl) hnonce

/-! ## What stays -/

/-- Both maps are within the capacity. -/
def Bounded (s : EnrollmentStore) : Prop :=
  Table.size s.challenges ≤ s.capacity ∧ Table.size s.devices ≤ s.capacity

theorem Effect.bounded (h : Effect C s op r s') (hs : Bounded s) :
    Bounded s' ∧ s'.capacity = s.capacity := by
  obtain ⟨hchallenges, hdevices⟩ := hs
  have hpruned : ∀ now, Table.size (s.pruned now).challenges ≤ s.capacity := fun now =>
    Int.le_trans (Int.ofNat_le.mpr (Table.size_keep_le _ _)) hchallenges
  have hspent : ∀ x, Table.size (spent C s x).challenges ≤ s.capacity := fun x =>
    Int.le_trans (Int.ofNat_le.mpr (Table.size_erase_le _ _)) hchallenges
  cases h with
  | same => exact ⟨⟨hchallenges, hdevices⟩, rfl⟩
  | pruned => exact ⟨⟨hpruned _, hdevices⟩, rfl⟩
  | issued hop _ hfresh hroom =>
      refine ⟨⟨?_, hdevices⟩, rfl⟩
      dsimp only
      rw [Table.size_insert hfresh]
      exact hroom
  | expired => exact ⟨⟨hspent _, hdevices⟩, rfl⟩
  | consumed => exact ⟨⟨hspent _, hdevices⟩, rfl⟩
  | enrolled _ _ _ _ hnew hroom =>
      refine ⟨⟨hspent _, ?_⟩, rfl⟩
      dsimp only
      rw [Table.size_insert hnew]
      exact hroom

/-- A registered device stays as it is. -/
theorem Effect.device (h : Effect C s op r s') {id : Text} {d : DeviceIdentity}
    (hd : s.devices.lookup id = some d) : s'.devices.lookup id = some d := by
  cases h with
  | @enrolled request now p device _ _ _ _ hnew =>
      have hne : id ≠ device.deviceID := by
        rintro rfl
        exact hnew (Table.mem_iff_lookup.mpr ⟨d, hd⟩)
      exact (AList.lookup_insert_ne hne).trans hd
  | _ => exact hd

end

/-! ## Runs -/

section

variable {C : Crypto}

theorem drawn_cons (op : Op) (ops : List Op) : drawn (op :: ops) = drawn [op] ++ drawn ops :=
  List.filterMap_append (l := [op])

theorem after_append (s : EnrollmentStore) (pre post : List Op) :
    after C s (pre ++ post) = after C (after C s pre) post :=
  List.foldl_append

/-- What every call keeps, a run keeps. -/
theorem after_invariant {J : EnrollmentStore → Prop}
    (hstep : ∀ s op, J s → J (step C s op).2) : ∀ (ops : List Op) {s : EnrollmentStore}, J s →
      J (after C s ops)
  | [], _, hs => hs
  | op :: ops, s, hs => after_invariant hstep ops (hstep s op hs)

/-- The digests to be drawn are distinct, and none is pending. -/
structure Ahead (C : Crypto) (s : EnrollmentStore) (ops : List Op) : Prop where
  distinct : (drawn ops).Pairwise fun v v' => C.sha256 v ≠ C.sha256 v'
  unseen : ∀ v ∈ drawn ops, C.sha256 v ∉ s.challenges

theorem Ahead.step {s : EnrollmentStore} {op : Op} {ops : List Op} (h : Ahead C s (op :: ops)) :
    Ahead C (step C s op).2 ops := by
  obtain ⟨hdistinct, hunseen⟩ := h
  rw [drawn_cons] at hdistinct hunseen
  obtain ⟨-, hrest, hcross⟩ := List.pairwise_append.mp hdistinct
  refine ⟨hrest, fun v hv => ?_⟩
  exact (step_effect C s op).absent (hunseen v (List.mem_append_right _ hv)) fun v' hv' =>
    hcross v' hv' v hv

theorem Ahead.run {s : EnrollmentStore} : ∀ {pre post : List Op}, Ahead C s (pre ++ post) →
    Ahead C (after C s pre) post := by
  intro pre
  induction pre generalizing s with
  | nil => exact fun h => h
  | cons op pre ih => exact fun h => ih h.step

/-- A digest that is not pending and will not be drawn is granted nothing. -/
theorem success_ne_of_absent {δ : Digest} : ∀ (ops : List Op) {s : EnrollmentStore},
    δ ∉ s.challenges → (∀ v ∈ drawn ops, C.sha256 v ≠ δ) →
      ∀ x ∈ successes (events C s ops), C.sha256 x.value ≠ δ
  | [], _, _, _, x, hx => by cases hx
  | op :: ops, s, hδ, hdrawn, x, hx => by
      rw [drawn_cons] at hdrawn
      have heffect := step_effect C s op
      have hrest := success_ne_of_absent ops
        (heffect.absent hδ fun v hv => hdrawn v (List.mem_append_left _ hv))
        fun v hv => hdrawn v (List.mem_append_right _ hv)
      rw [events, successes, List.filterMap_cons] at hx
      split at hx
      · exact hrest x hx
      next y hy =>
      rcases List.mem_cons.mp hx with rfl | hx
      · rintro rfl
        obtain ⟨⟨p, hp, -⟩, -⟩ := heffect.granted hy
        exact hδ (Table.mem_iff_lookup.mpr ⟨p, hp.found⟩)
      · exact hrest x hx

/-- Once gone, a pending digest is granted nothing. -/
theorem Ahead.spent {s : EnrollmentStore} {op : Op} {ops : List Op} (h : Ahead C s (op :: ops))
    {δ : Digest} (hin : δ ∈ s.challenges) (hout : δ ∉ (Identity.step C s op).2.challenges) :
    ∀ x ∈ successes (events C (Identity.step C s op).2 ops), C.sha256 x.value ≠ δ := by
  refine success_ne_of_absent ops hout fun v hv heq => ?_
  refine h.unseen v ?_ (heq ▸ hin)
  rw [drawn_cons]
  exact List.mem_append_right _ hv

/-- Every grant is on a digest of its own. -/
theorem successes_pairwise : ∀ (ops : List Op) {s : EnrollmentStore}, Ahead C s ops →
    (successes (events C s ops)).Pairwise fun x y => C.sha256 x.value ≠ C.sha256 y.value
  | [], _, _ => List.Pairwise.nil
  | op :: ops, s, h => by
      have hrest := successes_pairwise ops h.step
      rw [events, successes, List.filterMap_cons]
      split
      · exact hrest
      next x hx =>
      obtain ⟨⟨p, hp, -⟩, hgone⟩ := (step_effect C s op).granted hx
      exact hrest.cons fun y hy heq =>
        h.spent (Table.mem_iff_lookup.mpr ⟨p, hp.found⟩) hgone y hy heq.symm

/-- A grant is on a challenge that was pending at the start or issued since,
to the same account and device, and not yet expired. -/
theorem success_issued {x : Presented} {event : Event} {post : List Event}
    (hx : success event = some x) : ∀ (pre : List Event) {ops : List Op} {s : EnrollmentStore},
    events C s ops = pre ++ event :: post →
      (∃ p, Pends C s x p ∧ p.expiresAt.after x.now = true) ∨
        ∃ now nonce expiresAt, C.sha256 nonce.value = C.sha256 x.value ∧
          expiresAt.after x.now = true ∧
          (Op.issue x.accountID x.deviceID now (some nonce),
            .ok (.challenge ⟨nonce.value, expiresAt⟩)) ∈ pre
  | [], [], _, hevents => by cases hevents
  | [], op :: ops, s, hevents => by
      obtain ⟨rfl, -⟩ := List.cons.inj hevents
      exact Or.inl ((step_effect C s op).granted hx).1
  | e :: pre, [], _, hevents => by cases hevents
  | e :: pre, op :: ops, s, hevents => by
      obtain ⟨rfl, hrest⟩ := List.cons.inj hevents
      rcases success_issued hx pre hrest with ⟨p, hp, hvalid⟩ | ⟨now, nonce, expiresAt, h⟩
      · rcases (step_effect C s op).pending hp.found with hold | ⟨now, nonce, hop, hnonce, hr, -⟩
        · exact Or.inl ⟨p, ⟨hp.length, hold, hp.account, hp.device⟩, hvalid⟩
        · rw [hp.account, hp.device] at hop
          refine Or.inr ⟨now, nonce, p.expiresAt, hnonce, hvalid, ?_⟩
          rw [hr, hop]
          exact List.mem_cons_self ..
      · exact Or.inr ⟨now, nonce, expiresAt, h.1, h.2.1, List.mem_cons_of_mem _ h.2.2⟩

/-- What an enrollment that the store grants has proved. -/
theorem enrolled_effect {s : EnrollmentStore} {request : EnrollmentRequest} {now : Time}
    {device : DeviceIdentity} (h : (step C s (.enroll request now)).1 = .ok (.device device)) :
    verifyEnrollment C request = .ok device ∧ device.deviceID ∉ s.devices ∧
      (step C s (.enroll request now)).2.devices.lookup device.deviceID = some device := by
  have heffect := step_effect C s (.enroll request now)
  rw [h] at heffect
  generalize (step C s (.enroll request now)).2 = s' at heffect ⊢
  cases heffect with
  | same hr => cases hr
  | enrolled hop hproof _ _ hnew =>
      cases hop
      exact ⟨hproof, hnew, AList.lookup_insert _⟩

/-- A registered device stays, through any calls. -/
theorem lookup_device_after {s : EnrollmentStore} {id : Text} {d : DeviceIdentity}
    (ops : List Op) (hd : s.devices.lookup id = some d) :
    (after C s ops).devices.lookup id = some d :=
  after_invariant (J := fun s => s.devices.lookup id = some d)
    (fun s op hs => (step_effect C s op).device hs) ops hd

/-- A device that was answered to an enrollment is the proof's, and stays
registered. -/
theorem enrolled_stays {request : EnrollmentRequest} {now : Time} {d : DeviceIdentity} :
    ∀ (ops : List Op) {s : EnrollmentStore},
      (Op.enroll request now, Except.ok (Answer.device d)) ∈ events C s ops →
      verifyEnrollment C request = .ok d ∧
        (after C s ops).devices.lookup d.deviceID = some d
  | op :: ops, s, hmem => by
      rcases List.mem_cons.mp hmem with hhead | htail
      · obtain ⟨rfl, hr⟩ := Prod.mk.inj hhead
        obtain ⟨hproof, -, hdevice⟩ := enrolled_effect hr.symm
        exact ⟨hproof, lookup_device_after ops hdevice⟩
      · exact enrolled_stays ops htail

/-- What the table holds, `Device` answers to the account. -/
theorem device_of_lookup {s : EnrollmentStore} {d : DeviceIdentity}
    (hd : s.devices.lookup d.deviceID = some d) : s.device d.accountID d.deviceID = .ok d := by
  unfold EnrollmentStore.device
  rw [hd]
  exact if_neg (not_not.mpr rfl)

/-- The ways a challenge ends: it is granted, it is rejected as expired, or
`Issue` prunes it. -/
inductive Ends (C : Crypto) (s : EnrollmentStore) (op : Op) (δ : Digest) : Prop where
  | granted {x} (hx : success (op, (step C s op).1) = some x) (hδ : C.sha256 x.value = δ)
  | rejected {x p} (hop : op.presented = some x) (hδ : C.sha256 x.value = δ) (hp : Pends C s x p)
      (hexpired : p.expiresAt.after x.now = false)
      (hr : (step C s op).1 = .error .invalidChallenge)
  | pruned {accountID deviceID now random} (hop : op = .issue accountID deviceID now random)
      (hin : δ ∈ s.challenges) (hout : δ ∉ (step C s op).2.challenges)

theorem Ends.gone {s : EnrollmentStore} {op : Op} {δ : Digest} (h : Ends C s op δ) :
    δ ∈ s.challenges ∧ δ ∉ (step C s op).2.challenges := by
  have heffect := step_effect C s op
  cases h with
  | granted hx hδ =>
      subst hδ
      obtain ⟨⟨p, hp, -⟩, hgone⟩ := heffect.granted hx
      exact ⟨Table.mem_iff_lookup.mpr ⟨p, hp.found⟩, hgone⟩
  | @rejected x p hop hδ hp hexpired hr =>
      subst hδ
      refine ⟨Table.mem_iff_lookup.mpr ⟨p, hp.found⟩, ?_⟩
      rw [hr] at heffect
      generalize (step C s op).2 = s' at heffect
      cases heffect with
      | same _ hleft => exact absurd ⟨p, hp⟩ (hleft rfl x hop)
      | pruned hissue => subst hissue; cases hop
      | expired hop' =>
          obtain rfl := Option.some.inj (hop.symm.trans hop')
          rw [← AList.lookup_eq_none]
          exact AList.lookup_erase _ _
  | pruned hop hin hout => exact ⟨hin, hout⟩

/-- An enrollment that fails leaves the store as it is, or without the
expired challenge it presented. -/
theorem enroll_error {s : EnrollmentStore} {request : EnrollmentRequest} {now : Time}
    {e : EnrollmentError} (h : (s.enroll C request now).1 = .error e) :
    (s.enroll C request now).2 = s ∨
      ∃ p, s.challenges.lookup (C.sha256 request.challenge) = some p ∧
        p.accountID = request.accountID ∧ p.deviceID = request.deviceID ∧
        p.expiresAt.after now = false ∧
        (s.enroll C request now).2 =
          { s with challenges := s.challenges.erase (C.sha256 request.challenge) } := by
  have heffect := effect_enroll (C := C) (s := s) request now
  rw [h] at heffect
  generalize (s.enroll C request now).2 = s' at heffect
  cases heffect with
  | same => exact Or.inl rfl
  | pruned hop => cases hop
  | expired hop hp hexpired =>
      obtain rfl := Option.some.inj hop
      exact Or.inr ⟨_, hp.found, hp.account, hp.device, hexpired, rfl⟩

/-- **Challenges are single-use, bound and expiring.** Whatever the calls
and the clocks, provided the random bytes drawn differ and SHA-256 tells
them apart: no two grants are on one digest; a grant is on a challenge
issued before to the same account and device and not yet expired; a
challenge that was granted, rejected as expired or pruned is granted
nothing later; a registered device stays as it is; the device that an
enrollment answered has the account, the name and the key of the request,
and is what the table and `Device` give from then on; both maps stay within
the capacity; and a failed enrollment removes at most the expired challenge
it presented. -/
theorem enrollment_single_use (C : Crypto) (ttl capacity : Int) (s₀ : EnrollmentStore)
    (hnew : EnrollmentStore.new ttl capacity = .ok s₀) (ops : List Op)
    (hdistinct : (drawn ops).Nodup)
    (hsha : ∀ v ∈ drawn ops, ∀ v' ∈ drawn ops, C.sha256 v = C.sha256 v' → v = v') :
    ((successes (events C s₀ ops)).Pairwise fun x y => C.sha256 x.value ≠ C.sha256 y.value) ∧
    (∀ pre event post x, events C s₀ ops = pre ++ event :: post → success event = some x →
      ∃ now nonce expiresAt, C.sha256 nonce.value = C.sha256 x.value ∧
        expiresAt.after x.now = true ∧
        (Op.issue x.accountID x.deviceID now (some nonce),
          .ok (.challenge ⟨nonce.value, expiresAt⟩)) ∈ pre) ∧
    (∀ pre op post δ, ops = pre ++ op :: post → Ends C (after C s₀ pre) op δ →
      ∀ x ∈ successes (events C (after C s₀ (pre ++ [op])) post), C.sha256 x.value ≠ δ) ∧
    (∀ pre post id d, ops = pre ++ post → (after C s₀ pre).devices.lookup id = some d →
      (after C s₀ ops).devices.lookup id = some d) ∧
    (∀ pre post request now d, ops = pre ++ post →
      (Op.enroll request now, Except.ok (Answer.device d)) ∈ events C s₀ pre →
        d = ⟨request.accountID, request.deviceID, request.publicKey,
          encodeToString (C.sha256 request.publicKey).1⟩ ∧
        (after C s₀ pre).devices.lookup request.deviceID = some d ∧
        (after C s₀ pre).device request.accountID request.deviceID = .ok d) ∧
    (∀ pre post, ops = pre ++ post → Table.size (after C s₀ pre).challenges ≤ capacity ∧
      Table.size (after C s₀ pre).devices ≤ capacity) ∧
    (∀ s request now e, (EnrollmentStore.enroll C s request now).1 = .error e →
      (s.enroll C request now).2 = s ∨
        ∃ p, s.challenges.lookup (C.sha256 request.challenge) = some p ∧
          p.accountID = request.accountID ∧ p.deviceID = request.deviceID ∧
          p.expiresAt.after now = false ∧
          (s.enroll C request now).2 =
            { s with challenges := s.challenges.erase (C.sha256 request.challenge) }) := by
  rw [EnrollmentStore.new] at hnew
  split at hnew
  · cases hnew
  next hargs =>
  have hcapacity : 0 < capacity := by omega
  obtain rfl := Except.ok.inj hnew
  have hahead : Ahead C ⟨∅, ttl, capacity, ∅⟩ ops := by
    refine ⟨hdistinct.imp_of_mem fun hv hv' hne heq => hne (hsha _ hv _ hv' heq), fun v _ => ?_⟩
    exact AList.notMem_empty _
  refine ⟨successes_pairwise ops hahead, ?_, ?_, ?_, ?_, ?_, fun s request now e => enroll_error⟩
  · intro pre event post x hevents hx
    rcases success_issued hx pre hevents with ⟨p, hp, -⟩ | hissued
    · cases hp.found
    · exact hissued
  · rintro pre op post δ rfl hends
    obtain ⟨hin, hout⟩ := hends.gone
    have hrun : after C ⟨∅, ttl, capacity, ∅⟩ (pre ++ [op]) =
        (step C (after C ⟨∅, ttl, capacity, ∅⟩ pre) op).2 := after_append _ pre [op]
    rw [hrun]
    exact hahead.run.spent hin hout
  · rintro pre post id d rfl hd
    rw [after_append]
    exact lookup_device_after post hd
  · intro pre post request now d _ hmem
    obtain ⟨hproof, hlookup⟩ := enrolled_stays pre hmem
    obtain ⟨haccount, hdevice⟩ := verifyEnrollment_ids hproof
    rw [← haccount, ← hdevice]
    refine ⟨?_, hlookup, device_of_lookup hlookup⟩
    rw [haccount, hdevice]
    exact verifyEnrollment_device hproof
  · rintro pre post rfl
    have hbounded : Bounded (after C ⟨∅, ttl, capacity, ∅⟩ pre) ∧
        (after C ⟨∅, ttl, capacity, ∅⟩ pre).capacity = capacity := by
      refine after_invariant (J := fun s => Bounded s ∧ s.capacity = capacity)
        (fun s op hs => ?_) pre ⟨⟨Int.le_of_lt hcapacity, Int.le_of_lt hcapacity⟩, rfl⟩
      obtain ⟨hb, hc⟩ := (step_effect C s op).bounded hs.1
      exact ⟨hb, hc.trans hs.2⟩
    obtain ⟨⟨hchallenges, hdevices⟩, hc⟩ := hbounded
    rw [hc] at hchallenges hdevices
    exact ⟨hchallenges, hdevices⟩

end

/-! ### An instance -/

def exampleDigest (n : Nat) : Digest := ⟨Codec.bigEndian 32 n, Codec.length_bigEndian 32 n⟩

/-- The key of the all-zero seed. -/
def examplePublicKey : Text :=
  Codec.bigEndian 32 0x3b6a27bcceb6a42d62a3a8d02a6f0d73653215771de243a63ac048a18b59da29

def exampleRequest : EnrollmentRequest where
  accountID := ascii "account"
  deviceID := ascii "device"
  publicKey := examplePublicKey
  challenge := List.replicate 32 1
  signature :=
    Codec.bigEndian 32 0x6695e28dc26220a5ef516a6fb9cfe3f9d625a8d63d36e878144dbfaf05958e12 ++
      Codec.bigEndian 32 0x2b988ef94fa9c5d42076e8d2dbd83e5db887c4b428ea9b4d35ac877f5ac98c0b

/-- SHA-256 and the check of the one signature, at the values used below. -/
def exampleCrypto : Crypto where
  sha256 v :=
    if v = List.replicate 32 1 then
      exampleDigest 0x72cd6e8422c407fb6d098690f1130b7ded7ec2f7f5e1d30bd9d521f015363793
    else if v = List.replicate 32 2 then
      exampleDigest 0x75877bb41d393b5fb8455ce60ecd8dda001d06316496b14dfa7f895656eeca4a
    else if v = List.replicate 32 3 then
      exampleDigest 0x648aa5c579fb30f38af744d97d6ec840c7a91277a499a0d780f3e7314eca090b
    else if v = examplePublicKey then
      exampleDigest 0x139e3940e64b5491722088d9a0d741628fc826e09475d341a780acde3c4b8070
    else exampleDigest 0
  verify publicKey message signature :=
    publicKey == examplePublicKey && message == exampleRequest.signingMessage &&
      signature == exampleRequest.signature

def exampleStore : EnrollmentStore := ⟨∅, 60 * 10 ^ 9, 10, ∅⟩

def exampleNonce (b : UInt8) : Nonce := ⟨List.replicate 32 b, rfl⟩

/-- One challenge is used to enroll and then again; another is presented
too late and then with the clock set back. -/
def exampleOps : List Op :=
  [.issue (ascii "account") (ascii "device") (exampleTime 0)
      (some (exampleNonce 1)),
    .enroll exampleRequest (exampleTime 10),
    .enroll exampleRequest (exampleTime 11),
    .consume (ascii "account") (ascii "device") (List.replicate 32 1) (exampleTime 12),
    .issue (ascii "account") (ascii "tablet") (exampleTime 20)
      (some (exampleNonce 2)),
    .consume (ascii "account") (ascii "tablet") (List.replicate 32 2) (exampleTime 80),
    .consume (ascii "account") (ascii "tablet") (List.replicate 32 2) (exampleTime 30)]

def exampleDevice : DeviceIdentity where
  accountID := ascii "account"
  deviceID := ascii "device"
  publicKey := examplePublicKey
  keyID := ascii "139e3940e64b5491722088d9a0d741628fc826e09475d341a780acde3c4b8070"

theorem exampleOps_enrolled :
    (Op.enroll exampleRequest (exampleTime 10), Except.ok (Answer.device exampleDevice)) ∈
      events exampleCrypto exampleStore exampleOps := by
  decide +kernel

/-- One grant on two challenges, and the device is still there when the
clock has gone back. -/
theorem enrollment_single_use_replay :
    (successes (events exampleCrypto exampleStore exampleOps)) =
        [⟨ascii "account", ascii "device", List.replicate 32 1, exampleTime 10⟩] ∧
      ((successes (events exampleCrypto exampleStore exampleOps)).Pairwise fun x y =>
        exampleCrypto.sha256 x.value ≠ exampleCrypto.sha256 y.value) ∧
      (after exampleCrypto exampleStore exampleOps).device (ascii "account") (ascii "device") =
        .ok exampleDevice := by
  obtain ⟨hpairwise, -, -, -, henrolled, -⟩ := enrollment_single_use exampleCrypto (60 * 10 ^ 9) 10
    exampleStore rfl exampleOps (by decide) (by decide)
  obtain ⟨-, -, hdevice⟩ := henrolled exampleOps [] exampleRequest (exampleTime 10) exampleDevice
    (List.append_nil _).symm exampleOps_enrolled
  exact ⟨by decide +kernel, hpairwise, hdevice⟩

end CyberiaVpn.Identity
