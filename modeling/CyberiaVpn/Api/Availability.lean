import CyberiaVpn.Api.Service

/-!
# The control API on a disk without faults

Requests of any accounts in any order: the service answers each as a store
in memory would, that is without failing on its own account. So a client
that keeps to the protocol gets its device enrolled, from the bytes it
sends on.
-/

namespace CyberiaVpn.Api

open Codec Control Data Effects Identity Snapshot

namespace Runtime

variable {R : Runtime} {x : Exchange runtimeTtl}

/-! ## Calls and answers -/

/-- A request names the time it was made, and presents a challenge only to
enroll. -/
theorem callOf_op {c : FileCall} {op : Op} (hc : R.callOf x = .ok c) (hop : c.op = some op) :
    (∀ accountID deviceID now random, op = .issue accountID deviceID now random → now = x.now) ∧
      ∀ q, op.presented = some q →
        ∃ request, R.callOf x = .ok (.enroll request x.now) ∧ request.challenge = q.value := by
  rcases callOf_eq_ok hc with ⟨_, _, -, -, rfl⟩ | ⟨_, _, -, -, rfl⟩ | ⟨_, _, -, -, rfl⟩ <;>
    obtain rfl := Option.some.inj hop
  · exact ⟨by rintro _ _ _ _ ⟨⟩, by rintro _ ⟨⟩⟩
  · refine ⟨?_, by rintro _ ⟨⟩⟩
    rintro _ _ _ _ ⟨⟩
    rfl
  · refine ⟨by rintro _ _ _ _ ⟨⟩, ?_⟩
    rintro _ ⟨⟩
    exact ⟨_, hc, rfl⟩

theorem answer_challenge {challenge : Challenge} (h : x.request.route = .challenges) :
    R.handler.answer x (fileAnswer (.ok (.challenge challenge))) =
      securityHeaders (writeJSON R.challengeJson 201 challenge) := by
  simp only [handler, controlHandler, reply, h]
  rfl

theorem answer_created {device : DeviceIdentity} (h : x.request.route = .devices) :
    R.handler.answer x (fileAnswer (.ok (.device device))) =
      securityHeaders (writeDevice R.json 201 device) := by
  simp only [handler, controlHandler, reply, h]
  rfl

theorem answer_found {device : DeviceIdentity} {deviceID : Text}
    (h : x.request.route = .device deviceID) :
    R.handler.answer x (fileAnswer (.ok (.device device))) =
      securityHeaders (writeDevice R.json 200 device) := by
  simp only [handler, controlHandler, reply, h]
  rfl

/-! ## The service in memory -/

/-- A request, on a store in memory. No request closes the store. -/
def answerInMemory (R : Runtime) (s : EnrollmentStore) (x : Exchange runtimeTtl) :
    Response × EnrollmentStore :=
  match R.callOf x with
  | .error response => (securityHeaders response, s)
  | .ok c =>
      match c.op with
      | none => (R.handler.answer x (.ok .closed), s)
      | some op =>
          (R.handler.answer x (fileAnswer (durableStep R.crypto s op).1),
            (durableStep R.crypto s op).2)

theorem answerInMemory_asked {s : EnrollmentStore} {c : FileCall} (hc : R.callOf x = .ok c) {op : Op}
    (hop : c.op = some op) : R.answerInMemory s x =
      (R.handler.answer x (fileAnswer (durableStep R.crypto s op).1),
        (durableStep R.crypto s op).2) := by
  simp only [answerInMemory, hc, hop]

/-- One request after the other. -/
def reportsInMemory (R : Runtime) : EnrollmentStore → List (Exchange runtimeTtl) → List ApiReport
  | _, [] => []
  | s, x :: xs =>
      .answered x (.ok (R.answerInMemory s x).1) :: reportsInMemory R (R.answerInMemory s x).2 xs

/-- The challenge of a request would have a text. -/
def Dated (R : Runtime) (x : Exchange runtimeTtl) : Prop :=
  ∀ c : ChallengeSnapshot, c.expiresAt = x.now.add runtimeTtl →
    Rfc3339.HasText (R.zone c) c.expiresAt.sec

theorem Dated.op (h : R.Dated x) {c : FileCall} (hc : R.callOf x = .ok c) {op : Op}
    (hop : c.op = some op) : op.Dated R.zone runtimeTtl := by
  rintro accountID deviceID now random rfl
  rcases callOf_eq_ok hc with ⟨_, _, -, -, rfl⟩ | ⟨_, _, -, -, rfl⟩ | ⟨_, _, -, -, rfl⟩
  · cases hop
  · cases hop
    exact h
  · cases hop

/-! ## Runs -/

section

variable {t : EnrollmentStore} {s : FileEnrollmentStore} {w : Disk}

/-- A store in memory that the service can persist. -/
structure Holds (R : Runtime) (t : EnrollmentStore) : Prop where
  writable : Writable R.crypto R.zone t
  ttl : t.ttl = runtimeTtl

theorem ask_of_error {response : Response} (h : R.callOf x = .error response) :
    R.handler.ask x = .inl (securityHeaders response) := by
  simp only [handler, controlHandler]
  split
  · next hr =>
      obtain rfl := Except.error.inj (hr.symm.trans h)
      rfl
  · next hr => cases hr.symm.trans h

theorem call_inMemory (hs : Serving t s w) (ht : R.Holds t) (hx : R.Dated x) :
    (R.service.call x s w).result = .ok (R.answerInMemory t x).1 ∧
      Serving (R.answerInMemory t x).2 (R.service.call x s w).self (R.service.call x s w).world ∧
      R.Holds (R.answerInMemory t x).2 := by
  cases hcall : R.callOf x with
  | error response =>
      rw [service, Front.serving_own (ask_of_error hcall), answerInMemory, hcall]
      exact ⟨rfl, hs, ht⟩
  | ok c =>
      obtain ⟨op, hop⟩ : ∃ op, c.op = some op := by
        rcases callOf_eq_ok hcall with ⟨_, _, -, -, rfl⟩ | ⟨_, _, -, -, rfl⟩ | ⟨_, _, -, -, rfl⟩ <;>
          exact ⟨_, rfl⟩
      have hdated := hx.op hcall hop
      rw [← ht.ttl] at hdated
      have hanswers : Answers R.crypto R.zone R.parse t c op s w :=
        hs.answer_sat ht.writable hop hdated
      have hwritable := ht.writable.durableStep hdated
      have httl := (durableStep_settings R.crypto t op).1
      rw [service, Front.serving_asked (ask_of_ok hcall), answerInMemory_asked hcall hop]
      dsimp only
      rcases hanswers.result with ⟨a, hr, hanswer, hs'⟩ | ⟨e, hr, hanswer, hs'⟩
      · rw [hanswer]
        exact ⟨congrArg (fun r => Except.ok (R.handler.answer x r)) hr, hs', hwritable,
          httl.trans ht.ttl⟩
      · rw [hanswer]
        exact ⟨congrArg (fun r => Except.ok (R.handler.answer x r)) hr, hs', hwritable,
          httl.trans ht.ttl⟩

theorem run_inMemory : ∀ (xs : List (Exchange runtimeTtl)) {t : EnrollmentStore}
    {s : FileEnrollmentStore} {w : Disk}, Serving t s w → R.Holds t → (∀ x ∈ xs, R.Dated x) →
    (R.service.run (xs.map fun x => .act (.call 0 x)) ⟨w, [s]⟩).2 = R.reportsInMemory t xs
  | [], _, _, _, _, _, _ => rfl
  | x :: xs, t, s, w, hs, ht, hxs => by
      obtain ⟨hr, hs', ht'⟩ := call_inMemory hs ht (hxs x (List.mem_cons_self ..))
      have hstep : R.service.step (.act (.call 0 x)) ⟨w, [s]⟩ =
          (⟨(R.service.call x s w).world, [(R.service.call x s w).self]⟩,
            [.answered x (.ok (R.answerInMemory t x).1)]) := by
        simp [Durable.step, hr]
      rw [List.map_cons, Durable.run, hstep, reportsInMemory]
      exact congrArg (List.cons _)
        (run_inMemory xs hs' ht' fun x hx => hxs x (List.mem_cons_of_mem _ hx))

theorem start_inMemory (hpath : R.path ≠ "") (hw : w.Ready) (hfree : ¬w.Held)
    (hnone : w.slot.target = none) :
    R.service.start.Sat (fun _ => True) (fun _ s' w' => Serving newStore s' w')
      (fun _ _ _ => False) s w := by
  have hopen : (FileEnrollmentStore.openFileEnrollmentStore R.crypto (snapshotCodec R.zone R.parse)
      R.path runtimeTtl runtimeCapacity).Sat (fun _ => True) (fun _ s' w' => Serving newStore s' w')
      (fun _ _ _ => False) s w := open_ready hpath rfl (by decide) hw hfree hnone
  refine Prog.sat_bind.mpr (hopen.mono (fun _ h => h) ?_ fun _ _ _ h => h)
  intro _ s' w' hs'
  rw [settle, Prog.sat_effect]
  exact ⟨trivial, hs'.file, hs'.current, ⟨hs'.ready.calm, hs'.ready.sound.directory,
    hs'.ready.sound.lockFile⟩⟩

end

theorem holds_newStore (R : Runtime) : R.Holds newStore := by
  obtain ⟨hcompact, hcapacity, hempty⟩ := compact_new (C := R.crypto)
    (show EnrollmentStore.new runtimeTtl runtimeCapacity = .ok newStore from rfl)
  refine ⟨⟨hcompact, by rw [hcapacity]; decide, fun δ p hp => ?_⟩, rfl⟩
  rw [hempty] at hp
  cases hp

/-- **Without faults the service is the store in memory.** Started on a
private disk that has no snapshot and no faults, it answers any requests,
one after the other, as it would over a store in memory. -/
theorem answers_inMemory (R : Runtime) (hpath : R.path ≠ "") (disk : Disk) (hready : disk.Ready)
    (hfree : ¬disk.Held) (hnone : disk.slot.target = none) (xs : List (Exchange runtimeTtl))
    (hdated : ∀ x ∈ xs, R.Dated x) :
    (R.service.run (.act .start :: xs.map fun x => .act (.call 0 x)) ⟨disk, []⟩).2 =
      .started (.ok ()) :: R.reportsInMemory newStore xs := by
  obtain ⟨_, hr, hs⟩ : ∃ a, (R.service.start R.service.zero disk).result = .ok a ∧ _ := by
    rcases (start_inMemory hpath hready hfree hnone).result with h | ⟨_, -, h⟩
    · exact h
    · exact h.elim
  have hstep : R.service.step (.act .start) ⟨disk, []⟩ =
      (⟨(R.service.start R.service.zero disk).world, [(R.service.start R.service.zero disk).self]⟩,
        [.started (.ok ())]) := by
    simp [Durable.step, hr]
  rw [Durable.run, hstep]
  exact congrArg (List.cons _) (run_inMemory xs hs (holds_newStore R) hdated)

theorem example_dated (token : Text) (nonce : UInt8) (route : Route) (body : Text)
    {seconds : UInt32}
    (hyear : (Rfc3339.date (((exampleTime seconds).add runtimeTtl).sec / 86400)).1 = 2026) :
    exampleRuntime.Dated (exampleExchange token nonce route body seconds) := by
  intro c hc
  have hnow : c.expiresAt = (exampleTime seconds).add runtimeTtl := hc
  rw [← hnow] at hyear
  have hzone : c.expiresAt.sec + exampleRuntime.zone c = c.expiresAt.sec := Int.add_zero _
  refine ⟨?_, (by decide : (0 : Int).natAbs / 3600 < 24)⟩
  rw [hzone, hyear]
  decide

theorem exampleRequests_dated {x : Exchange runtimeTtl} (hx : x ∈ exampleRequests) :
    exampleRuntime.Dated x := by
  simp only [exampleRequests, List.mem_cons, List.not_mem_nil, or_false] at hx
  rcases hx with rfl | rfl | rfl
  all_goals exact example_dated _ _ _ _ (by decide +kernel)

/-- The example of an enrollment, in memory. -/
theorem answers_inMemory_device :
    (exampleRuntime.service.run exampleEvents ⟨emptyDisk, []⟩).2 =
      .started (.ok ()) :: exampleRuntime.reportsInMemory newStore exampleRequests :=
  answers_inMemory exampleRuntime (by decide) emptyDisk emptyDisk_ready Bool.false_ne_true rfl
    exampleRequests fun _ => exampleRequests_dated

/-! ## An enrollment from end to end -/

section

variable {C : Crypto} {s : EnrollmentStore} {op : Op}

/-- What keeps a challenge pending. -/
theorem pending_durableStep {δ : Digest} {p : PendingChallenge}
    (hp : s.challenges.lookup δ = some p)
    (hlive : ∀ accountID deviceID now random, op = .issue accountID deviceID now random →
      p.expiresAt.after now = true)
    (hothers : ∀ q, op.presented = some q → C.sha256 q.value ≠ δ) :
    (durableStep C s op).2.challenges.lookup δ = some p := by
  rcases (durableStep_eq C s op).2 with heq | heq <;> rw [heq]
  · exact hp
  have hpruned : ∀ {accountID deviceID now random}, op = .issue accountID deviceID now random →
      (s.pruned now).challenges.lookup δ = some p := fun hop =>
    Table.lookup_keep_eq_some.mpr ⟨hp, hlive _ _ _ _ hop⟩
  have hspent : ∀ {q}, op.presented = some q → (spent C s q).challenges.lookup δ = some p :=
    fun hq => (AList.lookup_erase_ne (hothers _ hq).symm).trans hp
  have heffect := step_effect C s op
  generalize (step C s op).1 = r, (step C s op).2 = s' at heffect ⊢
  cases heffect with
  | same => exact hp
  | pruned hop => exact hpruned hop
  | @issued accountID deviceID now nonce hop _ hfresh =>
      have hne : δ ≠ C.sha256 nonce.value := by
        rintro rfl
        exact hfresh (Table.mem_iff_lookup.mpr ⟨p, hpruned hop⟩)
      exact (AList.lookup_insert_ne hne).trans (hpruned hop)
  | expired hop => exact hspent hop
  | consumed hop => exact hspent (by rw [hop]; rfl)
  | enrolled hop => exact hspent (by rw [hop]; rfl)

theorem device_durableStep {id : Text} {d : DeviceIdentity} (hd : s.devices.lookup id = some d) :
    (durableStep C s op).2.devices.lookup id = some d := by
  rcases (durableStep_eq C s op).2 with heq | heq <;> rw [heq]
  · exact hd
  · exact (step_effect C s op).device hd

theorem durableStep_issue {accountID deviceID : Text} {now : Time} {nonce : Nonce}
    (haccount : validIdentifier accountID = true) (hdevice : validIdentifier deviceID = true)
    (hroom : Table.size (s.pruned now).challenges < s.capacity)
    (hfresh : C.sha256 nonce.value ∉ (s.pruned now).challenges) :
    (durableStep C s (.issue accountID deviceID now (some nonce))).1 =
        .ok (.challenge ⟨nonce.value, now.add s.ttl⟩) ∧
      (durableStep C s (.issue accountID deviceID now (some nonce))).2.challenges.lookup
        (C.sha256 nonce.value) = some ⟨accountID, deviceID, now.add s.ttl⟩ := by
  have hissue : s.issue C accountID deviceID now (some nonce) =
      (.ok ⟨nonce.value, now.add s.ttl⟩, { s.pruned now with
        challenges := (s.pruned now).challenges.insert (C.sha256 nonce.value)
          ⟨accountID, deviceID, now.add s.ttl⟩ }) := by
    rw [EnrollmentStore.issue, haccount, hdevice]
    have hroom' : ¬(s.pruned now).capacity ≤ Table.size (s.pruned now).challenges :=
      Int.not_le.mpr hroom
    dsimp only
    rw [if_neg hroom', if_neg hfresh]
    rfl
  simp only [durableStep, step, hissue]
  exact ⟨rfl, AList.lookup_insert _⟩

theorem durableStep_enroll {request : EnrollmentRequest} {now : Time} {device : DeviceIdentity}
    {p : PendingChallenge} (hproof : verifyEnrollment C request = .ok device)
    (hname : request.deviceID ∉ s.devices) (hplace : Table.size s.devices < s.capacity)
    (hp : Pends C s ⟨request.accountID, request.deviceID, request.challenge, now⟩ p)
    (hvalid : p.expiresAt.after now = true) :
    (durableStep C s (.enroll request now)).1 = .ok (.device device) ∧
      (durableStep C s (.enroll request now)).2.devices.lookup request.deviceID = some device := by
  obtain ⟨haccount, hdevice⟩ := verifyEnrollment_ids hproof
  have hconsumed : s.consumeLocked C request.accountID request.deviceID request.challenge now =
      (.ok (), spent C s ⟨request.accountID, request.deviceID, request.challenge, now⟩) := by
    rcases consumeLocked_cases (C := C) (s := s)
      ⟨request.accountID, request.deviceID, request.challenge, now⟩ with
      ⟨hnone, -⟩ | ⟨p', hp', ⟨hexpired, -⟩ | ⟨-, ho⟩⟩
    · exact absurd ⟨p, hp⟩ hnone
    · obtain rfl := Option.some.inj (hp.found.symm.trans hp'.found)
      cases hvalid.symm.trans hexpired
    · exact ho
  have henroll : s.enroll C request now = (.ok device,
      { spent C s ⟨request.accountID, request.deviceID, request.challenge, now⟩ with
        devices := s.devices.insert request.deviceID device }) := by
    rw [EnrollmentStore.enroll, hproof]
    dsimp only
    rw [hdevice, haccount, if_neg hname, if_neg (Int.not_le.mpr hplace), hconsumed]
    rfl
  simp only [durableStep, step, henroll]
  exact ⟨rfl, AList.lookup_insert _⟩

end

/-- The store in memory after some requests. -/
def storeInMemory (R : Runtime) (s : EnrollmentStore) (xs : List (Exchange runtimeTtl)) :
    EnrollmentStore :=
  xs.foldl (fun s x => (R.answerInMemory s x).2) s

theorem storeInMemory_append (s : EnrollmentStore) (xs ys : List (Exchange runtimeTtl)) :
    R.storeInMemory s (xs ++ ys) = R.storeInMemory (R.storeInMemory s xs) ys :=
  List.foldl_append

theorem storeInMemory_cons (s : EnrollmentStore) (x : Exchange runtimeTtl)
    (xs : List (Exchange runtimeTtl)) :
    R.storeInMemory s (x :: xs) = R.storeInMemory (R.answerInMemory s x).2 xs := rfl

theorem reportsInMemory_append (s : EnrollmentStore) (xs ys : List (Exchange runtimeTtl)) :
    R.reportsInMemory s (xs ++ ys) =
      R.reportsInMemory s xs ++ R.reportsInMemory (R.storeInMemory s xs) ys := by
  induction xs generalizing s with
  | nil => rfl
  | cons x xs ih => exact congrArg (List.cons _) (ih _)

theorem length_reportsInMemory (s : EnrollmentStore) (xs : List (Exchange runtimeTtl)) :
    (R.reportsInMemory s xs).length = xs.length := by
  induction xs generalizing s with
  | nil => rfl
  | cons x xs ih => exact congrArg Nat.succ (ih _)

/-- What every request keeps, a run keeps. -/
theorem storeInMemory_invariant {J : EnrollmentStore → Prop} {xs : List (Exchange runtimeTtl)}
    (hstep : ∀ s, ∀ x ∈ xs, ∀ c op, R.callOf x = .ok c → c.op = some op → J s →
      J (durableStep R.crypto s op).2) {s : EnrollmentStore} (hs : J s) :
    J (R.storeInMemory s xs) := by
  induction xs generalizing s with
  | nil => exact hs
  | cons x xs ih =>
      refine ih (fun s y hy => hstep s y (List.mem_cons_of_mem _ hy)) ?_
      change J (R.answerInMemory s x).2
      unfold answerInMemory
      split
      · exact hs
      next c hc =>
      split
      · exact hs
      · next op hop => exact hstep s x (List.mem_cons_self ..) c op hc hop hs

/-- **An honest client is served.** Without faults, whatever other requests
come before and between: a challenge is issued when there is room, the
device is enrolled with it, by a request of the same account that is
signed and in time, and is found. The others must not present this very
challenge, nor take the device's name or the last place. -/
theorem enrollment_completes (R : Runtime) (hpath : R.path ≠ "") (disk : Disk)
    (hready : disk.Ready) (hfree : ¬disk.Held) (hnone : disk.slot.target = none)
    (pre mid post : List (Exchange runtimeTtl)) (y x z : Exchange runtimeTtl)
    (hdated : ∀ e ∈ pre ++ y :: (mid ++ x :: (post ++ [z])), R.Dated e)
    (request : EnrollmentRequest) (device : DeviceIdentity) (nonce : Nonce)
    (hproof : verifyEnrollment R.crypto request = .ok device)
    (hchallenge : request.challenge = nonce.value)
    (hy : R.Posts y request.accountID .challenges (marshalChallengeBody request.deviceID))
    (hrandom : y.random = some nonce)
    (hx : R.Posts x request.accountID .devices (marshalDeviceBody request.deviceID
      request.publicKey request.challenge request.signature))
    (hz : R.Sends z request.accountID (.device request.deviceID))
    (htime : ∀ e ∈ mid ++ [x], (y.now.add runtimeTtl).after e.now = true)
    (hmid : ∀ e ∈ mid, ∀ other, R.callOf e = .ok (.enroll other e.now) →
      R.crypto.sha256 other.challenge ≠ R.crypto.sha256 nonce.value)
    (hfresh : R.crypto.sha256 nonce.value ∉
      ((R.storeInMemory newStore pre).pruned y.now).challenges)
    (hroom : Table.size ((R.storeInMemory newStore pre).pruned y.now).challenges < runtimeCapacity)
    (hname : request.deviceID ∉ (R.storeInMemory newStore (pre ++ y :: mid)).devices)
    (hplace : Table.size (R.storeInMemory newStore (pre ++ y :: mid)).devices < runtimeCapacity) :
    ∃ a b c : List ApiReport, a.length = pre.length + 1 ∧ b.length = mid.length ∧ c.length = post.length ∧
      (R.service.run (.act .start :: (pre ++ y :: (mid ++ x :: (post ++ [z]))).map
        fun e => .act (.call 0 e)) ⟨disk, []⟩).2 =
        a ++ .answered y (.ok (securityHeaders
            (writeJSON R.challengeJson 201 ⟨nonce.value, y.now.add runtimeTtl⟩))) ::
          (b ++ .answered x (.ok (securityHeaders (writeDevice R.json 201 device))) ::
            (c ++ [.answered z (.ok (securityHeaders (writeDevice R.json 200 device)))])) := by
  have hvalid := goodDevice_of_verifyEnrollment hproof
  obtain ⟨haccount, hdevice⟩ := verifyEnrollment_ids hproof
  have hids : validIdentifier request.accountID = true ∧ validIdentifier request.deviceID = true :=
    ⟨haccount ▸ hvalid.account, hdevice ▸ hvalid.device⟩
  rw [answers_inMemory R hpath disk hready hfree hnone _ hdated]
  have hsettings : ∀ {xs s}, s.ttl = runtimeTtl ∧ s.capacity = runtimeCapacity →
      (R.storeInMemory s xs).ttl = runtimeTtl ∧ (R.storeInMemory s xs).capacity = runtimeCapacity :=
    fun hs => storeInMemory_invariant
      (J := fun s => s.ttl = runtimeTtl ∧ s.capacity = runtimeCapacity)
      (fun s _ _ _ op _ _ hs => by
        obtain ⟨httl, hcapacity⟩ := durableStep_settings R.crypto s op
        exact ⟨httl.trans hs.1, hcapacity.trans hs.2⟩) hs
  -- the challenge is issued
  generalize hs₁ : R.storeInMemory newStore pre = s₁ at hfresh hroom
  obtain ⟨httl₁, hcapacity₁⟩ : s₁.ttl = runtimeTtl ∧ s₁.capacity = runtimeCapacity :=
    hs₁ ▸ hsettings ⟨rfl, rfl⟩
  obtain ⟨hissued, hpending⟩ := durableStep_issue hids.1 hids.2 (hcapacity₁ ▸ hroom) hfresh
  rw [httl₁] at hissued hpending
  have hycall := hy.issues hids.1 hids.2
  rw [hrandom] at hycall
  have hyanswer := answerInMemory_asked (s := s₁) hycall rfl
  rw [hissued] at hyanswer
  generalize (durableStep R.crypto s₁ (.issue request.accountID request.deviceID y.now
    (some nonce))).2 = s₂ at hyanswer hpending
  -- it stays pending
  have hs₃ : R.storeInMemory newStore (pre ++ y :: mid) = R.storeInMemory s₂ mid := by
    rw [storeInMemory_append, hs₁, storeInMemory_cons, hyanswer]
  rw [hs₃] at hname hplace
  have hkept : (R.storeInMemory s₂ mid).challenges.lookup (R.crypto.sha256 nonce.value) =
      some ⟨request.accountID, request.deviceID, y.now.add runtimeTtl⟩ := by
    refine storeInMemory_invariant (J := fun s => s.challenges.lookup _ = some _)
      (fun s e he c op hc hop hp => ?_) hpending
    obtain ⟨hnow, hpresented⟩ := callOf_op hc hop
    refine pending_durableStep hp ?_ ?_
    · rintro _ _ now _ hissue
      rw [hnow _ _ _ _ hissue]
      exact htime e (List.mem_append_left _ he)
    · intro q hq
      obtain ⟨other, hother, hvalue⟩ := hpresented q hq
      exact hvalue ▸ hmid e he other hother
  -- the device is enrolled
  have hxcall := hx.enrolls hproof
  have hpends : Pends R.crypto (R.storeInMemory s₂ mid)
      ⟨request.accountID, request.deviceID, request.challenge, x.now⟩
      ⟨request.accountID, request.deviceID, y.now.add runtimeTtl⟩ :=
    ⟨hchallenge ▸ nonce.length, hchallenge ▸ hkept, rfl, rfl⟩
  have hcapacity₃ : (R.storeInMemory s₂ mid).capacity = runtimeCapacity :=
    hs₃ ▸ (hsettings ⟨rfl, rfl⟩).2
  obtain ⟨henrolled, hregistered⟩ := durableStep_enroll hproof hname (hcapacity₃ ▸ hplace) hpends
    (htime x (List.mem_append_right _ (List.mem_singleton_self _)))
  have hxanswer := answerInMemory_asked (s := R.storeInMemory s₂ mid) hxcall rfl
  rw [henrolled] at hxanswer
  generalize (durableStep R.crypto (R.storeInMemory s₂ mid) (.enroll request x.now)).2 = s₄
    at hxanswer hregistered
  -- and found
  have hfound : (R.storeInMemory s₄ post).devices.lookup request.deviceID = some device :=
    storeInMemory_invariant (J := fun s => s.devices.lookup _ = some _)
      (fun _ _ _ _ _ _ _ hd => device_durableStep hd) hregistered
  have hread : (durableStep R.crypto (R.storeInMemory s₄ post)
      (.device request.accountID request.deviceID)).1 = .ok (.device device) := by
    rw [(durableStep_eq _ _ _).1, step, EnrollmentStore.device, hfound]
    simp [haccount]
    rfl
  have hzanswer := answerInMemory_asked (s := R.storeInMemory s₄ post) (hz.reads hids.1) rfl
  rw [hread] at hzanswer
  refine ⟨.started (.ok ()) :: R.reportsInMemory newStore pre, R.reportsInMemory s₂ mid,
    R.reportsInMemory s₄ post, ?_, length_reportsInMemory _ _, length_reportsInMemory _ _, ?_⟩
  · rw [List.length_cons, length_reportsInMemory]
  · rw [reportsInMemory_append, hs₁, reportsInMemory, hyanswer, reportsInMemory_append,
      reportsInMemory, hxanswer, reportsInMemory_append, reportsInMemory, hzanswer,
      answer_challenge hy.route, answer_created hx.route, answer_found hz.route]
    rfl

/-! ### An instance -/

/-- Another account asks for a challenge of its own, -/
def neighbourAsks : Exchange runtimeTtl :=
  exampleExchange neighbourToken 2 .challenges (marshalChallengeBody (ascii "tablet")) 0

/-- fails to enroll with it, for its signature is none, -/
def neighbourEnrolls : Exchange runtimeTtl :=
  exampleExchange neighbourToken 2 .devices (marshalDeviceBody (ascii "tablet")
    exampleRequest.publicKey (exampleNonce 2).value exampleRequest.signature) 5

/-- and looks for the device of the first account. -/
def neighbourReads : Exchange runtimeTtl :=
  exampleExchange neighbourToken 2 (.device (ascii "device")) [] 12

def sharedRequests : List (Exchange runtimeTtl) :=
  [neighbourAsks, exampleAsks, neighbourReads, neighbourEnrolls, exampleEnrolls, neighbourReads,
    exampleReads]

theorem sharedRequests_dated {x : Exchange runtimeTtl} (hx : x ∈ sharedRequests) :
    exampleRuntime.Dated x := by
  simp only [sharedRequests, List.mem_cons, List.not_mem_nil, or_false] at hx
  rcases hx with rfl | rfl | rfl | rfl | rfl | rfl | rfl
  all_goals exact example_dated _ _ _ _ (by decide +kernel)

/-- The challenge that a request presents. -/
def presented (x : Exchange runtimeTtl) : Option Text :=
  (((exampleRuntime.callOf x).toOption.bind FileCall.op).bind Op.presented).map Presented.value

/-- The device is enrolled while another account uses the service. -/
theorem enrollment_completes_device :
    (∀ e ∈ [neighbourAsks, neighbourEnrolls, neighbourReads],
      exampleRuntime.account e = some (ascii "neighbour")) ∧
    ∃ a b c : List ApiReport, a.length = 2 ∧ b.length = 2 ∧ c.length = 1 ∧
      ∃ asked enrolled found : Response,
      asked.status = 201 ∧ enrolled.status = 201 ∧ found.status = 200 ∧
      (exampleRuntime.service.run (.act .start :: sharedRequests.map fun x => .act (.call 0 x))
        ⟨emptyDisk, []⟩).2 =
      a ++ .answered exampleAsks (.ok asked) :: (b ++ .answered exampleEnrolls (.ok enrolled) ::
        (c ++ [.answered exampleReads (.ok found)])) := by
  obtain ⟨device, hproof⟩ := exampleRequest_verified
  have hsoon : ∀ e ∈ [neighbourReads, neighbourEnrolls] ++ [exampleEnrolls],
      (exampleAsks.now.add runtimeTtl).after e.now = true := by
    intro e he
    simp only [List.cons_append, List.nil_append, List.mem_cons, List.not_mem_nil, or_false] at he
    rcases he with rfl | rfl | rfl <;> decide +kernel
  have hothers : ∀ e ∈ [neighbourReads, neighbourEnrolls], ∀ other,
      exampleRuntime.callOf e = .ok (.enroll other e.now) →
        exampleRuntime.crypto.sha256 other.challenge ≠
          exampleRuntime.crypto.sha256 (exampleNonce 1).value := by
    intro e he other hother
    rcases List.mem_pair.mp he with rfl | rfl
    · have hread : presented neighbourReads = none := by decide +kernel
      rw [presented, hother] at hread
      cases hread
    · have henroll : presented neighbourEnrolls = some (exampleNonce 2).value := by decide +kernel
      rw [presented, hother] at henroll
      rw [show other.challenge = (exampleNonce 2).value from Option.some.inj henroll]
      decide +kernel
  obtain ⟨hfresh, hroom⟩ : exampleRuntime.crypto.sha256 (exampleNonce 1).value ∉
        ((exampleRuntime.storeInMemory newStore [neighbourAsks]).pruned exampleAsks.now).challenges ∧
      Table.size ((exampleRuntime.storeInMemory newStore [neighbourAsks]).pruned
        exampleAsks.now).challenges < runtimeCapacity := by
    decide +kernel
  obtain ⟨hname, hplace⟩ : exampleRequest.deviceID ∉ (exampleRuntime.storeInMemory newStore
        ([neighbourAsks] ++ exampleAsks :: [neighbourReads, neighbourEnrolls])).devices ∧
      Table.size (exampleRuntime.storeInMemory newStore
        ([neighbourAsks] ++ exampleAsks :: [neighbourReads, neighbourEnrolls])).devices <
          runtimeCapacity := by
    decide +kernel
  obtain ⟨a, b, c, ha, hb, hc, hreports⟩ := enrollment_completes exampleRuntime (by decide) emptyDisk
    emptyDisk_ready Bool.false_ne_true rfl [neighbourAsks] [neighbourReads, neighbourEnrolls]
    [neighbourReads] exampleAsks exampleEnrolls exampleReads (fun _ => sharedRequests_dated)
    exampleRequest device (exampleNonce 1) hproof rfl exampleAsks_posts rfl exampleEnrolls_posts
    exampleReads_sends hsoon hothers hfresh hroom hname hplace
  exact ⟨by decide +kernel, a, b, c, ha, hb, hc, _, _, _, rfl, rfl, rfl, hreports⟩

end Runtime

end CyberiaVpn.Api
