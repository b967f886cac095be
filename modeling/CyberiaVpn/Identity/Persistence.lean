import CyberiaVpn.Identity.FileStore

/-!
# What is persisted can be restored

`restore` is stricter than the store: it checks every device and every
challenge again. A store whose challenges all have a nonzero expiry passes
(`Admissible`, kept by every call), and restoring what `persist` listed of
it, in whatever order, gives the same store up to the order of its maps
(`restored_image`). Calls do not see that order (`step_same`).
-/

namespace CyberiaVpn.Identity

open Control Data Effects Snapshot

/-! ## Stores up to order -/

structure Same (s t : EnrollmentStore) : Prop where
  devices : Table.Same s.devices t.devices
  ttl : s.ttl = t.ttl
  capacity : s.capacity = t.capacity
  challenges : Table.Same s.challenges t.challenges

theorem Same.refl (s : EnrollmentStore) : Same s s :=
  ⟨Table.same_refl _, rfl, rfl, Table.same_refl _⟩

section

variable {C : Crypto} {s t : EnrollmentStore}

theorem Same.trans {u : EnrollmentStore} (h : Same s t) (h' : Same t u) : Same s u :=
  ⟨h.devices.trans h'.devices, h.ttl.trans h'.ttl, h.capacity.trans h'.capacity,
    h.challenges.trans h'.challenges⟩

theorem Same.symm (h : Same s t) : Same t s :=
  ⟨h.devices.symm, h.ttl.symm, h.capacity.symm, h.challenges.symm⟩

theorem Same.pruned (h : Same s t) (now : Time) : Same (s.pruned now) (t.pruned now) :=
  ⟨h.devices, h.ttl, h.capacity, Table.same_keep h.challenges _⟩

theorem Same.issue (h : Same s t) (accountID deviceID : Text) (now : Time)
    (random : Option Nonce) :
    (s.issue C accountID deviceID now random).1 = (t.issue C accountID deviceID now random).1 ∧
      Same (s.issue C accountID deviceID now random).2
        (t.issue C accountID deviceID now random).2 := by
  have hp := h.pruned now
  have hsize := Table.same_size hp.challenges
  simp only [EnrollmentStore.issue, hsize, hp.capacity, hp.ttl, Table.same_mem hp.challenges]
  split
  · exact ⟨rfl, h⟩
  split
  · exact ⟨rfl, hp⟩
  cases random with
  | none => exact ⟨rfl, hp⟩
  | some nonce =>
      dsimp only
      split
      · exact ⟨rfl, hp⟩
      · exact ⟨rfl, hp.devices, rfl, rfl, Table.same_insert hp.challenges _ _⟩

theorem Same.consumeLocked (h : Same s t) (accountID deviceID value : Text) (now : Time) :
    (s.consumeLocked C accountID deviceID value now).1 =
        (t.consumeLocked C accountID deviceID value now).1 ∧
      Same (s.consumeLocked C accountID deviceID value now).2
        (t.consumeLocked C accountID deviceID value now).2 := by
  have hspent : ∀ δ, Same { s with challenges := s.challenges.erase δ }
      { t with challenges := t.challenges.erase δ } := fun δ =>
    ⟨h.devices, h.ttl, h.capacity, Table.same_erase h.challenges δ⟩
  simp only [EnrollmentStore.consumeLocked, Table.same_lookup h.challenges]
  split
  · exact ⟨rfl, h⟩
  split
  · exact ⟨rfl, h⟩
  split
  · exact ⟨rfl, h⟩
  split
  · exact ⟨rfl, hspent _⟩
  · exact ⟨rfl, hspent _⟩

theorem Same.enroll (h : Same s t) (request : EnrollmentRequest) (now : Time) :
    (s.enroll C request now).1 = (t.enroll C request now).1 ∧
      Same (s.enroll C request now).2 (t.enroll C request now).2 := by
  have hsize := Table.same_size h.devices
  simp only [EnrollmentStore.enroll, hsize, h.capacity, Table.same_mem h.devices]
  split
  · exact ⟨rfl, h⟩
  next device _ =>
  split
  · exact ⟨rfl, h⟩
  split
  · exact ⟨rfl, h⟩
  obtain ⟨hresult, hstore⟩ :=
    h.consumeLocked (C := C) device.accountID device.deviceID request.challenge now
  rcases hs : s.consumeLocked C device.accountID device.deviceID request.challenge now with ⟨r, s'⟩
  rcases ht : t.consumeLocked C device.accountID device.deviceID request.challenge now with ⟨r', t'⟩
  rw [hs, ht] at hresult hstore
  obtain rfl : r = r' := hresult
  cases r with
  | error e => exact ⟨rfl, hstore⟩
  | ok _ =>
      exact ⟨rfl, Table.same_insert hstore.devices _ _, hstore.ttl, hstore.capacity,
        hstore.challenges⟩

/-- A call does not see the order of the maps. -/
theorem Same.step (h : Same s t) (op : Op) :
    (step C s op).1 = (step C t op).1 ∧ Same (step C s op).2 (step C t op).2 := by
  cases op with
  | issue accountID deviceID now random =>
      obtain ⟨hresult, hstore⟩ := h.issue (C := C) accountID deviceID now random
      exact ⟨congrArg (Except.map Answer.challenge) hresult, hstore⟩
  | consume accountID deviceID value now =>
      obtain ⟨hresult, hstore⟩ := h.consumeLocked (C := C) accountID deviceID value now
      exact ⟨congrArg (Except.map fun _ => Answer.consumed) hresult, hstore⟩
  | enroll request now =>
      obtain ⟨hresult, hstore⟩ := h.enroll (C := C) request now
      exact ⟨congrArg (Except.map Answer.device) hresult, hstore⟩
  | device accountID deviceID =>
      refine ⟨?_, h⟩
      simp only [Identity.step, EnrollmentStore.device, Table.same_lookup h.devices]

/-! ## What passes the checks of `restore` -/

theorem hexDigit_byte : ∀ n < 16, identifierByte (hexDigit n) = true := by decide

theorem encodeToString_bytes {bytes : Text} : ∀ b ∈ encodeToString bytes, identifierByte b = true := by
  intro b hb
  obtain ⟨x, -, hb⟩ := List.mem_flatMap.mp hb
  have hx := x.toNat_lt
  rcases List.mem_pair.mp hb with rfl | rfl
  · exact hexDigit_byte _ (by omega)
  · exact hexDigit_byte _ (by omega)

structure GoodDevice (C : Crypto) (d : DeviceIdentity) : Prop where
  account : validIdentifier d.accountID = true
  device : validIdentifier d.deviceID = true
  key : d.publicKey.length = 32
  keyID : d.keyID = encodeToString (C.sha256 d.publicKey).1

structure GoodChallenge (p : PendingChallenge) : Prop where
  account : validIdentifier p.accountID = true
  device : validIdentifier p.deviceID = true
  expires : p.expiresAt.isZero = false

structure Admissible (C : Crypto) (s : EnrollmentStore) : Prop where
  devices : ∀ id d, s.devices.lookup id = some d → d.deviceID = id ∧ GoodDevice C d
  challenges : ∀ δ p, s.challenges.lookup δ = some p → GoodChallenge p
  bounded : Bounded s

theorem Admissible.same (hs : Admissible C s) (h : Same s t) : Admissible C t := by
  refine ⟨fun id d hd => hs.devices id d ?_, fun δ p hp => hs.challenges δ p ?_, ?_, ?_⟩
  · rwa [Table.same_lookup h.devices]
  · rwa [Table.same_lookup h.challenges]
  · rw [← Table.same_size h.challenges, ← h.capacity]
    exact hs.bounded.1
  · rw [← Table.same_size h.devices, ← h.capacity]
    exact hs.bounded.2

theorem goodDevice_of_verifyEnrollment {request : EnrollmentRequest} {d : DeviceIdentity}
    (h : verifyEnrollment C request = .ok d) : GoodDevice C d := by
  simp only [verifyEnrollment, bind_eq_ok, reject_eq_ok, Bool.or_eq_true, Bool.not_eq_true',
    not_or, Bool.not_eq_false] at h
  obtain ⟨_, ⟨haccount, hdevice⟩, _, hkey, _, -, _, -, hd⟩ := h
  obtain rfl := Except.ok.inj hd
  exact ⟨haccount, hdevice, not_not.mp hkey, rfl⟩

/-- The expiry an `Issue` would give is not the zero time. -/
def NonzeroExpiry (ttl : Int) (op : Op) : Prop :=
  ∀ accountID deviceID now random, op = .issue accountID deviceID now random →
    (now.add ttl).isZero = false

/-- A registered device was registered before, or has just proved itself. -/
theorem Effect.registered {op : Op} {r : Except EnrollmentError Answer} {s' : EnrollmentStore}
    (h : Effect C s op r s') {id : Text} {d : DeviceIdentity}
    (hd : s'.devices.lookup id = some d) :
    s.devices.lookup id = some d ∨ (d.deviceID = id ∧ GoodDevice C d) := by
  cases h with
  | @enrolled request now p device _ hproof =>
      by_cases hid : id = device.deviceID
      · subst hid
        rw [AList.lookup_insert] at hd
        obtain rfl := Option.some.inj hd
        exact .inr ⟨rfl, goodDevice_of_verifyEnrollment hproof⟩
      · rw [AList.lookup_insert_ne hid] at hd
        exact .inl hd
  | _ => exact .inl hd

/-- A call keeps the store admissible, and its settings. -/
theorem Admissible.step (h : Admissible C s) {op : Op} (hop : NonzeroExpiry s.ttl op) :
    Admissible C (Identity.step C s op).2 ∧ (Identity.step C s op).2.ttl = s.ttl ∧
      (Identity.step C s op).2.capacity = s.capacity := by
  have heffect := step_effect C s op
  obtain ⟨hbounded, hcapacity⟩ := heffect.bounded h.bounded
  generalize (Identity.step C s op).1 = r at heffect
  generalize (Identity.step C s op).2 = s' at heffect hbounded hcapacity ⊢
  refine ⟨⟨fun id d hd => ?_, fun δ p hp => ?_, hbounded⟩, ?_, hcapacity⟩
  · exact (heffect.registered hd).elim (h.devices id d) fun hnew => hnew
  · rcases heffect.pending hp with hold | ⟨now, nonce, hissue, -, -, hexpires, haccount, hdevice⟩
    · exact h.challenges δ p hold
    · exact ⟨haccount, hdevice, hexpires ▸ hop _ _ _ _ hissue⟩
  · cases heffect <;> rfl

/-! ## Restoring a listing -/

/-- A snapshot that lists the entries of a store, in any order. -/
def Image (state : EnrollmentSnapshot) (s : EnrollmentStore) : Prop :=
  ∃ (ds : List ((_ : Text) × DeviceIdentity)) (cs : List ((_ : Digest) × PendingChallenge)),
    ds.Perm s.devices.entries ∧ cs.Perm s.challenges.entries ∧ state =
      ⟨1, some (ds.map Sigma.snd), some (cs.map FileEnrollmentStore.challengeSnapshot)⟩

/-- Devices that pass the checks and have distinct new keys are all taken. -/
theorem restoreDevices_eq_ok : ∀ (ds : List ((_ : Text) × DeviceIdentity))
    (devices : Table Text DeviceIdentity),
    (∀ e ∈ ds, e.2.deviceID = e.1 ∧ GoodDevice C e.2) → (ds ++ devices.entries).NodupKeys →
    ∃ devices', restoreDevices C (ds.map Sigma.snd) devices = .ok devices' ∧
      devices'.entries.Perm (ds ++ devices.entries)
  | [], devices, _, _ => ⟨devices, rfl, List.Perm.refl _⟩
  | ⟨id, d⟩ :: ds, devices, hgood, hnodup => by
      obtain ⟨hid, hd⟩ := hgood ⟨id, d⟩ (List.mem_cons_self ..)
      obtain rfl : d.deviceID = id := hid
      replace hd : GoodDevice C d := hd
      have hnew := Table.notMem_of_nodupKeys hnodup
      have hperm := Table.perm_insert_entries (l := ds) (e := ⟨d.deviceID, d⟩) hnew
      obtain ⟨devices', hr, hperm'⟩ := restoreDevices_eq_ok ds (devices.insert d.deviceID d)
        (fun e he => hgood e (List.mem_cons_of_mem _ he)) ((List.perm_nodupKeys hperm).mpr hnodup)
      refine ⟨devices', ?_, hperm'.trans hperm⟩
      rw [List.map_cons, restoreDevices, if_neg, if_neg hnew]
      · exact hr
      · simp [hd.account, hd.device, hd.key, hd.keyID]

theorem restoreChallenges_eq_ok : ∀ (cs : List ((_ : Digest) × PendingChallenge))
    (challenges : Table Digest PendingChallenge),
    (∀ e ∈ cs, GoodChallenge e.2) → (cs ++ challenges.entries).NodupKeys →
    ∃ challenges',
      restoreChallenges (cs.map FileEnrollmentStore.challengeSnapshot) challenges =
        .ok challenges' ∧ challenges'.entries.Perm (cs ++ challenges.entries)
  | [], challenges, _, _ => ⟨challenges, rfl, List.Perm.refl _⟩
  | ⟨δ, p⟩ :: cs, challenges, hgood, hnodup => by
      have hp := hgood ⟨δ, p⟩ (List.mem_cons_self ..)
      have hnew := Table.notMem_of_nodupKeys hnodup
      have hperm := Table.perm_insert_entries (l := cs) (e := ⟨δ, p⟩) hnew
      obtain ⟨challenges', hr, hperm'⟩ := restoreChallenges_eq_ok cs (challenges.insert δ p)
        (fun e he => hgood e (List.mem_cons_of_mem _ he)) ((List.perm_nodupKeys hperm).mpr hnodup)
      refine ⟨challenges', ?_, hperm'.trans hperm⟩
      rw [List.map_cons, restoreChallenges, FileEnrollmentStore.challengeSnapshot, dif_pos δ.2,
        if_neg, if_neg hnew]
      · exact hr
      · simp [hp.account, hp.device, hp.expires]

/-- **Whatever was listed can be restored**, and gives the same store. -/
theorem restored_image {state : EnrollmentSnapshot} (hs : Admissible C s) (himage : Image state s)
    {current : EnrollmentStore} (hcurrent : current = ⟨∅, s.ttl, s.capacity, ∅⟩) :
    ∃ t, FileEnrollmentStore.restored C current state = .ok t ∧ Same t s := by
  obtain ⟨ds, cs, hds, hcs, rfl⟩ := himage
  subst hcurrent
  have hdevices : ∀ e ∈ ds, e.2.deviceID = e.1 ∧ GoodDevice C e.2 := fun e he =>
    hs.devices e.1 e.2 (AList.mem_lookup_iff.mpr (hds.subset he))
  have hchallenges : ∀ e ∈ cs, GoodChallenge e.2 := fun e he =>
    hs.challenges e.1 e.2 (AList.mem_lookup_iff.mpr (hcs.subset he))
  obtain ⟨devices, hd, hdperm⟩ := restoreDevices_eq_ok ds ∅ hdevices
    (by simpa using (List.perm_nodupKeys hds).mpr s.devices.nodupKeys)
  obtain ⟨challenges, hc, hcperm⟩ := restoreChallenges_eq_ok cs ∅ hchallenges
    (by simpa using (List.perm_nodupKeys hcs).mpr s.challenges.nodupKeys)
  have hdlen : (ds.length : Int) ≤ s.capacity := hds.length_eq ▸ hs.bounded.2
  have hclen : (cs.length : Int) ≤ s.capacity := hcs.length_eq ▸ hs.bounded.1
  refine ⟨{ s with devices, challenges }, ?_, ?_, rfl, rfl, ?_⟩
  · have hfits : ¬((1 : Int) ≠ 1 ∨ s.capacity < (ds.map Sigma.snd).length ∨
        s.capacity < (cs.map FileEnrollmentStore.challengeSnapshot).length) := by
      simp only [List.length_map]
      omega
    simp only [FileEnrollmentStore.restored, reject, if_neg hfits, hd, hc]
    rfl
  · exact (by simpa using hdperm : devices.entries.Perm ds).trans hds
  · exact (by simpa using hcperm : challenges.entries.Perm cs).trans hcs

end

end CyberiaVpn.Identity
