import CyberiaVpn.Identity.SnapshotText

/-!
# The durable store on a disk without faults

Nothing but a system call that fails keeps the durable store from being
the store in memory: what is persisted has a text (`marshal_eq_ok`) and
fits (`Compact.fits`), so on a `Ready` disk every call ends as it does in
memory, and the store after it is the store in memory. The one difference
is by design: a refused `Issue` also drops what it pruned.
-/

namespace CyberiaVpn.Identity

open Codec Control Data Effects Snapshot

/-! ## The store in memory -/

/-- A call on a store that only keeps what it wrote. -/
def durableStep (C : Crypto) (s : EnrollmentStore) (op : Op) :
    Except EnrollmentError Answer × EnrollmentStore :=
  match op, step C s op with
  | .issue .., (.error e, _) => (.error e, s)
  | _, o => o

/-- The same answer from the durable store. -/
def fileAnswer : Except EnrollmentError Answer → Except FileEnrollmentError FileAnswer
  | .ok a => .ok (.answer a)
  | .error e => .error (.domain e)

section

variable {C : Crypto} {zone : ChallengeSnapshot → Int} {s : EnrollmentStore}

/-- Every pending challenge has a text. -/
def Dated (zone : ChallengeSnapshot → Int) (s : EnrollmentStore) : Prop :=
  ∀ δ p, s.challenges.lookup δ = some p →
    Rfc3339.HasText (zone (FileEnrollmentStore.challengeSnapshot ⟨δ, p⟩)) p.expiresAt.sec

/-- The expiry of a challenge that the call issues has a text. -/
def Op.Dated (zone : ChallengeSnapshot → Int) (ttl : Int) (op : Op) : Prop :=
  ∀ accountID deviceID now random, op = .issue accountID deviceID now random →
    ∀ c : ChallengeSnapshot, c.expiresAt = now.add ttl → Rfc3339.HasText (zone c) c.expiresAt.sec

/-- What a store must be for all its snapshots to be written. -/
structure Writable (C : Crypto) (zone : ChallengeSnapshot → Int) (s : EnrollmentStore) : Prop where
  compact : Compact C s
  capacity : s.capacity ≤ 10000
  dated : Dated zone s

theorem Writable.step (h : Writable C zone s) {op : Op} (hop : op.Dated zone s.ttl) :
    Writable C zone (Identity.step C s op).2 := by
  obtain ⟨hcompact, hcapacity⟩ := h.compact.step op
  refine ⟨hcompact, hcapacity ▸ h.capacity, fun δ p hp => ?_⟩
  rcases (step_effect C s op).pending hp with hold | ⟨now, nonce, hissue, -, -, hexpiry, -⟩
  · exact h.dated δ p hold
  · exact hop _ _ _ _ hissue (FileEnrollmentStore.challengeSnapshot ⟨δ, p⟩) hexpiry

theorem step_settings (C : Crypto) (s : EnrollmentStore) (op : Op) :
    (step C s op).2.ttl = s.ttl ∧ (step C s op).2.capacity = s.capacity := by
  have heffect := step_effect C s op
  generalize (step C s op).1 = r, (step C s op).2 = s' at heffect
  cases heffect <;> exact ⟨rfl, rfl⟩

theorem durableStep_eq (C : Crypto) (s : EnrollmentStore) (op : Op) :
    (durableStep C s op).1 = (step C s op).1 ∧
      ((durableStep C s op).2 = s ∨ (durableStep C s op).2 = (step C s op).2) := by
  unfold durableStep
  split
  · next h => exact ⟨by rw [h], .inl rfl⟩
  · exact ⟨rfl, .inr rfl⟩

theorem durableStep_settings (C : Crypto) (s : EnrollmentStore) (op : Op) :
    (durableStep C s op).2.ttl = s.ttl ∧ (durableStep C s op).2.capacity = s.capacity := by
  rcases (durableStep_eq C s op).2 with heq | heq <;> rw [heq]
  · exact ⟨rfl, rfl⟩
  · exact step_settings C s op

theorem Writable.durableStep (h : Writable C zone s) {op : Op} (hop : op.Dated zone s.ttl) :
    Writable C zone (durableStep C s op).2 := by
  rcases (durableStep_eq C s op).2 with heq | heq <;> rw [heq]
  · exact h
  · exact h.step hop

theorem Writable.marshal (h : Writable C zone s) (parse : Text → Option Time)
    {state : EnrollmentSnapshot} (himage : Image state s) :
    ∃ data, (snapshotCodec zone parse).marshal state = .ok data ∧
      (data.length : Int) ≤ 16 * 2 ^ 20 := by
  obtain ⟨data, hdata⟩ := marshal_eq_ok himage h.dated
  refine ⟨data, ?_, h.compact.fits h.capacity himage hdata⟩
  obtain ⟨_, _, -, -, rfl⟩ := id himage
  exact hdata

end

/-! ## Calls -/

/-- An open store on a disk without faults. -/
structure Serving (t : EnrollmentStore) (s : FileEnrollmentStore) (w : Disk) : Prop where
  file : s.file = ⟨16 * 2 ^ 20, true, none⟩
  current : s.current = t
  ready : w.Ready

section

variable {C : Crypto} {zone : ChallengeSnapshot → Int} {parse : Text → Option Time}
  {s : FileEnrollmentStore} {t t' : EnrollmentStore} {w : Disk}

theorem Serving.usable (h : Serving t s w) : s.file.Usable := by
  rw [h.file]
  exact ⟨rfl, rfl⟩

theorem Serving.persist_sat (h : Serving t s w) (ht' : Writable C zone t') :
    (FileEnrollmentStore.persist (snapshotCodec zone parse) t').Sat (fun _ => True)
      (fun _ s' w' => Serving t' s' w') (fun _ _ _ => False) s w := by
  rw [FileEnrollmentStore.persist, Prog.sat_bind]
  refine sat_iterate (I := fun _ => True) fun ds w₁ hds h₁ => ⟨trivial, ?_⟩
  rw [Prog.sat_bind]
  refine sat_iterate (I := fun _ => True) fun cs w₂ hcs h₂ => ⟨trivial, ?_⟩
  have hready : w₂.Ready := h₂.ready (h₁.ready h.ready)
  obtain ⟨data, hdata, hlength⟩ := ht'.marshal parse ⟨ds, cs, hds, hcs, rfl⟩
  have hlimit : s.file.limit = 16 * 2 ^ 20 := by rw [h.file]
  rw [Prog.sat_bind]
  refine saveState_sat (I := fun _ => True) (fun r hr => ?_) (fun _ _ _ _ => trivial) ?_ ?_
  · cases hr.symm.trans hdata
  · intro _ _ f w' hdone
    obtain rfl := hdone.same
    exact Prog.sat_update.mpr ⟨h.file, rfl, hdone.slot.ready hready⟩
  · intro data' hdata' e f w' haborted
    obtain rfl := Except.ok.inj (hdata.symm.trans hdata')
    cases haborted with
    | unchanged _ _ _ refused =>
        have hlarge : s.file.limit < data.length := refused h.usable hready
        omega
    | uncertain _ _ _ _ fault => exact fault hready

/-- A call begins with a check, which passes. -/
theorem Serving.sat_checked {α : Type} {k : Unit → FileEnrollmentM α}
    {Q : α → FileEnrollmentStore → Disk → Prop}
    {E : FileEnrollmentError → FileEnrollmentStore → Disk → Prop} (h : Serving t s w)
    (hk : (k ()).Sat (fun _ => True) Q E s w) :
    ((onFile File.check).mapError .file >>= k).Sat (fun _ => True) Q E s w := by
  rw [Prog.sat_bind, Prog.sat_mapError]
  exact sat_check (I := fun _ => True) (fun _ => hk) fun _ husable => absurd h.usable husable

/-- How a call ends on a disk without faults. -/
def Answers (C : Crypto) (zone : ChallengeSnapshot → Int) (parse : Text → Option Time)
    (t : EnrollmentStore) (c : FileCall) (op : Op) (s : FileEnrollmentStore) (w : Disk) : Prop :=
  (FileEnrollmentStore.answer C (snapshotCodec zone parse) c).Sat (fun _ => True)
    (fun a s' w' => fileAnswer (durableStep C t op).1 = .ok a ∧
      Serving (durableStep C t op).2 s' w')
    (fun e s' w' => fileAnswer (durableStep C t op).1 = .error e ∧
      Serving (durableStep C t op).2 s' w') s w

theorem Serving.issue_sat (h : Serving t s w) (ht : Writable C zone t) {accountID deviceID : Text}
    {now : Time} {random : Option Nonce}
    (hop : Op.Dated zone t.ttl (.issue accountID deviceID now random)) :
    Answers C zone parse t (.issue accountID deviceID now random)
      (.issue accountID deviceID now random) s w := by
  have hwritable := ht.step hop
  rw [Answers, FileEnrollmentStore.answer, Prog.sat_bind, FileEnrollmentStore.issue]
  refine h.sat_checked ?_
  rw [Prog.sat_bind, Prog.sat_self, h.current]
  simp only [durableStep, step] at hwritable ⊢
  rcases hissue : t.issue C accountID deviceID now random with ⟨_ | challenge, candidate⟩
  · exact Prog.sat_fail.mpr ⟨rfl, h⟩
  · rw [hissue] at hwritable
    refine Prog.sat_bind.mpr ((h.persist_sat hwritable).mono (fun _ h => h) ?_ fun _ _ _ h => h.elim)
    intro _ s' w' hs'
    exact Prog.sat_pure.mpr (Prog.sat_pure.mpr ⟨rfl, hs'⟩)

theorem Serving.enroll_sat (h : Serving t s w) (ht : Writable C zone t)
    {request : EnrollmentRequest} {now : Time} :
    Answers C zone parse t (.enroll request now) (.enroll request now) s w := by
  have hwritable : Writable C zone (step C t (.enroll request now)).2 :=
    ht.step (by rintro _ _ _ _ ⟨⟩)
  rw [Answers, FileEnrollmentStore.answer, Prog.sat_bind, FileEnrollmentStore.enroll]
  refine h.sat_checked ?_
  rw [Prog.sat_bind, Prog.sat_self, h.current]
  simp only [durableStep, step] at hwritable ⊢
  rcases henroll : t.enroll C request now with ⟨e | device, candidate⟩ <;>
    rw [henroll] at hwritable
  · dsimp only
    split
    · refine Prog.sat_bind.mpr ((h.persist_sat hwritable).mono (fun _ h => h) ?_
        fun _ _ _ h => h.elim)
      exact fun _ s' w' hs' => Prog.sat_fail.mpr ⟨rfl, hs'⟩
    · next hsize =>
        -- as many challenges as before: nothing was spent
        have hsame : candidate = t := by
          rcases enroll_error (congrArg Prod.fst henroll) with hsame | ⟨p, hp, -, -, -, hspent⟩
          · rw [henroll] at hsame
            exact hsame
          · rw [henroll] at hspent
            subst hspent
            have := Table.size_erase (Table.mem_iff_lookup.mpr ⟨p, hp⟩)
            simp only [not_not] at hsize
            omega
        exact Prog.sat_fail.mpr ⟨rfl, hsame ▸ h⟩
  · refine Prog.sat_bind.mpr ((h.persist_sat hwritable).mono (fun _ h => h) ?_
      fun _ _ _ h => h.elim)
    intro _ s' w' hs'
    exact Prog.sat_pure.mpr (Prog.sat_pure.mpr ⟨rfl, hs'⟩)

theorem Serving.device_sat (h : Serving t s w) {accountID deviceID : Text} :
    Answers C zone parse t (.device accountID deviceID) (.device accountID deviceID) s w := by
  rw [Answers, FileEnrollmentStore.answer, Prog.sat_bind, FileEnrollmentStore.device]
  refine h.sat_checked ?_
  rw [Prog.sat_bind, Prog.sat_self, Prog.sat_liftExcept, h.current]
  simp only [durableStep, step]
  cases t.device accountID deviceID with
  | error e => exact ⟨rfl, h⟩
  | ok device => exact Prog.sat_pure.mpr ⟨rfl, h⟩

/-- **Without faults a call is the call in memory.** -/
theorem Serving.answer_sat (h : Serving t s w) (ht : Writable C zone t) {c : FileCall} {op : Op}
    (hc : c.op = some op) (hop : op.Dated zone t.ttl) : Answers C zone parse t c op s w := by
  cases c with
  | issue accountID deviceID now random =>
      obtain rfl := Option.some.inj hc
      exact h.issue_sat ht hop
  | enroll request now =>
      obtain rfl := Option.some.inj hc
      exact h.enroll_sat ht
  | device accountID deviceID =>
      obtain rfl := Option.some.inj hc
      exact h.device_sat
  | close => cases hc

/-! ## Opening -/

/-- An unlocked path without a snapshot is opened, with a new store. -/
theorem open_ready {path : String} {ttl capacity : Int} {s₀ : EnrollmentStore} (hpath : path ≠ "")
    (hnew : EnrollmentStore.new ttl capacity = .ok s₀) (hcapacity : capacity ≤ 10000)
    (hw : w.Ready) (hfree : ¬w.Held) (hnone : w.slot.target = none) :
    (FileEnrollmentStore.openFileEnrollmentStore C (snapshotCodec zone parse) path ttl
      capacity).Sat (fun _ => True) (fun _ s' w' => Serving s₀ s' w') (fun _ _ _ => False) s w := by
  obtain ⟨hcompact, hcapacity', hempty⟩ := compact_new (C := C) hnew
  have hwritable : Writable C zone s₀ := by
    refine ⟨hcompact, by omega, fun δ p hp => ?_⟩
    rw [hempty] at hp
    cases hp
  rw [FileEnrollmentStore.openFileEnrollmentStore, Prog.sat_bind, Prog.sat_liftExcept, hnew]
  simp only [Except.mapError, if_neg (Int.not_lt.mpr hcapacity), Prog.sat_bind, Prog.sat_update]
  refine openStore_sat (I := fun _ => True) (E := fun _ _ => False) (fun _ _ => trivial) ?_ ?_ ?_ ?_
  · exact fun _ _ _ hdenied => hfree (hdenied hw hpath (by decide) (by decide))
  · intro _ _ _ _ hunread
    obtain ⟨i, hi, -⟩ := hunread hw
    cases hi.symm.trans hnone
  · intro w' _ _ hbecame
    have hserving : Serving s₀ ⟨⟨16 * 2 ^ 20, true, none⟩, s₀⟩ w' :=
      ⟨rfl, rfl, hbecame.ready hw⟩
    exact (hserving.persist_sat hwritable).mono (fun _ h => h) (fun _ _ _ h => h)
      fun _ _ _ h => h.elim
  · intro i _ _ hi
    cases hi.symm.trans hnone

end

end CyberiaVpn.Identity
