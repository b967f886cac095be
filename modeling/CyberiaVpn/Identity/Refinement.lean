import CyberiaVpn.Identity.FileStoreRuns

/-!
# The durable store refines the store in memory

`fileEnrollmentStore_refines` collects what follows for a whole run of
opens, calls, closes and crashes, with any system call failing: one run of
`EnrollmentStore` explains all the answers, a call that fails before its
rename changes nothing, a store whose directory sync failed refuses every
later call, and the path can always be opened again, at the replay or one
operation past it.
-/

namespace CyberiaVpn.Identity

open Control Data Effects Snapshot

section

variable {C : Crypto} {codec : JsonCodec EnrollmentSnapshot} {ttl capacity : Int}
  {s₀ : EnrollmentStore} {path : String} {s : FileEnrollmentStore} {w : Disk}

/-! ## Failed calls -/

theorem persist_failed (t : EnrollmentStore) :
    (FileEnrollmentStore.persist codec t).Sat (fun _ => True) (fun _ _ _ => True)
      (fun e s' w' => (∀ d, e ≠ .domain d) ∧
        (e = .file .uncertain → s'.file.failed = some .uncertain) ∧
        (e ≠ .file .uncertain → s' = s ∧ w'.slot = w.slot)) s w := by
  rw [FileEnrollmentStore.persist, Prog.sat_bind]
  refine sat_iterate (I := fun _ => True) fun ds w₁ _ h₁ => ⟨trivial, ?_⟩
  rw [Prog.sat_bind]
  refine sat_iterate (I := fun _ => True) fun cs w₂ _ h₂ => ⟨trivial, ?_⟩
  have h₂ := h₁.trans h₂
  rw [Prog.sat_bind]
  refine saveState_sat (I := fun _ => True) (fun _ _ => ?_) (fun _ _ _ _ => trivial) ?_ ?_
  · exact ⟨by rintro _ ⟨⟩, by rintro ⟨⟩, fun _ => ⟨rfl, h₂.slot⟩⟩
  · exact fun _ _ _ _ _ => Prog.sat_update.mpr trivial
  · intro data _ e f w' hnot
    refine ⟨by rintro _ ⟨⟩, fun he => ?_, fun he => ?_⟩
    · obtain rfl := FileEnrollmentError.file.inj he
      cases hnot with
      | unchanged same slot known => exact same ▸ known rfl
      | uncertain _ failed => exact failed ▸ rfl
    · cases hnot with
      | unchanged same slot => exact ⟨by rw [same]; rfl, slot.slot.trans h₂.slot⟩
      | uncertain error => exact absurd (congrArg FileEnrollmentError.file error) he

/-- How a call can fail for a reason of the file. -/
def Failed (s : FileEnrollmentStore) (w : Disk) (e : FileEnrollmentError)
    (s' : FileEnrollmentStore) (w' : Disk) : Prop :=
  (∀ d, e ≠ .domain d) → (e = .file .uncertain → s'.file.failed = some .uncertain) ∧
    (e ≠ .file .uncertain → s' = s ∧ w'.slot = w.slot)

theorem answer_failed {c : FileCall} (hc : c ≠ .close) :
    (FileEnrollmentStore.answer C codec c).Sat (fun _ => True) (fun _ _ _ => True)
      (fun e s' w' => Failed s w e s' w') s w := by
  have hcheck : ∀ {α : Type} {k : Unit → FileEnrollmentM α} {Q},
      (k ()).Sat (fun _ => True) Q (fun e s' w' => Failed s w e s' w') s w →
      ((onFile File.check).mapError .file >>= k).Sat (fun _ => True) Q
        (fun e s' w' => Failed s w e s' w') s w := by
    intro α k Q hk
    rw [Prog.sat_bind, Prog.sat_mapError]
    refine sat_check (I := fun _ => True) (fun _ => hk) fun e _ known _ => ⟨fun he => ?_, fun _ =>
      ⟨rfl, rfl⟩⟩
    exact known (FileEnrollmentError.file.inj he)
  have hpersist : ∀ {α : Type} {k : Unit → FileEnrollmentM α} {Q} {t : EnrollmentStore},
      (∀ s' w', (k ()).Sat (fun _ => True) Q (fun e s' w' => Failed s w e s' w') s' w') →
      (FileEnrollmentStore.persist codec t >>= k).Sat (fun _ => True) Q
        (fun e s' w' => Failed s w e s' w') s w := by
    intro α k Q t hk
    rw [Prog.sat_bind]
    exact (persist_failed t).mono (fun _ h => h) (fun _ s' w' _ => hk s' w') fun _ _ _ h _ => h.2
  cases c with
  | close => exact absurd rfl hc
  | issue accountID deviceID now random =>
      rw [FileEnrollmentStore.answer, Prog.sat_bind]
      refine hcheck ?_
      rw [Prog.sat_bind, Prog.sat_self]
      split
      · exact Prog.sat_fail.mpr fun hd => absurd rfl (hd _)
      · exact hpersist fun _ _ => Prog.sat_pure.mpr (Prog.sat_pure.mpr trivial)
  | enroll request now =>
      rw [FileEnrollmentStore.answer, Prog.sat_bind]
      refine hcheck ?_
      rw [Prog.sat_bind, Prog.sat_self]
      split
      · exact hpersist fun _ _ => Prog.sat_pure.mpr (Prog.sat_pure.mpr trivial)
      · have hdomain : ∀ e s' w', Failed s w (.domain e) s' w' := fun e _ _ hd => absurd rfl (hd e)
        split
        · exact hpersist fun _ _ => Prog.sat_fail.mpr (hdomain _ _ _)
        · exact Prog.sat_fail.mpr (hdomain _ _ _)
  | device accountID deviceID =>
      rw [FileEnrollmentStore.answer, Prog.sat_bind]
      refine hcheck ?_
      rw [Prog.sat_bind, Prog.sat_self, Prog.sat_liftExcept]
      cases s.current.device accountID deviceID with
      | error e => exact fun hd => absurd rfl (hd _)
      | ok device => exact Prog.sat_pure.mpr trivial

/-! ## An unusable store -/

/-- The store at `i` has failed. -/
def FailedAt (i : Nat) (f : Fleet FileEnrollmentStore Disk) : Prop :=
  ∃ s, f.handles[i]? = some s ∧ s.file.failed ≠ none

theorem answer_failed_stays (hs : s.file.failed ≠ none) (c : FileCall) :
    (FileEnrollmentStore.answer C codec c s w).self.file.failed ≠ none := by
  by_cases hc : c = .close
  · have hclose : (FileEnrollmentStore.answer C codec c).Sat (fun _ => True)
        (fun _ s' _ => s'.file.failed ≠ none) (fun _ s' _ => s'.file.failed ≠ none) s w := by
      rw [hc, FileEnrollmentStore.answer, Prog.sat_bind, FileEnrollmentStore.close,
        Prog.sat_mapError]
      exact (sat_close (I := fun _ => True) (Q := fun s' _ => s'.file.failed ≠ none) (fun _ => hs)
        fun _ _ _ => ⟨trivial, hs⟩).mono (fun _ h => h) (fun _ _ _ h => Prog.sat_pure.mpr h)
        fun _ _ _ h => h
    rcases hclose.result with ⟨_, -, h⟩ | ⟨_, -, h⟩ <;> exact h
  · have hrefuse : (FileEnrollmentStore.answer C codec c).Sat _ _ _ s w :=
      answer_unusable (I := fun _ => True) (fun husable => hs husable.2) hc
    obtain ⟨_, -, h, -⟩ := hrefuse.failed
    rw [h]
    exact hs

theorem step_failedAt {i : Nat} {f : Fleet FileEnrollmentStore Disk} (hf : FailedAt i f)
    (a : Action (TimelyCall ttl)) :
    FailedAt i ((fileEnrollmentStore C codec path ttl capacity).step (.act a) f).1 := by
  obtain ⟨s, hi, hs⟩ := hf
  have hlt := (List.getElem?_eq_some_iff.mp hi).1
  cases a with
  | start =>
      simp only [Durable.step]
      split
      · exact ⟨s, by rw [List.getElem?_append_left hlt]; exact hi, hs⟩
      · exact ⟨s, hi, hs⟩
  | call j c =>
      simp only [Durable.step]
      split
      · exact ⟨s, hi, hs⟩
      next t hj =>
      by_cases hij : j = i
      · subst hij
        obtain rfl := Option.some.inj (hi.symm.trans hj)
        exact ⟨_, List.getElem?_set_self hlt, answer_failed_stays hs c.call⟩
      · exact ⟨s, by rw [List.getElem?_set_ne hij]; exact hi, hs⟩

theorem run_failedAt {i : Nat} : ∀ (as : List (Action (TimelyCall ttl)))
    {f : Fleet FileEnrollmentStore Disk}, FailedAt i f →
    FailedAt i ((fileEnrollmentStore C codec path ttl capacity).run (as.map .act) f).1
  | [], _, hf => hf
  | a :: as, _, hf => run_failedAt as (step_failedAt hf a)

theorem FailedAt.refuses {i : Nat} {f : Fleet FileEnrollmentStore Disk} (hf : FailedAt i f)
    {c : TimelyCall ttl} (hc : c.call ≠ .close) :
    ∃ e, (fileEnrollmentStore C codec path ttl capacity).step (.act (.call i c)) f =
      (f, [.answered c (.error (.file e))]) := by
  obtain ⟨s, hi, hs⟩ := hf
  have hrefuse : (FileEnrollmentStore.answer C codec c.call).Sat _ _ _ s f.world :=
    answer_unusable (I := fun _ => True) (fun husable => hs husable.2) hc
  obtain ⟨_, hr, hself, hworld, e, rfl⟩ := hrefuse.failed
  refine ⟨e, ?_⟩
  have hset : f.handles.set i s = f.handles := by
    obtain ⟨hlt, rfl⟩ := List.getElem?_eq_some_iff.mp hi
    exact List.set_getElem_self hlt
  simp only [Durable.step, hi, fileEnrollmentStore, hr, hself, hworld, hset]

/-! ## What follows from one run -/

theorem events_eq_history : ∀ (ops : List Op) (s : EnrollmentStore),
    events C s ops = history (step C) s ops
  | [], _ => rfl
  | op :: ops, s => congrArg (List.cons _) (events_eq_history ops (step C s op).2)

end

/-! ## The whole run -/

/-- The answered calls whose effect is acknowledged. -/
def acknowledgements {ttl : Int} (reports : List (StoreReport ttl)) : List Event :=
  (reports.map seen).filterMap Seen.grant

/-- All the calls, in order. -/
def requests {ttl : Int} (reports : List (StoreReport ttl)) : List Op :=
  (reports.map seen).filterMap Seen.request

/-- **The durable store refines the store in memory.** From a disk without
a snapshot, whatever the events: one replay of `EnrollmentStore` explains
the reports, with nothing to a restart but the decision of what was in
doubt; a call that fails before its rename changes neither the store nor
the path; after a failed directory sync a store refuses every call until
another is opened; a reopen on a disk without faults succeeds, at the
replay or past the one operation in doubt. Hence no challenge is granted
twice and no acknowledged device is lost. -/
theorem fileEnrollmentStore_refines (C : Crypto) (codec : JsonCodec EnrollmentSnapshot)
    (hcodec : codec.RoundTrips Plain)
    (hempty : ∃ data, codec.marshal ⟨1, some [], some []⟩ = .ok data ∧
      (data.length : Int) ≤ 16 * 2 ^ 20)
    (path : String) (hpath : path ≠ "") (ttl capacity : Int) (s₀ : EnrollmentStore)
    (hnew : EnrollmentStore.new ttl capacity = .ok s₀) (hcapacity : capacity ≤ 10000) (disk : Disk)
    (hfresh : disk.slot.possible = [none]) (hsound : disk.Sound)
    (events : List (Effects.Event (TimelyCall ttl) (Option (Nat × Nat)))) :
    let D := fileEnrollmentStore C codec path ttl capacity
    let f := (D.run events ⟨disk, []⟩).1
    let reports := (D.run events ⟨disk, []⟩).2
    (∃ replay, Explained (step C) s₀ (reports.map seen) replay ∧
      (f.world.Calm → ¬f.world.Held → (D.start D.zero f.world).result = .ok () ∧
        ∃ ops, (ops = replay.ops ∨ ∃ op, replay.doubt = some op ∧ ops = replay.ops ++ [op]) ∧
          Same (D.start D.zero f.world).self.current (after C s₀ ops)) ∧
      ((drawn (requests reports)).Nodup →
        (∀ v ∈ drawn (requests reports), ∀ v' ∈ drawn (requests reports),
          C.sha256 v = C.sha256 v' → v = v') →
        (successes (acknowledgements reports)).Pairwise fun x y =>
          C.sha256 x.value ≠ C.sha256 y.value) ∧
      ∀ request now d, (Op.enroll request now, Except.ok (Answer.device d)) ∈
        acknowledgements reports → (after C s₀ replay.ops).devices.lookup d.deviceID = some d) ∧
    (∀ (i : Nat) s (c : TimelyCall ttl) e, f.handles[i]? = some s → c.call ≠ .close →
      (D.call c s f.world).result = .error e → (∀ d, e ≠ .domain d) → e ≠ .file .uncertain →
      (D.call c s f.world).self = s ∧ (D.call c s f.world).world.slot = f.world.slot) ∧
    ∀ (i : Nat) s (c : TimelyCall ttl) (later : List (Action (TimelyCall ttl))) (c' : TimelyCall ttl),
      f.handles[i]? = some s → c.call ≠ .close →
      (D.call c s f.world).result = .error (.file .uncertain) → c'.call ≠ .close →
      let f' := (D.run (.act (.call i c) :: later.map .act) f).1
      ∃ e, D.step (.act (.call i c')) f' = (f', [.answered c' (.error (.file e))]) := by
  intro D f reports
  have hstart : AtRest C codec s₀ ([] : List (StoreReport ttl)) disk := by
    refine ⟨⟨[], none⟩, .start, hsound, fun op hop => (List.not_mem_nil hop).elim, fun x hx => ?_⟩
    rw [hfresh] at hx
    exact Or.inl ⟨List.mem_singleton.mp hx, rfl⟩
  have hkeep : Exclusive D Holder Disk.Held (AtRest C codec s₀) (InUse C codec s₀) :=
    fileEnrollmentStore_exclusive hcodec hempty hnew hcapacity
  obtain ⟨⟨replay, hreplay, hrest⟩, -, -⟩ := hkeep.run disk hstart events
  have hgrants : (acknowledgements reports).Sublist (Identity.events C s₀ replay.ops) := by
    rw [events_eq_history]
    exact hreplay.acknowledged_sublist
  refine ⟨⟨replay, hreplay, fun hcalm hfree => ?_, fun hdistinct hsha => ?_, ?_⟩, ?_, ?_⟩
  · have hreopen : D.start.Sat _ _ _ D.zero f.world :=
      start_sat hcodec hempty hnew hcapacity hrest
    rcases hreopen.result with ⟨_, hok, ops, hops, hs⟩ | ⟨e, -, -, hbusy⟩
    · exact ⟨hok, ops, hops, hs.same⟩
    · exact absurd (hbusy ⟨hcalm, hrest.sound⟩ hpath) hfree
  · have hsub : (drawn replay.ops).Sublist (drawn (requests reports)) :=
      ((List.sublist_append_left _ _).trans hreplay.requested_sublist).filterMap _
    have hahead : Ahead C s₀ replay.ops := by
      refine ⟨(hdistinct.sublist hsub).imp_of_mem fun hv hv' hne heq => ?_, fun v _ => ?_⟩
      · exact hne (hsha _ (hsub.subset hv) _ (hsub.subset hv') heq)
      · rw [(new_eq_ok (C := C) hnew).1]
        exact AList.notMem_empty _
    exact (successes_pairwise replay.ops hahead).sublist (hgrants.filterMap _)
  · exact fun request now d hd => (enrolled_stays replay.ops (hgrants.subset hd)).2
  · intro i s c e _ hc he hdomain hknown
    have hfailed : (D.call c).Sat _ _ _ s f.world := answer_failed hc
    exact (hfailed.of_error he hdomain).2 hknown
  · intro i s c later c' hi hc he hc'
    have hfailed : (D.call c).Sat _ _ _ s f.world := answer_failed hc
    refine (run_failedAt later ?_).refuses hc'
    simp only [Durable.step, hi]
    refine ⟨_, List.getElem?_set_self (List.getElem?_eq_some_iff.mp hi).1, ?_⟩
    rw [(hfailed.of_error he (by rintro _ ⟨⟩)).1 rfl]
    rintro ⟨⟩

/-! ### An instance -/

def examplePending : ChallengeSnapshot where
  digest := (exampleCrypto.sha256 (List.replicate 32 1)).1
  accountID := ascii "account"
  deviceID := ascii "device"
  expiresAt := exampleTime 60

/-- The JSON of the snapshots the example goes through. -/
def exampleSnapshots : List (EnrollmentSnapshot × Text) :=
  [(⟨1, some [], some []⟩,
      ascii "\x7b\"schema\":1,\"devices\":[],\"challenges\":[]\x7d"),
    (⟨1, some [], some [examplePending]⟩,
      ascii "\x7b\"schema\":1,\"devices\":[],\"challenges\":[\x7b\"digest\":" ++
        ascii "\"cs1uhCLEB/ttCYaQ8RMLfe1+wvf14dML2dUh8BU2N5M=\",\"account_id\":\"account\"," ++
        ascii "\"device_id\":\"device\",\"expires_at\":\"2026-01-02T00:01:00Z\"\x7d]\x7d"),
    (⟨1, some [exampleDevice], some []⟩,
      ascii "\x7b\"schema\":1,\"devices\":[\x7b\"AccountID\":\"account\",\"DeviceID\":\"device\"," ++
        ascii "\"PublicKey\":\"O2onvM62pC1io6jQKm8Nc2UyFXcd4kOmOsBIoYtZ2ik=\",\"KeyID\":" ++
        ascii "\"139e3940e64b5491722088d9a0d741628fc826e09475d341a780acde3c4b8070\"\x7d]," ++
        ascii "\"challenges\":[]\x7d")]

def exampleFileCodec : JsonCodec EnrollmentSnapshot := .ofTable exampleSnapshots

def exampleIssue : TimelyCall (60 * 10 ^ 9) where
  call := .issue (ascii "account") (ascii "device") (exampleTime 0)
    (some (exampleNonce 1))
  timely := by
    intro op hop accountID deviceID now random hissue
    obtain rfl := Option.some.inj hop
    obtain ⟨-, -, rfl, -⟩ := Op.issue.inj hissue
    rfl

def exampleEnroll (now : Time) : TimelyCall (60 * 10 ^ 9) where
  call := .enroll exampleRequest now
  timely := by
    intro op hop accountID deviceID now' random hissue
    obtain rfl := Option.some.inj hop
    cases hissue

/-- A challenge is issued; a first enrollment is cut short by a crash that
undoes its rename; after a restart the challenge enrolls the device, and
is spent. -/
def exampleFileEvents : List (Effects.Event (TimelyCall (60 * 10 ^ 9)) (Option (Nat × Nat))) :=
  [.act .start, .act (.call 0 exampleIssue),
    .crash (.call 0 (exampleEnroll (exampleTime 10))) 8 (some (1, 0)),
    .act .start, .act (.call 0 (exampleEnroll (exampleTime 20))),
    .act (.call 0 (exampleEnroll (exampleTime 30)))]

def exampleFileRun : Fleet FileEnrollmentStore Disk × List (StoreReport (60 * 10 ^ 9)) :=
  (fileEnrollmentStore exampleCrypto exampleFileCodec "state.json" (60 * 10 ^ 9) 10).run
    exampleFileEvents ⟨emptyDisk, []⟩

def exampleAcknowledged : List Event :=
  [(.issue (ascii "account") (ascii "device") (exampleTime 0)
      (some (exampleNonce 1)),
    .ok (.challenge ⟨List.replicate 32 1, exampleTime 60⟩)),
  (.enroll exampleRequest (exampleTime 20), .ok (.device exampleDevice)),
  (.enroll exampleRequest (exampleTime 30), .error .deviceExists)]

theorem fileEnrollmentStore_refines_after_crash :
    acknowledgements exampleFileRun.2 = exampleAcknowledged ∧
      ∃ replay, Explained (step exampleCrypto) exampleStore (exampleFileRun.2.map seen) replay ∧
        (after exampleCrypto exampleStore replay.ops).devices.lookup exampleDevice.deviceID =
          some exampleDevice := by
  have hrun : acknowledgements exampleFileRun.2 = exampleAcknowledged := by decide +kernel
  obtain ⟨⟨replay, hreplay, -, -, hdevices⟩, -, -⟩ :=
    fileEnrollmentStore_refines exampleCrypto exampleFileCodec
      (JsonCodec.ofTable_roundTrips (by decide +kernel) _)
      ⟨_, rfl, by decide⟩ "state.json" (by decide)
      (60 * 10 ^ 9) 10 exampleStore rfl (by decide) emptyDisk rfl ⟨nofun, nofun⟩ exampleFileEvents
  refine ⟨hrun, replay, hreplay, hdevices exampleRequest (exampleTime 20) _ ?_⟩
  exact hrun ▸ List.mem_cons_of_mem _ (List.mem_cons_self ..)

end CyberiaVpn.Identity
