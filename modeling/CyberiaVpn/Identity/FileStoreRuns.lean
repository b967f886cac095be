import CyberiaVpn.Effects.Replay
import CyberiaVpn.Identity.Persistence

/-!
# Runs of the durable enrollment store

Processes open the store, call it, close it and crash, at any point and
with any system call failing. `seen` is what this looks like from outside
and `EnrollmentStore` the machine that explains it: the invariant `AtRest`
says that there is a replay of that machine such that whatever the path
may hold is the state after it, or after it and the one operation in
doubt. A store in use (`InUse`) is that state, and nothing is in doubt.

As in `snapshot.File.Write`, the operation in doubt is one whose write got
as far as the rename.
-/

namespace CyberiaVpn.Identity

open Control Data Effects Snapshot

/-! ## The component -/

/-- A call that issues no challenge with the zero time as its expiry. -/
structure TimelyCall (ttl : Int) where
  call : FileCall
  timely : ∀ op, call.op = some op → NonzeroExpiry ttl op

/-- Whatever a successful open read is durable from then on. -/
def fileEnrollmentStore (C : Crypto) (codec : JsonCodec EnrollmentSnapshot) (path : String)
    (ttl capacity : Int) :
    Durable FileEnrollmentStore Disk Call FileEnrollmentError (TimelyCall ttl) FileAnswer
      (Option (Nat × Nat)) where
  zero := ⟨File.zero, ⟨∅, 0, 0, ∅⟩⟩
  start := do
    FileEnrollmentStore.openFileEnrollmentStore C codec path ttl capacity
    settle
  call c := FileEnrollmentStore.answer C codec c.call
  crash := Disk.crash

abbrev StoreReport (ttl : Int) := Report FileEnrollmentError (TimelyCall ttl) FileAnswer

/-- Of the answered calls only a refused `Issue` never has an effect: the
copy it was made on is dropped. -/
def Op.answered (op : Op) (r : Except EnrollmentError Answer) :
    Seen Op (Except EnrollmentError Answer) :=
  match op, r with
  | .issue .., .error _ => .answered op r
  | _, _ => .acknowledged op r

def seenAnswer : Option Op → Except FileEnrollmentError FileAnswer →
    Seen Op (Except EnrollmentError Answer)
  | some op, .ok (.answer a) => op.answered (.ok a)
  | some op, .error (.domain e) => op.answered (.error e)
  | some op, .error (.file .uncertain) => .doubtful op
  | _, _ => .nothing

def seen {ttl : Int} : StoreReport ttl → Seen Op (Except EnrollmentError Answer)
  | .started (.ok _) => .restarted
  | .started (.error _) => .nothing
  | .answered c r => seenAnswer c.call.op r
  | .cut c => ((c.bind (·.call.op)).map .doubtful).getD .nothing

/-! ## Texts of a snapshot -/

/-- The texts of a snapshot are made of slugs' characters. -/
structure Plain (state : EnrollmentSnapshot) : Prop where
  devices : ∀ ds, state.devices = some ds → ∀ d ∈ ds,
    ∀ b ∈ d.accountID ++ d.deviceID ++ d.keyID, identifierByte b = true
  challenges : ∀ cs, state.challenges = some cs → ∀ c ∈ cs,
    ∀ b ∈ c.accountID ++ c.deviceID, identifierByte b = true

theorem Image.plain {C : Crypto} {state : EnrollmentSnapshot} {s : EnrollmentStore}
    (himage : Image state s) (hs : Admissible C s) : Plain state := by
  obtain ⟨ds, cs, hds, hcs, rfl⟩ := himage
  refine ⟨?_, ?_⟩
  · rintro _ ⟨⟩ d hd b hb
    obtain ⟨⟨id, d⟩, he, rfl⟩ := List.mem_map.mp hd
    obtain ⟨-, hgood⟩ := hs.devices id d (AList.mem_lookup_iff.mpr (hds.subset he))
    simp only [List.mem_append] at hb
    rcases hb with (hb | hb) | hb
    · exact validIdentifier_bytes hgood.account b hb
    · exact validIdentifier_bytes hgood.device b hb
    · rw [hgood.keyID] at hb
      exact encodeToString_bytes b hb
  · rintro _ ⟨⟩ c hc b hb
    obtain ⟨⟨δ, p⟩, he, rfl⟩ := List.mem_map.mp hc
    have hgood := hs.challenges δ p (AList.mem_lookup_iff.mpr (hcs.subset he))
    rcases List.mem_append.mp hb with hb | hb
    · exact validIdentifier_bytes hgood.account b hb
    · exact validIdentifier_bytes hgood.device b hb

theorem Image.same {state : EnrollmentSnapshot} {s t : EnrollmentStore} (himage : Image state s)
    (h : Same s t) : Image state t := by
  obtain ⟨ds, cs, hds, hcs, hstate⟩ := himage
  exact ⟨ds, cs, hds.trans h.devices, hcs.trans h.challenges, hstate⟩

/-! ## What the path holds -/

section

variable (C : Crypto) (codec : JsonCodec EnrollmentSnapshot) (s₀ : EnrollmentStore)

/-- A snapshot of this store that a process can read back. -/
def Holds (s : EnrollmentStore) (x : Option Inode) : Prop :=
  ∃ i state, x = some i ∧ i.synced = true ∧ i.info.isPrivate .regular = true ∧
    (i.content.length : Int) ≤ 16 * 2 ^ 20 ∧ codec.decode i.content = .ok state ∧ Image state s

/-- The operations a replay may stand for. -/
def Candidate (replay : Replay Op) (ops : List Op) : Prop :=
  ops = replay.ops ∨ ∃ op, replay.doubt = some op ∧ ops = replay.ops ++ [op]

def Fits (replay : Replay Op) (x : Option Inode) : Prop :=
  (x = none ∧ replay = ⟨[], none⟩) ∨
    ∃ ops, Candidate replay ops ∧ Holds codec (after C s₀ ops) x

/-- On the way to a snapshot of `t`: nothing else gets to the path. -/
structure Toward (t : EnrollmentStore) (w w' : Disk) : Prop where
  noWorse : NoWorse w w'
  locked : w'.slot.locked = w.slot.locked
  all : ∀ {P : Option Inode → Prop}, w.All P → (∀ x, Holds codec t x → P x) → w'.All P

end

section

variable {C : Crypto} {codec : JsonCodec EnrollmentSnapshot} {s₀ s t : EnrollmentStore} {w w' : Disk}

theorem Holds.same {x : Option Inode} (hx : Holds codec s x) (h : Same s t) : Holds codec t x := by
  obtain ⟨i, state, hi, hsynced, hprivate, hlength, hdecode, himage⟩ := hx
  exact ⟨i, state, hi, hsynced, hprivate, hlength, hdecode, himage.same h⟩

theorem Fits.synced {replay : Replay Op} {i : Inode} (h : Fits C codec s₀ replay (some i)) :
    i.synced = true := by
  rcases h with ⟨hnone, -⟩ | ⟨ops, -, j, state, hi, hsynced, -⟩
  · cases hnone
  · obtain rfl := Option.some.inj hi
    exact hsynced

theorem later_toward (h : Later w w') : Toward codec t w w' :=
  ⟨h.noWorse, by rw [h.slot], fun hw _ => h.all hw⟩

theorem writing_toward {data : Text} {file : File}
    (hdata : data.length ≤ file.limit → Holds codec t (some (saved data)))
    (h : File.Writing data file w w') : Toward codec t w w' := by
  rcases h with h | ⟨hfits, h⟩
  · exact later_toward h
  refine ⟨?_, ?_, fun hw hP => Slot.All.passes hw (hP _ (hdata hfits)) h⟩
  · rcases h with h | h | h <;> exact h.noWorse
  · rcases h with h | h | h <;> rw [h.slot] <;> rfl

theorem Toward.trans_later {w'' : Disk} (h : Later w w') (h' : Toward codec t w' w'') :
    Toward codec t w w'' :=
  ⟨h.noWorse.trans h'.noWorse, by rw [h'.locked, h.slot], fun hw hP => h'.all (h.all hw) hP⟩

end

/-! ## Persisting -/

/-- A write of `t` that was not acknowledged. On a ready disk it was
refused: the state does not marshal, or is too large. -/
inductive Unsaved (codec : JsonCodec EnrollmentSnapshot) (t : EnrollmentStore)
    (s : FileEnrollmentStore) (w : Disk) (e : FileEnrollmentError) (s' : FileEnrollmentStore)
    (w' : Disk) : Prop where
  | unchanged (same : s' = s) (later : Later w w') (known : e ≠ .file .uncertain)
      (outside : ∀ d, e ≠ .domain d)
      (refused : w.Ready → ∃ state, Image state t ∧
        ∀ data, codec.marshal state = .ok data → 16 * 2 ^ 20 < (data.length : Int))
  | uncertain (error : e = .file .uncertain)
      (failed : s' = { s with file := { s.file with failed := some .uncertain } })
      (fault : ¬w.Ready) (toward : Toward codec t w w')

section

variable {C : Crypto} {codec : JsonCodec EnrollmentSnapshot} {t : EnrollmentStore}
  {s : FileEnrollmentStore} {w : Disk}

theorem persist_sat (hcodec : codec.RoundTrips Plain) (ht : Admissible C t)
    (hlimit : s.file.limit = 16 * 2 ^ 20) (hs : s.file.Usable) :
    (FileEnrollmentStore.persist codec t).Sat (fun e => Toward codec t w e.post)
      (fun _ s' w' => s' = { s with current := t } ∧ Toward codec t w w' ∧
        w'.All (Holds codec t))
      (fun e s' w' => Unsaved codec t s w e s' w') s w := by
  rw [FileEnrollmentStore.persist, Prog.sat_bind]
  refine sat_iterate fun ds w₁ hds h₁ => ⟨later_toward h₁, ?_⟩
  rw [Prog.sat_bind]
  refine sat_iterate fun cs w₂ hcs h₂ => ?_
  have h₂ := h₁.trans h₂
  refine ⟨later_toward h₂, ?_⟩
  have himage : Image ⟨1, some (ds.map Sigma.snd),
      some (cs.map FileEnrollmentStore.challengeSnapshot)⟩ t := ⟨ds, cs, hds, hcs, rfl⟩
  have hsaved : ∀ data, codec.marshal ⟨1, some (ds.map Sigma.snd),
      some (cs.map FileEnrollmentStore.challengeSnapshot)⟩ = .ok data →
      data.length ≤ s.file.limit → Holds codec t (some (saved data)) := by
    intro data hdata hfits
    rw [hlimit] at hfits
    refine ⟨saved data, _, rfl, rfl, saved_isPrivate data, hfits, ?_, himage⟩
    exact hcodec _ data (himage.plain ht) hdata
  rw [Prog.sat_bind]
  refine saveState_sat ?_ ?_ ?_ ?_
  · intro r hr
    refine .unchanged rfl h₂ (by rintro ⟨⟩) (by rintro _ ⟨⟩) fun _ =>
      ⟨_, himage, fun data hdata => ?_⟩
    rw [hr] at hdata
    cases hdata
  · intro data hdata w' hw'
    exact (writing_toward (hsaved data hdata) hw').trans_later h₂
  · intro data hdata f w' hdone
    obtain rfl := hdone.same
    refine Prog.sat_update.mpr ⟨rfl, ?_, ?_⟩
    · exact (writing_toward (hsaved data hdata)
        (Or.inr ⟨hdone.fits, Or.inr (Or.inr hdone.slot)⟩)).trans_later h₂
    · rw [Disk.All, hdone.slot.slot]
      exact Slot.All.committed (hsaved data hdata hdone.fits)
  · intro data hdata e f w' hnot
    cases hnot with
    | unchanged same slot known refused =>
        subst same
        refine .unchanged rfl (h₂.trans slot) ?_ (by rintro _ ⟨⟩) fun hw =>
          ⟨_, himage, fun data' hdata' => ?_⟩
        · rintro ⟨⟩
          exact absurd (hs.2.symm.trans (known rfl)) (by rintro ⟨⟩)
        · obtain rfl := Except.ok.inj (hdata.symm.trans hdata')
          rw [← hlimit]
          exact refused hs (h₂.ready hw)
    | uncertain error failed _ fits fault slot =>
        subst error failed
        refine .uncertain rfl rfl (fun hw => fault (h₂.ready hw)) ?_
        exact (writing_toward (hsaved data hdata)
          (Or.inr ⟨fits, Or.inr (Or.inl slot)⟩)).trans_later h₂

end

/-! ## The invariant -/

section

variable (C : Crypto) (codec : JsonCodec EnrollmentSnapshot) (s₀ : EnrollmentStore) {ttl : Int}

structure Resting (replay : Replay Op) (w : Disk) : Prop where
  sound : w.Sound
  timely : ∀ op ∈ replay.ops ++ replay.doubt.toList, NonzeroExpiry s₀.ttl op
  fits : w.All (Fits C codec s₀ replay)

/-- What was seen so far has a replay that the path bears out. -/
def AtRest (h : List (StoreReport ttl)) (w : Disk) : Prop :=
  ∃ replay, Explained (step C) s₀ (h.map seen) replay ∧ Resting C codec s₀ replay w

/-- A usable store is where its replay ends, and so is the path. -/
structure InUse (h : List (StoreReport ttl)) (s : FileEnrollmentStore) (w : Disk) : Prop where
  limit : s.file.limit = 16 * 2 ^ 20
  current : s.file.Usable → ∃ ops, Explained (step C) s₀ (h.map seen) ⟨ops, none⟩ ∧
    (∀ op ∈ ops, NonzeroExpiry s₀.ttl op) ∧ Same s.current (after C s₀ ops) ∧
    w.All (Holds codec (after C s₀ ops))

end

section

variable {C : Crypto} {codec : JsonCodec EnrollmentSnapshot} {ttl capacity : Int}
  {s₀ : EnrollmentStore} {path : String} {replay : Replay Op} {ops : List Op} {op : Op}
  {h : List (StoreReport ttl)} {r : StoreReport ttl} {s : FileEnrollmentStore} {w w' : Disk}

/-- A timely run keeps the store admissible, and its settings. -/
theorem admissible_after : ∀ (ops : List Op) {s : EnrollmentStore}, Admissible C s →
    (∀ op ∈ ops, NonzeroExpiry s.ttl op) → Admissible C (after C s ops) ∧
      (after C s ops).ttl = s.ttl ∧ (after C s ops).capacity = s.capacity
  | [], _, hs, _ => ⟨hs, rfl, rfl⟩
  | op :: ops, s, hs, hops => by
      obtain ⟨hstep, httl, hcapacity⟩ := hs.step (hops op (List.mem_cons_self ..))
      obtain ⟨hrun, httl', hcapacity'⟩ := admissible_after ops hstep fun op' hop' =>
        httl ▸ hops op' (List.mem_cons_of_mem _ hop')
      exact ⟨hrun, httl'.trans httl, hcapacity'.trans hcapacity⟩

/-- A report of something that had no effect. -/
def Inert (r : StoreReport ttl) : Prop := seen r = .nothing ∨ ∃ op, seen r = .doubtful op

theorem Inert.explained (hr : Inert r) (hreplay : Explained (step C) s₀ (h.map seen) replay) :
    Explained (step C) s₀ ((h ++ [r]).map seen) replay := by
  rw [List.map_append, List.map_singleton]
  rcases hr with hr | ⟨op, hr⟩ <;> rw [hr]
  · exact .nothing hreplay
  · exact .denied hreplay

theorem inert_started (e : FileEnrollmentError) : Inert (.started (.error e) : StoreReport ttl) :=
  Or.inl rfl

theorem inert_cut (c : Option (TimelyCall ttl)) : Inert (.cut c : StoreReport ttl) := by
  rw [Inert, seen]
  cases c.bind (·.call.op) with
  | none => exact Or.inl rfl
  | some op => exact Or.inr ⟨op, rfl⟩

/-- A call that failed for a reason of the file has had no effect, as far
as the reports tell. -/
theorem inert_error (c : TimelyCall ttl) {e : FileEnrollmentError} (he : ∀ d, e ≠ .domain d) :
    Inert (.answered c (.error e) : StoreReport ttl) := by
  simp only [Inert, seen]
  cases c.call.op with
  | none => exact Or.inl rfl
  | some op =>
      cases e with
      | domain d => exact absurd rfl (he d)
      | file e =>
          cases e with
          | uncertain => exact Or.inr ⟨op, rfl⟩
          | _ => exact Or.inl rfl
      | _ => exact Or.inl rfl

theorem inert_close {c : TimelyCall ttl} (hc : c.call = .close)
    (r : Except FileEnrollmentError FileAnswer) : Inert (.answered c r : StoreReport ttl) := by
  rw [Inert, seen, hc]
  exact Or.inl rfl

theorem Resting.crash (hw : Resting C codec s₀ replay w) (x : Option (Nat × Nat)) :
    Resting C codec s₀ replay (w.crash x) := by
  refine ⟨?_, hw.timely, Slot.All.crash hw.fits (fun _ => Fits.synced) x⟩
  cases x <;> exact ⟨hw.sound.directory, hw.sound.lockFile⟩

theorem Resting.later (hw : Resting C codec s₀ replay w) (hl : Later w w') :
    Resting C codec s₀ replay w' :=
  ⟨hl.noWorse.sound hw.sound, hw.timely, hl.all hw.fits⟩

theorem Resting.relock (hw : Resting C codec s₀ replay w) {b : Bool} {w₀ : Disk}
    (hb : Became { w.slot with locked := b } w₀ w') (hsound : w'.Sound) :
    Resting C codec s₀ replay w' :=
  ⟨hsound, hw.timely, hb.all hw.fits⟩

theorem AtRest.append (hw : AtRest C codec s₀ h w) (hr : Inert r) (hl : Later w w') :
    AtRest C codec s₀ (h ++ [r]) w' := by
  obtain ⟨replay, hreplay, hrest⟩ := hw
  exact ⟨replay, hr.explained hreplay, hrest.later hl⟩

theorem InUse.append (hs : InUse C codec s₀ h s w) (hr : Inert r) (hl : Later w w') :
    InUse C codec s₀ (h ++ [r]) s w' := by
  refine ⟨hs.limit, fun husable => ?_⟩
  obtain ⟨ops, hops, htimely, hsame, hall⟩ := hs.current husable
  exact ⟨ops, hr.explained hops, htimely, hsame, hl.all hall⟩

theorem unmoved_of_later (hr : Inert r) (hl : Later w w') :
    Unmoved Disk.Held (AtRest C codec s₀) (InUse C codec s₀) h (h ++ [r]) w w' := by
  refine ⟨fun hheld => ?_, fun hw => hw.append hr hl, fun s hs => hs.append hr hl⟩
  rw [Disk.Held, hl.slot]
  exact hheld

/-- Where a replay that explains the cut is borne out, so it is after the
crash. -/
theorem Resting.survives {c : Option (TimelyCall ttl)}
    (hreplay : Explained (step C) s₀ ((h ++ [(.cut c : StoreReport ttl)]).map seen) replay)
    (hw : Resting C codec s₀ replay w) :
    Survives (fileEnrollmentStore C codec path ttl capacity) (AtRest C codec s₀) h c w :=
  fun x => ⟨replay, hreplay, hw.crash x⟩

/-! ## Opening -/

theorem new_eq_ok (hnew : EnrollmentStore.new ttl capacity = .ok s₀) :
    s₀ = ⟨∅, ttl, capacity, ∅⟩ ∧ Admissible C s₀ := by
  rw [EnrollmentStore.new] at hnew
  split at hnew
  · cases hnew
  next hargs =>
  obtain rfl := Except.ok.inj hnew
  have hcapacity : (0 : Int) ≤ capacity := by omega
  refine ⟨rfl, fun id d hd => ?_, fun δ p hp => ?_, hcapacity, hcapacity⟩
  · cases hd
  · cases hp

/-- The candidates of a replay are admissible. -/
theorem Resting.admissible (hnew : EnrollmentStore.new ttl capacity = .ok s₀)
    (hw : Resting C codec s₀ replay w) (hops : Candidate replay ops) :
    Admissible C (after C s₀ ops) ∧ (after C s₀ ops).ttl = s₀.ttl ∧
      (after C s₀ ops).capacity = s₀.capacity := by
  refine admissible_after ops (new_eq_ok hnew).2 fun op hop => hw.timely op ?_
  rcases hops with rfl | ⟨op', hdoubt, rfl⟩
  · exact List.mem_append_left _ hop
  · rwa [hdoubt]

/-- The store is at a candidate of the replay, and so is what the path
names. -/
def Reopened (C : Crypto) (codec : JsonCodec EnrollmentSnapshot) (s₀ : EnrollmentStore)
    (replay : Replay Op) (s : FileEnrollmentStore) (w : Disk) : Prop :=
  ∃ ops, Candidate replay ops ∧ Same s.current (after C s₀ ops) ∧
    Holds codec (after C s₀ ops) w.slot.target

theorem restore_sat (hnew : EnrollmentStore.new ttl capacity = .ok s₀) {i : Inode}
    (hs : s.current = s₀) (hw : Resting C codec s₀ replay w) (hi : w.slot.target = some i)
    {I : Disk → Prop} :
    (FileEnrollmentStore.restore C codec i.content).Sat (fun e => I e.post)
      (fun _ s' w' => s'.file = s.file ∧ w' = w ∧ Reopened C codec s₀ replay s' w')
      (fun _ _ _ => False) s w := by
  have htarget := Slot.All.target hw.fits
  rw [hi] at htarget
  rcases htarget with ⟨hnone, -⟩ | ⟨ops, hops, hholds⟩
  · cases hnone
  have hheld := hholds
  obtain ⟨j, state, hj, -, -, -, hdecode, himage⟩ := hholds
  obtain rfl := Option.some.inj hj
  obtain ⟨hadmissible, httl, hcapacity⟩ := hw.admissible hnew hops
  have hcurrent : s.current = ⟨∅, (after C s₀ ops).ttl, (after C s₀ ops).capacity, ∅⟩ := by
    rw [hs, httl, hcapacity, (new_eq_ok (C := C) hnew).1]
  obtain ⟨t, ht, hsame⟩ := restored_image hadmissible himage hcurrent
  simp only [FileEnrollmentStore.restore, Prog.sat_bind, Prog.sat_self, Prog.sat_liftExcept,
    hdecode, Prog.sat_update]
  simp only [Except.mapError, ht]
  exact ⟨trivial, trivial, ops, hops, hsame, hi ▸ hheld⟩

theorem Resting.toward {t : EnrollmentStore} (hw : Resting C codec s₀ replay w)
    (ht : ∀ x, Holds codec t x → Fits C codec s₀ replay x) (h : Toward codec t w w') :
    Resting C codec s₀ replay w' :=
  ⟨h.noWorse.sound hw.sound, hw.timely, h.all hw.fits ht⟩

theorem image_empty {state : EnrollmentSnapshot} (himage : Image state ⟨∅, ttl, capacity, ∅⟩) :
    state = ⟨1, some [], some []⟩ := by
  obtain ⟨ds, cs, hds, hcs, rfl⟩ := himage
  obtain rfl := List.perm_nil.mp hds
  obtain rfl := List.perm_nil.mp hcs
  rfl

/-- The first snapshot, on a path that names nothing; `w₀` is the disk the
open began with. -/
theorem create_sat (hcodec : codec.RoundTrips Plain)
    (hempty : ∃ data, codec.marshal ⟨1, some [], some []⟩ = .ok data ∧
      (data.length : Int) ≤ 16 * 2 ^ 20)
    (hnew : EnrollmentStore.new ttl capacity = .ok s₀) (hw : Resting C codec s₀ ⟨[], none⟩ w)
    (hheld : w.Held) {w₀ : Disk} (hw₀ : w₀.Ready → w.Ready) :
    (FileEnrollmentStore.persist codec s₀).Sat (fun e => Resting C codec s₀ ⟨[], none⟩ e.post)
      (fun _ s' w' => s'.file = ⟨16 * 2 ^ 20, true, none⟩ ∧ w'.Held ∧
        Resting C codec s₀ ⟨[], none⟩ w' ∧ Reopened C codec s₀ ⟨[], none⟩ s' w')
      (fun _ s' w' => s'.file.lock = true ∧ ∀ w'', Became { w'.slot with locked := false } w' w'' →
        Resting C codec s₀ ⟨[], none⟩ w'' ∧ Resting C codec s₀ ⟨[], none⟩ w'' ∧
          (w₀.Ready → path ≠ "" → w₀.Held))
      ⟨⟨16 * 2 ^ 20, true, none⟩, s₀⟩ w := by
  obtain ⟨rfl, hadmissible⟩ := new_eq_ok (C := C) hnew
  have hfits : ∀ x, Holds codec ⟨∅, ttl, capacity, ∅⟩ x →
      Fits C codec ⟨∅, ttl, capacity, ∅⟩ ⟨[], none⟩ x := fun x hx =>
    Or.inr ⟨[], Or.inl rfl, hx⟩
  have hclosed : ∀ {w' w'' : Disk}, Resting C codec ⟨∅, ttl, capacity, ∅⟩ ⟨[], none⟩ w' →
      Became { w'.slot with locked := false } w' w'' →
      Resting C codec ⟨∅, ttl, capacity, ∅⟩ ⟨[], none⟩ w'' := fun hw' hb =>
    hw'.relock hb (hb.noWorse.sound hw'.sound)
  refine (persist_sat hcodec hadmissible rfl ⟨rfl, rfl⟩).mono (fun e h => hw.toward hfits h) ?_ ?_
  · rintro _ _ w' ⟨rfl, htoward, hall⟩
    refine ⟨rfl, ?_, hw.toward hfits htoward, [], Or.inl rfl, Same.refl _, Slot.All.target hall⟩
    rw [Disk.Held, htoward.locked]
    exact hheld
  · intro e s' w' hnot
    cases hnot with
    | unchanged same later _ _ refused =>
        subst same
        refine ⟨rfl, fun w'' hb => ?_⟩
        have hrest := hclosed (hw.later later) hb
        refine ⟨hrest, hrest, fun hready _ => ?_⟩
        obtain ⟨state, himage, hlarge⟩ := refused (hw₀ hready)
        obtain rfl := image_empty himage
        obtain ⟨data, hdata, hsmall⟩ := hempty
        exact absurd (hlarge data hdata) (Int.not_lt.mpr hsmall)
    | uncertain _ failed fault toward =>
        subst failed
        refine ⟨rfl, fun w'' hb => ?_⟩
        have hrest := hclosed (hw.toward hfits toward) hb
        exact ⟨hrest, hrest, fun hready => absurd (hw₀ hready) fault⟩

/-- Opening an unlocked path. Nothing is lost by it, and on a ready disk it
succeeds. -/
theorem openFileEnrollmentStore_sat (hcodec : codec.RoundTrips Plain)
    (hempty : ∃ data, codec.marshal ⟨1, some [], some []⟩ = .ok data ∧
      (data.length : Int) ≤ 16 * 2 ^ 20)
    (hnew : EnrollmentStore.new ttl capacity = .ok s₀) (hcapacity : capacity ≤ 10000)
    (hw : Resting C codec s₀ replay w) :
    (FileEnrollmentStore.openFileEnrollmentStore C codec path ttl capacity).Sat
      (fun e => Resting C codec s₀ replay e.post)
      (fun _ s' w' => s'.file = ⟨16 * 2 ^ 20, true, none⟩ ∧ w'.Held ∧
        Resting C codec s₀ replay w' ∧ Reopened C codec s₀ replay s' w')
      (fun _ _ w' => Resting C codec s₀ replay w' ∧ (w.Ready → path ≠ "" → w.Held)) s w := by
  have hbecame : ∀ {b : Bool} {w₀ w₁ : Disk}, Became { w.slot with locked := b } w₀ w₁ →
      NoWorse w w₁ → Resting C codec s₀ replay w₁ := fun hb hworse =>
    hw.relock hb (hworse.sound hw.sound)
  rw [FileEnrollmentStore.openFileEnrollmentStore, Prog.sat_bind, Prog.sat_liftExcept, hnew]
  simp only [Except.mapError, if_neg (Int.not_lt.mpr hcapacity), Prog.sat_bind, Prog.sat_update]
  refine openStore_sat ?_ ?_ ?_ ?_ ?_
  · rintro w' (hl | ⟨-, hb⟩)
    · exact hw.later hl
    · exact hbecame hb hb.noWorse
  · intro e w' hl hready
    refine ⟨hw.later hl, fun hw' hpath => hready hw' hpath (by decide) (by decide)⟩
  · intro e w' hfree hl hready
    refine ⟨hw.later hl, fun hw' _ => ?_⟩
    obtain ⟨i, hi, hbad⟩ := hready hw'
    have htarget := Slot.All.target hw.fits
    rw [hi] at htarget
    rcases htarget with ⟨hnone, -⟩ | ⟨ops, -, j, state, hj, -, hprivate, hlength, -⟩
    · cases hnone
    · obtain rfl := Option.some.inj hj
      rw [hprivate] at hbad
      rcases hbad with hbad | hbad
      · cases hbad
      · omega
  · intro w₁ hfree hnone h₁
    have hrest := hbecame h₁ h₁.noWorse
    have htarget := Slot.All.target hw.fits
    rw [hnone] at htarget
    obtain rfl : replay = ⟨[], none⟩ := by
      rcases htarget with ⟨-, hreplay⟩ | ⟨ops, -, i, state, hi, -⟩
      · exact hreplay
      · cases hi
    exact create_sat hcodec hempty hnew hrest (by rw [Disk.Held, h₁.slot]) h₁.ready
  · intro i w₁ hfree hi _ _ h₁
    have hrest := hbecame h₁ h₁.noWorse
    have htarget : w₁.slot.target = some i := by rw [h₁.slot]; exact hi
    refine (restore_sat hnew rfl hrest htarget).mono (fun _ h => h) ?_ fun _ _ _ hfalse =>
      hfalse.elim
    rintro _ s' _ ⟨hfile, rfl, hreopened⟩
    exact ⟨hfile, by rw [Disk.Held, h₁.slot], hrest, hreopened⟩

/-! ## Calls -/

/-- The obligations after a call. -/
def Kept (C : Crypto) (codec : JsonCodec EnrollmentSnapshot) (s₀ : EnrollmentStore)
    (h : List (StoreReport ttl)) (s : FileEnrollmentStore) (w : Disk) : Prop :=
  AtRest C codec s₀ h w ∧ (Holder s → w.Held ∧ InUse C codec s₀ h s w)

/-- A store in use, with nothing in doubt. -/
structure Settled (C : Crypto) (codec : JsonCodec EnrollmentSnapshot) (s₀ : EnrollmentStore)
    (ops : List Op) (s : FileEnrollmentStore) (w : Disk) : Prop where
  limit : s.file.limit = 16 * 2 ^ 20
  usable : s.file.Usable
  timely : ∀ op ∈ ops, NonzeroExpiry s₀.ttl op
  same : Same s.current (after C s₀ ops)
  held : w.Held
  sound : w.Sound
  holds : w.All (Holds codec (after C s₀ ops))

theorem Settled.resting (hs : Settled C codec s₀ ops s w) : Resting C codec s₀ ⟨ops, none⟩ w :=
  ⟨hs.sound, by simpa using hs.timely, fun x hx => Or.inr ⟨ops, Or.inl rfl, hs.holds x hx⟩⟩

theorem Settled.kept (hs : Settled C codec s₀ ops s w)
    (hops : Explained (step C) s₀ (h.map seen) ⟨ops, none⟩) : Kept C codec s₀ h s w :=
  ⟨⟨_, hops, hs.resting⟩, fun _ => ⟨hs.held, hs.limit, fun _ =>
    ⟨ops, hops, hs.timely, hs.same, hs.holds⟩⟩⟩

theorem Settled.later (hs : Settled C codec s₀ ops s w) (hl : Later w w') :
    Settled C codec s₀ ops s w' :=
  { hs with
    held := by rw [Disk.Held, hl.slot]; exact hs.held
    sound := hl.noWorse.sound hs.sound
    holds := hl.all hs.holds }

/-- With one more operation in doubt. -/
theorem Settled.doubtful (hs : Settled C codec s₀ ops s w) (hop : NonzeroExpiry s₀.ttl op)
    {t : EnrollmentStore} (ht : Same t (after C s₀ (ops ++ [op]))) (hw : Toward codec t w w') :
    Resting C codec s₀ ⟨ops, some op⟩ w' := by
  refine ⟨hw.noWorse.sound hs.sound, ?_, hw.all ?_ ?_⟩
  · intro op' hop'
    rcases List.mem_append.mp hop' with hop' | hop'
    · exact hs.timely op' hop'
    · obtain rfl := List.mem_singleton.mp hop'
      exact hop
  · exact fun x hx => Or.inr ⟨ops, Or.inl rfl, hs.holds x hx⟩
  · exact fun x hx => Or.inr ⟨ops ++ [op], Or.inr ⟨op, rfl, rfl⟩, hx.same ht⟩

/-- A persist within a call: the store gets to the operation's result, or
the call fails without effect, or the operation is in doubt and the store
unusable. -/
theorem Settled.persist_sat (hcodec : codec.RoundTrips Plain) (hadmissible : Admissible C s₀)
    (hs : Settled C codec s₀ ops s w) (hops : Explained (step C) s₀ (h.map seen) ⟨ops, none⟩)
    {c : TimelyCall ttl} (hcall : c.call.op = some op) (hop : NonzeroExpiry s₀.ttl op)
    {t : EnrollmentStore} (ht : Same t (after C s₀ (ops ++ [op]))) :
    (FileEnrollmentStore.persist codec t).Sat
      (fun e => Survives (fileEnrollmentStore C codec path ttl capacity) (AtRest C codec s₀) h
        (some c) e.post)
      (fun _ s' w' => Settled C codec s₀ (ops ++ [op]) s' w')
      (fun e s' w' => Kept C codec s₀ (h ++ [.answered c (.error e)]) s' w') s w := by
  have htimely : ∀ op' ∈ ops ++ [op], NonzeroExpiry s₀.ttl op' := by
    simpa using (hs.doubtful hop ht (later_toward (Later.refl w))).timely
  have hnext : Admissible C t := (admissible_after _ hadmissible htimely).1.same ht.symm
  refine (Identity.persist_sat hcodec hnext hs.limit hs.usable).mono (fun e he => ?_) ?_ ?_
  · refine Resting.survives ?_ (hs.doubtful hop ht he)
    simpa [seen, hcall] using hops.doubtful
  · rintro _ _ w' ⟨rfl, htoward, hall⟩
    refine ⟨hs.limit, hs.usable, htimely, ht, ?_, htoward.noWorse.sound hs.sound,
      fun x hx => (hall x hx).same ht⟩
    rw [Disk.Held, htoward.locked]
    exact hs.held
  · intro e s' w' hnot
    cases hnot with
    | unchanged same later known outside =>
        subst same
        exact (hs.later later).kept ((inert_error c outside).explained hops)
    | uncertain error failed _ toward =>
        subst error failed
        refine ⟨⟨_, ?_, hs.doubtful hop ht toward⟩, fun _ => ⟨?_, hs.limit, fun husable => ?_⟩⟩
        · simpa [seen, seenAnswer, hcall] using hops.doubtful
        · rw [Disk.Held, toward.locked]
          exact hs.held
        · cases husable.2

/-- A call that is answered without a write. -/
theorem Settled.answered (hs : Settled C codec s₀ ops s w)
    (hops : Explained (step C) s₀ (h.map seen) ⟨ops, none⟩) (op : Op)
    (hr : seen r = .answered op (step C (after C s₀ ops) op).1) :
    Kept C codec s₀ (h ++ [r]) s w := by
  refine hs.kept ?_
  rw [List.map_append, List.map_singleton, hr]
  exact .answered hops

/-- A call that is acknowledged, with the store already at its result. -/
theorem Settled.acknowledged (hs : Settled C codec s₀ (ops ++ [op]) s w)
    (hops : Explained (step C) s₀ (h.map seen) ⟨ops, none⟩)
    (hr : seen r = .acknowledged op (step C (after C s₀ ops) op).1) :
    Kept C codec s₀ (h ++ [r]) s w := by
  refine hs.kept ?_
  rw [List.map_append, List.map_singleton, hr]
  exact .acknowledged hops

/-- The operation on the store is the operation on the replay. -/
theorem Settled.step (hs : Settled C codec s₀ ops s w) (op : Op) :
    (Identity.step C s.current op).1 = (Identity.step C (after C s₀ ops) op).1 ∧
      Same (Identity.step C s.current op).2 (after C s₀ (ops ++ [op])) := by
  rw [after_append]
  exact hs.same.step op

/-- An operation that leaves the store as it is. -/
theorem Settled.idle (hs : Settled C codec s₀ ops s w) (hop : NonzeroExpiry s₀.ttl op)
    (hstep : (Identity.step C s.current op).2 = s.current) :
    Settled C codec s₀ (ops ++ [op]) s w := by
  have hsame := (hs.step op).2
  have hrest := hs.doubtful hop hsame (later_toward (Later.refl w))
  rw [hstep] at hsame
  exact { hs with
    timely := by simpa using hrest.timely
    same := hsame
    holds := fun x hx => (hs.holds x hx).same (hs.same.symm.trans hsame) }

/-- What is asked of a call, with its report in mind. -/
def Accounted (C : Crypto) (codec : JsonCodec EnrollmentSnapshot) (s₀ : EnrollmentStore)
    (path : String) (capacity : Int) (h : List (StoreReport ttl)) (c : TimelyCall ttl)
    (s : FileEnrollmentStore) (w : Disk) : Prop :=
  (FileEnrollmentStore.answer C codec c.call).Sat
    (fun e => Survives (fileEnrollmentStore C codec path ttl capacity) (AtRest C codec s₀) h
      (some c) e.post)
    (fun a s' w' => Kept C codec s₀ (h ++ [.answered c (.ok a)]) s' w')
    (fun e s' w' => Kept C codec s₀ (h ++ [.answered c (.error e)]) s' w') s w

section

variable (hcodec : codec.RoundTrips Plain) (hadmissible : Admissible C s₀)
  (hs : Settled C codec s₀ ops s w) (hops : Explained (step C) s₀ (h.map seen) ⟨ops, none⟩)
  {c : TimelyCall ttl} (hcall : c.call.op = some op) (hop : NonzeroExpiry s₀.ttl op)
include hcodec hadmissible hs hops hcall hop

theorem issue_sat {accountID deviceID : Text} {now : Time} {random : Option Nonce}
    (hc : c.call = .issue accountID deviceID now random) :
    Accounted C codec s₀ path capacity h c s w := by
  obtain rfl : Op.issue accountID deviceID now random = op := by
    rw [hc] at hcall
    exact Option.some.inj hcall
  obtain ⟨hresult, hstore⟩ := hs.step (.issue accountID deviceID now random)
  rw [Accounted, hc, FileEnrollmentStore.answer, Prog.sat_bind, FileEnrollmentStore.issue,
    Prog.sat_bind, Prog.sat_mapError]
  refine sat_check (fun _ => ?_) fun e husable => absurd hs.usable husable
  rw [Prog.sat_bind, Prog.sat_self]
  rw [step] at hresult hstore
  rcases hissue : s.current.issue C accountID deviceID now random with ⟨result, candidate⟩
  rw [hissue] at hresult hstore
  cases result with
  | error e =>
      refine Prog.sat_fail.mpr (hs.answered hops (.issue accountID deviceID now random) ?_)
      simp only [seen, hcall, seenAnswer, Op.answered, ← hresult]
      rfl
  | ok challenge =>
      refine Prog.sat_bind.mpr ((hs.persist_sat hcodec hadmissible hops hcall hop hstore).mono
        (fun _ h => h) ?_ fun _ _ _ h => h)
      intro _ s' w' hs'
      refine Prog.sat_pure.mpr (Prog.sat_pure.mpr (hs'.acknowledged hops ?_))
      simp only [seen, hcall, seenAnswer, Op.answered, ← hresult]
      rfl

/-- When as many challenges are pending as before, a rejected enrollment
has changed nothing. -/
theorem enroll_sat {request : EnrollmentRequest} {now : Time} (hc : c.call = .enroll request now) :
    Accounted C codec s₀ path capacity h c s w := by
  obtain rfl : Op.enroll request now = op := by
    rw [hc] at hcall
    exact Option.some.inj hcall
  obtain ⟨hresult, hstore⟩ := hs.step (.enroll request now)
  rw [Accounted, hc, FileEnrollmentStore.answer, Prog.sat_bind, FileEnrollmentStore.enroll,
    Prog.sat_bind, Prog.sat_mapError]
  refine sat_check (fun _ => ?_) fun e husable => absurd hs.usable husable
  rw [Prog.sat_bind, Prog.sat_self]
  rcases henroll : s.current.enroll C request now with ⟨result, candidate⟩
  rw [step, henroll] at hresult hstore
  cases result with
  | ok device =>
      refine Prog.sat_bind.mpr ((hs.persist_sat hcodec hadmissible hops hcall hop hstore).mono
        (fun _ h => h) ?_ fun _ _ _ h => h)
      intro _ s' w' hs'
      refine Prog.sat_pure.mpr (Prog.sat_pure.mpr (hs'.acknowledged hops ?_))
      simp only [seen, hcall, seenAnswer, Op.answered, ← hresult]
      rfl
  | error e =>
      have hseen : seen (.answered c (.error (.domain e)) : StoreReport ttl) =
          .acknowledged (.enroll request now) (step C (after C s₀ ops) (.enroll request now)).1 := by
        simp only [seen, hcall, seenAnswer, Op.answered, ← hresult]
        rfl
      dsimp only
      split
      · refine Prog.sat_bind.mpr ((hs.persist_sat hcodec hadmissible hops hcall hop hstore).mono
          (fun _ h => h) ?_ fun _ _ _ h => h)
        exact fun _ s' w' hs' => Prog.sat_fail.mpr (hs'.acknowledged hops hseen)
      · next hsize =>
          have hsame : (s.current.enroll C request now).2 = s.current := by
            rcases enroll_error (congrArg Prod.fst henroll) with hsame | ⟨p, hp, -, -, -, hspent⟩
            · exact hsame
            · rw [henroll] at hspent
              subst hspent
              have := Table.size_erase (Table.mem_iff_lookup.mpr ⟨p, hp⟩)
              simp only [not_not] at hsize
              omega
          exact Prog.sat_fail.mpr ((hs.idle hop hsame).acknowledged hops hseen)

omit hcodec hadmissible in
theorem device_sat {accountID deviceID : Text} (hc : c.call = .device accountID deviceID) :
    Accounted C codec s₀ path capacity h c s w := by
  obtain rfl : Op.device accountID deviceID = op := by
    rw [hc] at hcall
    exact Option.some.inj hcall
  obtain ⟨hresult, -⟩ := hs.step (.device accountID deviceID)
  have hs' := hs.idle hop rfl
  rw [Accounted, hc, FileEnrollmentStore.answer, Prog.sat_bind, FileEnrollmentStore.device,
    Prog.sat_bind, Prog.sat_mapError]
  refine sat_check (fun _ => ?_) fun e husable => absurd hs.usable husable
  rw [Prog.sat_bind, Prog.sat_self, Prog.sat_liftExcept]
  rw [step] at hresult
  cases hdevice : s.current.device accountID deviceID with
  | error e =>
      refine hs'.acknowledged hops ?_
      simp only [seen, hcall, seenAnswer, Op.answered, ← hresult, hdevice]
      rfl
  | ok device =>
      refine Prog.sat_pure.mpr (hs'.acknowledged hops ?_)
      simp only [seen, hcall, seenAnswer, Op.answered, ← hresult, hdevice]
      rfl

end

theorem close_sat (hw : AtRest C codec s₀ h w) {c : TimelyCall ttl} (hc : c.call = .close) :
    Accounted C codec s₀ path capacity h c s w := by
  have hkept : ∀ {r s' w'}, ¬Holder s' → AtRest C codec s₀ (h ++ [.answered c r]) w' →
      Kept C codec s₀ (h ++ [.answered c r]) s' w' := fun hs' hw' =>
    ⟨hw', fun hlive => absurd hlive hs'⟩
  obtain ⟨replay, hreplay, hrest⟩ := hw
  rw [Accounted, hc, FileEnrollmentStore.answer, Prog.sat_bind, FileEnrollmentStore.close,
    Prog.sat_mapError]
  refine (sat_close (Q := fun s' w' => ¬Holder s' ∧ Resting C codec s₀ replay w')
    (fun hidle => ⟨hidle, hrest⟩) fun w' _ hb => ?_).mono (fun _ h => h) ?_ ?_
  · have hfree := hrest.relock hb (hb.noWorse.sound hrest.sound)
    exact ⟨Resting.survives ((inert_cut _).explained hreplay) hfree, nofun, hfree⟩
  · rintro _ s' w' ⟨hs', hw'⟩
    exact Prog.sat_pure.mpr (hkept hs' ⟨replay, (inert_close hc _).explained hreplay, hw'⟩)
  · rintro e s' w' ⟨hs', hw'⟩
    exact hkept hs' ⟨replay, (inert_close hc _).explained hreplay, hw'⟩

/-- A store that is not usable answers nothing and does nothing. -/
theorem answer_unusable {I : Disk → Prop} (hs : ¬s.file.Usable) {c : FileCall}
    (hc : c ≠ .close) :
    (FileEnrollmentStore.answer C codec c).Sat (fun e => I e.post) (fun _ _ _ => False)
      (fun e s' w' => s' = s ∧ w' = w ∧ ∃ f, e = .file f) s w := by
  have hcheck : ∀ {α : Type} {k : Unit → FileEnrollmentM α}, 
      ((onFile File.check).mapError .file >>= k).Sat (fun e => I e.post) (fun _ _ _ => False)
        (fun e s' w' => s' = s ∧ w' = w ∧ ∃ f, e = .file f) s w := by
    intro α k
    rw [Prog.sat_bind, Prog.sat_mapError]
    exact sat_check (fun husable => absurd husable hs) fun e _ _ => ⟨rfl, rfl, e, rfl⟩
  cases c with
  | close => exact absurd rfl hc
  | issue accountID deviceID now random | enroll request now | device accountID deviceID =>
      rw [FileEnrollmentStore.answer, Prog.sat_bind]
      exact hcheck.mono (fun _ h => h) (fun _ _ _ h => h.elim) fun _ _ _ h => h

/-- Any call on a store, usable or not. -/
theorem answer_sat (hcodec : codec.RoundTrips Plain)
    (hnew : EnrollmentStore.new ttl capacity = .ok s₀) (hs : Holder s → InUse C codec s₀ h s w)
    (hheld : Holder s → w.Held) (hw : AtRest C codec s₀ h w) (c : TimelyCall ttl) :
    Accounted C codec s₀ path capacity h c s w := by
  obtain ⟨hfresh, hadmissible⟩ := new_eq_ok (C := C) hnew
  have httl : s₀.ttl = ttl := by rw [hfresh]
  by_cases hc : c.call = .close
  · exact close_sat hw hc
  by_cases husable : s.file.Usable
  · have hlive := hs husable.1
    obtain ⟨ops, hops, htimely, hsame, hall⟩ := hlive.current husable
    obtain ⟨replay, -, hrest⟩ := hw
    have hsettled : Settled C codec s₀ ops s w :=
      ⟨hlive.limit, husable, htimely, hsame, hheld husable.1, hrest.sound, hall⟩
    cases hcall : c.call with
    | close => exact absurd hcall hc
    | issue accountID deviceID now random =>
        have hop : c.call.op = some (.issue accountID deviceID now random) := by rw [hcall]; rfl
        exact issue_sat hcodec hadmissible hsettled hops hop (httl ▸ c.timely _ hop) hcall
    | enroll request now =>
        have hop : c.call.op = some (.enroll request now) := by rw [hcall]; rfl
        exact enroll_sat hcodec hadmissible hsettled hops hop (httl ▸ c.timely _ hop) hcall
    | device accountID deviceID =>
        have hop : c.call.op = some (.device accountID deviceID) := by rw [hcall]; rfl
        exact device_sat hsettled hops hop (httl ▸ c.timely _ hop) hcall
  · refine (answer_unusable (I := fun _ => False) husable hc).mono (fun _ h => h.elim)
      (fun _ _ _ h => h.elim) ?_
    rintro _ _ _ ⟨rfl, rfl, f, rfl⟩
    have hinert := inert_error c (e := .file f) nofun
    refine ⟨hw.append hinert (Later.refl _), fun hlive => ⟨hheld hlive, ?_⟩⟩
    exact (hs hlive).append hinert (Later.refl _)

/-! ## The component keeps its invariant -/

/-- Reading a candidate back decides what was in doubt. -/
theorem explained_restarted (hreplay : Explained (step C) s₀ (h.map seen) replay)
    (hops : Candidate replay ops) :
    Explained (step C) s₀ ((h ++ [(.started (.ok ()) : StoreReport ttl)]).map seen)
      ⟨ops, none⟩ := by
  rw [List.map_append]
  obtain ⟨ops', doubt⟩ := replay
  rcases hops with rfl | ⟨op, rfl, rfl⟩
  · exact .kept hreplay
  · exact .found hreplay

/-- What `start` needs to be told of the world. -/
theorem start_sat (hcodec : codec.RoundTrips Plain)
    (hempty : ∃ data, codec.marshal ⟨1, some [], some []⟩ = .ok data ∧
      (data.length : Int) ≤ 16 * 2 ^ 20)
    (hnew : EnrollmentStore.new ttl capacity = .ok s₀) (hcapacity : capacity ≤ 10000)
    (hw : Resting C codec s₀ replay w) :
    (fileEnrollmentStore C codec path ttl capacity).start.Sat
      (fun e => Resting C codec s₀ replay e.post)
      (fun _ s' w' => ∃ ops, Candidate replay ops ∧ Settled C codec s₀ ops s' w')
      (fun _ _ w' => Resting C codec s₀ replay w' ∧ (w.Ready → path ≠ "" → w.Held)) s w := by
  rw [fileEnrollmentStore, Prog.sat_bind]
  refine (openFileEnrollmentStore_sat hcodec hempty hnew hcapacity hw).mono (fun _ h => h) ?_
    fun _ _ _ h => h
  rintro _ s' w' ⟨hfile, hheld, hrest, ops, hops, hsame, hholds⟩
  rw [settle, Prog.sat_effect]
  have htarget : ∀ {P : Option Inode → Prop}, P w'.slot.target →
      Disk.All P { w' with slot := { w'.slot with uncertain := [] } } := fun hP x hx =>
    List.mem_singleton.mp hx ▸ hP
  have hsound : Disk.Sound { w' with slot := { w'.slot with uncertain := [] } } :=
    ⟨hrest.sound.directory, hrest.sound.lockFile⟩
  have htimely : ∀ op ∈ ops, NonzeroExpiry s₀.ttl op := by
    intro op hop
    refine hrest.timely op ?_
    rcases hops with rfl | ⟨op', hdoubt, rfl⟩
    · exact List.mem_append_left _ hop
    · rwa [hdoubt]
  exact ⟨⟨hsound, hrest.timely, htarget (Slot.All.target hrest.fits)⟩, ops, hops,
    by rw [hfile], by rw [hfile]; exact ⟨rfl, rfl⟩, htimely, hsame, hheld, hsound, htarget hholds⟩

theorem start_held (hcapacity : capacity ≤ 10000)
    (hnew : EnrollmentStore.new ttl capacity = .ok s₀) (hheld : w.Held) :
    (fileEnrollmentStore C codec path ttl capacity).start.Sat (fun e => Later w e.post)
      (fun _ _ _ => False) (fun _ _ w' => Later w w') s w := by
  rw [fileEnrollmentStore, Prog.sat_bind, FileEnrollmentStore.openFileEnrollmentStore,
    Prog.sat_bind, Prog.sat_liftExcept, hnew]
  simp only [Except.mapError, if_neg (Int.not_lt.mpr hcapacity), Prog.sat_bind, Prog.sat_update]
  exact (openStore_held hheld).mono (fun _ h => h) (fun _ _ _ h => h.elim) fun _ _ _ h => h

/-- A closed store has nothing to close. -/
theorem close_idle {I : Disk → Prop} (hs : ¬Holder s) {c : FileCall} (hc : c = .close) :
    (FileEnrollmentStore.answer C codec c).Sat (fun e => I e.post)
      (fun _ s' w' => s' = s ∧ w' = w) (fun _ s' w' => s' = s ∧ w' = w) s w := by
  rw [hc, FileEnrollmentStore.answer, Prog.sat_bind, FileEnrollmentStore.close, Prog.sat_mapError]
  exact (sat_close (Q := fun s' w' => s' = s ∧ w' = w) (fun _ => ⟨rfl, rfl⟩) fun _ hlive =>
    absurd hlive hs).mono (fun _ h => h) (fun _ _ _ h => Prog.sat_pure.mpr h) fun _ _ _ h => h

theorem fileEnrollmentStore_exclusive (hcodec : codec.RoundTrips Plain)
    (hempty : ∃ data, codec.marshal ⟨1, some [], some []⟩ = .ok data ∧
      (data.length : Int) ≤ 16 * 2 ^ 20)
    (hnew : EnrollmentStore.new ttl capacity = .ok s₀) (hcapacity : capacity ≤ 10000) :
    Exclusive (fileEnrollmentStore C codec path ttl capacity) Holder Disk.Held
      (AtRest C codec s₀) (InUse C codec s₀) where
  crash h w c hw := by
    obtain ⟨replay, hreplay, hrest⟩ := hw
    exact Resting.survives ((inert_cut c).explained hreplay) hrest
  startHeld h w hheld hw := by
    obtain ⟨replay, hreplay, hrest⟩ := id hw
    refine (start_held hcapacity hnew hheld).mono (fun e hl => ?_) (fun _ _ _ h => h)
      fun e _ _ hl => unmoved_of_later (inert_started e) hl
    exact Resting.survives ((inert_cut none).explained hreplay) (hrest.later hl)
  startFree h w _ hw := by
    obtain ⟨replay, hreplay, hrest⟩ := hw
    refine (start_sat hcodec hempty hnew hcapacity hrest).mono (fun e he => ?_) ?_ ?_
    · exact Resting.survives ((inert_cut none).explained hreplay) he
    · rintro _ s' w' ⟨ops, hops, hs'⟩
      exact hs'.kept (explained_restarted hreplay hops)
    · rintro e _ w' ⟨hw', -⟩
      exact ⟨replay, (inert_started e).explained hreplay, hw'⟩
  callIdle h w c s hs hw := by
    by_cases hc : c.call = .close
    · refine (close_idle (I := fun _ => False) hs hc).mono (fun _ h => h.elim) ?_ ?_
      · rintro a _ _ ⟨rfl, rfl⟩
        exact ⟨hs, unmoved_of_later (inert_close hc _) (Later.refl _)⟩
      · rintro e _ _ ⟨rfl, rfl⟩
        exact ⟨hs, unmoved_of_later (inert_close hc _) (Later.refl _)⟩
    · refine (answer_unusable (I := fun _ => False) (fun husable => hs husable.1) hc).mono
        (fun _ h => h.elim) (fun _ _ _ h => h.elim) ?_
      rintro _ _ _ ⟨rfl, rfl, f, rfl⟩
      exact ⟨hs, unmoved_of_later (inert_error c nofun) (Later.refl _)⟩
  callLive h w c s _ hheld hs hw :=
    answer_sat hcodec hnew (fun _ => hs) (fun _ => hheld) hw c

end

end CyberiaVpn.Identity
