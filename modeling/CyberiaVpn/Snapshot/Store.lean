import CyberiaVpn.Snapshot.Contract

/-!
# Stores over a snapshot file

What `OpenClientState`, `OpenFileStore` and `OpenFileEnrollmentStore` have
in common: they open the snapshot, read it, create it when there is none
and otherwise load what it holds, and close the file again when any of
this fails.
-/

namespace CyberiaVpn.Snapshot

open Effects
open Control (Text)

/-- A store keeps its snapshot file in a field. -/
class HasFile (σ : Type) where
  file : σ → File
  setFile : File → σ → σ
  file_setFile : ∀ f s, file (setFile f s) = f
  setFile_file : ∀ s, setFile (file s) s = s

attribute [simp] HasFile.file_setFile HasFile.setFile_file

/-- Some process holds the lock. -/
def Disk.Held (w : Disk) : Prop := w.slot.locked = true

section

variable {σ ε α : Type} [HasFile σ]

open HasFile

/-- This store holds the lock. -/
def Holder (s : σ) : Prop := (file s).lock = true

def onFile (m : Prog File Disk Call FileError α) : Prog σ Disk Call FileError α :=
  Prog.zoom file setFile m

/-- Close the file when `m` fails. -/
def closing (m : Prog σ Disk Call ε Unit) : Prog σ Disk Call ε Unit := do
  match ← m.attempt with
  | .ok () => Prog.ret ()
  | .error e =>
      let _ ← (onFile File.close).attempt
      Prog.fail e

/-- What the file holds, if there is one. -/
def readIfExists : Prog σ Disk Call FileError (Option Text) := do
  match ← (onFile File.read).attempt with
  | .error .notExist => Prog.ret none
  | .error e => Prog.fail e
  | .ok data => Prog.ret (some data)

def openStore (path : String) (limit : Int) (lift : FileError → ε)
    (create : Prog σ Disk Call ε Unit) (load : Text → Prog σ Disk Call ε Unit) :
    Prog σ Disk Call ε Unit := do
  (onFile (File.openFile path limit)).mapError lift
  closing do
    match ← readIfExists.mapError lift with
    | none => create
    | some data => load data

/-- `json.Marshal` and `Decode` at one type. -/
structure JsonCodec (α : Type) where
  marshal : α → Except String Text
  decode : Text → Except String α

/-- On these values decoding undoes marshalling. -/
def JsonCodec.RoundTrips (codec : JsonCodec α) (S : α → Prop) : Prop :=
  ∀ a data, S a → codec.marshal a = .ok data → codec.decode data = .ok a

/-- Marshal a state and write it. -/
def saveState (codec : JsonCodec α) (lift : FileError → ε) (liftJson : String → ε) (state : α) :
    Prog σ Disk Call ε Unit := do
  let data ← Prog.liftExcept ((codec.marshal state).mapError liftJson)
  (onFile (File.write data)).mapError lift

/-! ## Opening -/

variable {s : σ} {w : Disk} {I : Disk → Prop}

theorem sat_onFile {m : Prog File Disk Call FileError α} {Q : α → σ → Disk → Prop}
    {E : FileError → σ → Disk → Prop} :
    (onFile m).Sat (fun e => I e.post) Q E s w ↔
      m.Sat (fun e => I e.post) (fun a f w' => Q a (setFile f s) w')
        (fun e f w' => E e (setFile f s) w') (file s) w :=
  Prog.sat_zoom

theorem sat_check {Q : Unit → σ → Disk → Prop} {E : FileError → σ → Disk → Prop}
    (hok : (file s).Usable → Q () s w) (hfail : ∀ e, ¬(file s).Usable →
      (e = .uncertain → (file s).failed = some .uncertain) → E e s w) :
    (onFile File.check).Sat (fun e => I e.post) Q E s w :=
  sat_onFile.mpr (File.check_sat (by simpa using hok) (by simpa using hfail))

/-- A read from memory behind a check is that read, unless the file is not
usable. -/
theorem checked_result (lift : FileError → ε) (f : σ → Except ε α) :
    let m : Prog σ Disk Call ε α := do
      (onFile File.check).mapError lift
      let store ← Prog.self
      Prog.liftExcept (f store)
    (m s w).result = f s ∨ ∃ e, (m s w).result = .error (lift e) := by
  intro m
  have hsat : m.Sat (fun _ => True) (fun a _ _ => f s = .ok a)
      (fun e _ _ => f s = .error e ∨ ∃ e', e = lift e') s w := by
    simp only [m, Prog.sat_bind, Prog.sat_mapError]
    refine sat_check (I := fun _ => True) (fun _ => ?_) fun e _ _ => Or.inr ⟨e, rfl⟩
    rw [Prog.sat_self, Prog.sat_liftExcept]
    cases f s with
    | ok a => rfl
    | error e => exact Or.inl rfl
  rcases hsat.result with ⟨a, hr, hf⟩ | ⟨e, hr, hf | ⟨e', rfl⟩⟩
  · exact Or.inl (hr.trans hf.symm)
  · exact Or.inl (hr.trans hf.symm)
  · exact Or.inr ⟨e', hr⟩

theorem sat_close {Q : σ → Disk → Prop} (hidle : ¬Holder s → Q s w)
    (hlive : ∀ w', Holder s → Became { w.slot with locked := false } w w' →
      I w' ∧ Q (setFile { file s with lock := false } s) w') :
    (onFile File.close).Sat (fun e => I e.post) (fun _ => Q) (fun _ => Q) s w := by
  refine sat_onFile.mpr (File.close_sat (fun hlock => ?_) hlive)
  rw [setFile_file]
  exact hidle fun hs => by rw [Holder, hlock] at hs; cases hs

/-- After a failure the file is closed, and its lock free again. -/
theorem sat_closing {m : Prog σ Disk Call ε Unit} {Q : σ → Disk → Prop} {E : ε → Disk → Prop}
    (h : m.Sat (fun e => I e.post) (fun _ => Q) (fun e s' w' => (file s').lock = true ∧
      ∀ w'', Became { w'.slot with locked := false } w' w'' → I w'' ∧ E e w'') s w) :
    (closing m).Sat (fun e => I e.post) (fun _ => Q) (fun e _ => E e) s w := by
  rw [closing, Prog.sat_bind, Prog.sat_attempt]
  refine h.mono (fun _ h => h) (fun _ s' w' hQ => Prog.sat_ret.mpr hQ) fun e s' w' hE => ?_
  obtain ⟨hlock, hclose⟩ := hE
  rw [Prog.sat_bind, Prog.sat_attempt]
  refine (sat_close (Q := fun _ => E e) (fun hidle => absurd hlock hidle) fun w'' _ hb =>
    hclose w'' hb).mono (fun _ h => h) (fun _ _ _ h => Prog.sat_fail.mpr h)
    fun _ _ _ h => Prog.sat_fail.mpr h

/-- Saving is a write of the marshalled state, or nothing. -/
theorem saveState_sat {codec : JsonCodec α} {lift : FileError → ε} {liftJson : String → ε}
    {state : α} {Q : σ → Disk → Prop} {E : ε → σ → Disk → Prop}
    (hjson : ∀ r, codec.marshal state = .error r → E (liftJson r) s w)
    (hpass : ∀ data, codec.marshal state = .ok data → ∀ w', File.Writing data (file s) w w' → I w')
    (hdone : ∀ data, codec.marshal state = .ok data → ∀ f w',
      File.Committed data (file s) w f w' → Q (setFile f s) w')
    (hnot : ∀ data, codec.marshal state = .ok data → ∀ e f w',
      File.Aborted data (file s) w e f w' → E (lift e) (setFile f s) w') :
    (saveState codec lift liftJson state).Sat (fun e => I e.post) (fun _ => Q) E s w := by
  rw [saveState, Prog.sat_bind, Prog.sat_liftExcept]
  cases hm : codec.marshal state with
  | error r => exact hjson r hm
  | ok data =>
      refine Prog.sat_mapError.mpr (sat_onFile.mpr (File.write_sat.mono ?_ ?_ ?_))
      · exact fun e h => hpass data hm e.post h
      · exact fun _ f w' h => hdone data hm f w' h
      · exact fun e f w' h => hnot data hm e f w' h

theorem readIfExists_sat (hs : (file s).Usable) :
    readIfExists.Sat (fun e => Later w e.post)
      (fun r s' w' => s' = s ∧ Later w w' ∧
        match r with
        | none => w.slot.target = none
        | some data => ∃ i, w.slot.target = some i ∧ i.info.isPrivate .regular = true ∧
            i.content = data ∧ data.length ≤ (file s).limit)
      (fun _ s' w' => s' = s ∧ Later w w' ∧ (w.Ready → ∃ i, w.slot.target = some i ∧
        (i.info.isPrivate .regular = false ∨ (file s).limit < i.content.length))) s w := by
  rw [readIfExists, Prog.sat_bind, Prog.sat_attempt, sat_onFile]
  refine (File.read_sat hs).mono (fun _ h => h) ?_ ?_
  · rintro data _ w' ⟨rfl, hlater, hread⟩
    exact Prog.sat_ret.mpr ⟨setFile_file s, hlater, hread⟩
  · rintro e _ w' ⟨rfl, hlater, ⟨rfl, hnone⟩ | ⟨hne, hready⟩⟩
    · exact Prog.sat_ret.mpr ⟨setFile_file s, hlater, hnone⟩
    · split
      · next h => exact absurd (Except.error.inj h) hne
      · exact Prog.sat_fail.mpr ⟨setFile_file s, hlater, hready⟩
      · next h => cases h

/-- Opening a store. It is denied before or at the lock, or the file cannot
be read, or it goes on with the lock taken: creating the snapshot when
there is none, loading it when there is one. -/
theorem openStore_sat {path : String} {limit : Int} {lift : FileError → ε}
    {create : Prog σ Disk Call ε Unit} {load : Text → Prog σ Disk Call ε Unit}
    {Q : σ → Disk → Prop} {E : ε → Disk → Prop} (hlock : ∀ w', File.Locking w w' → I w')
    (hdenied : ∀ e w', Later w w' → (w.Ready → path ≠ "" → 0 < limit → limit ≤ 64 * 2 ^ 20 →
      w.slot.locked = true) → E (lift e) w')
    (hunread : ∀ e w', w.slot.locked = false → Later w w' → (w.Ready → ∃ i,
      w.slot.target = some i ∧ (i.info.isPrivate .regular = false ∨ limit < i.content.length)) →
      E (lift e) w')
    (hcreate : ∀ w', w.slot.locked = false → w.slot.target = none →
      Became { w.slot with locked := true } w w' →
      create.Sat (fun e => I e.post) (fun _ => Q) (fun e s' w' => (file s').lock = true ∧
        ∀ w'', Became { w'.slot with locked := false } w' w'' → I w'' ∧ E e w'')
        (setFile ⟨limit, true, none⟩ s) w')
    (hload : ∀ i w', w.slot.locked = false → w.slot.target = some i →
      i.info.isPrivate .regular = true → i.content.length ≤ limit →
      Became { w.slot with locked := true } w w' →
      (load i.content).Sat (fun e => I e.post) (fun _ => Q) (fun e s' w' => (file s').lock = true ∧
        ∀ w'', Became { w'.slot with locked := false } w' w'' → I w'' ∧ E e w'')
        (setFile ⟨limit, true, none⟩ s) w') :
    (openStore path limit lift create load).Sat (fun e => I e.post) (fun _ => Q) (fun e _ => E e)
      s w := by
  rw [openStore, Prog.sat_bind, Prog.sat_mapError, sat_onFile]
  refine File.openFile_sat.mono (fun e h => hlock e.post h) ?_
    fun e _ w' h => hdenied e w' h.1 h.2
  rintro _ _ w₁ ⟨rfl, hfree, h₁⟩
  have hunlocked : ({ w.slot with locked := false } : Slot) = w.slot := by rw [← hfree]
  refine sat_closing ?_
  rw [Prog.sat_bind, Prog.sat_mapError]
  refine (readIfExists_sat (by rw [file_setFile]; exact ⟨rfl, rfl⟩)).mono
    (fun e h => hlock e.post (Or.inr ⟨hfree, h₁.later h⟩)) ?_ ?_
  · rintro r _ w₂ ⟨rfl, h₂, hr⟩
    have h₂ := h₁.later h₂
    rw [h₁.slot] at hr
    cases r with
    | none => exact hcreate w₂ hfree hr h₂
    | some data =>
        obtain ⟨i, hi, hp, rfl, hlen⟩ := hr
        rw [file_setFile] at hlen
        exact hload i w₂ hfree hi hp hlen h₂
  · rintro e _ w₂ ⟨rfl, h₂, hready⟩
    refine ⟨by rw [file_setFile], fun w₃ h₃ => ?_⟩
    have hlater : Later w w₃ := by
      refine ⟨?_, (h₁.later h₂).noWorse.trans h₃.noWorse⟩
      rw [h₃.slot, h₂.slot, h₁.slot]
      exact hunlocked
    refine ⟨hlock w₃ (Or.inl hlater), hunread e w₃ hfree hlater fun hw => ?_⟩
    have hi := hready (h₁.ready hw)
    rwa [h₁.slot, file_setFile] at hi

/-- Opening while another process holds the lock. -/
theorem openStore_held {path : String} {limit : Int} {lift : FileError → ε}
    {create : Prog σ Disk Call ε Unit} {load : Text → Prog σ Disk Call ε Unit} (hheld : w.Held) :
    (openStore path limit lift create load).Sat (fun e => Later w e.post) (fun _ _ _ => False)
      (fun _ _ w' => Later w w') s w := by
  have hlocked : ¬w.slot.locked = false := by rw [show w.slot.locked = true from hheld]; nofun
  refine openStore_sat ?_ (fun _ _ h _ => h) (fun _ _ hfree => absurd hfree hlocked)
    (fun _ hfree => absurd hfree hlocked) (fun _ _ hfree => absurd hfree hlocked)
  rintro w' (hlater | ⟨hfree, -⟩)
  · exact hlater
  · exact absurd hfree hlocked

/-! ## Codecs by cases -/

/-- A codec that knows the values of a table only. -/
def JsonCodec.ofTable [DecidableEq α] (table : List (α × Text)) : JsonCodec α where
  marshal a :=
    match table.find? (·.1 = a) with
    | some entry => .ok entry.2
    | none => .error "unknown value"
  decode data :=
    match table.find? (·.2 = data) with
    | some entry => .ok entry.1
    | none => .error "unknown text"

theorem JsonCodec.ofTable_roundTrips [DecidableEq α] {table : List (α × Text)}
    (htable : (table.map Prod.snd).Nodup) (S : α → Prop) :
    (JsonCodec.ofTable table).RoundTrips S := by
  intro a data _ hdata
  simp only [JsonCodec.ofTable] at hdata ⊢
  split at hdata
  swap
  · cases hdata
  next entry hentry =>
  obtain rfl := Except.ok.inj hdata
  have ha : entry.1 = a := by simpa using List.find?_some hentry
  have hmem := List.mem_of_find?_eq_some hentry
  cases hfind : table.find? (·.2 = entry.2) with
  | none => exact absurd (List.find?_eq_none.mp hfind entry hmem) (by simp)
  | some other =>
      have hother : other.2 = entry.2 := by simpa using List.find?_some hfind
      have hsame := List.inj_on_of_nodup_map htable (List.mem_of_find?_eq_some hfind) hmem hother
      subst hsame
      exact congrArg Except.ok ha

end

end CyberiaVpn.Snapshot
