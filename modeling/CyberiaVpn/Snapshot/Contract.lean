import CyberiaVpn.Snapshot.File

/-!
# The contract of a snapshot file

One lemma for each operation of `File`: what it does to the path and to
the `File`, through which slots it passes, and when it fails. A failure on
a disk that is `Ready` is never a system call's.

`File.write_sat` is the atomicity of a write: it is acknowledged with its
content durable, or it leaves the path alone, or it leaves its content
in place with the old one possibly coming back, and then the `File` is
unusable.
-/

namespace CyberiaVpn.Snapshot

open Effects
open Control (Text)

/-! ## Disks -/

/-- No coming system call is made to fail. -/
def Disk.Calm (w : Disk) : Prop := true ∉ w.env.faults

/-- The directory and the lock file are private, as far as they exist. -/
structure Disk.Sound (w : Disk) : Prop where
  directory : ∀ info ∈ w.directory, info.isPrivate .directory = true
  lockFile : ∀ info ∈ w.lockFile, info.isPrivate .regular = true

/-- Nothing but the slot itself will make a call fail. -/
structure Disk.Ready (w : Disk) : Prop where
  calm : w.Calm
  sound : w.Sound

theorem emptyDisk_ready : emptyDisk.Ready := ⟨nofun, nofun, nofun⟩

structure NoWorse (w w' : Disk) : Prop where
  calm : w.Calm → w'.Calm
  sound : w.Sound → w'.Sound

section

variable {v : Slot} {data : Text} {w w' w'' : Disk}

theorem NoWorse.refl (w : Disk) : NoWorse w w := ⟨id, id⟩

theorem NoWorse.trans (h : NoWorse w w') (h' : NoWorse w' w'') : NoWorse w w'' :=
  ⟨fun hw => h'.calm (h.calm hw), fun hw => h'.sound (h.sound hw)⟩

/-- The slot and the temporary file do not matter. -/
theorem NoWorse.frame (hfaults : w'.env.faults ⊆ w.env.faults)
    (hdirectory : w'.directory = w.directory) (hlock : w'.lockFile = w.lockFile) : NoWorse w w' :=
  ⟨fun hw hmem => hw (hfaults hmem), fun hw => ⟨hdirectory ▸ hw.directory, hlock ▸ hw.lockFile⟩⟩

/-- The slot is `v` now and the disk no worse. -/
structure Became (v : Slot) (w w' : Disk) : Prop where
  slot : w'.slot = v
  noWorse : NoWorse w w'

theorem Became.ready (h : Became v w w') (hw : w.Ready) : w'.Ready :=
  ⟨h.noWorse.calm hw.calm, h.noWorse.sound hw.sound⟩

/-- The slot is as it was and the disk no worse. -/
def Later (w w' : Disk) : Prop := Became w.slot w w'

theorem Later.slot (h : Later w w') : w'.slot = w.slot := Became.slot h

theorem Later.noWorse (h : Later w w') : NoWorse w w' := Became.noWorse h

theorem Later.ready (h : Later w w') (hw : w.Ready) : w'.Ready := Became.ready h hw

theorem Later.refl (w : Disk) : Later w w := ⟨rfl, NoWorse.refl w⟩

theorem Later.became (h : Later w w') (h' : Became v w' w'') : Became v w w'' :=
  ⟨h'.slot, h.noWorse.trans h'.noWorse⟩

theorem Became.later (h : Became v w w') (h' : Later w' w'') : Became v w w'' :=
  ⟨h'.slot.trans h.slot, h.noWorse.trans h'.noWorse⟩

theorem Later.trans (h : Later w w') (h' : Later w' w'') : Later w w'' := Became.later h h'

/-- The disks a write of `data` goes through. -/
def Passes (data : Text) (w w' : Disk) : Prop :=
  Later w w' ∨ Became (w.slot.renamed data) w w' ∨ Became (w.slot.committed data) w w'

theorem Later.passes (h : Later w w') (h' : Passes data w' w'') : Passes data w w'' := by
  rw [Passes, h.slot] at h'
  exact h'.imp h.trans (Or.imp h.became h.became)

end

/-! ## What a path may hold -/

theorem saved_isPrivate (data : Text) : (saved data).info.isPrivate .regular = true := by
  change Metadata.isPrivate ⟨.regular, 0o600⟩ .regular = true
  decide

/-- `P` holds of everything the path names or may name after a crash. -/
def Slot.All (P : Option Inode → Prop) (v : Slot) : Prop := ∀ x ∈ v.possible, P x

def Disk.All (P : Option Inode → Prop) (w : Disk) : Prop := w.slot.All P

namespace Slot.All

variable {P : Option Inode → Prop} {v : Slot}

theorem target (h : v.All P) : P v.target := h _ (List.mem_cons_self ..)

theorem relock (h : v.All P) (locked : Bool) : ({ v with locked := locked } : Slot).All P := h

theorem renamed {data : Text} (h : v.All P) (hdata : P (some (saved data))) :
    (v.renamed data).All P := by
  rintro x (_ | ⟨_, hx⟩)
  · exact hdata
  · exact h x hx

theorem committed {data : Text} (hdata : P (some (saved data))) : (v.committed data).All P := by
  rintro x (_ | ⟨_, hx⟩)
  · exact hdata
  · cases hx

/-- Every slot a write passes through. -/
theorem passes {data : Text} {w w' : Disk} (h : w.All P) (hdata : P (some (saved data)))
    (hw : Passes data w w') : w'.All P := by
  rcases hw with hw | hw | hw <;> rw [Disk.All, hw.slot]
  · exact h
  · exact h.renamed hdata
  · exact committed hdata

/-- A crash leaves one of the possible contents, unharmed when all of them
were on stable storage. -/
theorem crash {w : Disk} (h : w.All P) (hsynced : ∀ i, P (some i) → i.synced = true)
    (choice : Option (Nat × Nat)) : (w.crash choice).All P := by
  cases choice with
  | none => exact h
  | some choice =>
      obtain ⟨n, kept⟩ := choice
      have hpick : P ((w.slot.possible[n]?).getD w.slot.target) := by
        cases hn : w.slot.possible[n]? with
        | none => exact target h
        | some x => exact h x (List.mem_of_getElem? hn)
      intro x hx
      obtain rfl := List.mem_singleton.mp hx
      rw [Disk.crash]
      cases hi : (w.slot.possible[n]?).getD w.slot.target with
      | none =>
          rw [hi] at hpick
          exact hpick
      | some i =>
          rw [hi] at hpick
          rwa [Option.map_some, Inode.afterCrash, if_pos (hsynced i hpick)]

end Slot.All

theorem Later.all {P : Option Inode → Prop} {w w' : Disk} (h : Later w w') (hw : w.All P) :
    w'.All P := by
  rw [Disk.All, h.slot]
  exact hw

/-- Nor does the lock matter. -/
theorem Became.all {P : Option Inode → Prop} {b : Bool} {w w₀ w' : Disk}
    (h : Became { w.slot with locked := b } w₀ w') (hw : w.All P) : w'.All P := by
  rw [Disk.All, h.slot]
  exact Slot.All.relock hw b

/-! ## System calls -/

section

variable {σ α β : Type} {I : Disk → Prop} {s : σ} {w : Disk}

theorem later_next (w : Disk) : Later w w.next :=
  ⟨rfl, .frame (List.tail_sublist _).subset rfl rfl⟩

/-- One call: it fails without effect, which a ready disk rules out, or
does what it is meant to. -/
theorem sat_syscall {c : Call} {f : Disk → Except FileError α × Disk}
    {Q : α → σ → Disk → Prop} {E : FileError → σ → Disk → Prop}
    (hfault : ¬w.Ready → I w.next ∧ E (.io c) s w.next)
    (hdo : I (f w.next).2 ∧
      match (f w.next).1 with
      | .ok a => Q a s (f w.next).2
      | .error e => E e s (f w.next).2) :
    (syscall c f).Sat (fun e => I e.post) Q E s w := by
  rw [syscall, Prog.sat_effect]
  by_cases hfails : w.env.faults.head? = some true
  · rw [if_pos hfails]
    exact hfault fun hw => hw.calm (List.mem_of_head? hfails)
  · rw [if_neg hfails]
    refine ⟨hdo.1, ?_⟩
    have hresult := hdo.2
    cases hr : (f w.next).1 with
    | ok a => rw [hr] at hresult; exact hresult
    | error e => rw [hr] at hresult; exact hresult

/-- A program that leaves the slot and its own component alone, and fails
only in a system call on a disk that is not ready. -/
def Quiet (m : Prog σ Disk Call FileError α) : Prop :=
  ∀ s w, m.Sat (fun e => Later w e.post) (fun _ s' w' => s' = s ∧ Later w w')
    (fun e s' w' => s' = s ∧ Later w w' ∧ ¬w.Ready ∧ ∃ c, e = .io c) s w

theorem quiet_syscall {c : Call} {f : Disk → Except FileError α × Disk}
    (h : ∀ w, Later w (f w).2 ∧ ∀ e, (f w).1 = .error e → ¬w.Ready ∧ ∃ c, e = .io c) :
    Quiet (syscall c f : Prog σ Disk Call FileError α) := by
  intro s w
  obtain ⟨hf, hfails⟩ := h w.next
  have hlater := (later_next w).trans hf
  refine sat_syscall (fun hw => ⟨later_next w, rfl, later_next w, hw, c, rfl⟩) ⟨hlater, ?_⟩
  cases hr : (f w.next).1 with
  | ok a => exact ⟨rfl, hlater⟩
  | error e =>
      obtain ⟨hready, hio⟩ := hfails e hr
      exact ⟨rfl, hlater, fun hw => hready ((later_next w).ready hw), hio⟩

theorem quiet_perform (c : Call) : Quiet (perform c : Prog σ Disk Call FileError Unit) :=
  quiet_syscall fun w => ⟨Later.refl w, nofun⟩

/-- Go on after a quiet program. -/
theorem Quiet.bind {m : Prog σ Disk Call FileError α} (hm : Quiet m)
    {k : α → Prog σ Disk Call FileError β} {Q : β → σ → Disk → Prop}
    {E : FileError → σ → Disk → Prop} (hI : ∀ w', Later w w' → I w')
    (hE : ∀ c w', Later w w' → ¬w.Ready → E (.io c) s w')
    (hk : ∀ a w', Later w w' → (k a).Sat (fun e => I e.post) Q E s w') :
    (m >>= k).Sat (fun e => I e.post) Q E s w := by
  refine ((hm s w).mono (fun e h => hI e.post h) (fun _ _ _ h => h) ?_).bind ?_
  · rintro _ _ w' ⟨rfl, hlater, hw, c, rfl⟩
    exact hE c w' hlater hw
  · rintro a _ w' ⟨rfl, hlater⟩
    exact hk a w' hlater

/-- A quiet cleanup changes neither outcome. -/
theorem Quiet.deferring {m : Prog σ Disk Call FileError α}
    {cleanup : Prog σ Disk Call FileError β} (hc : Quiet cleanup)
    {Q : α → σ → Disk → Prop} {E : FileError → σ → Disk → Prop}
    (hQ : ∀ a s w w', Q a s w → Later w w' → I w' ∧ Q a s w')
    (hE : ∀ e s w w', E e s w → Later w w' → I w' ∧ E e s w')
    (hm : m.Sat (fun e => I e.post) Q E s w) :
    (m.deferring cleanup).Sat (fun e => I e.post) Q E s w := by
  rw [Prog.sat_deferring]
  refine hm.mono (fun _ h => h) (fun a s' w' h => ?_) fun e s' w' h => ?_
  · refine (hc s' w').mono (fun e hl => (hQ a s' w' e.post h hl).1) ?_ ?_
    · rintro _ _ w'' ⟨rfl, hl⟩
      exact (hQ a _ w' w'' h hl).2
    · rintro _ _ w'' ⟨rfl, hl, -⟩
      exact (hQ a _ w' w'' h hl).2
  · refine (hc s' w').mono (fun e' hl => (hE e s' w' e'.post h hl).1) ?_ ?_
    · rintro _ _ w'' ⟨rfl, hl⟩
      exact (hE e _ w' w'' h hl).2
    · rintro _ _ w'' ⟨rfl, hl, -⟩
      exact (hE e _ w' w'' h hl).2

theorem sat_iterate {ε : Type} {entries : List α} {Q : List α → σ → Disk → Prop}
    {E : ε → σ → Disk → Prop}
    (h : ∀ l w', l.Perm entries → Later w w' → I w' ∧ Q l s w') :
    (iterate entries : Prog σ Disk Call ε (List α)).Sat (fun e => I e.post) Q E s w := by
  rw [iterate, Prog.sat_effect]
  cases horders : w.env.orders with
  | nil => exact h entries w (List.Perm.refl _) (Later.refl w)
  | cons n rest =>
      refine h _ _ ?_ ⟨rfl, .frame (List.Subset.refl _) rfl rfl⟩
      cases hn : entries.permutations[n]? with
      | none => exact List.Perm.refl _
      | some l => exact List.mem_permutations.mp (List.mem_of_getElem? hn)

end

/-! ## The operations -/

namespace File

variable {file : File} {w : Disk}

/-- `check` passes. -/
def Usable (file : File) : Prop := file.lock = true ∧ file.failed = none

theorem check_sat {I : Disk → Prop} {Q : Unit → File → Disk → Prop}
    {E : FileError → File → Disk → Prop} (hok : file.Usable → Q () file w)
    (hfail : ∀ e, ¬file.Usable → (e = .uncertain → file.failed = some .uncertain) → E e file w) :
    check.Sat (fun e => I e.post) Q E file w := by
  simp only [check, Prog.sat_bind, Prog.sat_self]
  cases hlock : file.lock with
  | false =>
      simp only [Bool.not_false, if_true, Prog.sat_fail]
      exact hfail _ (fun h => by rw [h.1] at hlock; cases hlock) (by rintro ⟨⟩)
  | true =>
      simp only [Bool.not_true, Bool.false_eq_true, if_false]
      cases hf : file.failed with
      | none => exact Prog.sat_ret.mpr (hok ⟨hlock, hf⟩)
      | some e =>
          refine Prog.sat_fail.mpr (hfail e (fun h => by rw [h.2] at hf; cases hf) fun he => ?_)
          rw [hf, he]

theorem checkPrivateFile_sat (c : Call) {info : Disk → Option Metadata}
    (hinfo : info w.next = info w) :
    (checkPrivateFile c info).Sat (fun e => Later w e.post)
      (fun _ file' w' => file' = file ∧ Later w w' ∧
        ∃ i, info w = some i ∧ i.isPrivate .regular = true)
      (fun e file' w' => file' = file ∧ Later w w' ∧
        ((e = .notExist ∧ info w = none) ∨ (e ≠ .notExist ∧
          (w.Ready → ∃ i, info w = some i ∧ i.isPrivate .regular = false)))) file w := by
  rw [checkPrivateFile, Prog.sat_bind]
  refine sat_syscall (fun hw => ⟨later_next w, rfl, later_next w, Or.inr ⟨by rintro ⟨⟩, fun h =>
    absurd h hw⟩⟩) ⟨later_next w, ?_⟩
  simp only [hinfo]
  cases hi : info w with
  | none => exact Prog.sat_fail.mpr ⟨rfl, later_next w, Or.inl ⟨rfl, rfl⟩⟩
  | some i =>
      dsimp only
      cases hp : i.isPrivate .regular with
      | false =>
          simp only [Bool.not_false, if_true, Prog.sat_fail]
          exact ⟨trivial, later_next w, Or.inr ⟨by rintro ⟨⟩, fun _ => ⟨i, rfl, hp⟩⟩⟩
      | true =>
          simp only [Bool.not_true, Bool.false_eq_true, if_false, Prog.sat_ret]
          exact ⟨trivial, later_next w, i, rfl, hp⟩

/-- What a read of a usable file tells about the path. -/
theorem read_sat (hfile : file.Usable) :
    read.Sat (fun e => Later w e.post)
      (fun data file' w' => file' = file ∧ Later w w' ∧ ∃ i, w.slot.target = some i ∧
        i.info.isPrivate .regular = true ∧ i.content = data ∧ data.length ≤ file.limit)
      (fun e file' w' => file' = file ∧ Later w w' ∧
        ((e = .notExist ∧ w.slot.target = none) ∨ (e ≠ .notExist ∧ (w.Ready →
          ∃ i, w.slot.target = some i ∧
            (i.info.isPrivate .regular = false ∨ file.limit < i.content.length))))) file w := by
  rw [read, Prog.sat_bind]
  refine check_sat (fun _ => ?_) fun e h _ => absurd hfile h
  rw [Prog.sat_bind, Prog.sat_self]
  refine Prog.Sat.bind ((checkPrivateFile_sat .lstatTarget rfl).mono (fun _ h => h)
    (fun _ _ _ h => h) ?_) ?_
  · rintro e _ w' ⟨rfl, hlater, hcase⟩
    refine ⟨rfl, hlater, hcase.imp ?_ ?_⟩
    · rintro ⟨rfl, hnone⟩
      exact ⟨rfl, Option.map_eq_none_iff.mp hnone⟩
    · rintro ⟨hne, hready⟩
      refine ⟨hne, fun hw => ?_⟩
      obtain ⟨m, hm, hp⟩ := hready hw
      obtain ⟨i, hi, rfl⟩ := Option.map_eq_some_iff.mp hm
      exact ⟨i, hi, Or.inl hp⟩
  · rintro _ file w₁ ⟨rfl, h₁, m, hm, hp⟩
    obtain ⟨i, hi, rfl⟩ := Option.map_eq_some_iff.mp hm
    refine (quiet_perform .openTarget).bind (fun w' h => h₁.trans h)
      (fun c w' h hw => ⟨rfl, h₁.trans h, Or.inr ⟨nofun, fun hready =>
        absurd (h₁.ready hready) hw⟩⟩) fun _ w₂ h₂ => ?_
    have h₂ := h₁.trans h₂
    have hnext := h₂.trans (later_next w₂)
    rw [Prog.sat_bind]
    refine sat_syscall (fun hw => ⟨hnext, rfl, hnext, Or.inr ⟨nofun, fun hready =>
      absurd (h₂.ready hready) hw⟩⟩) ⟨hnext, ?_⟩
    have htarget : w₂.next.slot.target = some i := by rw [hnext.slot, hi]
    simp only [htarget, Option.map_some, Option.getD_some]
    split
    · next hlarge =>
        rw [List.length_take] at hlarge
        exact Prog.sat_fail.mpr ⟨rfl, hnext, Or.inr ⟨nofun, fun _ => ⟨i, hi, Or.inr (by omega)⟩⟩⟩
    · next hsmall =>
        rw [List.length_take] at hsmall
        rw [List.take_of_length_le (by omega)]
        exact Prog.sat_ret.mpr ⟨rfl, hnext, i, hi, hp, rfl, by omega⟩

/-- A step on the temporary file. -/
theorem draft_sat {c : Call} {f : Disk → Disk} {i j : Inode} (htemp : w.temporary = some i)
    (hf : ∀ w, w.temporary = some i → Later w (f w) ∧ (f w).temporary = some j) :
    (syscall c fun w => (.ok (), f w) : FileM Unit).Sat (fun e => Later w e.post)
      (fun _ file' w' => file' = file ∧ Later w w' ∧ w'.temporary = some j)
      (fun e file' w' => e ≠ .uncertain ∧ file' = file ∧ Later w w' ∧ ¬w.Ready) file w := by
  obtain ⟨hlater, hj⟩ := hf w.next htemp
  have hlater := (later_next w).trans hlater
  exact sat_syscall (fun hw => ⟨later_next w, nofun, rfl, later_next w, hw⟩)
    ⟨hlater, rfl, hlater, hj⟩

theorem rename_sat {data : Text} (htemp : w.temporary = some (saved data)) :
    rename.Sat (fun e => Passes data w e.post)
      (fun _ file' w' => file' = file ∧ Became (w.slot.renamed data) w w')
      (fun e file' w' => e ≠ .uncertain ∧ file' = file ∧ Later w w' ∧ ¬w.Ready) file w := by
  have hslot : ({ w.next.slot with
      target := w.next.temporary, uncertain := w.next.slot.target :: w.next.slot.uncertain } :
      Slot) = w.slot.renamed data := by
    rw [show w.next.temporary = w.temporary from rfl, htemp]; rfl
  have hdone : Became (w.slot.renamed data) w
      { w.next with
        slot := { w.next.slot with
          target := w.next.temporary, uncertain := w.next.slot.target :: w.next.slot.uncertain }
        temporary := none } :=
    ⟨hslot, .frame (List.tail_sublist _).subset rfl rfl⟩
  rw [rename]
  exact sat_syscall (fun hw => ⟨Or.inl (later_next w), nofun, rfl, later_next w, hw⟩)
    ⟨Or.inr (Or.inl hdone), rfl, hdone⟩

/-- The sync that ends a write which began in `w₀`. -/
theorem syncDirectory_sat {data : Text} {w₀ : Disk} (hw : Became (w₀.slot.renamed data) w₀ w) :
    syncDirectory.Sat (fun e => Passes data w₀ e.post)
      (fun _ file' w' => file' = file ∧ Became (w₀.slot.committed data) w₀ w')
      (fun _ file' w' => file' = file ∧ Became (w₀.slot.renamed data) w₀ w' ∧ ¬w.Ready)
      file w := by
  have hslot : ({ w.next.slot with uncertain := [] } : Slot) = w₀.slot.committed data := by
    rw [show w.next.slot = w.slot from rfl, hw.slot]; rfl
  have hnext := hw.later (later_next w)
  have hdone : Became (w₀.slot.committed data) w₀
      { w.next with slot := { w.next.slot with uncertain := [] } } :=
    ⟨hslot, hnext.noWorse.trans (.frame (List.Subset.refl _) rfl rfl)⟩
  rw [syncDirectory]
  exact sat_syscall (fun hready => ⟨Or.inr (Or.inl hnext), rfl, hnext, hready⟩)
    ⟨Or.inr (Or.inr hdone), rfl, hdone⟩

/-- The commit, from a private temporary file on. -/
theorem replace_sat {data : Text} {i : Inode} (htemp : w.temporary = some i)
    (hinfo : i.info = ⟨.regular, 0o600⟩) :
    (replace data).Sat (fun e => Passes data w e.post)
      (fun _ file' w' => file' = file ∧ Became (w.slot.committed data) w w')
      (fun e file' w' => ¬w.Ready ∧
        ((e ≠ .uncertain ∧ file' = file ∧ Later w w') ∨
          (e = .uncertain ∧ file' = { file with failed := some .uncertain } ∧
            Became (w.slot.renamed data) w w'))) file w := by
  have hearly : ∀ (e : FileError) (w₁ : Disk) (file' : File) (w' : Disk), Later w w₁ →
      e ≠ .uncertain ∧ file' = file ∧ Later w₁ w' ∧ ¬w₁.Ready →
      ¬w.Ready ∧ ((e ≠ .uncertain ∧ file' = file ∧ Later w w') ∨
        (e = .uncertain ∧ file' = { file with failed := some .uncertain } ∧
          Became (w.slot.renamed data) w w')) := by
    rintro e w₁ file' w' h₁ ⟨hne, hsame, h', hw⟩
    exact ⟨fun hready => hw (h₁.ready hready), Or.inl ⟨hne, hsame, h₁.trans h'⟩⟩
  have hset : ∀ (w₁ : Disk) (j : Option Inode), Later w₁ { w₁ with temporary := j } :=
    fun w₁ j => ⟨rfl, .frame (List.Subset.refl _) rfl rfl⟩
  refine Prog.Sat.bind ((draft_sat htemp fun w₁ ht => ⟨hset w₁ _, by rw [ht]; rfl⟩).mono
    (fun _ h => Or.inl h) (fun _ _ _ h => h) fun _ _ _ => hearly _ w _ _ (Later.refl w)) ?_
  rintro _ _ w₁ ⟨rfl, h₁, ht₁⟩
  refine Prog.Sat.bind ((draft_sat ht₁ fun w₂ ht => ⟨hset w₂ _, by rw [ht]; rfl⟩).mono
    (fun _ h => Or.inl (h₁.trans h)) (fun _ _ _ h => h) fun _ _ _ => hearly _ w₁ _ _ h₁) ?_
  rintro _ _ w₂ ⟨rfl, h₂, ht₂⟩
  have h₂ := h₁.trans h₂
  refine Prog.Sat.bind ((draft_sat ht₂ fun w₃ ht => ⟨Later.refl w₃, ht⟩).mono
    (fun _ h => Or.inl (h₂.trans h)) (fun _ _ _ h => h) fun _ _ _ => hearly _ w₂ _ _ h₂) ?_
  rintro _ file w₃ ⟨rfl, h₃, ht₃⟩
  have h₃ := h₂.trans h₃
  have hsaved : w₃.temporary = some (saved data) := by rw [ht₃, saved, ← hinfo]
  refine Prog.Sat.bind ((rename_sat hsaved).mono (fun _ h => h₃.passes h) (fun _ _ _ h => h)
    fun _ _ _ => hearly _ w₃ _ _ h₃) ?_
  rintro _ file w₄ ⟨rfl, h₄⟩
  rw [h₃.slot] at h₄
  have h₄ := h₃.became h₄
  refine Prog.sat_bind.mpr (Prog.sat_attempt.mpr ((syncDirectory_sat h₄).mono
    (fun _ h => h) ?_ ?_))
  · rintro _ file w₅ ⟨rfl, h₅⟩
    exact Prog.sat_ret.mpr ⟨rfl, h₅⟩
  · rintro _ file w₅ ⟨rfl, h₅, hw⟩
    rw [Prog.sat_bind, Prog.sat_update, Prog.sat_fail]
    exact ⟨fun hready => hw (h₄.ready hready), Or.inr ⟨rfl, rfl, h₅⟩⟩

theorem quiet_removeTemporary : Quiet removeTemporary :=
  quiet_syscall fun _ =>
    ⟨⟨rfl, .frame (List.Subset.refl _) rfl rfl⟩, fun _ h => by cases h⟩

/-- A write that was acknowledged. -/
structure Committed (data : Text) (file : File) (w : Disk) (file' : File) (w' : Disk) : Prop where
  same : file' = file
  usable : file.Usable
  fits : data.length ≤ file.limit
  slot : Became (w.slot.committed data) w w'

/-- A write that was not: the path is as it was, which on a ready disk
means that the write was refused; or the new content is in place without
being durable and the file is unusable from then on. Only in that state
is the error `uncertain`. -/
inductive Aborted (data : Text) (file : File) (w : Disk) (e : FileError) (file' : File)
    (w' : Disk) : Prop where
  | unchanged (same : file' = file) (slot : Later w w')
      (known : e = .uncertain → file.failed = some .uncertain)
      (refused : file.Usable → w.Ready → file.limit < data.length)
  | uncertain (error : e = .uncertain) (failed : file' = { file with failed := some .uncertain })
      (usable : file.Usable) (fits : data.length ≤ file.limit) (fault : ¬w.Ready)
      (slot : Became (w.slot.renamed data) w w')

variable {data : Text} {e : FileError} {file' : File} {w' w'' : Disk}

theorem Committed.later (h : Committed data file w file' w') (h' : Later w' w'') :
    Passes data w w'' ∧ Committed data file w file' w'' :=
  ⟨Or.inr (Or.inr (h.slot.later h')), h.same, h.usable, h.fits, h.slot.later h'⟩

theorem Aborted.later (h : Aborted data file w e file' w') (h' : Later w' w'') :
    Passes data w w'' ∧ Aborted data file w e file' w'' := by
  cases h with
  | unchanged same slot known refused =>
      exact ⟨Or.inl (slot.trans h'), .unchanged same (slot.trans h') known refused⟩
  | uncertain error failed usable fits fault slot =>
      exact ⟨Or.inr (Or.inl (slot.later h')),
        .uncertain error failed usable fits fault (slot.later h')⟩

/-- Only what fits gets to the path. -/
def Writing (data : Text) (file : File) (w w' : Disk) : Prop :=
  Later w w' ∨ (data.length ≤ file.limit ∧ Passes data w w')

/-- **One write.** It commits or aborts, through no other slots. -/
theorem write_sat :
    (write data).Sat (fun e => Writing data file w e.post) (fun _ => Committed data file w)
      (fun e => Aborted data file w e) file w := by
  rw [write, Prog.sat_bind]
  refine check_sat (fun hfile => ?_) fun e hfile hknown =>
    .unchanged rfl (Later.refl w) hknown fun h => absurd h hfile
  rw [Prog.sat_bind, Prog.sat_self]
  split
  · next hlarge => exact Prog.sat_fail.mpr (.unchanged rfl (Later.refl w) nofun fun _ _ => hlarge)
  next hfits =>
  refine Prog.Sat.mono (?_ : Prog.Sat _ (fun e => Passes data w e.post) _ _ _ _)
    (fun _ h => Or.inr ⟨by omega, h⟩) (fun _ _ _ h => h) fun _ _ _ h => h
  refine (quiet_perform .openDirectory).bind (fun w' h => Or.inl h)
    (fun c w' h hw => .unchanged rfl h nofun fun _ hready => absurd hready hw) fun _ w₁ h₁ => ?_
  -- the cleanups leave every outcome as it is
  refine (quiet_perform .closeDirectory).deferring (fun _ _ _ _ h h' => h.later h')
    (fun _ _ _ _ h h' => h.later h') ?_
  have hnext := h₁.trans (later_next w₁)
  rw [Prog.sat_bind]
  refine sat_syscall (fun hw => ⟨Or.inl hnext, .unchanged rfl hnext nofun fun _ hready =>
    absurd (h₁.ready hready) hw⟩) ⟨Or.inl (hnext.trans ⟨rfl, .frame (List.Subset.refl _) rfl rfl⟩), ?_⟩
  refine quiet_removeTemporary.deferring (fun _ _ _ _ h h' => h.later h')
    (fun _ _ _ _ h h' => h.later h') ((quiet_perform .closeTemp).deferring
    (fun _ _ _ _ h h' => h.later h') (fun _ _ _ _ h h' => h.later h') ?_)
  have h₂ : Later w { w₁.next with temporary := some ⟨⟨.regular, 0o600⟩, [], false⟩ } :=
    hnext.trans ⟨rfl, .frame (List.Subset.refl _) rfl rfl⟩
  generalize hw₂ : ({ w₁.next with temporary := some ⟨⟨.regular, 0o600⟩, [], false⟩ } : Disk) = w₂
    at h₂
  have htemp : w₂.temporary = some ⟨⟨.regular, 0o600⟩, [], false⟩ := by rw [← hw₂]
  have hslot := h₂.slot
  refine (replace_sat htemp rfl).mono (fun e h => h₂.passes h) ?_ ?_
  · rintro _ _ w₃ ⟨rfl, h₃⟩
    rw [hslot] at h₃
    exact ⟨rfl, hfile, by omega, h₂.became h₃⟩
  · rintro _ _ w₃ ⟨hw, hcase⟩
    have hw : ¬w.Ready := fun hready => hw (h₂.ready hready)
    rw [hslot] at hcase
    rcases hcase with ⟨hne, rfl, h₃⟩ | ⟨rfl, rfl, h₃⟩
    · exact .unchanged rfl (h₂.trans h₃) (absurd · hne) fun _ hready => absurd hready hw
    · exact .uncertain rfl rfl hfile (by omega) hw (h₂.became h₃)

/-! ### Errors -/

/-- A program that fails in a system call or with uncertain durability. -/
def FailsInCalls {α : Type} (m : FileM α) : Prop :=
  ∀ file w, m.Sat (fun _ => True) (fun _ _ _ => True)
    (fun e _ _ => e = .uncertain ∨ ∃ c, e = .io c) file w

theorem FailsInCalls.bind {α β : Type} {m : FileM α} {k : α → FileM β} (hm : FailsInCalls m)
    (hk : ∀ a, FailsInCalls (k a)) : FailsInCalls (m >>= k) := fun file w =>
  (hm file w).bind fun a file' w' _ => hk a file' w'

theorem FailsInCalls.deferring {α β : Type} {m : FileM α} {cleanup : FileM β}
    (hm : FailsInCalls m) : FailsInCalls (m.deferring cleanup) := by
  intro file w
  rw [Prog.sat_deferring]
  exact (hm file w).mono (fun _ h => h)
    (fun _ _ _ _ => Prog.sat_of_end (fun _ _ => trivial) trivial)
    fun e _ _ h => Prog.sat_of_end (J := fun _ _ => e = .uncertain ∨ ∃ c, e = .io c)
      (fun _ _ => trivial) h

theorem failsInCalls_syscall {c : Call} {f : Disk → Disk} :
    FailsInCalls (syscall c fun w => (.ok (), f w)) := fun _ _ =>
  sat_syscall (I := fun _ => True) (fun _ => ⟨trivial, .inr ⟨c, rfl⟩⟩) ⟨trivial, trivial⟩

theorem failsInCalls_replace (data : Text) : FailsInCalls (replace data) := by
  refine failsInCalls_syscall.bind fun _ => failsInCalls_syscall.bind fun _ => ?_
  refine FailsInCalls.bind failsInCalls_syscall fun _ => ?_
  refine FailsInCalls.bind failsInCalls_syscall fun _ => ?_
  refine FailsInCalls.bind (fun _ _ => Prog.sat_attempt.mpr
    (Prog.sat_of_end (J := fun _ _ => True) (fun _ _ => trivial) trivial)) fun r => ?_
  split
  · exact fun _ _ => Prog.sat_ret.mpr trivial
  · intro _ _
    rw [Prog.sat_bind, Prog.sat_update, Prog.sat_fail]
    exact .inl rfl

/-- A usable file refuses a write for its size, or a call has failed. -/
theorem write_errors (hfile : file.Usable) :
    (write data).Sat (fun _ => True) (fun _ _ _ => True)
      (fun e _ _ => file.limit < data.length ∨ e = .uncertain ∨ ∃ c, e = .io c) file w := by
  rw [write, Prog.sat_bind]
  refine check_sat (I := fun _ => True) (fun _ => ?_) fun _ hfile' => absurd hfile hfile'
  rw [Prog.sat_bind, Prog.sat_self]
  split
  · next hlarge => exact Prog.sat_fail.mpr (.inl hlarge)
  · have hcalls : FailsInCalls (do
        perform .openDirectory
        Prog.deferring
          (do
            syscall .createTemp fun w =>
              (.ok (), { w with temporary := some ⟨⟨.regular, 0o600⟩, [], false⟩ })
            ((replace data).deferring (perform .closeTemp)).deferring removeTemporary)
          (perform .closeDirectory)) :=
      failsInCalls_syscall.bind fun _ => FailsInCalls.deferring (failsInCalls_syscall.bind
        fun _ => (failsInCalls_replace data).deferring.deferring)
    exact (hcalls file w).mono (fun _ h => h) (fun _ _ _ h => h) fun _ _ _ h => .inr h

/-- What an unusable file answers. -/
theorem check_errors :
    check.Sat (fun _ => True) (fun _ file' w' => file' = file ∧ w' = w ∧ file.Usable)
      (fun e file' w' => file' = file ∧ w' = w ∧
        (e = .closed ∧ file.lock = false ∨ file.failed = some e)) file w := by
  rw [check, Prog.sat_bind, Prog.sat_self]
  cases hlock : file.lock with
  | false => exact Prog.sat_fail.mpr ⟨rfl, rfl, .inl ⟨rfl, rfl⟩⟩
  | true =>
      simp only [Bool.not_true, Bool.false_eq_true, if_false]
      cases hfailed : file.failed with
      | none => exact Prog.sat_ret.mpr ⟨rfl, rfl, hlock, hfailed⟩
      | some e => exact Prog.sat_fail.mpr ⟨rfl, rfl, .inr rfl⟩

/-- A close gives the lock back, whatever it reports. -/
theorem close_sat {I : Disk → Prop} {Q : File → Disk → Prop} (hidle : file.lock = false → Q file w)
    (hlive : ∀ w', file.lock = true → Became { w.slot with locked := false } w w' →
      I w' ∧ Q { file with lock := false } w') :
    close.Sat (fun e => I e.post) (fun _ => Q) (fun _ => Q) file w := by
  simp only [close, Prog.sat_bind, Prog.sat_self]
  cases hlock : file.lock with
  | false =>
      simp only [Bool.not_false, if_true, Prog.sat_ret]
      exact hidle hlock
  | true =>
      have hfree : Became { w.slot with locked := false } w
          { w.next with slot := { w.slot with locked := false } } :=
        ⟨rfl, .frame (List.tail_sublist _).subset rfl rfl⟩
      simp only [Bool.not_true, Bool.false_eq_true, if_false, release, Prog.sat_bind,
        Prog.sat_attempt, Prog.sat_effect, Prog.sat_update, Prog.sat_liftExcept]
      obtain ⟨hI, hQ⟩ := hlive _ hlock hfree
      refine ⟨hI, ?_⟩
      split <;> exact hQ

theorem mkdirAll_sat :
    mkdirAll.Sat (fun e => Later w e.post)
      (fun _ file' w' => file' = file ∧ Later w w' ∧ w'.directory ≠ none)
      (fun _ file' w' => file' = file ∧ Later w w' ∧ ¬w.Ready) file w := by
  rw [mkdirAll]
  have hdirectory : w.next.directory = w.directory := rfl
  cases hd : w.directory with
  | none =>
      refine sat_syscall (fun hw => ⟨later_next w, rfl, later_next w, hw⟩) ?_
      simp only [hdirectory, hd]
      have hmade : Later w { w.next with directory := some ⟨.directory, 0o700⟩ } := by
        refine ⟨rfl, (later_next w).noWorse.calm, fun hw => ⟨?_, hw.lockFile⟩⟩
        rintro _ ⟨⟩
        rfl
      exact ⟨hmade, trivial, hmade, nofun⟩
  | some info =>
      refine sat_syscall (fun hw => ⟨later_next w, rfl, later_next w, hw⟩) ?_
      simp only [hdirectory, hd]
      refine ⟨later_next w, ?_⟩
      by_cases hk : info.kind = .regular
      · simp only [hk, if_true]
        refine ⟨trivial, later_next w, fun hw => ?_⟩
        have hprivate := hw.sound.directory info hd
        rw [Metadata.isPrivate, hk] at hprivate
        cases hprivate
      · simp only [hk, if_false]
        exact ⟨trivial, later_next w, nofun⟩

theorem quiet_openLockFile : Quiet openLockFile := by
  refine quiet_syscall fun w => ⟨⟨rfl, id, fun hw => ⟨hw.directory, ?_⟩⟩, fun _ h => by cases h⟩
  rintro info ⟨⟩
  cases hl : w.lockFile with
  | none => rfl
  | some info => exact hw.lockFile info hl

/-- On the way to the lock. -/
def Locking (w w' : Disk) : Prop :=
  Later w w' ∨ (w.slot.locked = false ∧ Became { w.slot with locked := true } w w')

theorem lockFile_sat :
    lockFile.Sat (fun e => Locking w e.post)
      (fun _ file' w' => file' = file ∧ w.slot.locked = false ∧
        Became { w.slot with locked := true } w w')
      (fun _ file' w' => file' = file ∧ Later w w' ∧ (w.Ready → w.slot.locked = true)) file w := by
  have hslot : w.next.slot = w.slot := rfl
  rw [lockFile]
  cases hl : w.slot.locked with
  | true =>
      refine sat_syscall (fun hw => ⟨Or.inl (later_next w), rfl, later_next w, fun _ => rfl⟩) ?_
      simp only [hslot, hl, if_true]
      exact ⟨Or.inl (later_next w), trivial, later_next w, fun _ => trivial⟩
  | false =>
      have htaken : Became { w.slot with locked := true } w
          { w.next with slot := { w.slot with locked := true } } :=
        ⟨rfl, .frame (List.tail_sublist _).subset rfl rfl⟩
      refine sat_syscall (fun hw => ⟨Or.inl (later_next w), rfl, later_next w, fun h =>
        absurd h hw⟩) ?_
      simp only [hslot, hl, Bool.false_eq_true, if_false]
      exact ⟨Or.inr ⟨hl, htaken⟩, trivial, trivial, htaken⟩

theorem acquire_sat {limit : Int} :
    (acquire limit).Sat (fun e => Locking w e.post)
      (fun _ file' w' => file' = ⟨limit, true, none⟩ ∧ w.slot.locked = false ∧
        Became { w.slot with locked := true } w w')
      (fun _ _ w' => Later w w' ∧ (w.Ready → w.slot.locked = true)) file w := by
  rw [acquire]
  refine quiet_openLockFile.bind (fun w' h => Or.inl h)
    (fun c w' h hw => ⟨h, fun hready => absurd hready hw⟩) fun _ w₁ h₁ => ?_
  refine Prog.sat_bind.mpr (Prog.sat_attempt.mpr (lockFile_sat.mono (fun e h => ?_) ?_ ?_))
  · rw [Locking, h₁.slot] at h
    exact h.imp h₁.trans fun ⟨hfree, hb⟩ => ⟨hfree, h₁.became hb⟩
  · rintro _ _ w₂ ⟨rfl, hfree, hb⟩
    rw [h₁.slot] at hfree hb
    exact Prog.sat_update.mpr ⟨rfl, hfree, h₁.became hb⟩
  · rintro _ _ w₂ ⟨rfl, h₂, hready⟩
    rw [h₁.slot] at hready
    have h₂ := h₁.trans h₂
    have hheld : w.Ready → w.slot.locked = true := fun hw => hready (h₁.ready hw)
    refine Prog.sat_bind.mpr (Prog.sat_attempt.mpr ((quiet_perform .closeLock _ w₂).mono
      (fun _ h => Or.inl (h₂.trans h)) ?_ ?_))
    · rintro _ _ w₃ ⟨-, h₃⟩
      exact Prog.sat_fail.mpr ⟨h₂.trans h₃, hheld⟩
    · rintro _ _ w₃ ⟨-, h₃, -⟩
      exact Prog.sat_fail.mpr ⟨h₂.trans h₃, hheld⟩

/-- Opening takes the lock, which was free. On a ready disk nothing else is
in the way of a good path and bound. -/
theorem openFile_sat {path : String} {limit : Int} :
    (openFile path limit).Sat (fun e => Locking w e.post)
      (fun _ file' w' => file' = ⟨limit, true, none⟩ ∧ w.slot.locked = false ∧
        Became { w.slot with locked := true } w w')
      (fun _ _ w' => Later w w' ∧ (w.Ready → path ≠ "" → 0 < limit → limit ≤ 64 * 2 ^ 20 →
        w.slot.locked = true)) file w := by
  rw [openFile]
  split
  · next hbad =>
      refine Prog.sat_fail.mpr ⟨Later.refl w, fun _ hpath hpos hle => ?_⟩
      rcases hbad with hbad | hbad | hbad
      · exact absurd hbad hpath
      · omega
      · omega
  refine (quiet_perform .abs).bind (fun w' h => Or.inl h)
    (fun c w' h hw => ⟨h, fun hready => absurd hready hw⟩) fun _ w₁ h₁ => ?_
  refine Prog.Sat.bind (mkdirAll_sat.mono (fun _ h => Or.inl (h₁.trans h)) (fun _ _ _ h => h) ?_) ?_
  · rintro _ _ w' ⟨-, h, hw⟩
    exact ⟨h₁.trans h, fun hready => absurd (h₁.ready hready) hw⟩
  rintro _ file w₂ ⟨rfl, h₂, hd⟩
  have h₂ := h₁.trans h₂
  have h₃ := h₂.trans (later_next w₂)
  rw [Prog.sat_bind]
  refine sat_syscall (fun hw => ⟨Or.inl h₃, h₃, fun hready => absurd (h₂.ready hready) hw⟩)
    ⟨Or.inl h₃, ?_⟩
  obtain ⟨info, hinfo⟩ := Option.ne_none_iff_exists'.mp hd
  simp only [show w₂.next.directory = some info from hinfo]
  cases hp : info.isPrivate .directory with
  | false =>
      refine Prog.sat_fail.mpr ⟨h₃, fun hready => ?_⟩
      rw [(h₂.ready hready).sound.directory info hinfo] at hp
      cases hp
  | true =>
      have hacquire : ∀ {w₄ : Disk}, Later w w₄ →
          (acquire limit).Sat (fun e => Locking w e.post)
            (fun _ file' w' => file' = ⟨limit, true, none⟩ ∧ w.slot.locked = false ∧
              Became { w.slot with locked := true } w w')
            (fun _ _ w' => Later w w' ∧ (w.Ready → path ≠ "" → 0 < limit →
              limit ≤ 64 * 2 ^ 20 → w.slot.locked = true)) file w₄ := by
        intro w₄ h₄
        have hslot := h₄.slot
        refine acquire_sat.mono (fun e h => ?_) ?_ ?_
        · rw [Locking, hslot] at h
          exact h.imp h₄.trans fun ⟨hfree, hb⟩ => ⟨hfree, h₄.became hb⟩
        · rintro _ file' w' ⟨hopen, hfree, hb⟩
          rw [hslot] at hfree hb
          exact ⟨hopen, hfree, h₄.became hb⟩
        · rintro _ file' w' ⟨h₅, hready⟩
          rw [hslot] at hready
          exact ⟨h₄.trans h₅, fun hw _ _ _ => hready (h₄.ready hw)⟩
      refine Prog.sat_bind.mpr (Prog.sat_attempt.mpr ((checkPrivateFile_sat .lstatLock rfl).mono
        (fun _ h => Or.inl (h₃.trans h)) ?_ ?_))
      · rintro _ _ w₄ ⟨rfl, h₄, -⟩
        exact hacquire (h₃.trans h₄)
      · rintro e _ w₄ ⟨rfl, h₄, ⟨rfl, -⟩ | ⟨hne, hready⟩⟩
        · exact hacquire (h₃.trans h₄)
        · split
          · next h => cases h
          · next h => exact absurd (Except.error.inj h) hne
          · refine Prog.sat_fail.mpr ⟨h₃.trans h₄, fun hw => ?_⟩
            obtain ⟨i, hi, hpub⟩ := hready (h₃.ready hw)
            rw [(h₃.ready hw).sound.lockFile i hi] at hpub
            cases hpub

end File

end CyberiaVpn.Snapshot
