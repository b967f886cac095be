import CyberiaVpn.Effects.Machine
import CyberiaVpn.Effects.Trace
import CyberiaVpn.Snapshot.Contract

/-!
# Runs of a snapshot file

Writes, reads and checks on one `File` in any order, with any system call
failing. `File.write_sat` says what one write may do to the path and to the
`File`; which of its system calls were made is read off its trace. A write
that fails has either not renamed its temporary file, and then nothing has
changed, or it has failed to sync the directory, and then the `File` answers
with an error from there on.
-/

namespace CyberiaVpn.Snapshot.File

open Effects
open Control (Text)

abbrev Calls := List (Entry File Disk Call)

/-- The environment makes the call fail. -/
def Fails (e : Entry File Disk Call) : Prop := e.pre.env.faults.head? = some true

def Renamed (t : Calls) : Prop := ∃ e ∈ t, e.effect = .rename ∧ ¬Fails e

def SyncFailed (t : Calls) : Prop := ∃ e ∈ t, e.effect = .syncDirectory ∧ Fails e

/-! ## The calls of a write -/

/-- None of the calls is on the path itself. -/
def Aside (t : Calls) : Prop := ∀ e ∈ t, e.effect ≠ .rename ∧ e.effect ≠ .syncDirectory

/-- How far a write has come that fails, and what it leaves of the file. -/
inductive Broken (file : File) (t : Calls) (file' : File) : Prop where
  | before (renamed : ¬Renamed t) (synced : ¬SyncFailed t) (same : file' = file)
  | after (renamed : Renamed t) (synced : SyncFailed t)
      (failed : file' = { file with failed := some .uncertain })

section Calls

variable {file file' : File} {t t' : Calls} {w : Disk} {α β : Type}

theorem renamed_append : Renamed (t ++ t') ↔ Renamed t ∨ Renamed t' := by
  simp only [Renamed, List.mem_append, or_and_right, exists_or]

theorem syncFailed_append : SyncFailed (t ++ t') ↔ SyncFailed t ∨ SyncFailed t' := by
  simp only [SyncFailed, List.mem_append, or_and_right, exists_or]

theorem Aside.not_renamed (h : Aside t) : ¬Renamed t :=
  fun ⟨e, he, hrename, _⟩ => (h e he).1 hrename

theorem Aside.not_syncFailed (h : Aside t) : ¬SyncFailed t :=
  fun ⟨e, he, hsync, _⟩ => (h e he).2 hsync

theorem Aside.broken (h : Aside t) : Broken file t file :=
  .before h.not_renamed h.not_syncFailed rfl

theorem Aside.then_broken (h : Aside t) (h' : Broken file t' file') :
    Broken file (t ++ t') file' := by
  cases h' with
  | before renamed synced same =>
      refine .before ?_ ?_ same
      · exact fun hrenamed => (renamed_append.mp hrenamed).elim h.not_renamed renamed
      · exact fun hsynced => (syncFailed_append.mp hsynced).elim h.not_syncFailed synced
  | after renamed synced failed =>
      exact .after (renamed_append.mpr (.inr renamed)) (syncFailed_append.mpr (.inr synced)) failed

theorem Broken.then_aside (h : Broken file t file') (h' : Aside t') :
    Broken file (t ++ t') file' := by
  cases h with
  | before renamed synced same =>
      refine .before ?_ ?_ same
      · exact fun hrenamed => (renamed_append.mp hrenamed).elim renamed h'.not_renamed
      · exact fun hsynced => (syncFailed_append.mp hsynced).elim synced h'.not_syncFailed
  | after renamed synced failed =>
      exact .after (renamed_append.mpr (.inl renamed)) (syncFailed_append.mpr (.inl synced)) failed

/-- Either end of a call is one entry, and the file is as it was. -/
theorem ends_syscall {c : Call} {f : Disk → Except FileError α × Disk}
    {Q : Calls → α → File → Disk → Prop} {E : Calls → FileError → File → Disk → Prop}
    (hfault : ∀ e : Entry File Disk Call, e.effect = c → Fails e → E [e] (.io c) file w.next)
    (hdo : ∀ e : Entry File Disk Call, e.effect = c → ¬Fails e →
      match (f w.next).1 with
      | .ok a => Q [e] a file (f w.next).2
      | .error error => E [e] error file (f w.next).2) :
    (syscall c f : FileM α).Ends Q E file w := by
  rw [syscall, Prog.ends_effect]
  by_cases hfails : w.env.faults.head? = some true
  · simp only [hfails, if_true]
    exact hfault _ rfl hfails
  · simp only [hfails, if_false]
    have h := hdo ⟨file, w, c, (f w.next).2⟩ rfl hfails
    cases hr : (f w.next).1 with
    | ok a => rw [hr] at h; exact h
    | error e => rw [hr] at h; exact h

/-- A program that leaves the path and the file alone. -/
def Apart (m : FileM α) : Prop :=
  ∀ file w, m.Ends (fun t _ file' _ => Aside t ∧ file' = file)
    (fun t _ file' _ => Aside t ∧ file' = file) file w

theorem apart_syscall {c : Call} {f : Disk → Except FileError α × Disk} (hrename : c ≠ .rename)
    (hsync : c ≠ .syncDirectory) : Apart (syscall c f) := by
  have haside : ∀ e : Entry File Disk Call, e.effect = c → Aside [e] := by
    rintro e rfl e' he'
    rw [List.mem_singleton.mp he']
    exact ⟨hrename, hsync⟩
  intro file w
  refine ends_syscall (fun e he _ => ⟨haside e he, rfl⟩) fun e he _ => ?_
  split <;> exact ⟨haside e he, rfl⟩

/-- A write that fails has got as far as the directory sync, or not to the
rename. -/
def Breaks (m : FileM α) (file : File) (w : Disk) : Prop :=
  m.Ends (fun _ _ _ _ => True) (fun t _ file' _ => Broken file t file') file w

theorem Apart.bind {m : FileM α} {k : α → FileM β} (hm : Apart m)
    (hk : ∀ a w', Breaks (k a) file w') : Breaks (m >>= k) file w := by
  rw [Breaks, Prog.ends_bind]
  refine (hm file w).mono ?_ ?_
  · rintro t a _ w' ⟨hside, rfl⟩
    exact (hk a w').mono (fun _ _ _ _ _ => trivial) fun _ _ _ _ h => hside.then_broken h
  · rintro t e _ w' ⟨hside, rfl⟩
    exact hside.broken

theorem Apart.deferring {m : FileM α} {cleanup : FileM β} (hc : Apart cleanup)
    (hm : Breaks m file w) : Breaks (m.deferring cleanup) file w := by
  rw [Breaks, Prog.ends_deferring]
  refine hm.mono ?_ ?_
  · intro t a file' w' _
    exact (hc file' w').mono (fun _ _ _ _ _ => trivial) fun _ _ _ _ _ => trivial
  · intro t e file' w' h
    refine (hc file' w').mono ?_ ?_
    · rintro t' _ _ _ ⟨hside, rfl⟩
      exact h.then_aside hside
    · rintro t' _ _ _ ⟨hside, rfl⟩
      exact h.then_aside hside

theorem breaks_replace (data : Text) : Breaks (replace data) file w := by
  rw [replace]
  refine Apart.bind (apart_syscall (by decide) (by decide)) fun _ w₁ => ?_
  refine Apart.bind (apart_syscall (by decide) (by decide)) fun _ w₂ => ?_
  refine Apart.bind (apart_syscall (by decide) (by decide)) fun _ w₃ => ?_
  rw [Breaks, Prog.ends_bind, rename]
  refine ends_syscall (fun e he hfails => ?_) fun e he hdone => ?_
  · refine .before ?_ ?_ rfl
    · rintro ⟨e', he', -, hdone⟩
      exact hdone (List.mem_singleton.mp he' ▸ hfails)
    · rintro ⟨e', he', hsync, -⟩
      rw [List.mem_singleton.mp he', he] at hsync
      cases hsync
  · dsimp only
    rw [Prog.ends_bind, Prog.ends_attempt, syncDirectory]
    refine ends_syscall (fun e' he' hfails => ?_) fun _ _ _ => ?_
    · refine Prog.ends_update_bind.mpr (Prog.ends_fail.mpr (.after ?_ ?_ rfl))
      · exact ⟨e, by simp, he, hdone⟩
      · exact ⟨e', by simp, he', hfails⟩
    · trivial

theorem aside_nil : Aside [] := fun _ he => absurd he List.not_mem_nil

theorem apart_check : Apart check := by
  intro file w
  rw [check, Prog.ends_self_bind]
  split
  · exact Prog.ends_fail.mpr ⟨aside_nil, rfl⟩
  · split
    · exact Prog.ends_fail.mpr ⟨aside_nil, rfl⟩
    · exact Prog.ends_pure.mpr ⟨aside_nil, rfl⟩

theorem breaks_write (data : Text) : Breaks (write data) file w := by
  rw [write]
  refine apart_check.bind fun _ w₁ => ?_
  rw [Breaks, Prog.ends_self_bind]
  split
  · exact Prog.ends_fail.mpr aside_nil.broken
  · refine Apart.bind (apart_syscall (by decide) (by decide)) fun _ w₂ => ?_
    refine Apart.deferring (apart_syscall (by decide) (by decide)) ?_
    refine Apart.bind (apart_syscall (by decide) (by decide)) fun _ w₃ => ?_
    exact Apart.deferring (apart_syscall (by decide) (by decide))
      (Apart.deferring (apart_syscall (by decide) (by decide)) (breaks_replace data))

end Calls

/-! ## Runs -/

inductive Request where
  | check
  | read
  | write (data : Text)
  deriving DecidableEq

/-- Only a read returns something. -/
def Request.run : Request → FileM (Option Text)
  | .check => do
      File.check
      return none
  | .read => do
      let data ← File.read
      return some data
  | .write data => do
      File.write data
      return none

/-- One call with all that became of it. -/
def serve (s : File × Disk) (r : Request) :
    Option (Outcome File Disk Call FileError (Option Text) × File × Disk) :=
  let o := r.run s.1 s.2
  some (o, o.self, o.world)

abbrev Run := List (Turn (File × Disk) Request (Outcome File Disk Call FileError (Option Text)))

/-- What the path holds. -/
def content (w : Disk) : Option Text := w.slot.target.map Inode.content

/-- A write that returns without an error acknowledges its data. -/
def acknowledge (initial : Option Text) :
    Request → Except FileError (Option Text) → Option Text
  | .write data, .ok _ => some data
  | _, _ => initial

/-- The data of the last write that returned without an error. -/
def acknowledged (initial : Option Text) : Run → Option Text
  | [] => initial
  | turn :: run => acknowledged (acknowledge initial turn.op turn.answer.result) run

/-- What is to hold of the writes of a run from `file` and `w`. -/
structure Atomic (file : File) (w : Disk) (run : Run) : Prop where
  /-- Where `Check` passes, the path holds what was acknowledged last. -/
  committed : ∀ pre post, run = pre ++ post →
    (check (last (file, w) pre).1 (last (file, w) pre).2).result = .ok () →
      content (last (file, w) pre).2 = acknowledged (content w) pre
  /-- A write that fails without having renamed leaves everything. -/
  intact : ∀ pre turn post data e, run = pre ++ turn :: post → turn.op = .write data →
    turn.answer.result = .error e → ¬Renamed turn.answer.trace →
      turn.after.1 = turn.before.1 ∧ turn.after.2.slot = turn.before.2.slot
  /-- Otherwise it has failed to sync the directory. -/
  broken : ∀ pre turn post data e, run = pre ++ turn :: post → turn.op = .write data →
    turn.answer.result = .error e → (Renamed turn.answer.trace ↔ SyncFailed turn.answer.trace)
  /-- From then on every call fails. -/
  stuck : ∀ pre turn post data e, run = pre ++ turn :: post → turn.op = .write data →
    turn.answer.result = .error e → SyncFailed turn.answer.trace →
      ∀ pre' post', post = pre' ++ post' → ∀ r : Request, ∃ e',
        (r.run (last turn.after pre').1 (last turn.after pre').2).result = .error e'
  /-- What does not fit is refused without a system call. -/
  oversized : ∀ pre turn post data, run = pre ++ turn :: post → turn.op = .write data →
    turn.before.1.limit < data.length →
      (∃ e, turn.answer.result = .error e) ∧ turn.answer.trace = [] ∧ turn.after = turn.before

section Requests

variable {file file' : File} {w w' : Disk} {r : Request}

/-- A file that is closed or uncertain refuses everything. -/
theorem sat_unusable (hfile : ¬file.Usable) :
    r.run.Sat (fun _ => False) (fun _ _ _ => False)
      (fun _ file' w' => file' = file ∧ w' = w) file w := by
  have hcheck : ∀ {α : Type} {k : Unit → FileM α}, (check >>= k).Sat (fun _ => False)
      (fun _ _ _ => False) (fun _ file' w' => file' = file ∧ w' = w) file w := by
    intro α k
    rw [Prog.sat_bind]
    exact check_sat (I := fun _ => False) (absurd · hfile) fun _ _ _ => ⟨rfl, rfl⟩
  cases r with
  | check => exact hcheck
  | read =>
      rw [Request.run, Prog.sat_bind]
      exact hcheck.mono (fun _ h => h) (fun _ _ _ h => h.elim) fun _ _ _ h => h
  | write data =>
      rw [Request.run, Prog.sat_bind]
      exact hcheck.mono (fun _ h => h) (fun _ _ _ h => h.elim) fun _ _ _ h => h

/-- What a call on the path answers, and what it leaves where it fails. -/
theorem sat_request (r : Request) :
    r.run.Sat (fun _ => True)
      (fun _ file' w' => file' = file ∧ content w' =
        match r with
        | .write data => some data
        | _ => content w)
      (fun _ file' w' => ¬file'.Usable ∨ file' = file ∧ w'.slot = w.slot) file w := by
  by_cases hfile : file.Usable
  case neg =>
    refine (sat_unusable hfile).mono (fun _ _ => trivial) (fun _ _ _ h => h.elim) ?_
    rintro _ _ _ ⟨rfl, rfl⟩
    exact .inl hfile
  cases r with
  | check =>
      rw [Request.run, Prog.sat_bind]
      exact check_sat (I := fun _ => True) (fun _ => Prog.sat_ret.mpr ⟨rfl, rfl⟩) fun _ h _ => .inl h
  | read =>
      rw [Request.run, Prog.sat_bind]
      refine (read_sat hfile).mono (fun _ _ => trivial) ?_ ?_
      · rintro data _ w' ⟨rfl, hlater, -⟩
        exact Prog.sat_ret.mpr ⟨rfl, by rw [content, content, hlater.slot]⟩
      · rintro e _ w' ⟨rfl, hlater, -⟩
        exact .inr ⟨rfl, hlater.slot⟩
  | write data =>
      rw [Request.run, Prog.sat_bind]
      refine write_sat.mono (fun _ _ => trivial) ?_ ?_
      · rintro _ _ w' h
        exact Prog.sat_ret.mpr ⟨h.same, by rw [content, h.slot.slot]; rfl⟩
      · rintro e file' w' (⟨rfl, hlater⟩ | ⟨-, rfl⟩)
        · exact .inr ⟨rfl, hlater.slot⟩
        · exact .inl fun husable => absurd husable.2 nofun

/-- One call: where the file is usable after it, the path holds what was
acknowledged. -/
theorem content_request {c : Option Text} (hcontent : file.Usable → content w = c)
    (husable : (r.run file w).self.Usable) :
    content (r.run file w).world = acknowledge c r (r.run file w).result := by
  rcases (sat_request r).result with ⟨a, hok, hsame, hdone⟩ | ⟨e, herror, hend⟩
  · rw [hsame] at husable
    rw [hok, hdone]
    cases r with
    | check => exact hcontent husable
    | read => exact hcontent husable
    | write data => rfl
  · obtain ⟨hsame, hslot⟩ := hend.resolve_left (not_not.mpr husable)
    rw [hsame] at husable
    rw [herror, content, hslot, ← content, hcontent husable]
    cases r <;> rfl

theorem content_last {run : Run} {s : File × Disk} {c : Option Text} (h : Linked serve s run)
    (hs : s.1.Usable → content s.2 = c) (hlast : (last s run).1.Usable) :
    content (last s run).2 = acknowledged c run := by
  induction h generalizing c with
  | nil s => exact hs hlast
  | cons hstep hrun ih =>
      cases hstep
      exact ih (content_request hs) hlast

/-- What is unusable stays so. -/
theorem unusable_last {run : Run} {s : File × Disk} (h : Linked serve s run)
    (hs : ¬s.1.Usable) : ¬(last s run).1.Usable := by
  induction h with
  | nil s => exact hs
  | cons hstep hrun ih =>
      cases hstep
      refine ih ?_
      obtain ⟨-, -, hsame, -⟩ := (sat_unusable hs).failed
      rw [hsame]
      exact hs

theorem usable_of_check (h : (check file w).result = .ok ()) : file.Usable := by
  by_contra hfile
  have hsat : check.Sat (fun _ => False) (fun _ _ _ => False) (fun _ _ _ => True) file w :=
    check_sat (I := fun _ => False) (absurd · hfile) fun _ _ _ => trivial
  exact hsat.of_ok h

/-- A write that fails: how far it has come and what it has left. -/
theorem ends_write (data : Text) :
    (Request.write data).run.Ends (fun _ _ _ _ => True)
      (fun t e file' w' => Broken file t file' ∧ Aborted data file w e file' w') file w := by
  rw [Request.run, Prog.ends_bind]
  exact (breaks_write data).and write_sat.ends |>.mono
    (fun _ _ _ _ _ => Prog.ends_pure.mpr trivial) fun _ _ _ _ h => h

theorem sat_oversized {data : Text} (hlarge : file.limit < data.length) :
    (Request.write data).run.Sat (fun _ => False) (fun _ _ _ => False)
      (fun _ file' w' => file' = file ∧ w' = w) file w := by
  rw [Request.run, Prog.sat_bind, write, Prog.sat_bind]
  refine check_sat (I := fun _ => False) (fun _ => ?_) fun _ _ _ => ⟨rfl, rfl⟩
  rw [Prog.sat_bind, Prog.sat_self, if_pos hlarge]
  exact Prog.sat_fail.mpr ⟨rfl, rfl⟩

end Requests

section Runs

variable {file : File} {w : Disk} {pre post : Run} {data : Text} {e : FileError}
  {turn : Turn (File × Disk) Request (Outcome File Disk Call FileError (Option Text))}

/-- A turn of a run has the outcome of its request. -/
theorem turn_eq (hlinked : Linked serve (file, w) (pre ++ turn :: post)) :
    turn.answer = turn.op.run turn.before.1 turn.before.2 ∧
      turn.after = (turn.answer.self, turn.answer.world) := by
  obtain ⟨-, -, hstep, -⟩ := hlinked.split
  obtain ⟨hanswer, hafter⟩ := Prod.mk.inj (Option.some.inj hstep)
  exact ⟨hanswer.symm, by rw [← hanswer]; exact hafter.symm⟩

theorem broken_turn (hlinked : Linked serve (file, w) (pre ++ turn :: post))
    (hop : turn.op = .write data) (herror : turn.answer.result = .error e) :
    Broken turn.before.1 turn.answer.trace turn.after.1 ∧
      Aborted data turn.before.1 turn.before.2 e turn.after.1 turn.after.2 := by
  obtain ⟨hanswer, hafter⟩ := turn_eq hlinked
  rw [hafter]
  rw [hanswer, hop] at herror ⊢
  exact (ends_write data).of_error herror

end Runs

/-- **Writes are atomic.** Whatever is asked of a file and whichever system
calls fail, where `Check` passes the path holds the data of the last write
that was acknowledged. A write that fails either has not renamed and has
changed nothing, or it has not synced the directory and no call succeeds
any more. -/
theorem runs_atomic {file : File} {w : Disk} {requests : List Request} {run : Run}
    (hrun : trace serve (file, w) requests = some run) : Atomic file w run := by
  have hlinked := linked_of_trace hrun
  refine ⟨?_, ?_, ?_, ?_, ?_⟩
  · rintro pre post rfl hcheck
    exact content_last (linked_append_iff.mp hlinked).1 (fun _ => rfl) (usable_of_check hcheck)
  · rintro pre turn post data e rfl hop herror hrenamed
    obtain ⟨hbroken, haborted⟩ := broken_turn hlinked hop herror
    cases haborted with
    | unchanged same slot => exact ⟨same, slot.slot⟩
    | uncertain _ failed usable =>
        cases hbroken with
        | before _ _ same =>
            have hnone := usable.2
            rw [← same, failed] at hnone
            cases hnone
        | after renamed => exact absurd renamed hrenamed
  · rintro pre turn post data e rfl hop herror
    obtain ⟨hbroken, -⟩ := broken_turn hlinked hop herror
    cases hbroken with
    | before renamed synced => exact iff_of_false renamed synced
    | after renamed synced => exact iff_of_true renamed synced
  · rintro pre turn post data e rfl hop herror hsynced pre' post' rfl r
    obtain ⟨hbroken, -⟩ := broken_turn hlinked hop herror
    have hfile : ¬turn.after.1.Usable := by
      cases hbroken with
      | before _ synced => exact absurd hsynced synced
      | after _ _ failed =>
          rw [failed]
          exact fun husable => absurd husable.2 nofun
    obtain ⟨-, -, -, hlater⟩ := hlinked.split
    have hstuck := unusable_last (linked_append_iff.mp hlater).1 hfile
    obtain ⟨e', herror', -⟩ := (sat_unusable hstuck).failed
    exact ⟨e', herror'⟩
  · rintro pre turn post data rfl hop hlarge
    obtain ⟨hanswer, hafter⟩ := turn_eq hlinked
    have hsat := sat_oversized hlarge (w := turn.before.2)
    rw [← hop] at hsat
    rw [hafter, hanswer]
    obtain ⟨e, herror, hself, hworld⟩ := hsat.failed
    exact ⟨⟨e, herror⟩, List.eq_nil_iff_forall_not_mem.mpr hsat.1, Prod.ext hself hworld⟩

def exampleFile : File := ⟨8, true, none⟩

/-- The second write cannot create its temporary file, and the third one
cannot sync the directory. -/
def exampleDisk : Disk :=
  { emptyDisk with
    slot := ⟨none, [], true⟩
    env := ⟨List.replicate 11 false ++ [true] ++ List.replicate 10 false ++ [true], []⟩ }

def exampleRequests : List Request :=
  [.write [1], .write [2], .read, .write [3], .check]

theorem runs_atomic_example : ∃ run,
    trace serve (exampleFile, exampleDisk) exampleRequests = some run ∧
    run.map (fun turn => turn.answer.result) =
      [.ok none, .error (.io .createTemp), .ok (some [1]), .error .uncertain, .error .uncertain] ∧
    Atomic exampleFile exampleDisk run := by
  obtain ⟨run, hrun⟩ := Option.isSome_iff_exists.mp
    (rfl : (trace serve (exampleFile, exampleDisk) exampleRequests).isSome = true)
  refine ⟨run, hrun, ?_, runs_atomic hrun⟩
  cases hrun
  rfl

end CyberiaVpn.Snapshot.File
