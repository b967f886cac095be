import Mathlib.Data.List.Permutation
import CyberiaVpn.Control.Netip
import CyberiaVpn.Effects.Durable

/-!
# Snapshot files

`services/control-api/internal/snapshot/file.go`: one state file that is
replaced as a whole, with a lock file beside it. The disk is what the
package sees of it. Every system call may be made to fail by the
environment and then does nothing.

A crash keeps what was synced. A rename that no directory sync followed
may be lost, so besides its current content the path has the contents a
crash may bring back (`Slot.uncertain`); content that was never synced
comes back cut short.

A sync of the directory that fails leaves the new content in place and
makes the `File` refuse everything from then on.
-/

namespace CyberiaVpn.Snapshot

open Effects
open Control (Text)

/-! ## The disk -/

inductive Kind where
  | regular
  | directory
  | other
  deriving DecidableEq

/-- What `Lstat` tells. -/
structure Metadata where
  kind : Kind
  perm : UInt32
  deriving DecidableEq

def Metadata.isPrivate (info : Metadata) (kind : Kind) : Bool :=
  info.kind == kind && info.perm &&& 0o077 == 0

structure Inode where
  info : Metadata
  content : Text
  synced : Bool
  deriving DecidableEq

/-- The path of a snapshot: what it names, what it may name after a crash
besides, and whether some process holds its lock. -/
structure Slot where
  target : Option Inode
  uncertain : List (Option Inode)
  locked : Bool
  deriving DecidableEq

/-- Which of the coming system calls fail, and in which orders the coming
map iterations go. Past the end calls succeed and iterations are in
order of insertion. -/
structure Env where
  faults : List Bool
  orders : List Nat
  deriving DecidableEq

structure Disk where
  slot : Slot
  directory : Option Metadata
  lockFile : Option Metadata
  temporary : Option Inode
  env : Env
  deriving DecidableEq

/-- Nothing is there yet, and nothing will fail. -/
def emptyDisk : Disk := ⟨⟨none, [], false⟩, none, none, none, ⟨[], []⟩⟩

inductive Call where
  | abs
  | mkdirAll
  | lstatDirectory
  | lstatLock
  | openLock
  | flock
  | closeLock
  | lstatTarget
  | openTarget
  | readTarget
  | openDirectory
  | createTemp
  | writeTemp
  | syncTemp
  | closeTemp
  | rename
  | syncDirectory
  | removeTemp
  | closeDirectory
  | iterate
  /-- Not a call: what is in place becomes durable. -/
  | settle
  deriving DecidableEq

inductive FileError where
  | invalid (reason : String)
  | io (call : Call)
  | notExist
  | locked
  | closed
  /-- The commit's durability is uncertain. -/
  | uncertain
  deriving DecidableEq

/-- A private file with this content, on stable storage. -/
def saved (data : Text) : Inode := ⟨⟨.regular, 0o600⟩, data, true⟩

namespace Slot

variable (v : Slot)

def renamed (data : Text) : Slot :=
  { v with target := some (saved data), uncertain := v.target :: v.uncertain }

def committed (data : Text) : Slot :=
  { v with target := some (saved data), uncertain := [] }

/-- All that the path may name after a crash. -/
def possible : List (Option Inode) := v.target :: v.uncertain

end Slot

/-- Of content that is not on stable storage only a part is left. -/
def Inode.afterCrash (kept : Nat) (i : Inode) : Inode :=
  if i.synced then i else { i with content := i.content.take kept, synced := true }

/-- Without a choice only the processes die. With one the machine restarts
with the so-manieth possible content. -/
def Disk.crash : Option (Nat × Nat) → Disk → Disk
  | none, w => { w with slot := { w.slot with locked := false } }
  | some (n, kept), w =>
      { w with
        slot :=
          { target := ((w.slot.possible[n]?).getD w.slot.target).map (Inode.afterCrash kept)
            uncertain := []
            locked := false } }

/-! ## System calls -/

section

variable {σ ε α : Type}

/-- One answer of the environment is used up. -/
def Disk.next (w : Disk) : Disk := { w with env := ⟨w.env.faults.tail, w.env.orders⟩ }

/-- A call that fails does nothing. -/
def syscall (c : Call) (f : Disk → Except FileError α × Disk) : Prog σ Disk Call FileError α :=
  Prog.effect fun w =>
    if w.env.faults.head? = some true then (c, .error (.io c), w.next) else (c, f w.next)

/-- A call with no effect on what is modelled. -/
def perform (c : Call) : Prog σ Disk Call FileError Unit := syscall c fun w => (.ok (), w)

/-- What the path names now is what it names after any crash. -/
def settle : Prog σ Disk Call ε Unit :=
  Prog.effect fun w => (.settle, .ok (), { w with slot := { w.slot with uncertain := [] } })

/-- `range` over a map: its entries in an order of the runtime's choice. -/
def iterate (entries : List α) : Prog σ Disk Call ε (List α) :=
  Prog.effect fun w =>
    match w.env.orders with
    | [] => (.iterate, .ok entries, w)
    | n :: rest =>
        (.iterate, .ok ((entries.permutations[n]?).getD entries),
          { w with env := { w.env with orders := rest } })

end

/-! ## The code -/

/-- The path is fixed by the disk; `lock` says whether the lock file is
open. -/
structure File where
  limit : Int
  lock : Bool
  failed : Option FileError
  deriving DecidableEq

namespace File

abbrev FileM := Prog File Disk Call FileError

def zero : File := ⟨0, false, none⟩

/-- `checkPrivateFile`. -/
def checkPrivateFile (c : Call) (info : Disk → Option Metadata) : FileM Unit := do
  match ← syscall c fun w => (.ok (info w), w) with
  | none => Prog.fail .notExist
  | some info =>
      if !info.isPrivate .regular then
        Prog.fail (.invalid "snapshot must be a private regular file")
      else Prog.ret ()

def lockFile : FileM Unit :=
  syscall .flock fun w =>
    if w.slot.locked then (.error .locked, w)
    else (.ok (), { w with slot := { w.slot with locked := true } })

def mkdirAll : FileM Unit :=
  syscall .mkdirAll fun w =>
    match w.directory with
    | none => (.ok (), { w with directory := some ⟨.directory, 0o700⟩ })
    | some info => (if info.kind = .regular then .error (.io .mkdirAll) else .ok (), w)

def openLockFile : FileM Unit :=
  syscall .openLock fun w =>
    (.ok (), { w with lockFile := some (w.lockFile.getD ⟨.regular, 0o600⟩) })

/-- The last part of `Open`, from the lock file on. -/
def acquire (limit : Int) : FileM Unit := do
  openLockFile
  match ← lockFile.attempt with
  | .ok () => Prog.update fun _ => ⟨limit, true, none⟩
  | .error e =>
      let _ ← (perform .closeLock).attempt
      Prog.fail e

/-- `Open`; the path is absolute once it is not empty. -/
def openFile (path : String) (limit : Int) : FileM Unit := do
  if path = "" ∨ limit ≤ 0 ∨ 64 * 2 ^ 20 < limit then
    Prog.fail (.invalid "snapshot path and size bound in (0, 64 MiB] required")
  else
    perform .abs
    mkdirAll
    match ← syscall .lstatDirectory fun w => (.ok w.directory, w) with
    | none => Prog.fail .notExist
    | some info =>
        if !info.isPrivate .directory then
          Prog.fail (.invalid "snapshot directory must be private and must not be a symlink")
        else
          match ← (checkPrivateFile .lstatLock Disk.lockFile).attempt with
          | .ok () | .error .notExist => acquire limit
          | .error e => Prog.fail e

def check : FileM Unit := do
  let file ← Prog.self
  if !file.lock then Prog.fail .closed
  else
    match file.failed with
    | some e => Prog.fail e
    | none => Prog.ret ()

def read : FileM Text := do
  check
  let file ← Prog.self
  checkPrivateFile .lstatTarget fun w => w.slot.target.map Inode.info
  perform .openTarget
  let data ← syscall .readTarget fun w =>
    (.ok (((w.slot.target.map Inode.content).getD []).take (file.limit + 1).toNat), w)
  if file.limit < data.length then Prog.fail (.invalid "snapshot exceeds size limit")
  else Prog.ret data

/-- The path names the temporary file from now on; a crash may undo that. -/
def rename : FileM Unit :=
  syscall .rename fun w =>
    (.ok (), { w with
      slot := { w.slot with
        target := w.temporary, uncertain := w.slot.target :: w.slot.uncertain }
      temporary := none })

def syncDirectory : FileM Unit :=
  syscall .syncDirectory fun w => (.ok (), { w with slot := { w.slot with uncertain := [] } })

/-- From the temporary file's content to the commit. -/
def replace (data : Text) : FileM Unit := do
  syscall .writeTemp fun w =>
    (.ok (), { w with temporary := w.temporary.map fun i =>
      { i with content := data, synced := false } })
  syscall .syncTemp fun w =>
    (.ok (), { w with temporary := w.temporary.map fun i => { i with synced := true } })
  perform .closeTemp
  rename
  match ← syncDirectory.attempt with
  | .ok () => Prog.ret ()
  | .error _ =>
      Prog.update fun file => { file with failed := some .uncertain }
      Prog.fail .uncertain

def removeTemporary : FileM Unit :=
  syscall .removeTemp fun w => (.ok (), { w with temporary := none })

def write (data : Text) : FileM Unit := do
  check
  let file ← Prog.self
  if file.limit < data.length then Prog.fail (.invalid "snapshot exceeds size limit")
  else
    perform .openDirectory
    Prog.deferring
      (do
        syscall .createTemp fun w =>
          (.ok (), { w with temporary := some ⟨⟨.regular, 0o600⟩, [], false⟩ })
        ((replace data).deferring (perform .closeTemp)).deferring removeTemporary)
      (perform .closeDirectory)

/-- `lock.Close`: the lock is gone also when this reports an error. -/
def release : FileM Unit :=
  Prog.effect fun w =>
    (.closeLock, if w.env.faults.head? = some true then .error (.io .closeLock) else .ok (),
      { w.next with slot := { w.slot with locked := false } })

def close : FileM Unit := do
  let file ← Prog.self
  if !file.lock then Prog.ret ()
  else
    let closed : Except FileError Unit ← release.attempt
    Prog.update fun file => { file with lock := false }
    Prog.liftExcept closed

end File

end CyberiaVpn.Snapshot
