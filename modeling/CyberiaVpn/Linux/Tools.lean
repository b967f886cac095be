import CyberiaVpn.Linux.Paths
import CyberiaVpn.Transport.Types

/-!
# Executable and key references

The path checks of `core/transport/src/linux.rs`. The file system is what
`symlink_metadata` answers for each path.
-/

namespace CyberiaVpn.Linux

open Transport

/-- The part of the metadata the checks read; `mode` has the permission
bits. -/
structure FileMetadata where
  isFile : Bool
  isDir : Bool
  isSymlink : Bool
  mode : UInt32

abbrev FileSystem := PathBuf → Option FileMetadata

def validateExecutable (files : FileSystem) (path : PathBuf) : Except TransportError Unit :=
  match files path with
  | none => .error (.invalidConfig "platform executable is unavailable")
  | some metadata =>
      if !path.isAbsolute || !metadata.isFile || metadata.isSymlink ||
          metadata.mode &&& 0o111 == 0 then
        .error (.invalidConfig "platform executable must be an absolute executable regular file")
      else .ok ()

structure LinuxTools where
  ip : PathBuf
  wg : PathBuf
  privateKey : PathBuf

def LinuxTools.validate (files : FileSystem) (tools : LinuxTools) :
    Except TransportError Unit := do
  validateExecutable files tools.ip
  validateExecutable files tools.wg
  match files tools.privateKey with
  | none => throw (.invalidConfig "WireGuard private key is unavailable")
  | some metadata =>
      if !tools.privateKey.isAbsolute || !metadata.isFile || metadata.isSymlink ||
          metadata.mode &&& 0o077 != 0 then
        throw (.invalidConfig "WireGuard private key must be a private regular file")

/-- What the two constructors that take these tools have in common: the
checks, and then that the key's path is text. -/
theorem LinuxTools.checked_eq_ok {α : Type} {files : FileSystem} {tools : LinuxTools}
    {error : TransportError} {a b : α} :
    (do
      tools.validate files
      if tools.privateKey.toStr.isNone then
        throw error
      return a : Except TransportError α) = .ok b ↔
        tools.validate files = .ok () ∧ tools.privateKey.toStr ≠ none ∧ a = b := by
  cases tools.validate files with
  | error e => simp [bind, Except.bind]
  | ok _ =>
      cases tools.privateKey.toStr with
      | none => simp [bind, Except.bind, throw, throwThe, MonadExceptOf.throw]
      | some _ => simp [bind, Except.bind, pure, Except.pure]

structure LinuxDnsTools where
  resolvectl : PathBuf

def LinuxDnsTools.validate (files : FileSystem) (tools : LinuxDnsTools) :
    Except TransportError Unit :=
  validateExecutable files tools.resolvectl

end CyberiaVpn.Linux
