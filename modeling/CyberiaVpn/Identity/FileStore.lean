import CyberiaVpn.Identity.EnrollmentRuns
import CyberiaVpn.Snapshot.Store

/-!
# The durable enrollment store

`FileEnrollmentStore` of
`services/control-api/internal/identity/file.go`: every change is made on
a copy of the store, written to a snapshot file, and only then taken over.
The snapshot lists the entries of both maps in an order of the runtime's
choice.
-/

namespace CyberiaVpn.Identity

open Control Data Effects Snapshot

structure ChallengeSnapshot where
  digest : Text
  accountID : Text
  deviceID : Text
  expiresAt : Time
  deriving DecidableEq

/-- A nil slice is `none`. -/
structure EnrollmentSnapshot where
  schema : Int
  devices : Option (List DeviceIdentity)
  challenges : Option (List ChallengeSnapshot)
  deriving DecidableEq

structure FileEnrollmentStore where
  file : File
  current : EnrollmentStore

instance : HasFile FileEnrollmentStore where
  file := FileEnrollmentStore.file
  setFile file store := { store with file }
  file_setFile _ _ := rfl
  setFile_file _ := rfl

inductive FileEnrollmentError where
  | domain (error : EnrollmentError)
  | invalid (reason : String)
  | file (error : FileError)
  | json (reason : String)
  deriving DecidableEq

abbrev FileEnrollmentM := Prog FileEnrollmentStore Disk Call FileEnrollmentError

/-! ## Restoring -/

/-- The loop of `restore` over the devices. -/
def restoreDevices (C : Crypto) :
    List DeviceIdentity → Table Text DeviceIdentity →
      Except FileEnrollmentError (Table Text DeviceIdentity)
  | [], devices => .ok devices
  | device :: rest, devices =>
      if !validIdentifier device.accountID || !validIdentifier device.deviceID ||
          device.publicKey.length ≠ 32 ||
          device.keyID ≠ encodeToString (C.sha256 device.publicKey).1 then
        .error (.invalid "invalid persisted device")
      else if device.deviceID ∈ devices then .error (.invalid "duplicate persisted device")
      else restoreDevices C rest (devices.insert device.deviceID device)

/-- The loop of `restore` over the challenges. -/
def restoreChallenges :
    List ChallengeSnapshot → Table Digest PendingChallenge →
      Except FileEnrollmentError (Table Digest PendingChallenge)
  | [], challenges => .ok challenges
  | challenge :: rest, challenges =>
      if h : challenge.digest.length = 32 then
        if !validIdentifier challenge.accountID || !validIdentifier challenge.deviceID ||
            challenge.expiresAt.isZero then
          .error (.invalid "invalid persisted challenge")
        else if (⟨challenge.digest, h⟩ : Digest) ∈ challenges then
          .error (.invalid "duplicate persisted challenge")
        else
          restoreChallenges rest (challenges.insert ⟨challenge.digest, h⟩
            ⟨challenge.accountID, challenge.deviceID, challenge.expiresAt⟩)
      else .error (.invalid "invalid persisted challenge")

namespace FileEnrollmentStore

variable (C : Crypto) (codec : JsonCodec EnrollmentSnapshot)

/-- What `restore` makes of a decoded snapshot. -/
def restored (current : EnrollmentStore) (state : EnrollmentSnapshot) :
    Except FileEnrollmentError EnrollmentStore := do
  match state.devices, state.challenges with
  | some devices, some challenges =>
      reject (state.schema ≠ 1 ∨ current.capacity < devices.length ∨
          current.capacity < challenges.length)
        (.invalid "invalid enrollment snapshot schema or capacity")
      let devices ← restoreDevices C devices ∅
      let challenges ← restoreChallenges challenges current.challenges
      return { current with devices, challenges }
  | _, _ => throw (.invalid "invalid enrollment snapshot schema or capacity")

def restore (data : Text) : FileEnrollmentM Unit := do
  let store ← Prog.self
  let state ← Prog.liftExcept ((codec.decode data).mapError .json)
  let current ← Prog.liftExcept (restored C store.current state)
  Prog.update fun store => { store with current }

/-! ## Persisting -/

def challengeSnapshot (entry : (_ : Digest) × PendingChallenge) : ChallengeSnapshot :=
  ⟨entry.1.1, entry.2.accountID, entry.2.deviceID, entry.2.expiresAt⟩

def persist (candidate : EnrollmentStore) : FileEnrollmentM Unit := do
  let devices ← iterate candidate.devices.entries
  let challenges ← iterate candidate.challenges.entries
  saveState codec .file .json
    { schema := 1
      devices := some (devices.map Sigma.snd)
      challenges := some (challenges.map challengeSnapshot) }
  Prog.update fun store => { store with current := candidate }

def openFileEnrollmentStore (path : String) (ttl capacity : Int) : FileEnrollmentM Unit := do
  let current ← Prog.liftExcept ((EnrollmentStore.new ttl capacity).mapError .domain)
  if 10000 < capacity then
    Prog.fail (.invalid "durable enrollment capacity exceeds 10000")
  else
    Prog.update fun store => { store with current }
    openStore path (16 * 2 ^ 20) .file (persist codec current) (restore C codec)

/-! ## Calls -/

/-- The candidate is a copy of the current store. -/
def issue (accountID deviceID : Text) (now : Time) (random : Option Nonce) :
    FileEnrollmentM Challenge := do
  (onFile File.check).mapError .file
  let store ← Prog.self
  match store.current.issue C accountID deviceID now random with
  | (.error e, _) => Prog.fail (.domain e)
  | (.ok challenge, candidate) =>
      persist codec candidate
      return challenge

/-- Expiration can consume a challenge even when enrollment is rejected. -/
def enroll (request : EnrollmentRequest) (now : Time) : FileEnrollmentM DeviceIdentity := do
  (onFile File.check).mapError .file
  let store ← Prog.self
  match store.current.enroll C request now with
  | (.ok device, candidate) =>
      persist codec candidate
      return device
  | (.error e, candidate) =>
      if Table.size candidate.challenges ≠ Table.size store.current.challenges then
        persist codec candidate
        Prog.fail (.domain e)
      else Prog.fail (.domain e)

def device (accountID deviceID : Text) : FileEnrollmentM DeviceIdentity := do
  (onFile File.check).mapError .file
  let store ← Prog.self
  Prog.liftExcept ((store.current.device accountID deviceID).mapError .domain)

def close : FileEnrollmentM Unit := (onFile File.close).mapError .file

end FileEnrollmentStore

/-! ## Calls as data -/

inductive FileCall where
  | issue (accountID deviceID : Text) (now : Time) (random : Option Nonce)
  | enroll (request : EnrollmentRequest) (now : Time)
  | device (accountID deviceID : Text)
  | close
  deriving DecidableEq

/-- The same call on an `EnrollmentStore`. -/
def FileCall.op : FileCall → Option Op
  | .issue accountID deviceID now random => some (.issue accountID deviceID now random)
  | .enroll request now => some (.enroll request now)
  | .device accountID deviceID => some (.device accountID deviceID)
  | .close => none

inductive FileAnswer where
  | answer (answer : Answer)
  | closed
  deriving DecidableEq

def FileEnrollmentStore.answer (C : Crypto) (codec : JsonCodec EnrollmentSnapshot) :
    FileCall → FileEnrollmentM FileAnswer
  | .issue accountID deviceID now random => do
      let challenge ← FileEnrollmentStore.issue C codec accountID deviceID now random
      return .answer (.challenge challenge)
  | .enroll request now => do
      let device ← FileEnrollmentStore.enroll C codec request now
      return .answer (.device device)
  | .device accountID deviceID => do
      let device ← FileEnrollmentStore.device accountID deviceID
      return .answer (.device device)
  | .close => do
      FileEnrollmentStore.close
      return .closed

end CyberiaVpn.Identity
