import CyberiaVpn.Control.Signature
import CyberiaVpn.Data.Table

/-!
# Device enrollment

`services/control-api/internal/identity`: `VerifyEnrollment` of
`device.go` and the process-local `EnrollmentStore` of `enrollment.go`. A
store method runs under the store's mutex, so it is one function from the
store to its answer and the store after it, also when it fails.

SHA-256 and the Ed25519 check are parameters, `Crypto`. What
`rand.Read` yields is an argument of `Issue`.

A proof is a signature of a message, so what it proves is what the message
determines: `proofs_unambiguous`.
-/

namespace CyberiaVpn.Identity

open Codec Control Data Effects

/-! ## Proofs of possession -/

abbrev Digest := { d : Text // d.length = 32 }

/-- `sha256.Sum256` and `ed25519.Verify`. -/
structure Crypto where
  sha256 : Text → Digest
  verify : Text → Text → Text → Bool

structure EnrollmentRequest where
  accountID : Text
  deviceID : Text
  publicKey : Text
  challenge : Text
  signature : Text
  deriving DecidableEq

structure DeviceIdentity where
  accountID : Text
  deviceID : Text
  publicKey : Text
  keyID : Text
  deriving DecidableEq

inductive EnrollmentError where
  | invalidEnrollment (reason : String)
  | invalidProof
  | capacity
  | generate
  | collision
  | invalidChallenge
  | deviceExists
  | deviceNotFound
  deriving DecidableEq

def enrollmentDomain : Text := ascii "cyberia-device-enrollment:v1"

def EnrollmentRequest.signingMessage (request : EnrollmentRequest) : Text :=
  [enrollmentDomain, request.accountID, request.deviceID, request.challenge].foldl appendField []

def hexDigit (n : Nat) : UInt8 := UInt8.ofNat (if n < 10 then 48 + n else 87 + n)

def encodeToString (bytes : Text) : Text :=
  bytes.flatMap fun b => [hexDigit (b.toNat / 16), hexDigit (b.toNat % 16)]

def verifyEnrollment (C : Crypto) (request : EnrollmentRequest) :
    Except EnrollmentError DeviceIdentity := do
  reject (!validIdentifier request.accountID || !validIdentifier request.deviceID)
    (.invalidEnrollment "account and device IDs must be lowercase slugs")
  reject (request.publicKey.length ≠ 32)
    (.invalidEnrollment "invalid Ed25519 public key")
  reject (request.challenge.length < 32 ∨ 256 < request.challenge.length)
    (.invalidEnrollment "challenge length must be between 32 and 256 bytes")
  reject (request.signature.length ≠ 64 ||
      !C.verify request.publicKey request.signingMessage request.signature)
    .invalidProof
  return {
    accountID := request.accountID
    deviceID := request.deviceID
    publicKey := request.publicKey
    keyID := encodeToString (C.sha256 request.publicKey).1 }

/-! ### What a proof is about -/

/-- The checks on what goes into the message. -/
structure EnrollmentRequest.Shaped (request : EnrollmentRequest) : Prop where
  account : validIdentifier request.accountID = true
  device : validIdentifier request.deviceID = true
  challenge : 32 ≤ request.challenge.length ∧ request.challenge.length ≤ 256

theorem EnrollmentRequest.signingMessage_eq (request : EnrollmentRequest) :
    request.signingMessage = field 4 enrollmentDomain ++ (field 4 request.accountID ++
      (field 4 request.deviceID ++ field 4 request.challenge)) := by
  simp only [signingMessage, List.foldl_cons, List.foldl_nil, appendField_eq, List.nil_append,
    List.append_assoc]

/-- **What a proof binds.** The message tells apart the requests that pass
the checks, and is never the message of a configuration: the two begin
with the fields of different domains. -/
theorem proofs_unambiguous (N : NetipText) :
    (∀ r r' : EnrollmentRequest, r.Shaped → r'.Shaped → r.signingMessage = r'.signingMessage →
      r.accountID = r'.accountID ∧ r.deviceID = r'.deviceID ∧ r.challenge = r'.challenge) ∧
    ∀ (r : EnrollmentRequest) (config : DeviceConfig),
      r.signingMessage ≠ signingMessage N config := by
  constructor
  · intro r r' hr hr' heq
    have hid : ∀ {id : Text}, validIdentifier id = true → id.length < 256 ^ 4 := fun h => by
      have hle := validIdentifier_length h
      omega
    have hchallenge : ∀ {r : EnrollmentRequest}, r.Shaped → r.challenge.length < 256 ^ 4 := by
      intro r hr
      have hle := hr.challenge.2
      omega
    rw [EnrollmentRequest.signingMessage_eq, EnrollmentRequest.signingMessage_eq] at heq
    obtain ⟨-, heq⟩ := prefixCode_field 4 (by decide) (by decide) heq
    obtain ⟨haccount, heq⟩ := prefixCode_field 4 (hid hr.account) (hid hr'.account) heq
    obtain ⟨hdevice, heq⟩ := prefixCode_field 4 (hid hr.device) (hid hr'.device) heq
    exact ⟨haccount, hdevice, (prefixCode_field 4).inj (hchallenge hr) (hchallenge hr') heq⟩
  · intro r config heq
    rw [EnrollmentRequest.signingMessage_eq, signingMessage_eq] at heq
    obtain ⟨hdomain, -⟩ := prefixCode_field 4 (by decide) (by decide) heq
    exact absurd hdomain (by decide)

def exampleClaim (accountID deviceID : String) : EnrollmentRequest where
  accountID := ascii accountID
  deviceID := ascii deviceID
  publicKey := []
  challenge := List.replicate 32 1
  signature := []

/-- A byte moved from one identifier to the next makes another message. -/
theorem proofs_unambiguous_shifted :
    (exampleClaim "ab" "c").signingMessage ≠ (exampleClaim "a" "bc").signingMessage := by
  intro heq
  have hsame := (proofs_unambiguous exampleText).1 (exampleClaim "ab" "c") (exampleClaim "a" "bc")
    ⟨by decide, by decide, by decide⟩ ⟨by decide, by decide, by decide⟩ heq
  exact absurd hsame.1 (by decide)

/-! ## The store -/

structure Challenge where
  value : Text
  expiresAt : Time
  deriving DecidableEq

structure PendingChallenge where
  accountID : Text
  deviceID : Text
  expiresAt : Time
  deriving DecidableEq

/-- A nil map is an empty one: `Enroll` makes the device map before it
assigns to it. -/
structure EnrollmentStore where
  devices : Table Text DeviceIdentity
  ttl : Int
  capacity : Int
  challenges : Table Digest PendingChallenge

/-- 32 bytes that `rand.Read` filled in. -/
structure Nonce where
  value : Text
  length : value.length = 32
  deriving DecidableEq

namespace EnrollmentStore

/-- `NewEnrollmentStore`; durations are in nanoseconds. -/
def new (ttl capacity : Int) : Except EnrollmentError EnrollmentStore :=
  if ttl ≤ 0 ∨ 10 * 60 * 10 ^ 9 < ttl ∨ capacity ≤ 0 then
    .error (.invalidEnrollment "TTL must be in (0, 10m] and capacity positive")
  else .ok ⟨∅, ttl, capacity, ∅⟩

/-- The challenges that have not expired. -/
def pruned (store : EnrollmentStore) (now : Time) : EnrollmentStore :=
  { store with
    challenges := Table.keep (fun _ pending => pending.expiresAt.after now) store.challenges }

/-- `Issue`. Without random bytes `rand.Read` failed. -/
def issue (C : Crypto) (store : EnrollmentStore) (accountID deviceID : Text) (now : Time)
    (random : Option Nonce) : Except EnrollmentError Challenge × EnrollmentStore :=
  if !validIdentifier accountID || !validIdentifier deviceID then
    (.error (.invalidEnrollment ""), store)
  else
    let store := store.pruned now
    if store.capacity ≤ Table.size store.challenges then (.error .capacity, store)
    else
      match random with
      | none => (.error .generate, store)
      | some nonce =>
          let digest := C.sha256 nonce.value
          if digest ∈ store.challenges then (.error .collision, store)
          else
            let expiresAt := now.add store.ttl
            (.ok ⟨nonce.value, expiresAt⟩,
              { store with
                challenges := store.challenges.insert digest ⟨accountID, deviceID, expiresAt⟩ })

def consumeLocked (C : Crypto) (store : EnrollmentStore) (accountID deviceID value : Text)
    (now : Time) : Except EnrollmentError Unit × EnrollmentStore :=
  if value.length ≠ 32 then (.error .invalidChallenge, store)
  else
    let digest := C.sha256 value
    match store.challenges.lookup digest with
    | none => (.error .invalidChallenge, store)
    | some pending =>
        if pending.accountID ≠ accountID ∨ pending.deviceID ≠ deviceID then
          (.error .invalidChallenge, store)
        else
          let store := { store with challenges := store.challenges.erase digest }
          if !pending.expiresAt.after now then (.error .invalidChallenge, store)
          else (.ok (), store)

def consume := consumeLocked

def enroll (C : Crypto) (store : EnrollmentStore) (request : EnrollmentRequest) (now : Time) :
    Except EnrollmentError DeviceIdentity × EnrollmentStore :=
  match verifyEnrollment C request with
  | .error e => (.error e, store)
  | .ok device =>
      if device.deviceID ∈ store.devices then (.error .deviceExists, store)
      else if store.capacity ≤ Table.size store.devices then (.error .capacity, store)
      else
        match store.consumeLocked C device.accountID device.deviceID request.challenge now with
        | (.error e, store) => (.error e, store)
        | (.ok (), store) =>
            (.ok device, { store with devices := store.devices.insert device.deviceID device })

def device (store : EnrollmentStore) (accountID deviceID : Text) :
    Except EnrollmentError DeviceIdentity :=
  match store.devices.lookup deviceID with
  | none => .error .deviceNotFound
  | some device => if device.accountID ≠ accountID then .error .deviceNotFound else .ok device

end EnrollmentStore

end CyberiaVpn.Identity
