import CyberiaVpn.Api.Token
import CyberiaVpn.Codec.JsonStore
import CyberiaVpn.Effects.Front
import CyberiaVpn.Identity.FileStoreRuns
import CyberiaVpn.Identity.SnapshotText

/-!
# The authenticated API

The handlers that `NewControlHandler` of
`services/control-api/internal/api` mounts behind authentication, as a
front end of the durable enrollment store: a request is refused or becomes
one call of the store, and the response is made of what the call returns.

A request is what `net/http` has made of it: the pattern that it matched,
its media type as `mime.ParseMediaType` reads it, and a body that ends
after its last byte or breaks off there.
-/

namespace CyberiaVpn.Api

open Codec Control Data Effects Identity Snapshot
open Codec.Json (Target Slice Value)

/-! ## Requests -/

inductive Route where
  /-- `GET /api/v1/devices/{deviceID}` -/
  | device (deviceID : Text)
  /-- `GET /api/v1/devices/{deviceID}/configuration` -/
  | configuration (deviceID : Text)
  /-- `POST /api/v1/enrollment/challenges` -/
  | challenges
  /-- `POST /api/v1/devices` -/
  | devices
  deriving DecidableEq

structure Body where
  data : Text
  ended : Bool
  deriving DecidableEq

structure Request where
  route : Route
  bearer : Bearer
  /-- There is none that can be parsed. -/
  mediaType : Option Text
  body : Body

/-! ## Bodies -/

def maximumEnrollmentBody : Nat := 4096

inductive BodyError where
  | tooLarge
  | invalid
  deriving DecidableEq

/-- What is read of a body before the limit. -/
def Body.read (body : Body) : Text := body.data.take maximumEnrollmentBody

def Body.whole (body : Body) : Bool := body.data.length ≤ maximumEnrollmentBody && body.ended

/-- How reading ends when the body is not whole. -/
def Body.stop (body : Body) : BodyError :=
  if maximumEnrollmentBody < body.data.length then .tooLarge else .invalid

def isScalar : Value → Bool
  | .array _ | .object _ => false
  | _ => true

/-- The next value of a body. Where anything but an array or an object
ends is only known from what comes next. -/
def Body.next (body : Body) (text : Text) : Except BodyError (Value × Text) :=
  match Codec.Json.read text with
  | .error .short => .error body.stop
  | .error _ => .error .invalid
  | .ok (value, rest) =>
      if rest = [] ∧ !body.whole ∧ isScalar value then .error body.stop else .ok (value, rest)

/-- One value and nothing after it, with `DisallowUnknownFields`. -/
def Body.decode {σ : Type} (body : Body) (T : Target σ) : Except BodyError σ := do
  let (value, rest) ← body.next body.read
  match T.store value T.zero with
  | none => throw .invalid
  | some s =>
      if Codec.Json.skipSpace rest = [] then
        if body.whole then return s else throw body.stop
      else
        let _ ← body.next rest
        throw .invalid

def decodeEnrollmentJSON {σ : Type} (json : Json) (request : Request) (T : Target σ) :
    Except Response σ :=
  if request.mediaType ≠ some (ascii "application/json") then
    .error (writeJSON json.error 415 ⟨"application/json required"⟩)
  else
    match request.body.decode T with
    | .ok value => .ok value
    | .error .tooLarge => .error (writeJSON json.error 413 ⟨"request body too large"⟩)
    | .error .invalid => .error (writeJSON json.error 400 ⟨"invalid JSON request"⟩)

/-! ### Their fields -/

def challengeBodyFields : List (Target.Field Text) := [.of "device_id" id (fun x _ => x) .text]

def challengeBody : Target Text := .struct [] challengeBodyFields

structure DeviceBody where
  deviceID : Text
  publicKey : Option (Slice UInt8)
  challenge : Option (Slice UInt8)
  signature : Option (Slice UInt8)

def deviceBodyFields : List (Target.Field DeviceBody) :=
  [.of "device_id" DeviceBody.deviceID (fun x v => { v with deviceID := x }) .text,
    .of "public_key" DeviceBody.publicKey (fun x v => { v with publicKey := x }) .bytes,
    .of "challenge" DeviceBody.challenge (fun x v => { v with challenge := x }) .bytes,
    .of "signature" DeviceBody.signature (fun x v => { v with signature := x }) .bytes]

def deviceBody : Target DeviceBody := .struct ⟨[], none, none, none⟩ deviceBodyFields

def DeviceBody.request (body : DeviceBody) (account : Text) : EnrollmentRequest :=
  let contents (data : Option (Slice UInt8)) : Text := (data.map Slice.items).getD []
  ⟨account, body.deviceID, contents body.publicKey, contents body.challenge,
    contents body.signature⟩

/-! ### Bodies that are decoded -/

/-- `{"device_id": ...}` as `encoding/json` writes it. -/
def marshalChallengeBody (deviceID : Text) : Text :=
  Codec.Json.object [("device_id", Codec.Json.string deviceID)]

def marshalDeviceBody (deviceID publicKey challenge signature : Text) : Text :=
  Codec.Json.object [("device_id", Codec.Json.string deviceID),
    ("public_key", Codec.Json.slice publicKey), ("challenge", Codec.Json.slice challenge),
    ("signature", Codec.Json.slice signature)]

/-- A whole body that is the text of an object. -/
theorem decode_object {σ : Type} {T : Target σ} {members : List (String × List UInt8)} {s : σ}
    (h : Codec.Json.Restores T 10000 (Codec.Json.object members) s)
    (hlength : (Codec.Json.object members).length ≤ maximumEnrollmentBody) :
    Body.decode ⟨Codec.Json.object members, true⟩ T = .ok s := by
  obtain ⟨value, hreads, hstore⟩ := h
  have hread : Body.read ⟨Codec.Json.object members, true⟩ = Codec.Json.object members :=
    List.take_of_length_le hlength
  have hwhole : Body.whole ⟨Codec.Json.object members, true⟩ = true := by
    simp [Body.whole, hlength]
  have hnext : Body.next ⟨Codec.Json.object members, true⟩ (Codec.Json.object members) =
      .ok (value, []) := by
    rw [Body.next, Codec.Json.read_of_reads hreads, hwhole]
    rfl
  rw [Body.decode, hread, hnext]
  simp only [Except.bind, bind]
  rw [hstore, hwhole]
  rfl

theorem challengeBodyNamed : Codec.Json.Named challengeBodyFields ["device_id"] :=
  ⟨rfl, by decide, by decide⟩

theorem deviceBodyNamed : Codec.Json.Named deviceBodyFields
    ["device_id", "public_key", "challenge", "signature"] :=
  ⟨rfl, by decide, by decide⟩

section

variable {deviceID publicKey challenge signature : Text}

theorem challengeBody_restores (h : validIdentifier deviceID = true) :
    Codec.Json.Restores challengeBody 10000 (marshalChallengeBody deviceID) deviceID := by
  have hbytes := validIdentifier_bytes h
  refine ⟨.object [(Codec.Json.bytes "device_id", .string deviceID)],
    Codec.Json.reads_object (.cons (Codec.Json.readsMember (by decide)
      (reads_identifier hbytes 9999)) .nil), ?_⟩
  change Target.storeMembers _ _ _ = _
  rw [challengeBodyNamed.storeMembers (i := 0) rfl rfl
    (Codec.Json.field_store (text_store_identifier hbytes _))]
  rfl

theorem deviceBody_restores (h : validIdentifier deviceID = true) :
    Codec.Json.Restores deviceBody 10000
      (marshalDeviceBody deviceID publicKey challenge signature)
      ⟨deviceID, some ⟨publicKey, []⟩, some ⟨challenge, []⟩, some ⟨signature, []⟩⟩ := by
  have hbytes := validIdentifier_bytes h
  refine ⟨.object [(Codec.Json.bytes "device_id", .string deviceID),
    (Codec.Json.bytes "public_key", .string (Codec.Json.symbols publicKey)),
    (Codec.Json.bytes "challenge", .string (Codec.Json.symbols challenge)),
    (Codec.Json.bytes "signature", .string (Codec.Json.symbols signature))],
    Codec.Json.reads_object ?_, ?_⟩
  · refine .cons (Codec.Json.readsMember (by decide) (reads_identifier hbytes 9999)) ?_
    refine .cons (Codec.Json.readsMember (by decide) (Codec.Json.reads_slice 9999 publicKey)) ?_
    refine .cons (Codec.Json.readsMember (by decide) (Codec.Json.reads_slice 9999 challenge)) ?_
    exact .cons (Codec.Json.readsMember (by decide) (Codec.Json.reads_slice 9999 signature)) .nil
  · change Target.storeMembers _ _ _ = _
    rw [deviceBodyNamed.storeMembers (i := 0) rfl rfl
        (Codec.Json.field_store (text_store_identifier hbytes _)),
      deviceBodyNamed.storeMembers (i := 1) rfl rfl
        (Codec.Json.field_store (Codec.Json.bytes_store _ _)),
      deviceBodyNamed.storeMembers (i := 2) rfl rfl
        (Codec.Json.field_store (Codec.Json.bytes_store _ _)),
      deviceBodyNamed.storeMembers (i := 3) rfl rfl
        (Codec.Json.field_store (Codec.Json.bytes_store _ _))]
    rfl

theorem length_challengeBody (h : validIdentifier deviceID = true) :
    (marshalChallengeBody deviceID).length ≤ maximumEnrollmentBody := by
  have hlength := length_identifier h
  simp only [marshalChallengeBody, Codec.Json.object, List.map_cons, List.map_nil,
    Codec.Json.commas]
  simp [Codec.Json.bytes, maximumEnrollmentBody]
  omega

/-- What enrollment accepts is well within the limit. -/
theorem length_deviceBody (h : validIdentifier deviceID = true) (hkey : publicKey.length = 32)
    (hchallenge : challenge.length ≤ 256) (hsignature : signature.length = 64) :
    (marshalDeviceBody deviceID publicKey challenge signature).length ≤ maximumEnrollmentBody := by
  have hlength := length_identifier h
  simp only [marshalDeviceBody, Codec.Json.object, List.map_cons, List.map_nil,
    Codec.Json.commas]
  simp [Codec.Json.bytes, maximumEnrollmentBody, Codec.Json.length_slice, hkey, hsignature]
  omega

end

/-! ## Handlers -/

/-- A request, with what the process it is sent to has for it: its
credentials, two readings of its clock, random bytes and the latest
envelope that the configuration store has for the device. -/
structure Exchange (ttl : Int) where
  request : Request
  auth : TokenAuthenticator
  received : Time
  now : Time
  random : Option Nonce
  latest : Except ReadError SignedConfig
  timely : (now.add ttl).isZero = false

section

variable (json : Json) (challengeJson : JsonCodec Challenge) (N : NetipText) (verifier : Verifier)
  (sha256 : Text → Digest) {ttl : Int} (x : Exchange ttl)

/-- The call of the store that a handler makes. -/
def fileCall : Except Response FileCall := do
  let account ← authenticateAccount json
    (authenticate sha256 x.auth x.request.bearer x.received)
  match x.request.route with
  | .device deviceID | .configuration deviceID => return .device account deviceID
  | .challenges =>
      let deviceID ← decodeEnrollmentJSON json x.request challengeBody
      return .issue account deviceID x.now x.random
  | .devices =>
      let body ← decodeEnrollmentJSON json x.request deviceBody
      return .enroll (body.request account) x.now

def writeEnrollmentError : FileEnrollmentError → Response
  | .domain (.invalidEnrollment _) | .domain .invalidProof | .domain .invalidChallenge =>
      writeJSON json.error 400 ⟨"invalid enrollment"⟩
  | .domain .deviceExists => writeJSON json.error 409 ⟨"device registration conflict"⟩
  | .domain .capacity => writeJSON json.error 503 ⟨"enrollment capacity reached"⟩
  | _ => writeJSON json.error 500 ⟨"enrollment failed"⟩

def writeDevice (status : Nat) (device : DeviceIdentity) : Response :=
  writeJSON json.device status ⟨device.deviceID, device.publicKey, device.keyID⟩

/-- What both readers do about a device they do not get. -/
def withDevice (r : Except FileEnrollmentError FileAnswer) (rest : DeviceIdentity → Response) :
    Response :=
  match r with
  | .ok (.answer (.device device)) => rest device
  | .error (.domain .deviceNotFound) => writeJSON json.error 404 ⟨"device not found"⟩
  | _ => writeJSON json.error 500 ⟨"device lookup failed"⟩

def writeConfiguration (deviceID : Text) : Response :=
  match x.latest with
  | .error .notFound => writeJSON json.error 404 ⟨"configuration not found"⟩
  | .error .failed => writeJSON json.error 500 ⟨"configuration lookup failed"⟩
  | .ok envelope =>
      match openForDevice N envelope deviceID 0 x.now (some verifier) with
      | .error _ => writeJSON json.error 503 ⟨"configuration unavailable"⟩
      | .ok _ => writeJSON json.envelope 200 envelope

/-- The rest of a handler. A call has no answers but those listed. -/
def reply (r : Except FileEnrollmentError FileAnswer) : Response :=
  match x.request.route with
  | .device _ => withDevice json r (writeDevice json 200)
  | .configuration deviceID =>
      withDevice json r fun _ => writeConfiguration json N verifier x deviceID
  | .challenges =>
      match r with
      | .ok (.answer (.challenge challenge)) => writeJSON challengeJson 201 challenge
      | .ok _ => writeJSON json.error 500 ⟨"enrollment failed"⟩
      | .error e => writeEnrollmentError json e
  | .devices =>
      match r with
      | .ok (.answer (.device device)) => writeDevice json 201 device
      | .ok _ => writeJSON json.error 500 ⟨"enrollment failed"⟩
      | .error e => writeEnrollmentError json e

variable {json sha256 x}

theorem fileCall_timely {c : FileCall} (h : fileCall json sha256 x = .ok c) :
    ∀ op, c.op = some op → NonzeroExpiry ttl op := by
  rintro op hop accountID deviceID now random rfl
  obtain ⟨account, -, h⟩ := bind_eq_ok.mp h
  split at h
  · cases h; cases hop
  · cases h; cases hop
  · obtain ⟨_, -, h⟩ := bind_eq_ok.mp h
    cases h
    cases hop
    exact x.timely
  · obtain ⟨_, -, h⟩ := bind_eq_ok.mp h
    cases h
    cases hop

variable (json sha256)

/-- `NewControlHandler`. -/
def controlHandler : Front FileEnrollmentError (TimelyCall ttl) FileAnswer (Exchange ttl) Response where
  ask x :=
    match h : fileCall json sha256 x with
    | .error response => .inl (securityHeaders response)
    | .ok c => .inr ⟨c, fileCall_timely h⟩
  answer x r := securityHeaders (reply json challengeJson N verifier x r)

end

end CyberiaVpn.Api
