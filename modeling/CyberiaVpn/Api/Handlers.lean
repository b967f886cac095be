import CyberiaVpn.Control.FileStore
import CyberiaVpn.Identity.FileStore

/-!
# Reading devices and configurations

The two `GET` handlers of `services/control-api/internal/api`: a device
(`enrollment.go`) and its configuration (`configuration.go`). They read
through interfaces, behind which there is a store in memory or one with a
snapshot file; a reader reports that there is no such entry, or that it
could not read.

A request is what the handlers see of it: the outcome of its
authentication and the device ID of its path.
-/

namespace CyberiaVpn.Api

open Control Data Identity Snapshot

/-! ## Responses -/

structure Response where
  status : Nat
  headers : List (String × String)
  body : Text
  deriving DecidableEq

structure ErrorResponse where
  error : String
  deriving DecidableEq

structure DeviceResponse where
  deviceID : Text
  publicKey : Text
  keyID : Text
  deriving DecidableEq

/-- `encoding/json` at the types of the responses. -/
structure Json where
  error : JsonCodec ErrorResponse
  device : JsonCodec DeviceResponse
  envelope : JsonCodec SignedConfig

/-- The encoder ends what it writes with a newline and writes nothing of a
value it cannot encode; the status has been sent by then. -/
def writeJSON {α : Type} (codec : JsonCodec α) (status : Nat) (value : α) : Response where
  status := status
  headers := [("Content-Type", "application/json")]
  body :=
    match codec.marshal value with
    | .ok data => data ++ [10]
    | .error _ => []

def securityHeaders (response : Response) : Response :=
  { response with
    headers := [("Cache-Control", "no-store"),
      ("Content-Security-Policy", "default-src 'none'; frame-ancestors 'none'"),
      ("X-Content-Type-Options", "nosniff")] ++ response.headers }

def authenticateAccount (json : Json) (authenticate : Except Text Text) : Except Response Text :=
  match authenticate with
  | .error _ => .error unauthorized
  | .ok account => if account = [] then .error unauthorized else .ok account
where
  unauthorized : Response :=
    let response := writeJSON json.error 401 ⟨"authentication required"⟩
    { response with headers := ("WWW-Authenticate", "Bearer") :: response.headers }

/-- The rest of a handler runs only for an account. -/
def authenticated (json : Json) (authenticate : Except Text Text) (rest : Text → Response) :
    Response :=
  match authenticateAccount json authenticate with
  | .error response => response
  | .ok account => rest account

/-! ## Readers -/

inductive ReadError where
  | notFound
  | failed
  deriving DecidableEq

/-- What may stand behind `DeviceReader`. -/
inductive Enrollments where
  | memory (store : EnrollmentStore)
  | durable (store : FileEnrollmentStore)

/-- What may stand behind `ConfigurationReader`. -/
inductive Configurations where
  | memory (store : MemoryStore)
  | durable (store : FileStore)

structure Server where
  enrollments : Enrollments
  configurations : Configurations
  disk : Disk

/-- `errors.Is(err, identity.ErrDeviceNotFound)`. -/
def deviceError : EnrollmentError → ReadError
  | .deviceNotFound => .notFound
  | _ => .failed

/-- `errors.Is(err, configuration.ErrConfigNotFound)`. -/
def configError : StoreError → ReadError
  | .configNotFound => .notFound
  | _ => .failed

namespace Server

def device (server : Server) (accountID deviceID : Text) : Except ReadError DeviceIdentity :=
  match server.enrollments with
  | .memory store => (store.device accountID deviceID).mapError deviceError
  | .durable store =>
      (FileEnrollmentStore.device accountID deviceID store server.disk).result.mapError fun
        | .domain error => deviceError error
        | _ => .failed

def latest (server : Server) (deviceID : Text) : Except ReadError SignedConfig :=
  match server.configurations with
  | .memory store => (store.latest deviceID).mapError configError
  | .durable store =>
      (FileStore.latest deviceID store server.disk).result.mapError fun
        | .domain error => configError error
        | _ => .failed

/-! ## Handlers -/

variable (json : Json) (server : Server) (authenticate : Except Text Text) (deviceID : Text)

/-- `GET /api/v1/devices/{deviceID}`. -/
def getDevice : Response :=
  securityHeaders <| authenticated json authenticate fun account =>
    match server.device account deviceID with
    | .error .notFound => writeJSON json.error 404 ⟨"device not found"⟩
    | .error .failed => writeJSON json.error 500 ⟨"device lookup failed"⟩
    | .ok device => writeJSON json.device 200 ⟨device.deviceID, device.publicKey, device.keyID⟩

/-- `GET /api/v1/devices/{deviceID}/configuration`. -/
def getConfiguration (N : NetipText) (verifier : Verifier) (now : Time) : Response :=
  securityHeaders <| authenticated json authenticate fun account =>
    match server.device account deviceID with
    | .error .notFound => writeJSON json.error 404 ⟨"device not found"⟩
    | .error .failed => writeJSON json.error 500 ⟨"device lookup failed"⟩
    | .ok _ =>
        match server.latest deviceID with
        | .error .notFound => writeJSON json.error 404 ⟨"configuration not found"⟩
        | .error .failed => writeJSON json.error 500 ⟨"configuration lookup failed"⟩
        | .ok envelope =>
            match openForDevice N envelope deviceID 0 now (some verifier) with
            | .error _ => writeJSON json.error 503 ⟨"configuration unavailable"⟩
            | .ok _ => writeJSON json.envelope 200 envelope

end Server

/-! ## Authentication -/

section

variable {json : Json} {account : Text} {rest rest' : Text → Response}

theorem authenticated_eq (haccount : account ≠ []) :
    authenticated json (.ok account) rest = rest account := by
  rw [authenticated, authenticateAccount, if_neg haccount]

theorem authenticated_empty :
    authenticated json (.ok []) rest = authenticateAccount.unauthorized json := rfl

/-- Only what is done for the account itself matters. -/
theorem authenticated_congr (h : rest account = rest' account) :
    authenticated json (.ok account) rest = authenticated json (.ok account) rest' := by
  by_cases haccount : account = []
  · rw [haccount, authenticated_empty, authenticated_empty]
  · rw [authenticated_eq haccount, authenticated_eq haccount, h]

end

/-! ## What the readers return -/

def Enrollments.devices : Enrollments → Table Text DeviceIdentity
  | .memory store => store.devices
  | .durable store => store.current.devices

def Configurations.envelopes : Configurations → Table Text SignedConfig
  | .memory store => store.devices.read
  | .durable store => store.data.devices.read

namespace Server

/-- Neither reader reports that it could not read. -/
structure Readable (server : Server) : Prop where
  device : ∀ accountID deviceID, server.device accountID deviceID ≠ .error .failed
  latest : ∀ deviceID, server.latest deviceID ≠ .error .failed

/-- The device is registered to the account. -/
def Owns (server : Server) (accountID deviceID : Text) (device : DeviceIdentity) : Prop :=
  server.enrollments.devices.lookup deviceID = some device ∧ device.accountID = accountID

variable {server : Server} {accountID deviceID : Text}

theorem device_eq (h : server.Readable) (accountID deviceID : Text) :
    server.device accountID deviceID =
      match server.enrollments.devices.lookup deviceID with
      | none => .error .notFound
      | some device => if device.accountID ≠ accountID then .error .notFound else .ok device := by
  have hstore : ∀ store : EnrollmentStore, (store.device accountID deviceID).mapError deviceError =
      match store.devices.lookup deviceID with
      | none => .error .notFound
      | some device => if device.accountID ≠ accountID then .error .notFound else .ok device := by
    intro store
    rw [EnrollmentStore.device]
    cases store.devices.lookup deviceID with
    | none => rfl
    | some device => dsimp only; split <;> rfl
  have hread := h.device accountID deviceID
  rw [device] at hread ⊢
  cases henrollments : server.enrollments with
  | memory store => exact hstore store
  | durable store =>
      rw [henrollments] at hread
      dsimp only at hread ⊢
      rcases checked_result (s := store) (w := server.disk) FileEnrollmentError.file
        (fun store => (store.current.device accountID deviceID).mapError .domain) with hr | ⟨e, hr⟩
      · rw [FileEnrollmentStore.device, hr]
        refine Eq.trans ?_ (hstore store.current)
        cases store.current.device accountID deviceID <;> rfl
      · rw [FileEnrollmentStore.device, hr] at hread
        exact absurd rfl hread

theorem latest_eq (h : server.Readable) (deviceID : Text) :
    server.latest deviceID =
      match server.configurations.envelopes.lookup deviceID with
      | none => .error .notFound
      | some envelope => .ok envelope := by
  have hstore : ∀ store : MemoryStore, (store.latest deviceID).mapError configError =
      match store.devices.read.lookup deviceID with
      | none => .error .notFound
      | some envelope => .ok envelope := by
    intro store
    rw [MemoryStore.latest]
    cases store.devices.read.lookup deviceID <;> rfl
  have hread := h.latest deviceID
  rw [latest] at hread ⊢
  cases hconfigurations : server.configurations with
  | memory store => exact hstore store
  | durable store =>
      rw [hconfigurations] at hread
      dsimp only at hread ⊢
      rcases checked_result (s := store) (w := server.disk) FileStoreError.file
        (fun store => (store.data.latest deviceID).mapError .domain) with hr | ⟨e, hr⟩
      · rw [FileStore.latest, hr]
        refine Eq.trans ?_ (hstore store.data)
        cases store.data.latest deviceID <;> rfl
      · rw [FileStore.latest, hr] at hread
        exact absurd rfl hread

end Server

end CyberiaVpn.Api
