import CyberiaVpn.Control.Config
import CyberiaVpn.Data.GoMap

/-!
# The node registry

`services/control-api/internal/registry`: what a node is (`registry.go`),
its states (`lifecycle.go`) and `MemoryRegistry` with all its methods. A
method runs under the registry's lock, so it is one function; `none` is a
panic.
-/

namespace CyberiaVpn.Registry

open Control Data
open Effects (reject)

/-- A Go string; the last constructor is any but the four the package
names. -/
inductive Status where
  | provisioning
  | healthy
  | restricted
  | quarantined
  | other (value : Text)
  deriving DecidableEq

def transportWireGuard : Text := ascii "wireguard"

structure Node where
  id : Text
  region : Text
  endpoint : AddrPort
  transports : List Text
  status : Status
  registeredAt : Time
  deriving DecidableEq

inductive NodeError where
  | invalid (reason : String)
  | unsupportedTransport (transport : Text)
  | duplicateTransport (transport : Text)
  | unsupportedStatus (status : Status)
  deriving DecidableEq

/-- The package has its own copy of the configuration's check. -/
def validSlug (value : Text) : Bool := validIdentifier value

namespace Node

def validateTransports : List Text → List Text → Except NodeError Unit
  | _, [] => .ok ()
  | seen, transport :: transports => do
      reject (transport ≠ transportWireGuard) (.unsupportedTransport transport)
      reject (transport ∈ seen) (.duplicateTransport transport)
      validateTransports (transport :: seen) transports

def validate (node : Node) : Except NodeError Unit := do
  reject (!validSlug node.id)
    (.invalid "node ID must be a lowercase slug")
  reject (!validSlug node.region)
    (.invalid "region must be a lowercase slug")
  let address := node.endpoint.addr.unmap
  reject (!node.endpoint.isValid || node.endpoint.port == 0 || address.isUnspecified ||
      address.isMulticast || node.endpoint.addr.zone ≠ [])
    (.invalid "endpoint must contain an unscoped unicast IP address and nonzero port")
  reject (node.transports.length = 0)
    (.invalid "at least one transport is required")
  validateTransports [] node.transports
  reject (node.status ≠ .provisioning ∧ node.status ≠ .healthy ∧ node.status ≠ .restricted ∧
      node.status ≠ .quarantined)
    (.unsupportedStatus node.status)

end Node

def cloneNode (node : Node) : Node := { node with transports := [] ++ node.transports }

@[simp] theorem cloneNode_eq (node : Node) : cloneNode node = node := rfl

def transitionAllowed (current target : Status) : Bool :=
  match current with
  | .provisioning => target = .healthy || target = .quarantined
  | .healthy => target = .restricted || target = .quarantined
  | .restricted => target = .healthy || target = .quarantined
  | .quarantined => false
  | .other _ => false

inductive RegistryError where
  | validateNode (err : NodeError)
  | alreadyRegistered
  | notFound
  | stateConflict (current expected : Status)
  | invalidTransition (expected target : Status)
  deriving DecidableEq

structure MemoryRegistry where
  nodes : GoMap Text Node

namespace MemoryRegistry

/-- The Go zero value. -/
def zero : MemoryRegistry := ⟨none⟩

/-- `NewMemoryRegistry`. -/
def new : MemoryRegistry := ⟨GoMap.make⟩

def register (registry : MemoryRegistry) (node : Node) :
    Option (Except RegistryError Unit × MemoryRegistry) :=
  match node.validate with
  | .error err => some (.error (.validateNode err), registry)
  | .ok () =>
      if (registry.nodes.read.lookup node.id).isSome then
        some (.error .alreadyRegistered, registry)
      else
        (registry.nodes.assign node.id (cloneNode node)).map fun nodes =>
          (.ok (), { registry with nodes })

def get (registry : MemoryRegistry) (id : Text) : Except RegistryError Node :=
  match registry.nodes.read.lookup id with
  | none => .error .notFound
  | some node => .ok (cloneNode node)

/-- The loop visits the entries in the order of this call; the sort
compares the bytes of the IDs. -/
def list (registry : MemoryRegistry) (order : RangeOrder Text Node) : List Node :=
  ((registry.nodes.range order).map fun entry => cloneNode entry.2).mergeSort
    fun left right => (compare left.id right.id).isLE

def transition (registry : MemoryRegistry) (id : Text) (expected target : Status) :
    Option (Except RegistryError Unit × MemoryRegistry) :=
  match registry.nodes.read.lookup id with
  | none => some (.error .notFound, registry)
  | some node =>
      if node.status ≠ expected then
        some (.error (.stateConflict node.status expected), registry)
      else if !transitionAllowed expected target then
        some (.error (.invalidTransition expected target), registry)
      else
        (registry.nodes.assign id { node with status := target }).map fun nodes =>
          (.ok (), { registry with nodes })

end MemoryRegistry

end CyberiaVpn.Registry
