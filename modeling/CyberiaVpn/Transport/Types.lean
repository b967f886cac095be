import Mathlib.Data.List.Basic
import Mathlib.Data.Vector.Defs
import CyberiaVpn.Effects.Validate

/-!
# Transport data model

The public parameters, errors and validation of `core/transport`
(`lib.rs` and `wireguard.rs`): addresses, endpoints, resolver lists, the
client profile and the node profiles. Validation returns the source's
own errors, in the source's order, because the callers propagate them.

Durations are nanosecond counts. An instant is never stored: the only
use the lifecycle makes of the clock is the outcome of
`ConnectContext::check`, which the host model chooses.
-/

namespace CyberiaVpn.Transport

open Effects (validateEach)

/-! ## Errors -/

inductive TransportError where
  | invalidConfig (reason : String)
  | cancelled
  | timedOut
  | alreadyConnected
  | notConnected
  | authenticationFailed
  | network (reason : String)
  deriving DecidableEq, Repr

namespace TransportError

def display : TransportError → String
  | invalidConfig reason => s!"invalid configuration: {reason}"
  | cancelled => "connection attempt cancelled"
  | timedOut => "connection attempt timed out"
  | alreadyConnected => "transport is already connected"
  | notConnected => "transport is not connected"
  | authenticationFailed => "transport authentication failed"
  | network reason => s!"transport network error: {reason}"

/-- The quoted form of a string under `{:?}`, for printable text. -/
def quote (text : String) : String :=
  "\"" ++ String.join (text.toList.map fun c =>
    if c = '"' then "\\\"" else if c = '\\' then "\\\\"
    else if c = '\n' then "\\n" else if c = '\t' then "\\t"
    else if c = '\r' then "\\r" else c.toString) ++ "\""

def debug : TransportError → String
  | invalidConfig reason => "InvalidConfig(" ++ quote reason ++ ")"
  | cancelled => "Cancelled"
  | timedOut => "TimedOut"
  | alreadyConnected => "AlreadyConnected"
  | notConnected => "NotConnected"
  | authenticationFailed => "AuthenticationFailed"
  | network reason => "Network(" ++ quote reason ++ ")"

/-- `{:?}` of a `Result<(), TransportError>`. -/
def debugResult : Except TransportError Unit → String
  | .ok _ => "Ok(())"
  | .error e => "Err(" ++ e.debug ++ ")"

end TransportError

/-! ## Addresses -/

inductive IpAddr where
  | v4 (bits : BitVec 32)
  | v6 (bits : BitVec 128)
  deriving DecidableEq, Repr

namespace IpAddr

def isIpv4 : IpAddr → Bool
  | v4 _ => true
  | v6 _ => false

def isIpv6 (a : IpAddr) : Bool := !a.isIpv4

def isUnspecified : IpAddr → Bool
  | v4 bits => bits == 0
  | v6 bits => bits == 0

/-- `224.0.0.0/4`, respectively `ff00::/8`; an IPv4-mapped address is
looked at as an IPv6 address. -/
def isMulticast : IpAddr → Bool
  | v4 bits => bits >>> 28 == 0xe
  | v6 bits => bits >>> 120 == 0xff

/-- The family's prefix width. -/
def width : IpAddr → Nat
  | v4 _ => 32
  | v6 _ => 128

def dotted (bits : BitVec 32) : String :=
  let byte (i : Nat) := toString ((bits >>> (8 * i)).toNat % 256)
  byte 3 ++ "." ++ byte 2 ++ "." ++ byte 1 ++ "." ++ byte 0

def segments (bits : BitVec 128) : List Nat :=
  [7, 6, 5, 4, 3, 2, 1, 0].map fun i => (bits >>> (16 * i)).toNat % 65536

/-- `(start, length)` of the first longest run of zero segments. -/
def longestZeroRun (segs : List Nat) : Nat × Nat :=
  let step (acc : (Nat × Nat) × (Nat × Nat)) (x : Nat × Nat) :=
    let (best, current) := acc
    if x.1 = 0 then
      let current := if current.2 = 0 then (x.2, 1) else (current.1, current.2 + 1)
      (if best.2 < current.2 then current else best, current)
    else (best, (0, 0))
  (segs.zipIdx.foldl step ((0, 0), (0, 0))).1

def hexGroups (segs : List Nat) : String :=
  ":".intercalate (segs.map fun n => String.ofList (Nat.toDigits 16 n))

def toIpv4Mapped (bits : BitVec 128) : Option (BitVec 32) :=
  if bits >>> 32 = 0xffff then some (bits.setWidth 32) else none

/-- The `Display` form: dotted quad, respectively the compressed
hexadecimal groups with a mapped address shown as a quad. -/
def display : IpAddr → String
  | v4 bits => dotted bits
  | v6 bits =>
      match toIpv4Mapped bits with
      | some mapped => "::ffff:" ++ dotted mapped
      | none =>
          let segs := segments bits
          let (start, length) := longestZeroRun segs
          if 1 < length then
            hexGroups (segs.take start) ++ "::" ++ hexGroups (segs.drop (start + length))
          else hexGroups segs

end IpAddr

def canonicalAddress : IpAddr → IpAddr
  | .v6 bits => ((IpAddr.toIpv4Mapped bits).map IpAddr.v4).getD (.v6 bits)
  | .v4 bits => .v4 bits

structure TunnelAddress where
  address : IpAddr
  prefixLength : UInt8
  deriving DecidableEq

structure AllowedIp where
  network : IpAddr
  prefixLength : UInt8
  deriving DecidableEq

def TunnelAddress.display (a : TunnelAddress) : String :=
  a.address.display ++ "/" ++ toString a.prefixLength

def AllowedIp.display (a : AllowedIp) : String :=
  a.network.display ++ "/" ++ toString a.prefixLength

/-! ## Profiles -/

abbrev NonZeroU16 := { n : UInt16 // n ≠ 0 }

def examplePort : NonZeroU16 := ⟨51820, by decide⟩

abbrev NonZeroU32 := { n : UInt32 // n ≠ 0 }

abbrev Key := Vector UInt8 32

inductive TransportKind where
  | wireGuard | vless | hysteria2 | tuic | trojan | shadowsocks | ikev2
  | openVpn | softEther | socks5 | httpProxy
  deriving DecidableEq, Repr

structure Endpoint where
  host : String
  port : NonZeroU16
  deriving DecidableEq

structure TransportConfig where
  kind : TransportKind
  endpoint : Endpoint
  connectTimeout : Nat

structure DnsConfig where
  resolvers : List IpAddr

structure WireGuardConfig where
  peerPublicKey : Key
  endpoint : Endpoint
  tunnelAddresses : List TunnelAddress
  allowedIps : List AllowedIp
  persistentKeepaliveSeconds : Option UInt16
  mtu : UInt16

structure WireGuardNodeConfig where
  listenPort : NonZeroU16
  interfaceAddresses : List TunnelAddress
  mtu : UInt16

structure WireGuardNodeGatewayPolicy where
  clientNetworks : List AllowedIp

structure WireGuardNodePeer where
  publicKey : Key
  allowedIps : List AllowedIp
  persistentKeepaliveSeconds : Option UInt16

/-- What a successful connect returns. The source also stamps it with the
current instant, which nothing reads. -/
structure Session where
  id : String
  transport : TransportKind
  deriving DecidableEq

inductive HealthStatus where
  | healthy | degraded | unavailable
  deriving DecidableEq, Repr

/-- The source's `round_trip_time` is `None` in every value it builds. -/
structure TransportHealth where
  status : HealthStatus
  consecutiveFailures : UInt32
  deriving DecidableEq

structure WireGuardNodeHealth where
  status : HealthStatus
  configuredPeers : Nat
  observedPeers : Nat
  recentHandshakes : Nat
  consecutiveFailures : UInt32
  deriving DecidableEq

/-! ## Validation -/

/-- The Unicode `White_Space` property, which `str::trim` strips. -/
def isWhiteSpace (c : Char) : Bool :=
  let n := c.toNat
  (9 ≤ n && n ≤ 13) || n == 0x20 || n == 0x85 || n == 0xa0 || n == 0x1680 ||
    (0x2000 ≤ n && n ≤ 0x200a) || n == 0x2028 || n == 0x2029 || n == 0x202f ||
    n == 0x205f || n == 0x3000

/-- `text.trim().is_empty()`. -/
def isBlank (text : String) : Bool := text.toList.all isWhiteSpace

def TransportConfig.validate (config : TransportConfig) : Except TransportError Unit :=
  if isBlank config.endpoint.host then .error (.invalidConfig "endpoint host is empty")
  else if config.connectTimeout = 0 then .error (.invalidConfig "connect timeout is zero")
  else .ok ()

def DnsConfig.validate (config : DnsConfig) : Except TransportError Unit :=
  if config.resolvers = [] ∨ 8 < config.resolvers.length then
    .error (.invalidConfig "DNS resolver list must contain between 1 and 8 addresses")
  else
    let rejected := .invalidConfig "invalid or duplicate DNS resolver"
    validateEach (fun a => a.isUnspecified || a.isMulticast) id rejected rejected []
      (config.resolvers.map canonicalAddress)

def validateInterfaceAddresses (addresses : List TunnelAddress) :
    Except TransportError Unit :=
  if addresses = [] ∨ 16 < addresses.length then
    .error (.invalidConfig "WireGuard interface requires between 1 and 16 addresses")
  else
    validateEach
      (fun a => a.address.width < a.prefixLength.toNat || a.address.isUnspecified ||
        a.address.isMulticast)
      (·.address) (.invalidConfig "invalid tunnel address prefix")
      (.invalidConfig "duplicate WireGuard tunnel address") [] addresses

def validateKeepalive (seconds : Option UInt16) : Except TransportError Unit :=
  if seconds.any fun n => n == 0 || 300 < n then
    .error (.invalidConfig "WireGuard keepalive is outside safe bounds")
  else .ok ()

def validateMtu (mtu : UInt16) : Except TransportError Unit :=
  if 1280 ≤ mtu ∧ mtu ≤ 9000 then .ok ()
  else .error (.invalidConfig "WireGuard MTU is outside safe bounds")

/-- `MAX << (w - p)`, and no bits at all for the default prefix. -/
def networkMask (w p : Nat) : BitVec w :=
  if p = 0 then 0 else BitVec.allOnes w <<< (w - p)

def validNetwork (allowed : AllowedIp) : Bool :=
  let p := allowed.prefixLength.toNat
  if allowed.network.width < p || allowed.network.isMulticast then false
  else
    match allowed.network with
    | .v4 bits => bits &&& networkMask 32 p == bits
    | .v6 bits => bits &&& networkMask 128 p == bits

def isZeroKey (key : Key) : Bool := key.toList.all (· == 0)

def WireGuardConfig.validate (config : WireGuardConfig) : Except TransportError Unit := do
  if isZeroKey config.peerPublicKey then
    throw (.invalidConfig "WireGuard peer public key is zero")
  if isBlank config.endpoint.host then
    throw (.invalidConfig "endpoint host is empty")
  validateInterfaceAddresses config.tunnelAddresses
  if config.allowedIps = [] ∨ 64 < config.allowedIps.length then
    throw (.invalidConfig "WireGuard allowed IP list must contain between 1 and 64 prefixes")
  let rejected := .invalidConfig "invalid or duplicate WireGuard allowed IP prefix"
  validateEach (fun a => !validNetwork a) id rejected rejected [] config.allowedIps
  validateKeepalive config.persistentKeepaliveSeconds
  validateMtu config.mtu

def WireGuardNodeConfig.validate (config : WireGuardNodeConfig) :
    Except TransportError Unit := do
  validateInterfaceAddresses config.interfaceAddresses
  validateMtu config.mtu

def WireGuardNodePeer.validate (peer : WireGuardNodePeer) : Except TransportError Unit := do
  if isZeroKey peer.publicKey then
    throw (.invalidConfig "WireGuard node peer public key is zero")
  if peer.allowedIps = [] ∨ 16 < peer.allowedIps.length then
    throw (.invalidConfig "WireGuard node peer requires between 1 and 16 host routes")
  let rejected := .invalidConfig "invalid or duplicate WireGuard node peer host route"
  validateEach
    (fun a => a.prefixLength.toNat != a.network.width || a.network.isUnspecified ||
      a.network.isMulticast)
    id rejected rejected [] peer.allowedIps
  validateKeepalive peer.persistentKeepaliveSeconds

/-- Two prefixes of one family agree on the shorter one's network bits. -/
def networksOverlap (left right : AllowedIp) : Bool :=
  let p := min left.prefixLength.toNat right.prefixLength.toNat
  match left.network, right.network with
  | .v4 a, .v4 b =>
      let mask : BitVec 32 := BitVec.allOnes 32 <<< (32 - p)
      a &&& mask == b &&& mask
  | .v6 a, .v6 b =>
      let mask : BitVec 128 := BitVec.allOnes 128 <<< (128 - p)
      a &&& mask == b &&& mask
  | _, _ => false

def networkMatchesAddress (network : AllowedIp) (address : TunnelAddress) : Bool :=
  if network.prefixLength != address.prefixLength then false
  else
    let p := network.prefixLength.toNat
    match network.network, address.address with
    | .v4 a, .v4 b =>
        let mask : BitVec 32 := BitVec.allOnes 32 <<< (32 - p)
        a &&& mask == b &&& mask
    | .v6 a, .v6 b =>
        let mask : BitVec 128 := BitVec.allOnes 128 <<< (128 - p)
        a &&& mask == b &&& mask
    | _, _ => false

namespace WireGuardNodeGatewayPolicy

/-- The loop of `validate`; `earlier` are the networks before the current
index. -/
def validateNetworks : List AllowedIp → List AllowedIp → Except TransportError Unit
  | _, [] => .ok ()
  | earlier, network :: rest =>
      if network.prefixLength == 0 || network.prefixLength.toNat == network.network.width ||
          network.network.isUnspecified || !validNetwork network then
        .error (.invalidConfig "invalid WireGuard node gateway client network")
      else if earlier.any fun other => networksOverlap other network then
        .error (.invalidConfig "overlapping WireGuard node gateway client networks")
      else validateNetworks (earlier ++ [network]) rest

def validate (policy : WireGuardNodeGatewayPolicy) : Except TransportError Unit :=
  if policy.clientNetworks = [] ∨ 16 < policy.clientNetworks.length then
    .error (.invalidConfig "WireGuard node gateway requires between 1 and 16 client networks")
  else validateNetworks [] policy.clientNetworks

def validateForNode (policy : WireGuardNodeGatewayPolicy) (config : WireGuardNodeConfig) :
    Except TransportError Unit := do
  policy.validate
  config.validate
  if policy.clientNetworks.length ≠ config.interfaceAddresses.length ∨
      policy.clientNetworks.any fun network =>
        !config.interfaceAddresses.any fun address => networkMatchesAddress network address then
    throw (.invalidConfig "WireGuard node gateway networks do not match interface addresses")

theorem of_validateForNode {policy : WireGuardNodeGatewayPolicy}
    {config : WireGuardNodeConfig} (h : policy.validateForNode config = .ok ()) :
    policy.validate = .ok () ∧ config.validate = .ok () := by
  rw [validateForNode] at h
  cases hp : policy.validate with
  | error e => rw [hp] at h; cases h
  | ok _ =>
      cases hc : config.validate with
      | error e => rw [hp, hc] at h; cases h
      | ok _ => exact ⟨rfl, rfl⟩

end WireGuardNodeGatewayPolicy

/-- The interface-name check of `wireguard.rs` and `linux.rs`. -/
def validInterface (interface : String) : Bool :=
  interface ≠ "" && interface.utf8ByteSize ≤ 15 &&
    interface.toList.all fun c => c.isAlphanum || c == '_' || c == '-'

end CyberiaVpn.Transport
