import CyberiaVpn.Control.Netip
import CyberiaVpn.Effects.Validate

/-!
# Device configurations

`DeviceConfig` and its validation, from
`services/control-api/internal/configuration/config.go`. The checks come
in the source's order and with its errors.

A slice is a list: the code never tells a nil slice from an empty one.
-/

namespace CyberiaVpn.Control

open Effects (reject validateEach)

structure WireGuardParameters where
  peerPublicKey : Text
  tunnelAddresses : List Prefix
  allowedIPs : List Prefix
  mtu : UInt16
  persistentKeepaliveSecond : UInt16
  deriving DecidableEq

structure DeviceConfig where
  version : UInt64
  deviceID : Text
  nodeID : Text
  transport : Text
  endpoint : AddrPort
  dns : List Addr
  wireGuard : WireGuardParameters
  issuedAt : Time
  expiresAt : Time
  deriving DecidableEq

/-- `ErrInvalid` with the text wrapped around it, and `ErrExpired`. -/
inductive ConfigError where
  | invalid (reason : String)
  | unsupportedTransport (transport : Text)
  | expired
  deriving DecidableEq

def transportWireGuard : Text := ascii "wireguard"

/-- Durations in nanoseconds. -/
def maximumLifetime : Int := 24 * 3600 * 10 ^ 9

def maximumClockSkew : Int := 5 * 60 * 10 ^ 9

def maximumDNSResolvers : Nat := 8

def identifierByte (b : UInt8) : Bool := (97 ≤ b && b ≤ 122) || (48 ≤ b && b ≤ 57) || b == 45

/-- A byte that does not stand for an ASCII character decodes to a rune
the loop rejects, so the loop is over bytes. -/
def validIdentifier (value : Text) : Bool :=
  value ≠ [] && value.length ≤ 63 && value.head? ≠ some 45 && value.getLast? ≠ some 45 &&
    value.all identifierByte

namespace WireGuardParameters

def validate (parameters : WireGuardParameters) : Except ConfigError Unit := do
  reject (parameters.peerPublicKey.length ≠ 32)
    (.invalid "WireGuard peer public key must be 32 bytes")
  reject (parameters.peerPublicKey.all (· == 0))
    (.invalid "WireGuard peer public key is zero")
  reject (parameters.tunnelAddresses = [] ∨ 16 < parameters.tunnelAddresses.length)
    (.invalid "WireGuard requires between 1 and 16 tunnel addresses")
  validateEach
    (fun p : Prefix => !p.isValid || p.addr.isUnspecified || p.addr.isMulticast || p.addr.zone ≠ [])
    Prefix.addr (.invalid "invalid WireGuard tunnel address")
    (.invalid "duplicate WireGuard tunnel address") [] parameters.tunnelAddresses
  reject (parameters.allowedIPs = [] ∨ 64 < parameters.allowedIPs.length)
    (.invalid "WireGuard requires between 1 and 64 allowed IP prefixes")
  validateEach
    (fun p : Prefix => !p.isValid || p ≠ p.masked || p.addr.isMulticast || p.addr.is4In6)
    id (.invalid "invalid WireGuard allowed IP prefix")
    (.invalid "duplicate WireGuard allowed IP prefix") [] parameters.allowedIPs
  reject (parameters.mtu < 1280 ∨ 9000 < parameters.mtu)
    (.invalid "WireGuard MTU is outside safe bounds")
  reject (300 < parameters.persistentKeepaliveSecond)
    (.invalid "WireGuard keepalive is outside safe bounds")

end WireGuardParameters

namespace DeviceConfig

def validate (config : DeviceConfig) (now : Time) : Except ConfigError Unit := do
  reject (config.version = 0)
    (.invalid "version must be positive")
  reject (!validIdentifier config.deviceID || !validIdentifier config.nodeID)
    (.invalid "device and node IDs must be lowercase slugs")
  reject (config.transport ≠ transportWireGuard)
    (.unsupportedTransport config.transport)
  let address := config.endpoint.addr.unmap
  reject (!config.endpoint.isValid || config.endpoint.port == 0 || address.isUnspecified ||
      address.isMulticast || config.endpoint.addr.zone ≠ [])
    (.invalid "endpoint must contain an unscoped unicast IP address and nonzero port")
  reject (config.dns = [] ∨ maximumDNSResolvers < config.dns.length)
    (.invalid "between 1 and 8 DNS resolvers are required")
  config.wireGuard.validate
  validateEach
    (fun resolver : Addr => !resolver.unmap.isValid || resolver.unmap.isUnspecified ||
      resolver.unmap.isMulticast || resolver.zone ≠ [])
    Addr.unmap (.invalid "invalid DNS resolver") (.invalid "duplicate DNS resolver") []
    config.dns
  reject (config.issuedAt.isZero || config.expiresAt.isZero ||
      !config.expiresAt.after config.issuedAt)
    (.invalid "invalid validity interval")
  reject (maximumLifetime < config.expiresAt.sub config.issuedAt)
    (.invalid "lifetime exceeds 24h0m0s")
  reject (config.issuedAt.after (now.add maximumClockSkew))
    (.invalid "issued-at time is in the future")
  reject (!config.expiresAt.after now)
    .expired

end DeviceConfig

/-! ## What a valid configuration is -/

/-- The shape validation gives the parameters; the exact bounds matter to
nothing that only reads them. -/
structure WireGuardParameters.Shaped (parameters : WireGuardParameters) : Prop where
  key : parameters.peerPublicKey.length = 32
  tunnelCount : parameters.tunnelAddresses.length ≤ 16
  tunnel : ∀ p ∈ parameters.tunnelAddresses, p.isValid = true
  allowedCount : parameters.allowedIPs.length ≤ 64
  allowed : ∀ p ∈ parameters.allowedIPs, p.isValid = true

theorem WireGuardParameters.shaped {parameters : WireGuardParameters}
    (h : parameters.validate = .ok ()) : parameters.Shaped := by
  simp only [validate, Effects.andThen_eq_ok, Effects.reject_eq_ok,
    Effects.validateEach_eq_ok] at h
  obtain ⟨hkey, -, htunnelCount, htunnel, hallowedCount, hallowed, -⟩ := h
  refine ⟨not_ne_iff.mp hkey, by omega, fun p hp => ?_, by omega, fun p hp => ?_⟩
  · have hgood := (htunnel.1 p hp).1
    simp only [Bool.or_eq_false_iff, Bool.not_eq_false'] at hgood
    exact hgood.1.1.1
  · have hgood := (hallowed.1 p hp).1
    simp only [Bool.or_eq_false_iff, Bool.not_eq_false'] at hgood
    exact hgood.1.1.1

structure DeviceConfig.Shaped (config : DeviceConfig) : Prop where
  deviceID : config.deviceID.length ≤ 63
  nodeID : config.nodeID.length ≤ 63
  transport : config.transport = transportWireGuard
  endpoint : config.endpoint.isValid = true ∧ config.endpoint.addr.zone = []
  dnsCount : config.dns.length ≤ 8
  dns : ∀ a ∈ config.dns, a.isValid = true ∧ a.zone = []
  wireGuard : config.wireGuard.Shaped

theorem validIdentifier_length {value : Text} (h : validIdentifier value = true) :
    value.length ≤ 63 := by
  simp only [validIdentifier, Bool.and_eq_true, decide_eq_true_eq] at h
  exact h.1.1.1.2

theorem validIdentifier_bytes {value : Text} (h : validIdentifier value = true) :
    ∀ b ∈ value, identifierByte b = true := by
  simp only [validIdentifier, Bool.and_eq_true] at h
  exact List.all_eq_true.mp h.2

theorem DeviceConfig.shaped {config : DeviceConfig} {now : Time}
    (h : config.validate now = .ok ()) : config.Shaped := by
  simp only [validate, Effects.andThen_eq_ok, Effects.reject_eq_ok,
    Effects.validateEach_eq_ok, Bool.or_eq_true, Bool.not_eq_true', not_or, Bool.not_eq_false,
    decide_eq_true_eq, not_not] at h
  obtain ⟨-, ⟨hdevice, hnode⟩, htransport, hendpoint, hcount, hwireGuard, hdns, -⟩ := h
  have hdnsCount : config.dns.length ≤ 8 := Nat.not_lt.mp hcount.2
  refine ⟨validIdentifier_length hdevice, validIdentifier_length hnode, htransport,
    ⟨hendpoint.1.1.1.1, hendpoint.2⟩, hdnsCount, fun a ha => ?_,
    WireGuardParameters.shaped hwireGuard⟩
  have hgood := (hdns.1 a ha).1
  simp only [Bool.or_eq_false_iff, Bool.not_eq_false', decide_eq_false_iff_not, not_not] at hgood
  exact ⟨(Addr.isValid_unmap a).symm.trans hgood.1.1.1, hgood.2⟩

end CyberiaVpn.Control
