import CyberiaVpn.Control.Signature
import CyberiaVpn.Transport.Types

/-!
# Configurations as profiles of the data plane

A device turns a `DeviceConfig` of the control plane, written in Go, into
the `WireGuardConfig` and `DnsConfig` of the data plane, written in Rust.
`profile` is that correspondence, field by field: an address keeps its
family, also an IPv4-mapped one, and a keepalive of zero is none. It is
partial, because only the control plane has invalid addresses, zones and
keys of another length.

The two validators agree: what the control plane accepts has a profile,
and the data plane accepts it (`toWireGuardConfig_of_valid`); for resolvers the
converse holds as well (`checkResolvers_of_validate`).
-/

namespace CyberiaVpn.Control

open Effects
open Transport (IpAddr TunnelAddress AllowedIp Key Endpoint WireGuardConfig DnsConfig
  canonicalAddress)

/-! ## The correspondence -/

def toIpAddr : Addr → Option IpAddr
  | .zero => none
  | .v4 bits => some (.v4 bits)
  | .v6 bits zone => if zone = [] then some (.v6 bits) else none

def toNetwork (p : Prefix) : Option (IpAddr × UInt8) := do
  let address ← toIpAddr p.addr
  let bits ← p.bits
  return (address, UInt8.ofNat bits)

def toTunnelAddress (p : Prefix) : Option TunnelAddress :=
  (toNetwork p).map fun (address, prefixLength) => ⟨address, prefixLength⟩

def toAllowedIp (p : Prefix) : Option AllowedIp :=
  (toNetwork p).map fun (network, prefixLength) => ⟨network, prefixLength⟩

def toKey (bytes : Text) : Option Key :=
  if h : bytes.length = 32 then some ⟨bytes.toArray, by simpa using h⟩ else none

def toEndpoint (a : AddrPort) : Option Endpoint := do
  let address ← toIpAddr a.addr
  if h : a.port ≠ 0 then some ⟨address.display, ⟨a.port, h⟩⟩ else none

def toDnsConfig (dns : List Addr) : Option DnsConfig := do
  let resolvers ← dns.mapM toIpAddr
  return ⟨resolvers⟩

def toWireGuardConfig (endpoint : AddrPort) (parameters : WireGuardParameters) :
    Option WireGuardConfig := do
  let peerPublicKey ← toKey parameters.peerPublicKey
  let endpoint ← toEndpoint endpoint
  let tunnelAddresses ← parameters.tunnelAddresses.mapM toTunnelAddress
  let allowedIps ← parameters.allowedIPs.mapM toAllowedIp
  return {
    peerPublicKey, endpoint, tunnelAddresses, allowedIps
    persistentKeepaliveSeconds :=
      if parameters.persistentKeepaliveSecond = 0 then none
      else some parameters.persistentKeepaliveSecond
    mtu := parameters.mtu }

def profile (config : DeviceConfig) : Option (WireGuardConfig × DnsConfig) := do
  let wireGuard ← toWireGuardConfig config.endpoint config.wireGuard
  let dns ← toDnsConfig config.dns
  return (wireGuard, dns)

/-- What `DeviceConfig.validate` checks of the resolvers. -/
def checkResolvers (dns : List Addr) : Except ConfigError Unit := do
  reject (dns = [] ∨ maximumDNSResolvers < dns.length)
    (.invalid "between 1 and 8 DNS resolvers are required")
  validateEach
    (fun resolver : Addr => !resolver.unmap.isValid || resolver.unmap.isUnspecified ||
      resolver.unmap.isMulticast || resolver.zone ≠ [])
    Addr.unmap (.invalid "invalid DNS resolver") (.invalid "duplicate DNS resolver") [] dns

/-! ## Addresses -/

theorem toIpAddr_isSome {a : Addr} (hvalid : a.isValid = true) (hzone : a.zone = []) :
    ∃ address, toIpAddr a = some address := by
  cases a with
  | zero => cases hvalid
  | v4 bits => exact ⟨_, rfl⟩
  | v6 bits zone => exact ⟨_, if_pos hzone⟩

theorem toIpAddr_v6 {bits : BitVec 128} {zone : Text} {address : IpAddr}
    (h : toIpAddr (.v6 bits zone) = some address) : zone = [] ∧ address = .v6 bits := by
  simp only [toIpAddr] at h
  split at h
  · next hzone => exact ⟨hzone, (Option.some.inj h).symm⟩
  · cases h

/-- Different addresses correspond to different ones. -/
theorem toIpAddr_inj {a b : Addr} {address : IpAddr} (ha : toIpAddr a = some address)
    (hb : toIpAddr b = some address) : a = b := by
  cases a with
  | zero => cases ha
  | v4 bits =>
      obtain rfl := Option.some.inj ha
      cases b with
      | zero => cases hb
      | v4 bits' =>
          cases hb
          rfl
      | v6 bits' zone => cases (toIpAddr_v6 hb).2
  | v6 bits zone =>
      obtain ⟨rfl, rfl⟩ := toIpAddr_v6 ha
      cases b with
      | zero => cases hb
      | v4 bits' => cases hb
      | v6 bits' zone' =>
          obtain ⟨rfl, hbits⟩ := toIpAddr_v6 hb
          cases hbits
          rfl

theorem width_eq {a : Addr} {address : IpAddr} (h : toIpAddr a = some address) :
    address.width = a.bitLen := by
  cases a with
  | zero => cases h
  | v4 bits =>
      cases h
      rfl
  | v6 bits zone =>
      obtain ⟨-, rfl⟩ := toIpAddr_v6 h
      rfl

theorem isUnspecified_eq {a : Addr} {address : IpAddr} (h : toIpAddr a = some address) :
    address.isUnspecified = a.isUnspecified := by
  cases a with
  | zero => cases h
  | v4 bits =>
      cases h
      simp [IpAddr.isUnspecified, Addr.isUnspecified, beq_eq_decide]
  | v6 bits zone =>
      obtain ⟨rfl, rfl⟩ := toIpAddr_v6 h
      simp [IpAddr.isUnspecified, Addr.isUnspecified, beq_eq_decide]

section

variable {bits : BitVec 128} {zone : Text}

theorem unmap_mapped (h : bits >>> 32 = 0xffff) :
    (Addr.v6 bits zone).unmap = .v4 (bits.setWidth 32) :=
  if_pos h

theorem unmap_unmapped (h : ¬bits >>> 32 = 0xffff) : (Addr.v6 bits zone).unmap = .v6 bits zone :=
  if_neg h

theorem canonicalAddress_mapped (h : bits >>> 32 = 0xffff) :
    canonicalAddress (.v6 bits) = .v4 (bits.setWidth 32) := by
  rw [canonicalAddress, IpAddr.toIpv4Mapped, if_pos h]
  rfl

theorem canonicalAddress_unmapped (h : ¬bits >>> 32 = 0xffff) :
    canonicalAddress (.v6 bits) = .v6 bits := by
  rw [canonicalAddress, IpAddr.toIpv4Mapped, if_neg h]
  rfl

/-- A mapped address is no multicast address of its own family. -/
theorem not_multicast_of_mapped (h : bits >>> 32 = 0xffff) :
    (IpAddr.v6 bits).isMulticast = false := by
  have hshift : bits >>> 120 = (bits >>> 32) >>> 88 := BitVec.shiftRight_add bits 32 88
  rw [IpAddr.isMulticast, hshift, h]
  decide

end

/-- The control plane looks through a mapped address, so it rejects no
less. -/
theorem isMulticast_of {a : Addr} {address : IpAddr} (h : toIpAddr a = some address)
    (hnot : a.isMulticast = false) : address.isMulticast = false := by
  cases a with
  | zero => cases h
  | v4 bits =>
      cases h
      exact hnot
  | v6 bits zone =>
      obtain ⟨rfl, rfl⟩ := toIpAddr_v6 h
      by_cases hmapped : bits >>> 32 = 0xffff
      · exact not_multicast_of_mapped hmapped
      · rw [Addr.isMulticast, unmap_unmapped hmapped] at hnot
        exact hnot

/-- Both planes canonicalise alike. -/
theorem toIpAddr_unmap {a : Addr} {address : IpAddr} (h : toIpAddr a = some address) :
    toIpAddr a.unmap = some (canonicalAddress address) := by
  cases a with
  | zero => cases h
  | v4 bits =>
      cases h
      rfl
  | v6 bits zone =>
      obtain ⟨rfl, rfl⟩ := toIpAddr_v6 h
      by_cases hmapped : bits >>> 32 = 0xffff
      · rw [unmap_mapped hmapped, canonicalAddress_mapped hmapped]
        rfl
      · rw [unmap_unmapped hmapped, canonicalAddress_unmapped hmapped]
        rfl

/-- After that a multicast address is one on both sides. -/
theorem isMulticast_unmap {a : Addr} {address : IpAddr} (h : toIpAddr a = some address) :
    (canonicalAddress address).isMulticast = a.unmap.isMulticast := by
  cases a with
  | zero => cases h
  | v4 bits =>
      cases h
      rfl
  | v6 bits zone =>
      obtain ⟨rfl, rfl⟩ := toIpAddr_v6 h
      by_cases hmapped : bits >>> 32 = 0xffff
      · rw [unmap_mapped hmapped, canonicalAddress_mapped hmapped]
        rfl
      · rw [unmap_unmapped hmapped, canonicalAddress_unmapped hmapped, Addr.isMulticast,
          unmap_unmapped hmapped]
        rfl

/-! ## Lists -/

section

variable {α β γ δ ε ε' : Type} [DecidableEq γ] [DecidableEq δ] {f : α → Option β}

/-- Everything in a list has a counterpart if each element has. -/
theorem mapM_isSome : ∀ {xs : List α}, (∀ x ∈ xs, ∃ y, f x = some y) →
    ∃ ys, xs.mapM f = some ys
  | [], _ => ⟨[], rfl⟩
  | x :: xs, h => by
      obtain ⟨y, hy⟩ := h x (List.mem_cons_self ..)
      obtain ⟨ys, hys⟩ := mapM_isSome fun x' hx' => h x' (List.mem_cons_of_mem _ hx')
      exact ⟨y :: ys, by rw [List.mapM_cons, hy, hys]; rfl⟩

theorem mapM_forall₂ : ∀ {xs : List α} {ys : List β}, xs.mapM f = some ys →
    List.Forall₂ (fun x y => f x = some y) xs ys
  | [], ys, h => by
      obtain rfl : [] = ys := Option.some.inj h
      exact .nil
  | x :: xs, ys, h => by
      rw [List.mapM_cons] at h
      obtain ⟨y, hy, h⟩ := Option.bind_eq_some_iff.mp h
      obtain ⟨ys', hys', h⟩ := Option.bind_eq_some_iff.mp h
      obtain rfl : y :: ys' = ys := Option.some.inj h
      exact .cons hy (mapM_forall₂ hys')

omit [DecidableEq γ] [DecidableEq δ] in
theorem forall₂_mem_right {R : α → β → Prop} {xs : List α} {ys : List β}
    (h : List.Forall₂ R xs ys) {y : β} (hy : y ∈ ys) : ∃ x ∈ xs, R x y := by
  induction h with
  | nil => cases hy
  | cons hxy _ ih =>
      rcases List.mem_cons.mp hy with rfl | hmem
      · exact ⟨_, List.mem_cons_self .., hxy⟩
      · obtain ⟨x, hx, hR⟩ := ih hmem
        exact ⟨x, List.mem_cons_of_mem _ hx, hR⟩

/-- Loops over corresponding lists: each good element has a good
counterpart, and different keys have different ones. -/
theorem validateEach_forall₂ {R : α → β → Prop} {K : γ → δ → Prop} {bad : α → Bool}
    {bad' : β → Bool} {key : α → γ} {key' : β → δ} {invalid duplicate : ε}
    {invalid' duplicate' : ε'} {xs : List α} {ys : List β} (h : List.Forall₂ R xs ys)
    (hgood : ∀ x y, R x y → bad x = false → bad' y = false)
    (hkey : ∀ x y, R x y → K (key x) (key' y)) (hK : Relator.BiUnique K)
    (hok : validateEach bad key invalid duplicate [] xs = .ok ()) :
    validateEach bad' key' invalid' duplicate' [] ys = .ok () := by
  obtain ⟨hall, hnodup⟩ := validateEach_eq_ok.mp hok
  have hkeys : List.Forall₂ K (xs.map key) (ys.map key') := by
    rw [List.forall₂_map_left_iff, List.forall₂_map_right_iff]
    exact h.imp hkey
  refine validateEach_eq_ok.mpr ⟨fun y hy => ⟨?_, List.not_mem_nil⟩,
    (List.rel_nodup hK hkeys).mp hnodup⟩
  obtain ⟨x, hx, hR⟩ := forall₂_mem_right h hy
  exact hgood x y hR (hall x hx).1

end

theorem biUnique_toIpAddr : Relator.BiUnique fun a address => toIpAddr a = some address :=
  ⟨fun _ _ _ ha hb => toIpAddr_inj ha hb, fun _ _ _ ha hb => Option.some.inj (ha.symm.trans hb)⟩

theorem of_toIpAddr {a : Addr} {address : IpAddr} (h : toIpAddr a = some address) :
    a.isValid = true ∧ a.zone = [] := by
  cases a with
  | zero => cases h
  | v4 bits => exact ⟨rfl, rfl⟩
  | v6 bits zone => exact ⟨rfl, (toIpAddr_v6 h).1⟩

/-! ## Resolvers -/

/-- A resolver and the canonical form of its counterpart. -/
def Resolves (a : Addr) (canonical : IpAddr) : Prop :=
  ∃ address, toIpAddr a = some address ∧ canonical = canonicalAddress address

theorem Resolves.key {a : Addr} {canonical : IpAddr} (h : Resolves a canonical) :
    toIpAddr a.unmap = some canonical := by
  obtain ⟨address, ha, rfl⟩ := h
  exact toIpAddr_unmap ha

/-- Both planes call it unusable, or neither. -/
theorem Resolves.bad_iff {a : Addr} {canonical : IpAddr} (h : Resolves a canonical) :
    (!a.unmap.isValid || a.unmap.isUnspecified || a.unmap.isMulticast || a.zone ≠ []) = false ↔
      (canonical.isUnspecified || canonical.isMulticast) = false := by
  have hunspecified := isUnspecified_eq h.key
  obtain ⟨address, ha, rfl⟩ := h
  obtain ⟨hvalid, hzone⟩ := of_toIpAddr ha
  rw [hunspecified, isMulticast_unmap ha, Addr.isValid_unmap, hvalid, hzone]
  simp

theorem forall₂_resolves {dns : List Addr} {resolvers : List IpAddr}
    (h : dns.mapM toIpAddr = some resolvers) :
    List.Forall₂ Resolves dns (resolvers.map canonicalAddress) := by
  rw [List.forall₂_map_right_iff]
  exact (mapM_forall₂ h).imp fun _ _ ha => ⟨_, ha, rfl⟩

theorem resolvers_count {dns : List Addr} {resolvers : List IpAddr}
    (h : dns.mapM toIpAddr = some resolvers) : dns.length = resolvers.length :=
  (mapM_forall₂ h).length_eq

theorem validate_of_checkResolvers {dns : List Addr} {resolvers : List IpAddr}
    (h : dns.mapM toIpAddr = some resolvers) (hok : checkResolvers dns = .ok ()) :
    (DnsConfig.mk resolvers).validate = .ok () := by
  obtain ⟨hcount, heach⟩ := andThen_eq_ok.mp hok
  have hcount := reject_eq_ok.mp hcount
  have hlength := resolvers_count h
  have hempty : ¬(resolvers = [] ∨ 8 < resolvers.length) := by
    rintro (rfl | hlarge)
    · exact hcount (Or.inl (List.length_eq_zero_iff.mp hlength))
    · exact hcount (Or.inr (hlength ▸ hlarge))
  rw [DnsConfig.validate, if_neg hempty]
  exact validateEach_forall₂ (forall₂_resolves h) (fun _ _ hR => hR.bad_iff.mp)
    (fun _ _ hR => hR.key) biUnique_toIpAddr heach

theorem checkResolvers_of_validate {dns : List Addr} {resolvers : List IpAddr}
    (h : dns.mapM toIpAddr = some resolvers) (hok : (DnsConfig.mk resolvers).validate = .ok ()) :
    checkResolvers dns = .ok () := by
  have hlength := resolvers_count h
  rw [DnsConfig.validate] at hok
  split at hok
  · cases hok
  next hcount =>
  refine andThen_eq_ok.mpr ⟨reject_eq_ok.mpr ?_, ?_⟩
  · rintro (rfl | hlarge)
    · exact hcount (Or.inl (List.length_eq_zero_iff.mp hlength.symm))
    · exact hcount (Or.inr (hlength ▸ hlarge))
  · have hK : Relator.BiUnique fun address a => toIpAddr a = some address :=
      ⟨fun _ _ _ ha hb => biUnique_toIpAddr.2 ha hb, fun _ _ _ ha hb => biUnique_toIpAddr.1 ha hb⟩
    exact validateEach_forall₂ (forall₂_resolves h).flip
      (fun _ _ hR => (Resolves.bad_iff hR).mpr) (fun _ _ hR => Resolves.key hR) hK hok

/-- Accepted resolvers all have counterparts. -/
theorem mapM_of_checkResolvers {dns : List Addr} (hok : checkResolvers dns = .ok ()) :
    ∃ resolvers, dns.mapM toIpAddr = some resolvers := by
  obtain ⟨-, heach⟩ := andThen_eq_ok.mp hok
  refine mapM_isSome fun a ha => ?_
  have hgood := ((validateEach_eq_ok.mp heach).1 a ha).1
  simp only [Bool.or_eq_false_iff, Bool.not_eq_false', decide_eq_false_iff_not, not_not] at hgood
  exact toIpAddr_isSome ((Addr.isValid_unmap a).symm.trans hgood.1.1.1) hgood.2

/-! ## Prefixes -/

section

variable {p q : Prefix} {address : IpAddr} {prefixLength : UInt8}

theorem toNetwork_eq (h : toNetwork p = some (address, prefixLength)) :
    toIpAddr p.addr = some address ∧ p.bits = some prefixLength.toNat := by
  obtain ⟨a, ha, h⟩ := Option.bind_eq_some_iff.mp h
  obtain ⟨b, hb, h⟩ := Option.bind_eq_some_iff.mp h
  obtain ⟨rfl, rfl⟩ := Prod.mk.inj (Option.some.inj h)
  have hrange := (p.inRange b hb).2
  have hlen : p.addr.bitLen ≤ 128 := by cases p.addr <;> simp [Addr.bitLen]
  have hmod : (UInt8.ofNat b).toNat = b := by
    rw [UInt8.toNat_ofNat']
    omega
  exact ⟨ha, by rw [hmod]; exact hb⟩

theorem toNetwork_isSome (hvalid : p.isValid = true) : ∃ network, toNetwork p = some network := by
  obtain ⟨b, hb⟩ := Option.isSome_iff_exists.mp hvalid
  obtain ⟨address, haddress⟩ := toIpAddr_isSome (p.inRange b hb).1 p.unscoped
  exact ⟨(address, UInt8.ofNat b), by rw [toNetwork, haddress, hb]; rfl⟩

/-- The length fits the family, as in every prefix. -/
theorem prefixLength_le (h : toNetwork p = some (address, prefixLength)) :
    prefixLength.toNat ≤ address.width := by
  obtain ⟨haddress, hbits⟩ := toNetwork_eq h
  rw [width_eq haddress]
  exact (p.inRange _ hbits).2

theorem Prefix.ext_addr {p q : Prefix} (haddr : p.addr = q.addr) (hbits : p.bits = q.bits) :
    p = q := by
  obtain ⟨a, b, _, _⟩ := p
  obtain ⟨a', b', _, _⟩ := q
  obtain rfl : a = a' := haddr
  obtain rfl : b = b' := hbits
  rfl

theorem toNetwork_inj (hp : toNetwork p = some (address, prefixLength))
    (hq : toNetwork q = some (address, prefixLength)) : p = q := by
  obtain ⟨hpa, hpb⟩ := toNetwork_eq hp
  obtain ⟨hqa, hqb⟩ := toNetwork_eq hq
  exact Prefix.ext_addr (toIpAddr_inj hpa hqa) (hpb.trans hqb.symm)

theorem masked_addr {b : Nat} (hb : p.bits = some b) : p.masked.addr = p.addr.mask b := by
  rw [Prefix.masked]
  split
  · next hnone =>
      rw [hnone] at hb
      cases hb
  · next b' hb' =>
      obtain rfl := Option.some.inj (hb'.symm.trans hb)
      rfl

/-- The data plane treats the default prefix apart because a shift by the
whole width is none of its own. -/
theorem networkMask_eq (w n : Nat) :
    Transport.networkMask w n = BitVec.allOnes w <<< (w - n) := by
  rw [Transport.networkMask]
  split
  · next hzero =>
      subst hzero
      simp
  · rfl

/-- A prefix without host bits is a network. -/
theorem validNetwork_of_masked (h : toNetwork p = some (address, prefixLength))
    (hmasked : p = p.masked) (hmulticast : p.addr.isMulticast = false) :
    Transport.validNetwork ⟨address, prefixLength⟩ = true := by
  obtain ⟨haddress, hbits⟩ := toNetwork_eq h
  have haddr : p.addr = p.addr.mask prefixLength.toNat := by
    rw [← masked_addr hbits, ← hmasked]
  have hfits : (decide (address.width < prefixLength.toNat) || address.isMulticast) = false := by
    simp [isMulticast_of haddress hmulticast, prefixLength_le h]
  simp only [Transport.validNetwork, hfits, Bool.false_eq_true, if_false, networkMask_eq]
  cases ha : p.addr with
  | zero =>
      rw [ha] at haddress
      cases haddress
  | v4 bits =>
      rw [ha] at haddress haddr
      cases haddress
      exact beq_iff_eq.mpr (Addr.v4.inj haddr).symm
  | v6 bits zone =>
      rw [ha] at haddress haddr
      obtain ⟨-, rfl⟩ := toIpAddr_v6 haddress
      exact beq_iff_eq.mpr (Addr.v6.inj haddr).1.symm

end

/-! ## The profile -/

section

variable {parameters : WireGuardParameters}

theorem tunnelAddresses_of_valid {addresses : List TunnelAddress} {prefixes : List Prefix}
    (h : prefixes.mapM toTunnelAddress = some addresses)
    (hcount : ¬(prefixes = [] ∨ 16 < prefixes.length))
    (hok : validateEach
      (fun p : Prefix => !p.isValid || p.addr.isUnspecified || p.addr.isMulticast || p.addr.zone ≠ [])
      Prefix.addr (ConfigError.invalid "invalid WireGuard tunnel address")
      (.invalid "duplicate WireGuard tunnel address") [] prefixes = .ok ()) :
    Transport.validateInterfaceAddresses addresses = .ok () := by
  have hall := mapM_forall₂ h
  have hcount' : ¬(addresses = [] ∨ 16 < addresses.length) := by
    rw [← List.length_eq_zero_iff, ← hall.length_eq, List.length_eq_zero_iff]
    exact hcount
  rw [Transport.validateInterfaceAddresses, if_neg hcount']
  refine validateEach_forall₂ hall (fun p address hp hgood => ?_) (fun p address hp => ?_)
    biUnique_toIpAddr hok
  · obtain ⟨⟨a, n⟩, hnetwork, rfl⟩ := Option.map_eq_some_iff.mp hp
    have haddress := (toNetwork_eq hnetwork).1
    simp only [Bool.or_eq_false_iff] at hgood
    simp [prefixLength_le hnetwork, isUnspecified_eq haddress, hgood.1.1.2,
      isMulticast_of haddress hgood.1.2]
  · obtain ⟨⟨a, n⟩, hnetwork, rfl⟩ := Option.map_eq_some_iff.mp hp
    exact (toNetwork_eq hnetwork).1

theorem biUnique_toAllowedIp : Relator.BiUnique fun p allowed => toAllowedIp p = some allowed := by
  refine ⟨fun p q allowed hp hq => ?_, fun _ _ _ ha hb => Option.some.inj (ha.symm.trans hb)⟩
  obtain ⟨⟨a, n⟩, hnetwork, rfl⟩ := Option.map_eq_some_iff.mp hp
  obtain ⟨⟨a', n'⟩, hnetwork', heq⟩ := Option.map_eq_some_iff.mp hq
  cases heq
  exact toNetwork_inj hnetwork hnetwork'

theorem allowedIps_of_valid {allowedIps : List AllowedIp} {prefixes : List Prefix}
    {rejected : Transport.TransportError} (h : prefixes.mapM toAllowedIp = some allowedIps)
    (hok : validateEach
      (fun p : Prefix => !p.isValid || p ≠ p.masked || p.addr.isMulticast || p.addr.is4In6) id
      (ConfigError.invalid "invalid WireGuard allowed IP prefix")
      (.invalid "duplicate WireGuard allowed IP prefix") [] prefixes = .ok ()) :
    validateEach (fun a => !Transport.validNetwork a) id rejected rejected [] allowedIps =
      .ok () := by
  refine validateEach_forall₂ (mapM_forall₂ h) (fun p allowed hp hgood => ?_)
    (fun _ _ hp => hp) biUnique_toAllowedIp hok
  obtain ⟨⟨a, n⟩, hnetwork, rfl⟩ := Option.map_eq_some_iff.mp hp
  simp only [Bool.or_eq_false_iff, decide_eq_false_iff_not, not_not] at hgood
  rw [validNetwork_of_masked hnetwork hgood.1.1.2 hgood.1.2]
  rfl

theorem toKey_of_valid (hlength : parameters.peerPublicKey.length = 32)
    (hzero : ¬parameters.peerPublicKey.all (· == 0) = true) :
    ∃ key, toKey parameters.peerPublicKey = some key ∧ Transport.isZeroKey key = false := by
  refine ⟨_, dif_pos hlength, ?_⟩
  simpa [Transport.isZeroKey, Vector.toList] using hzero

end

theorem isBlank_of_mem {text : String} {c : Char} (hmem : c ∈ text.toList)
    (hc : Transport.isWhiteSpace c = false) : Transport.isBlank text = false := by
  rw [Transport.isBlank, List.all_eq_false]
  exact ⟨c, hmem, by simp [hc]⟩

theorem hexGroups_colon (bits : BitVec 128) :
    ':' ∈ (IpAddr.hexGroups (IpAddr.segments bits)).toList := by
  simp only [IpAddr.hexGroups, IpAddr.segments, List.map_cons, String.intercalate_cons_cons,
    String.toList_append, List.mem_append]
  exact Or.inl (Or.inr (List.mem_singleton.mpr rfl))

/-- The text of an address has a dot or a colon. -/
theorem display_not_blank (address : IpAddr) : Transport.isBlank address.display = false := by
  cases address with
  | v4 bits =>
      refine isBlank_of_mem (c := '.') ?_ (by decide)
      simp only [IpAddr.display, IpAddr.dotted, String.toList_append, List.mem_append]
      exact Or.inl (Or.inl (Or.inl (Or.inl (Or.inl (Or.inr (List.mem_singleton.mpr rfl))))))
  | v6 bits =>
      refine isBlank_of_mem (c := ':') ?_ (by decide)
      rw [IpAddr.display]
      split
      · simp only [String.toList_append, List.mem_append]
        exact Or.inl (by decide)
      · dsimp only
        split
        · simp only [String.toList_append, List.mem_append]
          exact Or.inl (Or.inr (by decide))
        · exact hexGroups_colon bits

theorem toEndpoint_of_valid {endpoint : AddrPort} (hvalid : endpoint.isValid = true)
    (hport : endpoint.port ≠ 0) (hzone : endpoint.addr.zone = []) :
    ∃ e, toEndpoint endpoint = some e ∧ Transport.isBlank e.host = false := by
  obtain ⟨address, haddress⟩ := toIpAddr_isSome hvalid hzone
  refine ⟨⟨address.display, ⟨endpoint.port, hport⟩⟩, ?_, display_not_blank address⟩
  rw [toEndpoint, haddress]
  simp [hport]

theorem validateKeepalive_of_valid {seconds : UInt16} (h : ¬300 < seconds) :
    Transport.validateKeepalive (if seconds = 0 then none else some seconds) = .ok () := by
  rw [Transport.validateKeepalive]
  split
  · rfl
  · next hpositive => simp [hpositive, h]

/-- What the control plane accepts has a profile, which the data plane
accepts. -/
theorem toWireGuardConfig_of_valid {endpoint : AddrPort} {parameters : WireGuardParameters}
    (hendpoint : endpoint.isValid = true) (hport : endpoint.port ≠ 0)
    (hzone : endpoint.addr.zone = []) (h : parameters.validate = .ok ()) :
    ∃ config, toWireGuardConfig endpoint parameters = some config ∧ config.validate = .ok () := by
  have hshaped := WireGuardParameters.shaped h
  simp only [WireGuardParameters.validate, andThen_eq_ok, reject_eq_ok] at h
  obtain ⟨hlength, hzero, htunnelCount, htunnel, hallowedCount, hallowed, hmtu, hkeepalive⟩ := h
  obtain ⟨key, hkey, hnonzero⟩ := toKey_of_valid (not_ne_iff.mp hlength) hzero
  obtain ⟨e, he, hhost⟩ := toEndpoint_of_valid hendpoint hport hzone
  obtain ⟨addresses, haddresses⟩ : ∃ addresses,
      parameters.tunnelAddresses.mapM toTunnelAddress = some addresses := by
    refine mapM_isSome fun p hp => ?_
    obtain ⟨network, hnetwork⟩ := toNetwork_isSome (hshaped.tunnel p hp)
    exact ⟨_, by rw [toTunnelAddress, hnetwork]; rfl⟩
  obtain ⟨allowedIps, hallowedIps⟩ : ∃ allowedIps,
      parameters.allowedIPs.mapM toAllowedIp = some allowedIps := by
    refine mapM_isSome fun p hp => ?_
    obtain ⟨network, hnetwork⟩ := toNetwork_isSome (hshaped.allowed p hp)
    exact ⟨_, by rw [toAllowedIp, hnetwork]; rfl⟩
  refine ⟨_, by rw [toWireGuardConfig, hkey, he, haddresses, hallowedIps]; rfl, ?_⟩
  have hcount : ¬(allowedIps = [] ∨ 64 < allowedIps.length) := by
    rw [← List.length_eq_zero_iff, ← (mapM_forall₂ hallowedIps).length_eq,
      List.length_eq_zero_iff]
    exact hallowedCount
  have hmtu : 1280 ≤ parameters.mtu ∧ parameters.mtu ≤ 9000 := by
    rw [not_or, UInt16.not_lt, UInt16.not_lt] at hmtu
    exact hmtu
  have htunnels := tunnelAddresses_of_valid haddresses htunnelCount htunnel
  have hnetworks : ∀ rejected, validateEach (fun a => !Transport.validNetwork a) id rejected
      rejected [] allowedIps = .ok () := fun _ => allowedIps_of_valid hallowedIps hallowed
  simp only [WireGuardConfig.validate, hnonzero, hhost, htunnels, if_neg hcount, hnetworks,
    validateKeepalive_of_valid hkeepalive, Transport.validateMtu, if_pos hmtu, Bool.false_eq_true,
    if_false]
  rfl

/-- The resolver checks are those of the whole validation. -/
theorem checkResolvers_of_valid {config : DeviceConfig} {now : Time}
    (h : config.validate now = .ok ()) : checkResolvers config.dns = .ok () := by
  simp only [DeviceConfig.validate, andThen_eq_ok] at h
  exact andThen_eq_ok.mpr ⟨h.2.2.2.2.1, h.2.2.2.2.2.2.1⟩

/-- **The planes agree.** A configuration the control plane accepts has a
profile that the data plane accepts, and on resolvers the two accept the
same lists. -/
theorem planes_agree :
    (∀ (config : DeviceConfig) (now : Time), config.validate now = .ok () →
      ∃ wireGuard dns, profile config = some (wireGuard, dns) ∧ wireGuard.validate = .ok () ∧
        dns.validate = .ok ()) ∧
    ∀ dns : List Addr, checkResolvers dns = .ok () ↔
      ∃ config, toDnsConfig dns = some config ∧ config.validate = .ok () := by
  have hresolvers : ∀ dns : List Addr, checkResolvers dns = .ok () →
      ∃ config, toDnsConfig dns = some config ∧ config.validate = .ok () := by
    intro dns hok
    obtain ⟨resolvers, hresolvers⟩ := mapM_of_checkResolvers hok
    exact ⟨⟨resolvers⟩, by rw [toDnsConfig, hresolvers]; rfl,
      validate_of_checkResolvers hresolvers hok⟩
  refine ⟨fun config now h => ?_, fun dns => ⟨hresolvers dns, ?_⟩⟩
  · obtain ⟨dns, hdns, hdnsValid⟩ := hresolvers config.dns (checkResolvers_of_valid h)
    simp only [DeviceConfig.validate, andThen_eq_ok, reject_eq_ok, Bool.or_eq_true,
      Bool.not_eq_true', not_or, Bool.not_eq_false, decide_eq_true_eq, not_not] at h
    obtain ⟨-, -, -, hendpoint, -, hparameters, -⟩ := h
    obtain ⟨wireGuard, hwireGuard, hvalid⟩ := toWireGuardConfig_of_valid hendpoint.1.1.1.1
      (fun hport => hendpoint.1.1.1.2 (by simp [hport])) hendpoint.2 hparameters
    exact ⟨wireGuard, dns, by rw [profile, hwireGuard, hdns]; rfl, hvalid, hdnsValid⟩
  · rintro ⟨config, hconfig, hvalid⟩
    obtain ⟨resolvers, hresolvers, h⟩ := Option.bind_eq_some_iff.mp hconfig
    obtain rfl : ⟨resolvers⟩ = config := Option.some.inj h
    exact checkResolvers_of_validate hresolvers hvalid

/-! ### An instance -/

def prefix4 (bits : BitVec 32) (length : Fin 33) : Prefix where
  addr := .v4 bits
  bits := some length
  inRange := by
    rintro _ ⟨⟩
    exact ⟨rfl, Nat.le_of_lt_succ length.isLt⟩
  unscoped := rfl

def prefix6 (bits : BitVec 128) (length : Fin 129) : Prefix where
  addr := .v6 bits []
  bits := some length
  inRange := by
    rintro _ ⟨⟩
    exact ⟨rfl, Nat.le_of_lt_succ length.isLt⟩
  unscoped := rfl

/-- `::ffff:10.8.0.1` -/
def mappedResolver : Addr := .v6 0xffff0a080001#128 []

/-- Both families everywhere, and IPv4-mapped addresses where they are
allowed. -/
def dualConfig : DeviceConfig :=
  { exampleConfig 1 with
    endpoint := ⟨.v6 0x20010db8000000000000000000000001#128 [], 51820⟩
    dns := [mappedResolver, .v4 0x0a080002#32, .v6 0xfd000000000000000000000000000053#128 []]
    wireGuard :=
      { peerPublicKey := List.replicate 32 7
        tunnelAddresses :=
          [prefix4 0x0a080002#32 32, prefix6 0xfd000000000000000000000000000002#128 128,
            prefix6 0xffff0a080003#128 128]
        allowedIPs :=
          [prefix4 0#32 0, prefix6 0#128 0, prefix4 0x0a080000#32 24,
            prefix6 0xfd000000000000000000000000000000#128 64]
        mtu := 1280
        persistentKeepaliveSecond := 0 } }

/-- The data plane takes it as well; a resolver and its mapped form are one
to both planes. -/
theorem planes_agree_laptop :
    (∃ wireGuard dns, profile dualConfig = some (wireGuard, dns) ∧
      wireGuard.validate = .ok () ∧ dns.validate = .ok ()) ∧
    ¬∃ config, toDnsConfig [.v4 0x0a080001#32, mappedResolver] = some config ∧
      config.validate = .ok () := by
  refine ⟨planes_agree.1 dualConfig (exampleTime 10) (by decide), fun hdata => ?_⟩
  exact absurd ((planes_agree.2 [.v4 0x0a080001#32, mappedResolver]).mpr hdata) (by decide)

end CyberiaVpn.Control
