import Mathlib.Data.Fintype.EquivFin
import Mathlib.Data.Set.BooleanAlgebra
import Mathlib.Data.Set.Disjoint
import Mathlib.Order.CompletePartialOrder
import CyberiaVpn.Effects.Arith
import CyberiaVpn.Transport.Prefix

/-!
# The networks of a gateway

`WireGuardNodeGatewayPolicy::validate` and `validate_for_node` decide
facts about sets of addresses with masks: that the client networks are
disjoint, and that they pair up with the interface addresses. A mask is
`MAX << (32 - prefix)`, which panics for the prefix 0, so both functions
are given once more with arithmetic that may panic (`Checked`). Nothing
does: a prefix gets to a shift only after its own check.

`Checked.validate_exact` says which lists pass, and
`Checked.validateForNode_pairs` what a node's configuration has then. The
second is a matter of counting: every network has an address, no two have
the same one, and there are no more addresses than networks.
-/

namespace CyberiaVpn.Transport

open Effects

/-! ## What the masks decide -/

/-- The addresses of a network. -/
def AllowedIp.addresses (n : AllowedIp) : Set IpAddr := { a | n.contains a = true }

/-- Nothing is set below the prefix. -/
def AllowedIp.HostBitsZero (n : AllowedIp) : Prop :=
  let p := n.prefixLength.toNat
  match n.network with
  | .v4 bits => ∀ i < 32 - p, bits.getLsbD i = false
  | .v6 bits => ∀ i < 128 - p, bits.getLsbD i = false

section Bits

variable {w p q : Nat} {x y : BitVec w}

theorem and_networkMask_eq_self :
    x &&& networkMask w p = x ↔ ∀ i < w - p, x.getLsbD i = false := by
  have hmask : networkMask w p = BitVec.allOnes w <<< (w - p) := by
    rw [networkMask]
    split
    · next hzero => rw [hzero, Nat.sub_zero, BitVec.shiftLeft_eq_zero (Nat.le_refl w)]; rfl
    · rfl
  rw [hmask]
  constructor
  · intro h i hi
    have hbit := congrArg (·.getLsbD i) h
    rw [getLsbD_and_mask (by omega), decide_eq_false (Nat.not_le.mpr hi), Bool.and_false] at hbit
    exact hbit.symm
  · intro h
    apply BitVec.eq_of_getLsbD_eq
    intro i hi
    rw [getLsbD_and_mask hi]
    by_cases hlow : i < w - p
    · rw [h i hlow, Bool.false_and]
    · rw [decide_eq_true (Nat.le_of_not_lt hlow), Bool.and_true]

/-- One of two words that agree on the shorter prefix has both prefixes. -/
theorem exists_samePrefix
    (h : x &&& BitVec.allOnes w <<< (w - min p q) = y &&& BitVec.allOnes w <<< (w - min p q)) :
    ∃ z : BitVec w, samePrefix p x z = true ∧ samePrefix q y z = true := by
  rw [and_mask_eq_iff] at h
  rcases Nat.le_total p q with hle | hle
  · rw [Nat.min_eq_left hle] at h
    exact ⟨y, beq_iff_eq.mpr h, beq_self_eq_true _⟩
  · rw [Nat.min_eq_right hle] at h
    exact ⟨x, beq_self_eq_true _, beq_iff_eq.mpr h.symm⟩

end Bits

theorem validNetwork_iff {n : AllowedIp} :
    validNetwork n = true ↔ n.prefixLength.toNat ≤ n.network.width ∧
      n.network.isMulticast = false ∧ n.HostBitsZero := by
  obtain ⟨network, p⟩ := n
  rw [validNetwork]
  split
  · next hbad =>
    rw [Bool.or_eq_true, decide_eq_true_iff] at hbad
    refine iff_of_false (by rintro ⟨⟩) ?_
    rintro ⟨hle, hunicast, -⟩
    rcases hbad with hlarge | hmulticast
    · omega
    · rw [hunicast] at hmulticast
      cases hmulticast
  · next hgood =>
    rw [Bool.or_eq_true, not_or, decide_eq_true_iff, Nat.not_lt, Bool.not_eq_true] at hgood
    rw [and_iff_right hgood.1, and_iff_right hgood.2]
    cases network with
    | v4 bits => exact beq_iff_eq.trans and_networkMask_eq_self
    | v6 bits => exact beq_iff_eq.trans and_networkMask_eq_self

/-- Two networks overlap when they have an address in common. -/
theorem networksOverlap_iff {m n : AllowedIp} :
    networksOverlap m n = true ↔ ∃ a, m.contains a = true ∧ n.contains a = true := by
  constructor
  · obtain ⟨network, p⟩ := m
    obtain ⟨network', q⟩ := n
    intro h
    cases network with
    | v4 x =>
        cases network' with
        | v6 y => cases h
        | v4 y =>
            obtain ⟨z, hx, hy⟩ := exists_samePrefix (eq_of_beq h)
            exact ⟨.v4 z, hx, hy⟩
    | v6 x =>
        cases network' with
        | v4 y => cases h
        | v6 y =>
            obtain ⟨z, hx, hy⟩ := exists_samePrefix (eq_of_beq h)
            exact ⟨.v6 z, hx, hy⟩
  · rintro ⟨a, hm, hn⟩
    exact networksOverlap_of_contains hm hn

theorem networksOverlap_eq_false {m n : AllowedIp} :
    networksOverlap m n = false ↔ Disjoint m.addresses n.addresses := by
  rw [← Bool.not_eq_true, networksOverlap_iff, Set.disjoint_left]
  exact ⟨fun h a hm hn => h ⟨a, hm, hn⟩, fun h ⟨_, hm, hn⟩ => h hm hn⟩

/-- The address is one of the network's, and has its prefix. -/
structure Houses (n : AllowedIp) (a : TunnelAddress) : Prop where
  family : n.network.isIpv4 = a.address.isIpv4
  prefixLength : n.prefixLength = a.prefixLength
  inside : a.address ∈ n.addresses

theorem houses_of_networkMatchesAddress {n : AllowedIp} {a : TunnelAddress}
    (h : networkMatchesAddress n a = true) : Houses n a := by
  obtain ⟨network, p⟩ := n
  obtain ⟨address, q⟩ := a
  rw [networkMatchesAddress] at h
  split at h
  · cases h
  next hne =>
  have hprefix : p = q := by simpa using hne
  cases network with
  | v4 x =>
      cases address with
      | v6 y => cases h
      | v4 y => exact ⟨rfl, hprefix, beq_iff_eq.mpr (and_mask_eq_iff.mp (eq_of_beq h))⟩
  | v6 x =>
      cases address with
      | v4 y => cases h
      | v6 y => exact ⟨rfl, hprefix, beq_iff_eq.mpr (and_mask_eq_iff.mp (eq_of_beq h))⟩

/-- Disjoint networks with an address each, and no more addresses than
networks: every address belongs to one of them. -/
theorem exists_pairing {networks : List AllowedIp} {addresses : List TunnelAddress}
    (hlength : networks.length = addresses.length)
    (hhouses : ∀ n ∈ networks, ∃ a ∈ addresses, Houses n a)
    (hapart : networks.Pairwise fun m n => Disjoint m.addresses n.addresses) :
    ∃ pair : Fin networks.length ≃ Fin addresses.length,
      ∀ i, Houses (networks.get i) (addresses.get (pair i)) := by
  have hchoice : ∀ i, ∃ j, Houses (networks.get i) (addresses.get j) := by
    intro i
    obtain ⟨a, ha, h⟩ := hhouses _ (networks.get_mem i)
    obtain ⟨j, rfl⟩ := List.mem_iff_get.mp ha
    exact ⟨j, h⟩
  choose pair hpair using hchoice
  have hdisjoint : ∀ i j, i < j → pair i ≠ pair j := by
    intro i j hlt heq
    have hj := (hpair j).inside
    rw [← heq] at hj
    exact Set.disjoint_left.mp (List.pairwise_iff_get.mp hapart i j hlt) (hpair i).inside hj
  have hinjective : Function.Injective pair := by
    intro i j heq
    rcases lt_trichotomy i j with hlt | rfl | hlt
    · exact absurd heq (hdisjoint i j hlt)
    · rfl
    · exact absurd heq.symm (hdisjoint j i hlt)
  have hbijective : Function.Bijective pair :=
    (Fintype.bijective_iff_injective_and_card pair).mpr ⟨hinjective, by simpa using hlength⟩
  exact ⟨Equiv.ofBijective pair hbijective, hpair⟩

theorem WireGuardNodeGatewayPolicy.houses_of_validateForNode
    {policy : WireGuardNodeGatewayPolicy} {config : WireGuardNodeConfig}
    (h : policy.validateForNode config = .ok ()) :
    policy.clientNetworks.length = config.interfaceAddresses.length ∧
      ∀ n ∈ policy.clientNetworks, ∃ a ∈ config.interfaceAddresses, Houses n a := by
  obtain ⟨hpolicy, hconfig⟩ := of_validateForNode h
  rw [validateForNode, hpolicy, ok_bind, hconfig, ok_bind] at h
  split at h
  · cases h
  next hmatch =>
  rw [not_or, not_not, Bool.not_eq_true, List.any_eq_false] at hmatch
  refine ⟨hmatch.1, fun n hn => ?_⟩
  have hfound := hmatch.2 n hn
  rw [Bool.not_eq_true', Bool.not_eq_false, List.any_eq_true] at hfound
  obtain ⟨a, ha, hna⟩ := hfound
  exact ⟨a, ha, houses_of_networkMatchesAddress hna⟩

/-- The base address of a network that is neither a host nor everything. -/
structure CanonicalSubnet (n : AllowedIp) : Prop where
  positive : 0 < n.prefixLength.toNat
  short : n.prefixLength.toNat < n.network.width
  specified : n.network.isUnspecified = false
  unicast : n.network.isMulticast = false
  hostBits : n.HostBitsZero

theorem clientNetwork_iff {n : AllowedIp} : ClientNetwork n ↔ CanonicalSubnet n := by
  constructor
  · rintro ⟨hpositive, hshort, hspecified, hvalid⟩
    obtain ⟨-, hunicast, hzero⟩ := validNetwork_iff.mp hvalid
    exact ⟨hpositive, hshort, hspecified, hunicast, hzero⟩
  · rintro ⟨hpositive, hshort, hspecified, hunicast, hzero⟩
    exact ⟨hpositive, hshort, hspecified, validNetwork_iff.mpr ⟨hshort.le, hunicast, hzero⟩⟩

/-! ## With arithmetic that may panic -/

namespace Checked

variable {ε : Type} {w : Nat}

/-- `MAX << (w - prefix)`. -/
def mask (w p : Nat) : Except (Fault ε) (BitVec w) := do
  let n ← Word.sub w p
  Word.shl (BitVec.allOnes w) n

/-- Under the mask the bits are what they were. -/
def masksToItself (p : Nat) (bits : BitVec w) : Except (Fault ε) Bool := do
  let mask ← if p = 0 then pure 0 else mask w p
  return bits &&& mask == bits

/-- Under the mask two words are the same. -/
def masksToSame (p : Nat) (left right : BitVec w) : Except (Fault ε) Bool := do
  let mask ← mask w p
  return left &&& mask == right &&& mask

def validNetwork (allowed : AllowedIp) : Except (Fault ε) Bool :=
  let p := allowed.prefixLength.toNat
  if allowed.network.width < p || allowed.network.isMulticast then return false
  else
    match allowed.network with
    | .v4 bits => masksToItself p bits
    | .v6 bits => masksToItself p bits

def networksOverlap (left right : AllowedIp) : Except (Fault ε) Bool :=
  let p := min left.prefixLength.toNat right.prefixLength.toNat
  match left.network, right.network with
  | .v4 a, .v4 b => masksToSame p a b
  | .v6 a, .v6 b => masksToSame p a b
  | _, _ => return false

def networkMatchesAddress (network : AllowedIp) (address : TunnelAddress) :
    Except (Fault ε) Bool :=
  if network.prefixLength != address.prefixLength then return false
  else
    let p := network.prefixLength.toNat
    match network.network, address.address with
    | .v4 a, .v4 b => masksToSame p a b
    | .v6 a, .v6 b => masksToSame p a b
    | _, _ => return false

/-- The loop of `validate`. A network whose prefix or address is out of
the question is not looked at any further. -/
def validateNetworks : List AllowedIp → List AllowedIp → Except (Fault TransportError) Unit
  | _, [] => .ok ()
  | earlier, network :: rest => do
      if network.prefixLength == 0 || network.prefixLength.toNat == network.network.width ||
          network.network.isUnspecified then
        throw (.error (.invalidConfig "invalid WireGuard node gateway client network"))
      if !(← validNetwork network) then
        throw (.error (.invalidConfig "invalid WireGuard node gateway client network"))
      if ← earlier.anyM fun other => networksOverlap other network then
        throw (.error (.invalidConfig "overlapping WireGuard node gateway client networks"))
      validateNetworks (earlier ++ [network]) rest

def validate (policy : WireGuardNodeGatewayPolicy) : Except (Fault TransportError) Unit :=
  if policy.clientNetworks = [] ∨ 16 < policy.clientNetworks.length then
    .error (.error
      (.invalidConfig "WireGuard node gateway requires between 1 and 16 client networks"))
  else validateNetworks [] policy.clientNetworks

def validateForNode (policy : WireGuardNodeGatewayPolicy) (config : WireGuardNodeConfig) :
    Except (Fault TransportError) Unit := do
  validate policy
  config.validate.mapError .error
  if policy.clientNetworks.length ≠ config.interfaceAddresses.length then
    throw (.error
      (.invalidConfig "WireGuard node gateway networks do not match interface addresses"))
  if ← policy.clientNetworks.anyM fun network => do
      return !(← config.interfaceAddresses.anyM fun address =>
        networkMatchesAddress network address) then
    throw (.error
      (.invalidConfig "WireGuard node gateway networks do not match interface addresses"))

/-! ### Nothing panics -/

theorem mask_eq {p : Nat} (hpos : 0 < p) (hle : p ≤ w) :
    (mask w p : Except (Fault ε) (BitVec w)) = .ok (BitVec.allOnes w <<< (w - p)) := by
  rw [mask, Word.sub_eq hle, ok_bind, Word.shl_eq (by omega)]

theorem masksToItself_eq {p : Nat} (hle : p ≤ w) (bits : BitVec w) :
    (masksToItself p bits : Except (Fault ε) Bool) = .ok (bits &&& networkMask w p == bits) := by
  rw [masksToItself, networkMask]
  split
  · rfl
  · next hzero => rw [mask_eq (Nat.pos_of_ne_zero hzero) hle]; rfl

theorem masksToSame_eq {p : Nat} (hpos : 0 < p) (hle : p ≤ w) (left right : BitVec w) :
    (masksToSame p left right : Except (Fault ε) Bool) =
      .ok (left &&& BitVec.allOnes w <<< (w - p) == right &&& BitVec.allOnes w <<< (w - p)) := by
  rw [masksToSame, mask_eq hpos hle]
  rfl

theorem validNetwork_eq (n : AllowedIp) :
    (validNetwork n : Except (Fault ε) Bool) = .ok (Transport.validNetwork n) := by
  obtain ⟨network, p⟩ := n
  rw [validNetwork, Transport.validNetwork]
  split
  · rfl
  · next hbound =>
    simp only [Bool.or_eq_true, decide_eq_true_iff, not_or, Nat.not_lt] at hbound
    cases network with
    | v4 bits => exact masksToItself_eq hbound.1 bits
    | v6 bits => exact masksToItself_eq hbound.1 bits

theorem networksOverlap_eq {m n : AllowedIp} (hm : ClientNetwork m) (hn : ClientNetwork n) :
    (networksOverlap m n : Except (Fault ε) Bool) = .ok (Transport.networksOverlap m n) := by
  obtain ⟨network, p⟩ := m
  obtain ⟨network', q⟩ := n
  have hpos : 0 < min p.toNat q.toNat := lt_min hm.positive hn.positive
  cases network with
  | v4 a =>
      cases network' with
      | v4 b => exact masksToSame_eq hpos ((min_le_left ..).trans hm.short.le) a b
      | v6 b => rfl
  | v6 a =>
      cases network' with
      | v4 b => rfl
      | v6 b => exact masksToSame_eq hpos ((min_le_left ..).trans hm.short.le) a b

theorem networkMatchesAddress_eq {n : AllowedIp} (hn : ClientNetwork n) (a : TunnelAddress) :
    (networkMatchesAddress n a : Except (Fault ε) Bool) =
      .ok (Transport.networkMatchesAddress n a) := by
  obtain ⟨network, p⟩ := n
  obtain ⟨address, q⟩ := a
  rw [networkMatchesAddress, Transport.networkMatchesAddress]
  split
  · rfl
  · cases network with
    | v4 x =>
        cases address with
        | v4 y => exact masksToSame_eq hn.positive hn.short.le x y
        | v6 y => rfl
    | v6 x =>
        cases address with
        | v4 y => rfl
        | v6 y => exact masksToSame_eq hn.positive hn.short.le x y

/-- Only networks that passed their own check are compared. -/
theorem validateNetworks_eq : ∀ {rest earlier : List AllowedIp},
    (∀ m ∈ earlier, ClientNetwork m) →
      validateNetworks earlier rest =
        (WireGuardNodeGatewayPolicy.validateNetworks earlier rest).mapError .error
  | [], _, _ => rfl
  | n :: rest, earlier, hearlier => by
      rw [validateNetworks, WireGuardNodeGatewayPolicy.validateNetworks]
      cases hfirst : (n.prefixLength == 0 || n.prefixLength.toNat == n.network.width ||
          n.network.isUnspecified) with
      | true => rfl
      | false =>
      rw [validNetwork_eq]
      cases hvalid : Transport.validNetwork n with
      | false => rfl
      | true =>
      have hn : ClientNetwork n := by
        simp only [Bool.or_eq_false_iff, beq_eq_false_iff_ne] at hfirst
        obtain ⟨⟨hzero, hwidth⟩, hspecified⟩ := hfirst
        exact clientNetwork_of_checks hzero hwidth hspecified hvalid
      have hnext : validateNetworks (earlier ++ [n]) rest = _ := validateNetworks_eq
        (List.forall_mem_append.mpr ⟨hearlier, List.forall_mem_singleton.mpr hn⟩)
      have hsearch : (earlier.anyM fun other => networksOverlap other n :
          Except (Fault TransportError) Bool) =
          .ok (earlier.any fun other => Transport.networksOverlap other n) :=
        anyM_eq_ok fun m hm => networksOverlap_eq (hearlier m hm) hn
      rw [hsearch, hnext]
      cases earlier.any fun other => Transport.networksOverlap other n <;> rfl

theorem validate_eq (policy : WireGuardNodeGatewayPolicy) :
    validate policy = policy.validate.mapError .error := by
  rw [validate, WireGuardNodeGatewayPolicy.validate]
  split
  · rfl
  · exact validateNetworks_eq (List.forall_mem_nil _)

theorem validateForNode_eq (policy : WireGuardNodeGatewayPolicy) (config : WireGuardNodeConfig) :
    validateForNode policy config = (policy.validateForNode config).mapError .error := by
  rw [validateForNode, WireGuardNodeGatewayPolicy.validateForNode, validate_eq]
  cases hpolicy : policy.validate with
  | error e => rfl
  | ok _ =>
  cases config.validate with
  | error e => rfl
  | ok _ =>
  obtain ⟨-, hfit, -⟩ := WireGuardNodeGatewayPolicy.validate_eq_ok.mp hpolicy
  by_cases hlength : policy.clientNetworks.length ≠ config.interfaceAddresses.length
  · rw [if_pos (Or.inl hlength), if_pos hlength]
    rfl
  have hsearch : (policy.clientNetworks.anyM fun network => do
      return !(← config.interfaceAddresses.anyM fun address =>
        networkMatchesAddress network address) : Except (Fault TransportError) Bool) =
      .ok (policy.clientNetworks.any fun network =>
        !config.interfaceAddresses.any fun address =>
          Transport.networkMatchesAddress network address) := by
    refine anyM_eq_ok fun network hnetwork => ?_
    rw [anyM_eq_ok fun address _ => networkMatchesAddress_eq (hfit network hnetwork) address]
    rfl
  rw [if_neg hlength, hsearch]
  simp only [hlength, false_or]
  cases policy.clientNetworks.any fun network =>
    !config.interfaceAddresses.any fun address =>
      Transport.networkMatchesAddress network address <;> rfl

/-! ### The two results -/

theorem ne_panic {ε α : Type} {x : Except ε α} : x.mapError Fault.error ≠ .error .panic := by
  cases x <;> nofun

/-- **Disjoint subnets.** Validation panics on no list, and lets through
those of 1 to 16 canonical subnets without a common address. -/
theorem validate_exact (networks : List AllowedIp) :
    validate ⟨networks⟩ ≠ .error .panic ∧
      (validate ⟨networks⟩ = .ok () ↔
        (1 ≤ networks.length ∧ networks.length ≤ 16) ∧ (∀ n ∈ networks, CanonicalSubnet n) ∧
          networks.Pairwise fun m n => Disjoint m.addresses n.addresses) := by
  rw [validate_eq]
  refine ⟨ne_panic, ?_⟩
  rw [mapError_eq_ok, WireGuardNodeGatewayPolicy.validate_eq_ok]
  simp only [clientNetwork_iff, networksOverlap_eq_false]

/-- **Networks and addresses pair up.** Binding a policy to a node panics on
none; where it returns, the client networks and the interface addresses
correspond one to one, so an address lies in exactly one network. -/
theorem validateForNode_pairs (policy : WireGuardNodeGatewayPolicy)
    (config : WireGuardNodeConfig) :
    validateForNode policy config ≠ .error .panic ∧
      (validateForNode policy config = .ok () →
        (∃ pair : Fin policy.clientNetworks.length ≃ Fin config.interfaceAddresses.length,
          ∀ i, Houses (policy.clientNetworks.get i) (config.interfaceAddresses.get (pair i))) ∧
        ∀ a ∈ config.interfaceAddresses,
          policy.clientNetworks.countP (·.contains a.address) = 1) := by
  rw [validateForNode_eq]
  refine ⟨ne_panic, fun h => ?_⟩
  rw [mapError_eq_ok] at h
  obtain ⟨hpolicy, -⟩ := WireGuardNodeGatewayPolicy.of_validateForNode h
  obtain ⟨-, -, hapart⟩ := WireGuardNodeGatewayPolicy.validate_eq_ok.mp hpolicy
  obtain ⟨hlength, hhouses⟩ := WireGuardNodeGatewayPolicy.houses_of_validateForNode h
  obtain ⟨pair, hpair⟩ :=
    exists_pairing hlength hhouses (hapart.imp networksOverlap_eq_false.mp)
  refine ⟨⟨pair, hpair⟩, fun a ha => le_antisymm (countP_contains_le_one _ hapart) ?_⟩
  obtain ⟨j, rfl⟩ := List.mem_iff_get.mp ha
  have hhouse := hpair (pair.symm j)
  rw [Equiv.apply_symm_apply] at hhouse
  exact List.countP_pos_iff.mpr ⟨_, List.get_mem _ _, hhouse.inside⟩

def examplePolicy : WireGuardNodeGatewayPolicy :=
  ⟨[⟨.v4 0x0a080000#32, 24⟩, ⟨.v6 0xfd000000000000000000000000000000#128, 64⟩]⟩

def exampleNode : WireGuardNodeConfig where
  listenPort := examplePort
  interfaceAddresses :=
    [⟨.v6 0xfd000000000000000000000000000001#128, 64⟩, ⟨.v4 0x0a080001#32, 24⟩]
  mtu := 1420

/-- The interface lists its addresses the other way round. -/
theorem validateForNode_pairs_crossed :
    validateForNode examplePolicy exampleNode = .ok () ∧
      ∃ pair : Fin examplePolicy.clientNetworks.length ≃
          Fin exampleNode.interfaceAddresses.length,
        ∀ i, Houses (examplePolicy.clientNetworks.get i)
          (exampleNode.interfaceAddresses.get (pair i)) := by
  have hok : validateForNode examplePolicy exampleNode = .ok () := by decide
  exact ⟨hok, ((validateForNode_pairs examplePolicy exampleNode).2 hok).1⟩

end Checked

end CyberiaVpn.Transport
