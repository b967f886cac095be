import CyberiaVpn.Transport.Types

/-!
# Address prefixes as sets of addresses

A prefix contains the addresses of its family that agree with it on the
leading bits. `networksOverlap` compares masked bits, and prefixes it
keeps apart have no address in common, whichever of the two is the longer
one. So a validated gateway policy gives every address to at most one of
its client networks.
-/

namespace CyberiaVpn.Transport

/-- The leading `p` bits of two words agree. -/
def samePrefix {w : Nat} (p : Nat) (x y : BitVec w) : Bool := x >>> (w - p) == y >>> (w - p)

/-- The address lies in the network. -/
def AllowedIp.contains (n : AllowedIp) (a : IpAddr) : Bool :=
  let p := n.prefixLength.toNat
  match n.network, a with
  | .v4 x, .v4 y => samePrefix p x y
  | .v6 x, .v6 y => samePrefix p x y
  | _, _ => false

section Bits

variable {w : Nat} {x y z : BitVec w}

/-- The bits a mask keeps. -/
theorem getLsbD_and_mask {k i : Nat} (hi : i < w) :
    (x &&& BitVec.allOnes w <<< k).getLsbD i = (x.getLsbD i && decide (k ≤ i)) := by
  have hmask : (BitVec.allOnes w <<< k).getLsbD i = decide (k ≤ i) := by
    rw [BitVec.getLsbD_shiftLeft, BitVec.getLsbD_allOnes, decide_eq_true hi, Bool.true_and,
      decide_eq_true (by omega : i - k < w), Bool.and_true, ← decide_not, decide_eq_decide]
    omega
  rw [BitVec.getLsbD_and, hmask]

/-- They are those a shift to the right leaves over. -/
theorem and_mask_eq_iff {k : Nat} :
    x &&& BitVec.allOnes w <<< k = y &&& BitVec.allOnes w <<< k ↔ x >>> k = y >>> k := by
  constructor
  · intro h
    apply BitVec.eq_of_getLsbD_eq
    intro i hi
    rw [BitVec.getLsbD_ushiftRight, BitVec.getLsbD_ushiftRight]
    by_cases hk : k + i < w
    · have hbit := congrArg (·.getLsbD (k + i)) h
      rwa [getLsbD_and_mask hk, getLsbD_and_mask hk, decide_eq_true (Nat.le_add_right k i),
        Bool.and_true, Bool.and_true] at hbit
    · rw [BitVec.getLsbD_of_ge x _ (Nat.le_of_not_lt hk),
        BitVec.getLsbD_of_ge y _ (Nat.le_of_not_lt hk)]
  · intro h
    apply BitVec.eq_of_getLsbD_eq
    intro i hi
    rw [getLsbD_and_mask hi, getLsbD_and_mask hi]
    by_cases hk : k ≤ i
    · have hbit := congrArg (·.getLsbD (i - k)) h
      rw [BitVec.getLsbD_ushiftRight, BitVec.getLsbD_ushiftRight, Nat.add_sub_cancel' hk] at hbit
      rw [hbit]
    · rw [decide_eq_false hk, Bool.and_false, Bool.and_false]

/-- Words that share a longer prefix share a shorter one. -/
theorem ushiftRight_eq_of_samePrefix {p k : Nat} (h : samePrefix p x y = true) (hk : w - p ≤ k) :
    x >>> k = y >>> k := by
  obtain ⟨d, rfl⟩ := Nat.exists_eq_add_of_le hk
  rw [BitVec.shiftRight_add, BitVec.shiftRight_add, eq_of_beq h]

theorem masked_eq_of_samePrefix {p q : Nat} (hx : samePrefix p x z = true)
    (hy : samePrefix q y z = true) :
    x &&& BitVec.allOnes w <<< (w - min p q) = y &&& BitVec.allOnes w <<< (w - min p q) := by
  apply and_mask_eq_iff.mpr
  rw [ushiftRight_eq_of_samePrefix hx (by omega), ushiftRight_eq_of_samePrefix hy (by omega)]

/-- The whole width is the word itself. -/
theorem samePrefix_width : samePrefix w x y = true ↔ x = y := by
  rw [samePrefix, Nat.sub_self, BitVec.ushiftRight_zero, BitVec.ushiftRight_zero, beq_iff_eq]

end Bits

/-- Two prefixes with an address in common overlap. -/
theorem networksOverlap_of_contains {n m : AllowedIp} {a : IpAddr} (hn : n.contains a = true)
    (hm : m.contains a = true) : networksOverlap n m = true := by
  obtain ⟨network, p⟩ := n
  obtain ⟨network', q⟩ := m
  cases a with
  | v4 z =>
      cases network with
      | v6 x => cases hn
      | v4 x =>
          cases network' with
          | v6 y => cases hm
          | v4 y => exact beq_iff_eq.mpr (masked_eq_of_samePrefix hn hm)
  | v6 z =>
      cases network with
      | v4 x => cases hn
      | v6 x =>
          cases network' with
          | v4 y => cases hm
          | v6 y => exact beq_iff_eq.mpr (masked_eq_of_samePrefix hn hm)

/-- A prefix of full length is one address. -/
theorem AllowedIp.contains_host {a b : IpAddr} :
    (⟨a, UInt8.ofNat a.width⟩ : AllowedIp).contains b = true ↔ b = a := by
  cases a with
  | v4 x =>
      cases b with
      | v4 y => exact samePrefix_width.trans (by rw [IpAddr.v4.injEq, eq_comm])
      | v6 y => exact iff_of_false nofun nofun
  | v6 x =>
      cases b with
      | v4 y => exact iff_of_false nofun nofun
      | v6 y => exact samePrefix_width.trans (by rw [IpAddr.v6.injEq, eq_comm])

theorem le_width_of_validNetwork {n : AllowedIp} (h : validNetwork n = true) :
    n.prefixLength.toNat ≤ n.network.width := by
  rw [validNetwork] at h
  split at h
  · cases h
  · next hbound =>
    simp only [Bool.or_eq_true, decide_eq_true_iff, not_or, Nat.not_lt] at hbound
    exact hbound.1

/-- A network of clients: more than one host and not everything, with a
base address that stands for the network alone. -/
structure ClientNetwork (n : AllowedIp) : Prop where
  positive : 0 < n.prefixLength.toNat
  short : n.prefixLength.toNat < n.network.width
  specified : n.network.isUnspecified = false
  valid : validNetwork n = true

/-- The order in which the code looks at a network. -/
theorem clientNetwork_of_checks {n : AllowedIp} (hzero : n.prefixLength ≠ 0)
    (hwidth : n.prefixLength.toNat ≠ n.network.width) (hspecified : n.network.isUnspecified = false)
    (hvalid : validNetwork n = true) : ClientNetwork n := by
  have hle := le_width_of_validNetwork hvalid
  exact ⟨Nat.pos_of_ne_zero fun h => hzero (UInt8.toNat_inj.mp h), by omega, hspecified, hvalid⟩

namespace WireGuardNodeGatewayPolicy

/-- The loop of `validate` checks each network on its own, and against
those before it. -/
theorem validateNetworks_eq_ok : ∀ {rest earlier : List AllowedIp},
    validateNetworks earlier rest = .ok () ↔
      (∀ n ∈ rest, ClientNetwork n) ∧
        (∀ m ∈ earlier, ∀ n ∈ rest, networksOverlap m n = false) ∧
        rest.Pairwise fun m n => networksOverlap m n = false
  | [], _ => iff_of_true rfl ⟨List.forall_mem_nil _, fun _ _ => List.forall_mem_nil _, .nil⟩
  | n :: rest, earlier => by
      have ih : validateNetworks (earlier ++ [n]) rest = .ok () ↔ _ := validateNetworks_eq_ok
      rw [validateNetworks]
      split
      · next hunfit =>
        refine iff_of_false nofun fun ⟨hfit, _⟩ => ?_
        obtain ⟨hpositive, hshort, hspecified, hvalid⟩ := hfit n (List.mem_cons_self ..)
        simp only [Bool.or_eq_true, beq_iff_eq, hspecified, hvalid, Bool.not_true,
          Bool.false_eq_true, or_false] at hunfit
        rcases hunfit with hzero | hwidth
        · rw [hzero] at hpositive
          exact absurd hpositive (by decide)
        · omega
      next hfit =>
      split
      · next hoverlap =>
        obtain ⟨m, hm, hmn⟩ := List.any_eq_true.mp hoverlap
        refine iff_of_false nofun fun ⟨_, hapart, _⟩ => ?_
        rw [hapart m hm n (List.mem_cons_self ..)] at hmn
        cases hmn
      next hapart =>
      have hn : ClientNetwork n := by
        simp only [Bool.or_eq_true, not_or, Bool.not_eq_true', Bool.not_eq_false, beq_iff_eq,
          Bool.not_eq_true] at hfit
        obtain ⟨⟨⟨hzero, hwidth⟩, hspecified⟩, hvalid⟩ := hfit
        exact clientNetwork_of_checks hzero hwidth hspecified hvalid
      have hbefore : ∀ m ∈ earlier, networksOverlap m n = false := by
        simpa using hapart
      rw [ih, List.forall_mem_cons, List.pairwise_cons, List.forall_mem_append,
        List.forall_mem_singleton]
      simp only [List.forall_mem_cons]
      constructor
      · rintro ⟨hrest, ⟨hearlier, hlast⟩, hpairwise⟩
        exact ⟨⟨hn, hrest⟩, fun m hm => ⟨hbefore m hm, hearlier m hm⟩, hlast, hpairwise⟩
      · rintro ⟨⟨-, hrest⟩, hearlier, hlast, hpairwise⟩
        exact ⟨hrest, ⟨fun m hm => (hearlier m hm).2, hlast⟩, hpairwise⟩

theorem validate_eq_ok {policy : WireGuardNodeGatewayPolicy} :
    policy.validate = .ok () ↔
      (1 ≤ policy.clientNetworks.length ∧ policy.clientNetworks.length ≤ 16) ∧
        (∀ n ∈ policy.clientNetworks, ClientNetwork n) ∧
        policy.clientNetworks.Pairwise fun m n => networksOverlap m n = false := by
  have hempty : policy.clientNetworks = [] ↔ ¬1 ≤ policy.clientNetworks.length := by
    rw [← List.length_eq_zero_iff]
    omega
  rw [validate]
  split
  · next hcount =>
    rw [hempty] at hcount
    exact iff_of_false nofun fun ⟨⟨hlower, hupper⟩, _⟩ => by omega
  · next hcount =>
    rw [hempty] at hcount
    have hbounds : 1 ≤ policy.clientNetworks.length ∧ policy.clientNetworks.length ≤ 16 := by omega
    rw [validateNetworks_eq_ok, and_iff_right hbounds]
    exact and_congr_right fun _ => and_iff_right (List.forall_mem_nil _)

end WireGuardNodeGatewayPolicy

/-- Among networks that do not overlap, at most one contains an address. -/
theorem countP_contains_le_one (a : IpAddr) : ∀ {networks : List AllowedIp},
    networks.Pairwise (fun m n => networksOverlap m n = false) →
      networks.countP (·.contains a) ≤ 1
  | [], _ => Nat.zero_le 1
  | n :: rest, h => by
      obtain ⟨hn, hrest⟩ := List.pairwise_cons.mp h
      by_cases ha : n.contains a = true
      · have hnone : rest.countP (·.contains a) = 0 := by
          rw [List.countP_eq_zero]
          intro m hm hma
          have hoverlap := networksOverlap_of_contains ha hma
          rw [hn m hm] at hoverlap
          cases hoverlap
        have hone : (n :: rest).countP (·.contains a) = 1 := by
          rw [List.countP_cons, hnone, if_pos ha]
        exact Nat.le_of_eq hone
      · rw [List.countP_cons, if_neg ha, Nat.add_zero]
        exact countP_contains_le_one a hrest

end CyberiaVpn.Transport
