import Mathlib.Data.List.GetD

/-!
# Base64

The standard encoding of RFC 4648 with padding. Three bytes are a number
of 24 bits, which is written as four symbols of six bits each. A last
group of one or two bytes is filled up with zero bits; a padding character
stands for each symbol that has none of the text's bits.
-/

namespace CyberiaVpn.Codec.Base64

def alphabet : List Char :=
  "ABCDEFGHIJKLMNOPQRSTUVWXYZabcdefghijklmnopqrstuvwxyz0123456789+/".toList

def symbol (n : Nat) : Char :=
  alphabet.getD n '='

def index (c : Char) : Option Nat :=
  if c ∈ alphabet then some (alphabet.idxOf c) else none

def group (a b c : UInt8) : Nat :=
  a.toNat * 65536 + b.toNat * 256 + c.toNat

def ungroup (n : Nat) : List UInt8 :=
  [UInt8.ofNat (n / 65536), UInt8.ofNat (n / 256), UInt8.ofNat n]

def encode : List UInt8 → List Char
  | a :: b :: c :: rest =>
      symbol (group a b c / 262144) :: symbol (group a b c / 4096 % 64) ::
        symbol (group a b c / 64 % 64) :: symbol (group a b c % 64) :: encode rest
  | [a, b] =>
      [symbol (group a b 0 / 262144), symbol (group a b 0 / 4096 % 64),
        symbol (group a b 0 / 64 % 64), '=']
  | [a] => [symbol (group a 0 0 / 262144), symbol (group a 0 0 / 4096 % 64), '=', '=']
  | [] => []

def decodeGroup (p q r s : Char) : Option (List UInt8) := do
  let p ← index p
  let q ← index q
  if r = '=' ∧ s = '=' then return (ungroup (p * 262144 + q * 4096)).take 1
  let r ← index r
  if s = '=' then return (ungroup (p * 262144 + q * 4096 + r * 64)).take 2
  let s ← index s
  return ungroup (p * 262144 + q * 4096 + r * 64 + s)

def decode : List Char → Option (List UInt8)
  | [] => some []
  | p :: q :: r :: s :: rest => do
      let bytes ← decodeGroup p q r s
      -- a padded group is the last one
      if s = '=' ∧ rest ≠ [] then none else return bytes ++ (← decode rest)
  | _ => none

/-! ## Symbols -/

theorem index_symbol {n : Nat} (h : n < 64) : index (symbol n) = some n :=
  (by decide +kernel : ∀ n < 64, index (symbol n) = some n) n h

theorem symbol_mem {n : Nat} (h : n < 64) : symbol n ∈ alphabet :=
  (by decide +kernel : ∀ n < 64, symbol n ∈ alphabet) n h

theorem symbol_ne_padding {n : Nat} (h : n < 64) : symbol n ≠ '=' :=
  fun hpad => absurd (hpad ▸ symbol_mem h) (by decide)

theorem group_lt (a b c : UInt8) : group a b c < 16777216 := by
  have ha := a.toNat_lt
  have hb := b.toNat_lt
  have hc := c.toNat_lt
  rw [group]
  omega

theorem ungroup_group (a b c : UInt8) : ungroup (group a b c) = [a, b, c] := by
  have ha := a.toNat_lt
  have hb := b.toNat_lt
  have hc := c.toNat_lt
  have hbyte : ∀ {n : Nat} {x : UInt8}, n % 256 = x.toNat → UInt8.ofNat n = x := fun h =>
    UInt8.toNat_inj.mp (UInt8.toNat_ofNat'.trans h)
  rw [ungroup, group, hbyte (x := a) (by omega), hbyte (x := b) (by omega), hbyte (x := c) (by omega)]

/-- Four numbers of six bits are the number that they were cut from. -/
theorem group_digits (n : Nat) :
    n / 262144 * 262144 + n / 4096 % 64 * 4096 + n / 64 % 64 * 64 + n % 64 = n := by
  omega

/-! ## Round trip -/

section Groups

variable {p q r s : Nat} (hp : p < 64) (hq : q < 64)

include hp hq

theorem decodeGroup_three (hr : r < 64) (hs : s < 64) :
    decodeGroup (symbol p) (symbol q) (symbol r) (symbol s) =
      some (ungroup (p * 262144 + q * 4096 + r * 64 + s)) := by
  simp [decodeGroup, index_symbol, symbol_ne_padding, hp, hq, hr, hs]

theorem decodeGroup_two (hr : r < 64) :
    decodeGroup (symbol p) (symbol q) (symbol r) '=' =
      some ((ungroup (p * 262144 + q * 4096 + r * 64)).take 2) := by
  simp [decodeGroup, index_symbol, symbol_ne_padding, hp, hq, hr]

theorem decodeGroup_one :
    decodeGroup (symbol p) (symbol q) '=' '=' =
      some ((ungroup (p * 262144 + q * 4096)).take 1) := by
  simp [decodeGroup, index_symbol, hp, hq]

end Groups

theorem decode_encode (bytes : List UInt8) : decode (encode bytes) = some bytes := by
  fun_induction encode bytes with
  | case1 a b c rest ih =>
      have hlt := group_lt a b c
      have hpad := symbol_ne_padding (n := group a b c % 64) (by omega)
      rw [decode, decodeGroup_three (by omega) (by omega) (by omega) (by omega), group_digits,
        ungroup_group, ih]
      simp [hpad]
  | case2 a b =>
      have hlt := group_lt a b 0
      have hdigits : group a b 0 / 262144 * 262144 + group a b 0 / 4096 % 64 * 4096 +
          group a b 0 / 64 % 64 * 64 = group a b 0 := by
        simp only [group, UInt8.toNat_zero]
        omega
      rw [decode, decodeGroup_two (by omega) (by omega) (by omega), hdigits, ungroup_group]
      rfl
  | case3 a =>
      have hlt := group_lt a 0 0
      have hdigits : group a 0 0 / 262144 * 262144 + group a 0 0 / 4096 % 64 * 4096 =
          group a 0 0 := by
        simp only [group, UInt8.toNat_zero]
        omega
      rw [decode, decodeGroup_one (by omega) (by omega), hdigits, ungroup_group]
      rfl
  | case4 => rfl

theorem encode_inj {bytes bytes' : List UInt8} (h : encode bytes = encode bytes') :
    bytes = bytes' := by
  have hdecode : some bytes = some bytes' := by
    rw [← decode_encode bytes, h, decode_encode]
  exact Option.some.inj hdecode

theorem length_encode (bytes : List UInt8) :
    (encode bytes).length = (bytes.length + 2) / 3 * 4 := by
  fun_induction encode bytes with
  | case1 a b c rest ih =>
      simp only [List.length_cons, ih]
      omega
  | case2 a b => simp
  | case3 a => simp
  | case4 => rfl

/-- Symbols, and then as many padding characters as the last group has
bytes too few. -/
theorem encode_padding (bytes : List UInt8) : ∃ symbols, (∀ c ∈ symbols, c ∈ alphabet) ∧
    encode bytes = symbols ++ List.replicate ((3 - bytes.length % 3) % 3) '=' := by
  fun_induction encode bytes with
  | case1 a b c rest ih =>
      have hlt := group_lt a b c
      obtain ⟨symbols, hmem, heq⟩ := ih
      have hlen : (a :: b :: c :: rest).length % 3 = rest.length % 3 :=
        Nat.add_mod_right rest.length 3
      refine ⟨symbol (group a b c / 262144) :: symbol (group a b c / 4096 % 64) ::
        symbol (group a b c / 64 % 64) :: symbol (group a b c % 64) :: symbols, ?_, ?_⟩
      · simp only [List.forall_mem_cons]
        exact ⟨symbol_mem (by omega), symbol_mem (by omega), symbol_mem (by omega),
          symbol_mem (by omega), hmem⟩
      · rw [hlen, heq]
        rfl
  | case2 a b =>
      have hlt := group_lt a b 0
      refine ⟨[symbol (group a b 0 / 262144), symbol (group a b 0 / 4096 % 64),
        symbol (group a b 0 / 64 % 64)], ?_, rfl⟩
      simp only [List.forall_mem_cons, List.not_mem_nil, false_imp_iff, implies_true, and_true]
      exact ⟨symbol_mem (by omega), symbol_mem (by omega), symbol_mem (by omega)⟩
  | case3 a =>
      have hlt := group_lt a 0 0
      refine ⟨[symbol (group a 0 0 / 262144), symbol (group a 0 0 / 4096 % 64)], ?_, rfl⟩
      simp only [List.forall_mem_cons, List.not_mem_nil, false_imp_iff, implies_true, and_true]
      exact ⟨symbol_mem (by omega), symbol_mem (by omega)⟩
  | case4 => exact ⟨[], List.forall_mem_nil _, rfl⟩

end CyberiaVpn.Codec.Base64
