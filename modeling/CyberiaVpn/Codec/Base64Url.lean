import CyberiaVpn.Codec.Base64

/-!
# Base64 for URLs

The encoding of RFC 4648 with the alphabet for URLs and without padding,
on bytes. A strict decoder wants the bits past the end of the data to be
zero; it skips line breaks.
-/

namespace CyberiaVpn.Codec.Base64Url

open Base64 (group ungroup group_lt ungroup_group group_digits)

def alphabet : List UInt8 :=
  List.range' 65 26 ++ List.range' 97 26 ++ List.range' 48 10 ++ [45, 95] |>.map UInt8.ofNat

def symbol (n : Nat) : UInt8 := alphabet.getD n 0

def index (b : UInt8) : Option Nat := if b ∈ alphabet then some (alphabet.idxOf b) else none

def encode : List UInt8 → List UInt8
  | a :: b :: c :: rest =>
      symbol (group a b c / 262144) :: symbol (group a b c / 4096 % 64) ::
        symbol (group a b c / 64 % 64) :: symbol (group a b c % 64) :: encode rest
  | [a, b] =>
      [symbol (group a b 0 / 262144), symbol (group a b 0 / 4096 % 64),
        symbol (group a b 0 / 64 % 64)]
  | [a] => [symbol (group a 0 0 / 262144), symbol (group a 0 0 / 4096 % 64)]
  | [] => []

/-- The first bytes of a group whose remaining bits are zero. -/
def cut (n bits k : Nat) : Option (List UInt8) :=
  if n % bits = 0 then some ((ungroup n).take k) else none

def decodeSymbols : List UInt8 → Option (List UInt8)
  | p :: q :: r :: s :: rest => do
      let n := (← index p) * 262144 + (← index q) * 4096 + (← index r) * 64 + (← index s)
      return ungroup n ++ (← decodeSymbols rest)
  | [p, q, r] => do
      cut ((← index p) * 262144 + (← index q) * 4096 + (← index r) * 64) 256 2
  | [p, q] => do
      cut ((← index p) * 262144 + (← index q) * 4096) 65536 1
  | [_] => none
  | [] => some []

/-- `RawURLEncoding.Strict().DecodeString`. -/
def decodeString (text : List UInt8) : Option (List UInt8) :=
  decodeSymbols (text.filter fun b => b ≠ 10 && b ≠ 13)

theorem index_symbol {n : Nat} (h : n < 64) : index (symbol n) = some n :=
  (by decide +kernel : ∀ n < 64, index (symbol n) = some n) n h

theorem symbol_visible {n : Nat} (h : n < 64) : 32 < symbol n ∧ symbol n < 128 :=
  (by decide +kernel : ∀ n < 64, 32 < symbol n ∧ symbol n < 128) n h

theorem encode_visible {data : List UInt8} : ∀ b ∈ encode data, 32 < b ∧ b < 128 := by
  fun_induction encode data with
  | case1 a b c rest ih =>
      have hlt := group_lt a b c
      simp only [List.forall_mem_cons]
      exact ⟨symbol_visible (by omega), symbol_visible (by omega), symbol_visible (by omega),
        symbol_visible (by omega), ih⟩
  | case2 a b =>
      have hlt := group_lt a b 0
      simp only [List.forall_mem_cons]
      exact ⟨symbol_visible (by omega), symbol_visible (by omega), symbol_visible (by omega),
        List.forall_mem_nil _⟩
  | case3 a =>
      have hlt := group_lt a 0 0
      simp only [List.forall_mem_cons]
      exact ⟨symbol_visible (by omega), symbol_visible (by omega), List.forall_mem_nil _⟩
  | case4 => exact List.forall_mem_nil _

section Groups

variable {p q r : UInt8} {m n k : Nat} (hp : index p = some m) (hq : index q = some n)

include hp hq

theorem decodeSymbols_three (hr : index r = some k) :
    decodeSymbols [p, q, r] = cut (m * 262144 + n * 4096 + k * 64) 256 2 := by
  have hbind : decodeSymbols [p, q, r] = (index p).bind fun m => (index q).bind fun n =>
      (index r).bind fun k => cut (m * 262144 + n * 4096 + k * 64) 256 2 := by
    rw [decodeSymbols]
    rfl
  rw [hbind, hp, Option.bind_some, hq, Option.bind_some, hr, Option.bind_some]

theorem decodeSymbols_two : decodeSymbols [p, q] = cut (m * 262144 + n * 4096) 65536 1 := by
  have hbind : decodeSymbols [p, q] = (index p).bind fun m => (index q).bind fun n =>
      cut (m * 262144 + n * 4096) 65536 1 := by
    rw [decodeSymbols]
    rfl
  rw [hbind, hp, Option.bind_some, hq, Option.bind_some]

end Groups

theorem decodeSymbols_encode (data : List UInt8) : decodeSymbols (encode data) = some data := by
  fun_induction encode data with
  | case1 a b c rest ih =>
      have hlt := group_lt a b c
      rw [decodeSymbols, index_symbol (by omega), index_symbol (by omega), index_symbol (by omega),
        index_symbol (by omega), ih]
      simp only [Option.bind_eq_bind, Option.bind_some, Option.pure_def, group_digits, ungroup_group]
      rfl
  | case2 a b =>
      have hlt := group_lt a b 0
      have hdigits : group a b 0 / 262144 * 262144 + group a b 0 / 4096 % 64 * 4096 +
          group a b 0 / 64 % 64 * 64 = group a b 0 := by
        simp only [group, UInt8.toNat_zero]
        omega
      have hstrict : group a b 0 % 256 = 0 := by
        simp only [group, UInt8.toNat_zero]
        omega
      rw [decodeSymbols_three (index_symbol (by omega)) (index_symbol (by omega))
        (index_symbol (by omega)), hdigits, cut, if_pos hstrict, ungroup_group]
      rfl
  | case3 a =>
      have hlt := group_lt a 0 0
      have hdigits : group a 0 0 / 262144 * 262144 + group a 0 0 / 4096 % 64 * 4096 =
          group a 0 0 := by
        simp only [group, UInt8.toNat_zero]
        omega
      have hstrict : group a 0 0 % 65536 = 0 := by
        simp only [group, UInt8.toNat_zero]
        omega
      rw [decodeSymbols_two (index_symbol (by omega)) (index_symbol (by omega)), hdigits, cut,
        if_pos hstrict, ungroup_group]
      rfl
  | case4 => rfl

theorem decodeString_encode (data : List UInt8) : decodeString (encode data) = some data := by
  have hkept : (encode data).filter (fun b => b ≠ 10 && b ≠ 13) = encode data := by
    refine List.filter_eq_self.mpr fun b hb => ?_
    have hvisible := (encode_visible b hb).1
    rw [Bool.and_eq_true, decide_eq_true_eq, decide_eq_true_eq]
    exact ⟨fun h => absurd (h ▸ hvisible) (by decide), fun h => absurd (h ▸ hvisible) (by decide)⟩
  rw [decodeString, hkept, decodeSymbols_encode]

theorem length_encode (data : List UInt8) : (encode data).length = (data.length * 4 + 2) / 3 := by
  fun_induction encode data with
  | case1 a b c rest ih =>
      simp only [List.length_cons, ih]
      omega
  | case2 a b => simp
  | case3 a => simp
  | case4 => rfl

end CyberiaVpn.Codec.Base64Url
