import Mathlib.Data.Nat.Digits.Defs
import Mathlib.Data.Nat.Digits.Lemmas

/-!
# Decimal numerals

A natural number as ASCII digits, most significant first and without
leading zeros, and reading it back.
-/

namespace CyberiaVpn.Codec

def decimal (n : Nat) : List UInt8 :=
  if n = 0 then [48] else ((Nat.digits 10 n).map fun d => UInt8.ofNat (d + 48)).reverse

def parseDecimal (digits : List UInt8) : Nat :=
  Nat.ofDigits 10 (digits.map fun b => b.toNat - 48).reverse

theorem toNat_digit {d : Nat} (h : d < 10) : (UInt8.ofNat (d + 48)).toNat = d + 48 := by
  rw [UInt8.toNat_ofNat']
  exact Nat.mod_eq_of_lt (by omega)

theorem parseDecimal_decimal (n : Nat) : parseDecimal (decimal n) = n := by
  rw [decimal]
  split
  · next h => rw [h]; rfl
  · have hdigits : ((Nat.digits 10 n).map fun d => (UInt8.ofNat (d + 48)).toNat - 48) =
        Nat.digits 10 n := by
      refine (List.map_congr_left fun d hd => ?_).trans (List.map_id _)
      rw [toNat_digit (Nat.digits_lt_base (by decide) hd)]
      exact Nat.add_sub_cancel d 48
    rw [parseDecimal, List.map_reverse, List.reverse_reverse, List.map_map]
    exact (congrArg (Nat.ofDigits 10) hdigits).trans (Nat.ofDigits_digits 10 n)

/-- Every byte is a digit. -/
theorem decimal_digit {n : Nat} {b : UInt8} (h : b ∈ decimal n) : 48 ≤ b.toNat ∧ b.toNat < 58 := by
  rw [decimal] at h
  split at h
  · rw [List.mem_singleton.mp h]; decide
  · obtain ⟨d, hd, rfl⟩ := List.mem_map.mp (List.mem_reverse.mp h)
    have hlt : d < 10 := Nat.digits_lt_base (by decide) hd
    rw [toNat_digit hlt]
    omega

theorem digit_le {b : UInt8} (h : 48 ≤ b.toNat ∧ b.toNat < 58) : (48 ≤ b && b ≤ 57) = true := by
  rw [Bool.and_eq_true, decide_eq_true_eq, decide_eq_true_eq, UInt8.le_iff_toNat_le,
    UInt8.le_iff_toNat_le]
  exact ⟨h.1, Nat.le_of_lt_succ h.2⟩

theorem decimal_inj {m n : Nat} (h : decimal m = decimal n) : m = n := by
  rw [← parseDecimal_decimal m, h, parseDecimal_decimal]

theorem length_decimal {n k : Nat} (hle : 10 ^ k ≤ n) (hlt : n < 10 ^ (k + 1)) :
    (decimal n).length = k + 1 := by
  have hn : n ≠ 0 := fun h => by
    have hpos := Nat.pow_pos (n := k) (show 0 < 10 by decide)
    omega
  rw [decimal, if_neg hn, List.length_reverse, List.length_map,
    Nat.length_digits 10 n (by decide) hn, (Nat.log_eq_iff (Or.inr ⟨by decide, hn⟩)).mpr ⟨hle, hlt⟩]

end CyberiaVpn.Codec
