import Mathlib.Data.List.GetD

/-!
# Hexadecimal

Bytes as pairs of hexadecimal digits, the high half first. A digit may be
written in either case; the text of a byte is in lower case.
-/

namespace CyberiaVpn.Codec

def hexDigits : List Char :=
  "0123456789abcdef".toList

def IsHexDigit (c : Char) : Prop :=
  c.toLower ∈ hexDigits

instance : DecidablePred IsHexDigit := fun c => inferInstanceAs (Decidable (c.toLower ∈ hexDigits))

def hexValue (c : Char) : Nat :=
  hexDigits.idxOf c.toLower

def hexDigit (n : Nat) : Char :=
  hexDigits.getD n '0'

/-- The bytes that a text of hexadecimal digits stands for. -/
def hexBytes : List Char → List UInt8
  | high :: low :: rest => UInt8.ofNat (16 * hexValue high + hexValue low) :: hexBytes rest
  | _ => []

def hexText (bytes : List UInt8) : List Char :=
  bytes.flatMap fun b => [hexDigit (b.toNat / 16), hexDigit (b.toNat % 16)]

theorem IsHexDigit.toNat_lt {c : Char} (h : IsHexDigit c) : c.toNat < 128 := by
  by_cases hupper : c.val ≥ 'A'.val ∧ c.val ≤ 'Z'.val
  · exact Nat.lt_of_le_of_lt hupper.2 (by decide)
  · have hlower : c.toLower = c := dif_neg hupper
    have hascii : hexDigits.all (·.toNat < 128) = true := by decide
    exact of_decide_eq_true (List.all_eq_true.mp hascii c (hlower ▸ h))

theorem IsHexDigit.utf8Size {c : Char} (h : IsHexDigit c) : c.utf8Size = 1 :=
  Char.utf8Size_eq_one_iff.mpr (Nat.le_of_lt_succ h.toNat_lt)

theorem hexValue_lt {c : Char} (h : IsHexDigit c) : hexValue c < 16 :=
  List.idxOf_lt_length_of_mem h

theorem hexDigit_hexValue {c : Char} (h : IsHexDigit c) : hexDigit (hexValue c) = c.toLower := by
  have hlt : hexDigits.idxOf c.toLower < hexDigits.length := List.idxOf_lt_length_of_mem h
  rw [hexDigit, hexValue, List.getD_eq_getElem _ _ hlt, List.getElem_idxOf]

/-- The bytes of a text, written again, are the text in lower case. -/
theorem hexText_hexBytes {text : List Char} (heven : 2 ∣ text.length)
    (hdigits : ∀ c ∈ text, IsHexDigit c) : hexText (hexBytes text) = text.map Char.toLower := by
  fun_induction hexBytes text with
  | case1 high low rest ih =>
      have hhigh : IsHexDigit high := hdigits high (by simp)
      have hlow : IsHexDigit low := hdigits low (by simp)
      have hh := hexValue_lt hhigh
      have hl := hexValue_lt hlow
      have hbyte : (UInt8.ofNat (16 * hexValue high + hexValue low)).toNat =
          16 * hexValue high + hexValue low := by
        rw [UInt8.toNat_ofNat']
        exact Nat.mod_eq_of_lt (by omega)
      have hdiv : (16 * hexValue high + hexValue low) / 16 = hexValue high := by omega
      have hmod : (16 * hexValue high + hexValue low) % 16 = hexValue low := by omega
      have hrest : hexText (hexBytes rest) = rest.map Char.toLower :=
        ih ((Nat.dvd_add_left (Nat.dvd_refl 2)).mp heven) fun c hc => hdigits c (by simp [hc])
      rw [hexText, List.flatMap_cons, hbyte, hdiv, hmod, hexDigit_hexValue hhigh,
        hexDigit_hexValue hlow, ← hexText, hrest]
      rfl
  | case2 text hshort =>
      match text, hshort with
      | [], _ => rfl
      | [c], _ => simp at heven
      | a :: b :: rest, h => exact (h a b rest rfl).elim

end CyberiaVpn.Codec
