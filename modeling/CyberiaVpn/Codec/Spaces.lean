import Mathlib.Data.List.Basic

/-!
# Spaces

The characters that Go's `unicode.IsSpace` calls spaces, as they are
encoded in UTF-8, and the functions of `strings` and `bytes` that look for
them. No encoding of a space begins within another character, so a text
is searched byte by byte.
-/

namespace CyberiaVpn.Codec

def spaces : List (List UInt8) :=
  [[9], [10], [11], [12], [13], [32], [0xc2, 0x85], [0xc2, 0xa0], [0xe1, 0x9a, 0x80]] ++
    (List.range 11).map (fun i => [0xe2, 0x80, UInt8.ofNat (0x80 + i)]) ++
    [[0xe2, 0x80, 0xa8], [0xe2, 0x80, 0xa9], [0xe2, 0x80, 0xaf], [0xe2, 0x81, 0x9f],
      [0xe3, 0x80, 0x80]]

/-- The length of the one a text begins with. -/
def leading (encodings : List (List UInt8)) (text : List UInt8) : Nat :=
  ((encodings.find? fun s => s.isPrefixOf text).map List.length).getD 0

/-- A word that is not empty. -/
def word : List UInt8 → List (List UInt8)
  | [] => []
  | b :: rest => [b :: rest]

/-- The words of a text that goes on after some bytes of a space, with the
bytes of a word before it. -/
def fieldsAfter : Nat → List UInt8 → List UInt8 → List (List UInt8)
  | _, before, [] => word before
  | done + 1, before, _ :: rest => fieldsAfter done before rest
  | 0, before, b :: rest =>
      match leading spaces (b :: rest) with
      | 0 => fieldsAfter 0 (before ++ [b]) rest
      | done + 1 => word before ++ fieldsAfter done [] rest

/-- `strings.Fields`. -/
def fields (text : List UInt8) : List (List UInt8) := fieldsAfter 0 [] text

def dropLeading (encodings : List (List UInt8)) : Nat → List UInt8 → List UInt8
  | _, [] => []
  | done + 1, _ :: rest => dropLeading encodings done rest
  | 0, b :: rest =>
      match leading encodings (b :: rest) with
      | 0 => b :: rest
      | done + 1 => dropLeading encodings done rest

/-- `bytes.TrimSpace`. -/
def trimSpace (text : List UInt8) : List UInt8 :=
  (dropLeading (spaces.map List.reverse) 0 (dropLeading spaces 0 text).reverse).reverse

example : fields [32, 66, 0xc2, 0xa0, 67, 68, 9, 13] = [[66], [67, 68]] := by decide

/-! ## Texts without spaces -/

/-- No space begins or ends with this byte. -/
def Visible (b : UInt8) : Prop := 32 < b ∧ b < 128

instance : DecidablePred Visible := fun b => inferInstanceAs (Decidable (32 < b ∧ b < 128))

theorem leading_visible {encodings : List (List UInt8)}
    (h : encodings.all (fun s => s ≠ [] && !decide (Visible (s.headD 0))) = true)
    {b : UInt8} (hb : Visible b) (text : List UInt8) : leading encodings (b :: text) = 0 := by
  have hnone : encodings.find? (fun s => s.isPrefixOf (b :: text)) = none := by
    refine List.find?_eq_none.mpr fun s hs hprefix => ?_
    have hs := List.all_eq_true.mp h s hs
    cases s with
    | nil => simp at hs
    | cons c s =>
        rw [List.isPrefixOf, Bool.and_eq_true, beq_iff_eq] at hprefix
        obtain rfl := hprefix.1
        simp [hb] at hs
  rw [leading, hnone]
  rfl

theorem spaces_visible {b : UInt8} (hb : Visible b) (text : List UInt8) :
    leading spaces (b :: text) = 0 :=
  leading_visible (by decide) hb text

theorem fieldsAfter_visible : ∀ {text : List UInt8}, (∀ b ∈ text, Visible b) → ∀ before rest,
    fieldsAfter 0 before (text ++ rest) = fieldsAfter 0 (before ++ text) rest
  | [], _, before, rest => by rw [List.nil_append, List.append_nil]
  | b :: text, h, before, rest => by
      rw [List.cons_append, fieldsAfter, spaces_visible (h b (List.mem_cons_self ..))]
      dsimp only
      rw [fieldsAfter_visible fun c hc => h c (List.mem_cons_of_mem _ hc), List.append_assoc]
      rfl

/-- Two words with a space between them. -/
theorem fields_pair {first second : List UInt8} (hfirst : ∀ b ∈ first, Visible b)
    (hsecond : ∀ b ∈ second, Visible b) :
    fields (first ++ 32 :: second) = word first ++ word second := by
  have hspace : leading spaces (32 :: second) = 1 := rfl
  have hlast := fieldsAfter_visible hsecond [] []
  rw [List.append_nil, List.nil_append] at hlast
  rw [fields, fieldsAfter_visible hfirst, List.nil_append, fieldsAfter, hspace]
  dsimp only
  rw [hlast]
  rfl

/-- Nothing is trimmed between visible bytes. -/
theorem trimSpace_visible {b c : UInt8} {text : List UInt8} (hb : Visible b) (hc : Visible c) :
    trimSpace (b :: (text ++ [c])) = b :: (text ++ [c]) := by
  have hlast : leading (spaces.map List.reverse) (c :: (b :: text).reverse) = 0 :=
    leading_visible (by decide) hc _
  rw [trimSpace, dropLeading, spaces_visible hb]
  have hreverse : (b :: (text ++ [c])).reverse = c :: (b :: text).reverse := by simp
  dsimp only
  rw [hreverse, dropLeading, hlast]
  simp

end CyberiaVpn.Codec
