import Mathlib.Data.List.Basic
import CyberiaVpn.Codec.Base64
import CyberiaVpn.Codec.Decimal

/-!
# Writing JSON

Values as the encoder of Go's `encoding/json` writes them: without spaces,
with the characters escaped that HTML gives a meaning, and with byte
slices in base64. The lemmas are about lengths.
-/

namespace CyberiaVpn.Codec.Json

/-! ## Strings -/

/-- A text of ASCII characters. -/
def bytes (s : String) : List UInt8 :=
  s.toList.map fun c => UInt8.ofNat c.toNat

def hexByte (n : Nat) : UInt8 :=
  UInt8.ofNat (if n < 10 then 48 + n else 87 + n)

/-- A byte that stands for an ASCII character, in a string. -/
def escape (b : UInt8) : List UInt8 :=
  if b = 34 ∨ b = 92 then [92, b]
  else if b = 8 then bytes "\\b"
  else if b = 12 then bytes "\\f"
  else if b = 10 then bytes "\\n"
  else if b = 13 then bytes "\\r"
  else if b = 9 then bytes "\\t"
  else if b < 32 ∨ b = 60 ∨ b = 62 ∨ b = 38 then
    bytes "\\u00" ++ [hexByte (b.toNat / 16), hexByte (b.toNat % 16)]
  else [b]

/-- The inside of a string, of whose bytes some are done already. What is
not UTF-8 is replaced, byte by byte. -/
def inside : Nat → List UInt8 → List UInt8
  | _, [] => []
  | done + 1, _ :: rest => inside done rest
  | 0, b :: rest =>
      if b < 128 then escape b ++ inside 0 rest
      else
        match (ByteArray.mk (b :: rest).toArray).utf8DecodeChar? 0 with
        | none => bytes "\\ufffd" ++ inside 0 rest
        | some c =>
            (if c.toNat = 0x2028 then bytes "\\u2028"
              else if c.toNat = 0x2029 then bytes "\\u2029"
              else (b :: rest).take c.utf8Size) ++ inside (c.utf8Size - 1) rest

def string (text : List UInt8) : List UInt8 :=
  34 :: inside 0 text ++ [34]

/-- A byte slice. -/
def slice (data : List UInt8) : List UInt8 :=
  34 :: (Base64.encode data).map (fun c => UInt8.ofNat c.toNat) ++ [34]

def number (n : Int) : List UInt8 :=
  if n < 0 then 45 :: decimal n.natAbs else decimal n.natAbs

def null : List UInt8 := bytes "null"

/-! ## Arrays and objects -/

def commas : List (List UInt8) → List UInt8
  | [] => []
  | [item] => item
  | item :: items => item ++ 44 :: commas items

def array (items : List (List UInt8)) : List UInt8 :=
  91 :: commas items ++ [93]

/-- The names are ASCII and have nothing to escape. -/
def object (members : List (String × List UInt8)) : List UInt8 :=
  123 :: commas (members.map fun (name, value) => 34 :: bytes name ++ 34 :: 58 :: value) ++ [125]

example : string [97, 60, 0xe2, 0x80, 0xa8, 0xff] = bytes "\"a\\u003c\\u2028\\ufffd\"" := by decide +kernel

/-! ## Lengths -/

theorem inside_plain : ∀ {text : List UInt8}, (∀ b ∈ text, b < 128 ∧ escape b = [b]) →
    inside 0 text = text
  | [], _ => rfl
  | b :: rest, h => by
      obtain ⟨hascii, hescape⟩ := h b (List.mem_cons_self ..)
      rw [inside, if_pos hascii, hescape,
        inside_plain fun c hc => h c (List.mem_cons_of_mem _ hc)]
      rfl

theorem length_string {text : List UInt8} (h : ∀ b ∈ text, b < 128 ∧ escape b = [b]) :
    (string text).length = text.length + 2 := by
  rw [string, inside_plain h]
  simp

theorem length_slice (data : List UInt8) :
    (slice data).length = (data.length + 2) / 3 * 4 + 2 := by
  simp [slice, Base64.length_encode]

theorem length_commas {items : List (List UInt8)} {n : Nat}
    (h : ∀ item ∈ items, item.length ≤ n) : (commas items).length ≤ items.length * (n + 1) := by
  fun_induction commas items with
  | case1 => simp
  | case2 item =>
      have hitem := h item (List.mem_cons_self ..)
      simp only [List.length_singleton]
      omega
  | case3 item items _ ih =>
      have hitem := h item (List.mem_cons_self ..)
      have hitems := ih fun other hother => h other (List.mem_cons_of_mem _ hother)
      simp only [List.length_append, List.length_cons, Nat.succ_mul] at hitems ⊢
      omega

/-- Items of at most `n` bytes each. -/
theorem length_array {items : List (List UInt8)} {n : Nat}
    (h : ∀ item ∈ items, item.length ≤ n) :
    (array items).length ≤ items.length * (n + 1) + 2 := by
  have hcommas := length_commas h
  simp only [array, List.length_append, List.length_cons, List.length_nil]
  omega

end CyberiaVpn.Codec.Json
