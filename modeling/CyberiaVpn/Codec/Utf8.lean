import Mathlib.Data.List.Basic

/-!
# Reading UTF-8

A reader that goes on after bytes no character begins with, as
`String::from_utf8_lossy` does. It takes one byte at a time: `Unfinished`
is a character of which some bytes are still to come, with the bounds of
the next one. The bounds are what keeps out a code written too long, a
surrogate and a code above the last character.

A sequence that breaks off stands in the result as one `none`, and the
byte that breaks it is read again as a first byte.
-/

namespace CyberiaVpn.Codec

structure Unfinished where
  left : Nat
  low : Nat
  high : Nat
  code : Nat

/-- Between two characters: what the first byte of the next one yields by
itself, and the character it begins. -/
def beginCharacter (b : UInt8) : List (Option Char) × Option Unfinished :=
  let n := b.toNat
  let low := if n = 0xe0 then 0xa0 else if n = 0xf0 then 0x90 else 0x80
  let high := if n = 0xed then 0x9f else if n = 0xf4 then 0x8f else 0xbf
  if n < 0x80 then ([some (Char.ofNat n)], none)
  else if n < 0xc2 then ([none], none)
  else if n < 0xe0 then ([], some ⟨0, low, high, n - 0xc0⟩)
  else if n < 0xf0 then ([], some ⟨1, low, high, n - 0xe0⟩)
  else if n < 0xf5 then ([], some ⟨2, low, high, n - 0xf0⟩)
  else ([none], none)

def readUtf8 : Option Unfinished → List UInt8 → List (Option Char)
  | none, [] => []
  | some _, [] => [none]
  | none, b :: rest => (beginCharacter b).1 ++ readUtf8 (beginCharacter b).2 rest
  | some u, b :: rest =>
      if u.low ≤ b.toNat ∧ b.toNat ≤ u.high then
        let code := u.code * 64 + b.toNat % 64
        match u.left with
        | 0 => some (Char.ofNat code) :: readUtf8 none rest
        | left + 1 => readUtf8 (some ⟨left, 0x80, 0xbf, code⟩) rest
      else none :: (beginCharacter b).1 ++ readUtf8 (beginCharacter b).2 rest

example : readUtf8 none [0x2f, 0xc3, 0xa9, 0xf0, 0x9f, 0x2f, 0xff] =
    [some '/', some 'é', none, some '/', none] := by decide

/-! ## The bytes of a text -/

section Characters

variable {b : UInt8} {u : Unfinished} {rest : List UInt8}

theorem readUtf8_begin (h : beginCharacter b = ([], some u)) :
    readUtf8 none (b :: rest) = readUtf8 (some u) rest := by
  rw [readUtf8, h, List.nil_append]

theorem readUtf8_last {low high code : Nat} (h : low ≤ b.toNat ∧ b.toNat ≤ high) :
    readUtf8 (some ⟨0, low, high, code⟩) (b :: rest) =
      some (Char.ofNat (code * 64 + b.toNat % 64)) :: readUtf8 none rest := by
  simp only [readUtf8]
  rw [if_pos h]

theorem readUtf8_next {left low high code : Nat} (h : low ≤ b.toNat ∧ b.toNat ≤ high) :
    readUtf8 (some ⟨left + 1, low, high, code⟩) (b :: rest) =
      readUtf8 (some ⟨left, 0x80, 0xbf, code * 64 + b.toNat % 64⟩) rest := by
  simp only [readUtf8]
  rw [if_pos h]

theorem toNat_ofNat_of_lt {n : Nat} (h : n < 256) : (UInt8.ofNat n).toNat = n := by
  rw [UInt8.toNat_ofNat', Nat.mod_eq_of_lt h]

theorem begin_two {n : Nat} (hlow : 0xc2 ≤ n) (hhigh : n < 0xe0) :
    beginCharacter (UInt8.ofNat n) = ([], some ⟨0, 0x80, 0xbf, n - 0xc0⟩) := by
  unfold beginCharacter
  rw [toNat_ofNat_of_lt (by omega)]
  simp only [show ¬n < 0x80 by omega, show ¬n < 0xc2 by omega, show n ≠ 0xe0 by omega,
    show n ≠ 0xf0 by omega, show n ≠ 0xed by omega, show n ≠ 0xf4 by omega, hhigh, if_true,
    if_false]

theorem begin_three {n : Nat} (hlow : 0xe0 ≤ n) (hhigh : n < 0xf0) :
    beginCharacter (UInt8.ofNat n) =
      ([], some ⟨1, if n = 0xe0 then 0xa0 else 0x80, if n = 0xed then 0x9f else 0xbf,
        n - 0xe0⟩) := by
  unfold beginCharacter
  rw [toNat_ofNat_of_lt (by omega)]
  simp only [show ¬n < 0x80 by omega, show ¬n < 0xc2 by omega, show ¬n < 0xe0 by omega,
    show n ≠ 0xf0 by omega, show n ≠ 0xf4 by omega, hhigh, if_true, if_false]

theorem begin_four {n : Nat} (hlow : 0xf0 ≤ n) (hhigh : n < 0xf5) :
    beginCharacter (UInt8.ofNat n) =
      ([], some ⟨2, if n = 0xf0 then 0x90 else 0x80, if n = 0xf4 then 0x8f else 0xbf,
        n - 0xf0⟩) := by
  unfold beginCharacter
  rw [toNat_ofNat_of_lt (by omega)]
  simp only [show ¬n < 0x80 by omega, show ¬n < 0xc2 by omega, show ¬n < 0xe0 by omega,
    show ¬n < 0xf0 by omega, show n ≠ 0xe0 by omega, show n ≠ 0xed by omega, hhigh, if_true,
    if_false]

/-- A scalar value is no surrogate and at most the last character. -/
theorem scalar_range (c : Char) : c.toNat < 0xd800 ∨ 0xdfff < c.toNat ∧ c.toNat < 0x110000 :=
  c.valid

theorem toNat_continuation (n : Nat) :
    (UInt8.ofNat (n % 0x40 + 0x80)).toNat = n % 0x40 + 0x80 :=
  toNat_ofNat_of_lt (by omega)

/-- The bytes of a character read back, whatever follows them. -/
theorem readUtf8_utf8EncodeChar (c : Char) :
    readUtf8 none (String.utf8EncodeChar c ++ rest) = some c :: readUtf8 none rest := by
  have hrange := scalar_range c
  have hchar : Char.ofNat c.toNat = c := Char.ofNat_toNat c
  unfold String.utf8EncodeChar
  dsimp only
  rw [show c.val.toNat = c.toNat from rfl]
  generalize c.toNat = n at hrange hchar
  -- one case for each length of the encoding
  split
  · have hbyte : (UInt8.ofNat n).toNat = n := toNat_ofNat_of_lt (by omega)
    simp [readUtf8, beginCharacter, hbyte, show n < 0x80 by omega, hchar]
  split
  · have hlast := toNat_continuation n
    have hcode : (n / 64 % 0x20 + 0xc0 - 0xc0) * 64 + (n % 0x40 + 0x80) % 64 = n := by omega
    simp only [List.cons_append, List.nil_append]
    rw [readUtf8_begin (begin_two (by omega) (by omega)), readUtf8_last (by omega), hlast, hcode,
      hchar]
  split
  · have hlast := toNat_continuation n
    have hnext := toNat_continuation (n / 64)
    have hcode : ((n / 4096 % 0x10 + 0xe0 - 0xe0) * 64 + (n / 64 % 0x40 + 0x80) % 64) * 64 +
        (n % 0x40 + 0x80) % 64 = n := by omega
    simp only [List.cons_append, List.nil_append]
    rw [readUtf8_begin (begin_three (by omega) (by omega)),
      readUtf8_next (by rw [hnext]; split_ifs <;> omega), readUtf8_last (by omega), hlast, hnext,
      hcode, hchar]
  · have hlast := toNat_continuation n
    have hthird := toNat_continuation (n / 64)
    have hnext := toNat_continuation (n / 4096)
    have hcode : (((n / 262144 % 0x08 + 0xf0 - 0xf0) * 64 + (n / 4096 % 0x40 + 0x80) % 64) * 64 +
        (n / 64 % 0x40 + 0x80) % 64) * 64 + (n % 0x40 + 0x80) % 64 = n := by omega
    simp only [List.cons_append, List.nil_append]
    rw [readUtf8_begin (begin_four (by omega) (by omega)),
      readUtf8_next (by rw [hnext]; split_ifs <;> omega), readUtf8_next (by omega),
      readUtf8_last (by omega), hlast, hthird, hnext, hcode, hchar]

end Characters

/-- And so do the bytes of a text. -/
theorem readUtf8_flatMap (text : List Char) :
    readUtf8 none (text.flatMap String.utf8EncodeChar) = text.map some := by
  induction text with
  | nil => rfl
  | cons c text ih => rw [List.flatMap_cons, readUtf8_utf8EncodeChar, ih, List.map_cons]

end CyberiaVpn.Codec
