import CyberiaVpn.Client.Config
import CyberiaVpn.Codec.Hex
import Mathlib.Data.String.Basic

/-!
# Keys in hexadecimal

`decode_key` reads the peer's key from 64 bytes of text, two at a time.
The text should be hexadecimal digits, and its error says so. Two of its
steps do not keep to that. A cut after two bytes may fall inside a
character, which panics; and `u8::from_str_radix` also takes a plus sign
before the digits, so that a byte of the key may be written as a sign and
one digit. Here is what the decoder does with every text, and which texts
it gets right.
-/

namespace CyberiaVpn.Client

open Effects Transport Codec

/-- What `decode_key` is to accept. -/
def IsHexKey (value : String) : Prop :=
  value.toList.length = 64 ∧ ∀ c ∈ value.toList, IsHexDigit c

/-- The decoder does right by a text: it does not panic, takes the text
exactly if it is hexadecimal, and reads the bytes that it stands for. -/
structure ReadsHex (value : String) : Prop where
  calm : decodeKey value ≠ .error .panic
  accepts : (∃ key, decodeKey value = .ok key) ↔ IsHexKey value
  bytes : ∀ key, decodeKey value = .ok key → key.toList = hexBytes value.toList ∧
    hexText key.toList = value.toList.map Char.toLower

/-! ## The texts that are misread -/

/-- What `from_str_radix` takes for a byte. -/
def ReadsPair (a b : Char) : Prop :=
  (IsHexDigit a ∨ a = '+') ∧ IsHexDigit b

/-- The second byte of a text is not the last one of its character. -/
def Splits : List Char → Prop
  | [] => False
  | [a] => 2 < a.utf8Size
  | a :: b :: _ => 2 < a.utf8Size ∨ a.utf8Size = 1 ∧ 1 < b.utf8Size

/-- A text has the property after some pairs that can be read. -/
inductive AfterPairs (P : List Char → Prop) : List Char → Prop
  | here {text : List Char} (h : P text) : AfterPairs P text
  | next {a b : Char} {rest : List Char} (hpair : ReadsPair a b) (h : AfterPairs P rest) :
      AfterPairs P (a :: b :: rest)

/-- Either the text consists of pairs that can be read and has a plus
sign, or the first pair that cannot be read ends inside a character. -/
def Misread (value : String) : Prop :=
  value.utf8ByteSize = 64 ∧
    (AfterPairs (· = []) value.toList ∧ '+' ∈ value.toList ∨ AfterPairs Splits value.toList)

/-! ## One pair -/

theorem digitValue_sixteen (c : Char) :
    digitValue 16 c = if IsHexDigit c then some (hexValue c) else none := by
  by_cases hascii : c.toNat < 128
  · have h : ∀ n < 128, digitValue 16 (Char.ofNat n) =
        if IsHexDigit (Char.ofNat n) then some (hexValue (Char.ofNat n)) else none := by
      decide +kernel
    simpa using h c.toNat hascii
  · have hover : ∀ d : Char, d.toNat < 128 → ¬c ≤ d := fun d hd hle => by
      have hle : c.toNat ≤ d.toNat := hle
      omega
    have hvalue : digitValue 16 c = if 16 < 16 then some 16 else none := by
      rw [digitValue, if_neg (c := '0' ≤ c ∧ c ≤ '9') fun h => hover '9' (by decide) h.2,
        if_neg (c := 'a' ≤ c ∧ c ≤ 'f') fun h => hover 'f' (by decide) h.2,
        if_neg (c := 'A' ≤ c ∧ c ≤ 'F') fun h => hover 'F' (by decide) h.2]
    rw [if_neg fun hdigit => hascii hdigit.toNat_lt, hvalue]
    rfl

/-- A text of at least two bytes begins with two characters of one byte or
with one of two, unless it is cut. -/
theorem splitBytes_two {text : List Char} (h : 2 ≤ String.utf8Len text) :
    (splitBytes 2 text = none ∧ Splits text) ∨
    (∃ a rest, a.utf8Size = 2 ∧ text = a :: rest ∧ splitBytes 2 text = some ([a], rest)) ∨
    ∃ a b rest, a.utf8Size = 1 ∧ b.utf8Size = 1 ∧ text = a :: b :: rest ∧
      splitBytes 2 text = some ([a, b], rest) := by
  match text with
  | [] => simp at h
  | [a] =>
      have hsize : 2 ≤ a.utf8Size := by simpa using h
      by_cases htwo : a.utf8Size = 2
      · exact .inr (.inl ⟨a, [], htwo, rfl, by simp [splitBytes, htwo]⟩)
      · have hlt : 2 < a.utf8Size := by omega
        exact .inl ⟨by simp [splitBytes, hlt], hlt⟩
  | a :: b :: rest =>
      have hpos := b.utf8Size_pos
      rcases a.utf8Size_eq with hone | htwo | hmore
      · by_cases hb : b.utf8Size = 1
        · exact .inr (.inr ⟨a, b, rest, hone, hb, rfl, by simp [splitBytes, hone, hb]⟩)
        · have hlt : 1 < b.utf8Size := by omega
          exact .inl ⟨by simp [splitBytes, hone, hlt], .inr ⟨hone, hlt⟩⟩
      · exact .inr (.inl ⟨a, b :: rest, htwo, rfl, by simp [splitBytes, htwo]⟩)
      · have hlt : 2 < a.utf8Size := by omega
        exact .inl ⟨by simp [splitBytes, hlt], .inl hlt⟩

theorem parseUnsigned_single {a : Char} (h : a.utf8Size = 2) : parseUnsigned 16 256 [a] = none := by
  have hdigit : ¬IsHexDigit a := fun hdigit => by
    rw [hdigit.utf8Size] at h
    cases h
  have hplus : a ≠ '+' := fun hplus => by
    rw [hplus] at h
    cases h
  simp [parseUnsigned, hplus, digitValue_sixteen, hdigit]

/-- The number that a pair is read as. -/
def pairValue (a b : Char) : Nat :=
  if a = '+' then hexValue b else 16 * hexValue a + hexValue b

theorem pairValue_hex {a b : Char} (h : IsHexDigit a) :
    pairValue a b = 16 * hexValue a + hexValue b :=
  if_neg fun hplus => absurd (hplus ▸ h) (by decide)

theorem parseUnsigned_pair {a b : Char} (h : ReadsPair a b) :
    parseUnsigned 16 256 [a, b] = some (pairValue a b) := by
  obtain ⟨ha, hb⟩ := h
  have hlow := hexValue_lt hb
  by_cases hplus : a = '+'
  · have hvalue : hexValue b < 256 := by omega
    simp [parseUnsigned, pairValue, hplus, digitValue_sixteen, hb, hvalue]
  · have ha : IsHexDigit a := ha.resolve_right hplus
    have hhigh := hexValue_lt ha
    have hvalue : 16 * hexValue a + hexValue b < 256 := by omega
    simp [parseUnsigned, pairValue, hplus, digitValue_sixteen, ha, hb, hvalue, Nat.mul_comm]

theorem parseUnsigned_pair_none {a b : Char} (h : ¬ReadsPair a b) :
    parseUnsigned 16 256 [a, b] = none := by
  rw [ReadsPair, not_and_or, not_or] at h
  rcases h with ⟨ha, hplus⟩ | hb
  · simp [parseUnsigned, hplus, digitValue_sixteen, ha]
  · by_cases hplus : a = '+' <;> by_cases ha : IsHexDigit a <;>
      simp [parseUnsigned, hplus, digitValue_sixteen, ha, hb]

theorem ReadsPair.sizes {a b : Char} (h : ReadsPair a b) : a.utf8Size = 1 ∧ b.utf8Size = 1 := by
  refine ⟨?_, h.2.utf8Size⟩
  rcases h.1 with ha | rfl
  · exact ha.utf8Size
  · rfl

/-! ## The loop -/

section Loop

variable {n : Nat} {text : List Char} {P : List Char → Prop}

/-- The text does not begin with a pair that can be read. -/
def Unread (text : List Char) : Prop :=
  ∀ a b rest, text = a :: b :: rest → ¬ReadsPair a b

theorem Splits.unread (h : Splits text) : Unread text := by
  rintro a b rest rfl hpair
  obtain ⟨ha, hb⟩ := hpair.sizes
  rcases h with h | ⟨-, h⟩ <;> omega

theorem Unread.afterPairs_iff (h : Unread text) : AfterPairs P text ↔ P text := by
  constructor
  · rintro (hP | ⟨hpair, -⟩)
    · exact hP
    · exact absurd hpair (h _ _ _ rfl)
  · exact .here

theorem afterPairs_cons_iff {a b : Char} {rest : List Char} (hpair : ReadsPair a b) :
    AfterPairs P (a :: b :: rest) ↔ P (a :: b :: rest) ∨ AfterPairs P rest := by
  constructor
  · rintro (hP | ⟨-, h⟩)
    · exact .inl hP
    · exact .inr h
  · rintro (hP | h)
    · exact .here hP
    · exact .next hpair h

/-- One round: the cut panics, the pair is refused, or it is a byte and
the loop goes on behind it. -/
theorem decodeBytes_succ (h : String.utf8Len text = 2 * (n + 1)) :
    (Splits text ∧ decodeBytes (n + 1) text = .error .panic) ∨
    (¬Splits text ∧ Unread text ∧
      decodeBytes (n + 1) text = .error (.error invalidKey)) ∨
    ∃ a b rest, text = a :: b :: rest ∧ ReadsPair a b ∧ String.utf8Len rest = 2 * n ∧
      decodeBytes (n + 1) text = do
        let bytes ← decodeBytes n rest
        return ⟨#[UInt8.ofNat (pairValue a b)] ++ bytes.toArray, by simp [Nat.add_comm]⟩ := by
  have htwo : 2 ≤ String.utf8Len text := by omega
  rcases splitBytes_two htwo with ⟨hcut, hsplits⟩ |
    ⟨a, rest, hsize, rfl, hcut⟩ | ⟨a, b, rest, ha, hb, rfl, hcut⟩
  · exact .inl ⟨hsplits, by rw [decodeBytes, hcut]⟩
  · refine .inr (.inl ⟨?_, ?_, ?_⟩)
    · cases rest <;> simp [Splits, hsize]
    · intro a' b' rest' heq hpair
      cases heq
      have := hpair.sizes.1
      omega
    · rw [decodeBytes, hcut]
      simp only [parseUnsigned_single hsize]
  · by_cases hpair : ReadsPair a b
    · refine .inr (.inr ⟨a, b, rest, rfl, hpair, ?_, ?_⟩)
      · simp only [String.utf8Len_cons, ha, hb] at h
        omega
      · rw [decodeBytes, hcut]
        simp only [parseUnsigned_pair hpair]
    · refine .inr (.inl ⟨?_, ?_, ?_⟩)
      · simp [Splits, ha, hb]
      · intro a' b' rest' heq
        cases heq
        exact hpair
      · rw [decodeBytes, hcut]
        simp only [parseUnsigned_pair_none hpair]

theorem decodeBytes_ok_iff (h : String.utf8Len text = 2 * n) :
    (∃ key, decodeBytes n text = .ok key) ↔ AfterPairs (· = []) text := by
  induction n generalizing text with
  | zero =>
      have hnil : text = [] := String.utf8Len_eq_zero.mp h
      exact ⟨fun _ => .here hnil, fun _ => ⟨_, rfl⟩⟩
  | succ n ih =>
      have hne : text ≠ [] := fun hnil => by simp [hnil] at h
      rcases decodeBytes_succ h with ⟨hsplits, heq⟩ | ⟨-, hunread, heq⟩ |
        ⟨a, b, rest, rfl, hpair, hrest, heq⟩
      · rw [heq, hsplits.unread.afterPairs_iff]
        exact ⟨nofun, fun hnil => absurd hnil hne⟩
      · rw [heq, hunread.afterPairs_iff]
        exact ⟨nofun, fun hnil => absurd hnil hne⟩
      · rw [heq, afterPairs_cons_iff hpair, ← ih hrest]
        simp only [bind_eq_ok]
        constructor
        · rintro ⟨_, bytes, hbytes, -⟩
          exact .inr ⟨bytes, hbytes⟩
        · rintro (hnil | ⟨bytes, hbytes⟩)
          · exact absurd hnil hne
          · exact ⟨_, bytes, hbytes, rfl⟩

theorem decodeBytes_panic_iff (h : String.utf8Len text = 2 * n) :
    decodeBytes n text = .error .panic ↔ AfterPairs Splits text := by
  induction n generalizing text with
  | zero =>
      have hnil : text = [] := String.utf8Len_eq_zero.mp h
      have hunread : Unread text := by
        rintro a b rest rfl
        cases hnil
      rw [hunread.afterPairs_iff, hnil]
      exact ⟨nofun, False.elim⟩
  | succ n ih =>
      rcases decodeBytes_succ h with ⟨hsplits, heq⟩ | ⟨hwhole, hunread, heq⟩ |
        ⟨a, b, rest, rfl, hpair, hrest, heq⟩
      · exact ⟨fun _ => .here hsplits, fun _ => heq⟩
      · rw [heq, hunread.afterPairs_iff]
        exact ⟨nofun, fun hsplits => absurd hsplits hwhole⟩
      · have hwhole : ¬Splits (a :: b :: rest) := fun hsplits => hsplits.unread a b rest rfl hpair
        rw [heq, afterPairs_cons_iff hpair, or_iff_right hwhole, ← ih hrest, bind_eq_error]
        exact or_iff_left fun ⟨_, _, hreturn⟩ => nomatch hreturn

/-- Without a sign the bytes are those of the text. -/
theorem decodeBytes_bytes {key : Vector UInt8 n} (h : String.utf8Len text = 2 * n)
    (hok : decodeBytes n text = .ok key) (hdigits : ∀ c ∈ text, IsHexDigit c) :
    key.toList = hexBytes text := by
  induction n generalizing text with
  | zero =>
      rw [String.utf8Len_eq_zero.mp h]
      exact List.length_eq_zero_iff.mp (by simp)
  | succ n ih =>
      rcases decodeBytes_succ h with ⟨-, heq⟩ | ⟨-, -, heq⟩ | ⟨a, b, rest, rfl, -, hrest, heq⟩
      · cases heq.symm.trans hok
      · cases heq.symm.trans hok
      · obtain ⟨bytes, hbytes, hkey⟩ := bind_eq_ok.mp (heq.symm.trans hok)
        cases hkey
        rw [hexBytes, ← ih hrest hbytes fun c hc => hdigits c (by simp [hc]),
          ← pairValue_hex (hdigits a (by simp))]
        simp [Vector.toList]

/-- Hexadecimal texts are the pairs that can be read and have no sign. -/
theorem isHexDigit_of_afterPairs (h : AfterPairs (· = []) text) (hplus : '+' ∉ text) :
    ∀ c ∈ text, IsHexDigit c := by
  induction h with
  | here hnil => simp [hnil]
  | @next a b rest hpair _ ih =>
      simp only [List.mem_cons, not_or] at hplus
      have ha : IsHexDigit a := hpair.1.resolve_right (Ne.symm hplus.1)
      intro c hc
      simp only [List.mem_cons] at hc
      rcases hc with rfl | rfl | hc
      · exact ha
      · exact hpair.2
      · exact ih hplus.2.2 c hc

theorem afterPairs_of_isHexDigit (heven : 2 ∣ text.length) (hdigits : ∀ c ∈ text, IsHexDigit c) :
    AfterPairs (· = []) text := by
  induction text using hexBytes.induct with
  | case1 a b rest ih =>
      refine .next ⟨.inl (hdigits a (by simp)), hdigits b (by simp)⟩ ?_
      exact ih ((Nat.dvd_add_left (Nat.dvd_refl 2)).mp heven) fun c hc => hdigits c (by simp [hc])
  | case2 text hshort =>
      match text, hshort with
      | [], _ => exact .here rfl
      | [c], _ => simp at heven
      | a :: b :: rest, h => exact (h a b rest rfl).elim

theorem utf8Len_of_isHexDigit (hdigits : ∀ c ∈ text, IsHexDigit c) :
    String.utf8Len text = text.length := by
  induction text with
  | nil => rfl
  | cons c text ih =>
      rw [String.utf8Len_cons, (hdigits c (by simp)).utf8Size, List.length_cons,
        ih fun d hd => hdigits d (by simp [hd])]

end Loop

/-! ## Every text -/

section Text

variable {value : String}

theorem IsHexKey.utf8ByteSize (h : IsHexKey value) : value.utf8ByteSize = 64 := by
  rw [← String.utf8Len_toList, utf8Len_of_isHexDigit h.2, h.1]

theorem decodeKey_of_size (h : value.utf8ByteSize = 64) :
    decodeKey value = decodeBytes 32 value.toList :=
  if_neg (not_not.mpr h)

theorem isHexKey_iff (hsize : value.utf8ByteSize = 64) :
    IsHexKey value ↔ AfterPairs (· = []) value.toList ∧ '+' ∉ value.toList := by
  constructor
  · intro h
    refine ⟨afterPairs_of_isHexDigit (h.1 ▸ by decide) h.2, fun hplus => ?_⟩
    exact absurd (h.2 _ hplus) (by decide)
  · rintro ⟨hpairs, hplus⟩
    have hdigits := isHexDigit_of_afterPairs hpairs hplus
    refine ⟨?_, hdigits⟩
    rw [← utf8Len_of_isHexDigit hdigits, String.utf8Len_toList, hsize]

theorem readsHex_of_size (h : value.utf8ByteSize ≠ 64) : ReadsHex value := by
  have heq : decodeKey value = .error (.error invalidKey) := if_pos h
  refine ⟨by rw [heq]; nofun, ?_, by rw [heq]; nofun⟩
  rw [heq]
  exact ⟨nofun, fun hkey => absurd hkey.utf8ByteSize h⟩

/-- **Which texts are read right.** All but those of 64 bytes that are
pairs with a sign among them, or that are cut inside a character. -/
theorem decodeKey_reads_hex_iff (value : String) : ReadsHex value ↔ ¬Misread value := by
  by_cases hsize : value.utf8ByteSize = 64
  · have hlen : String.utf8Len value.toList = 2 * 32 := by rw [String.utf8Len_toList, hsize]
    have hok := decodeBytes_ok_iff hlen
    have hpanic := decodeBytes_panic_iff hlen
    rw [← decodeKey_of_size hsize] at hok hpanic
    rw [Misread, not_and, forall_prop_of_true hsize, not_or, not_and]
    constructor
    · rintro ⟨hcalm, haccepts, -⟩
      refine ⟨fun hpairs => ?_, fun hsplits => hcalm (hpanic.mpr hsplits)⟩
      exact ((isHexKey_iff hsize).mp (haccepts.mp (hok.mpr hpairs))).2
    · rintro ⟨hplus, hsplits⟩
      have hdigits : (∃ key, decodeKey value = .ok key) ↔ IsHexKey value := by
        rw [hok, isHexKey_iff hsize]
        exact ⟨fun hpairs => ⟨hpairs, hplus hpairs⟩, And.left⟩
      refine ⟨fun hpanics => hsplits (hpanic.mp hpanics), hdigits, fun key hkey => ?_⟩
      obtain ⟨hcount, hdigit⟩ := hdigits.mp ⟨key, hkey⟩
      have hbytes : key.toList = hexBytes value.toList :=
        decodeBytes_bytes hlen (decodeKey_of_size hsize ▸ hkey) hdigit
      exact ⟨hbytes, hbytes ▸ hexText_hexBytes (hcount ▸ by decide) hdigit⟩
  · exact ⟨fun _ h => hsize h.1, fun _ => readsHex_of_size hsize⟩

def plusKey : String :=
  "+7+7+7+7+7+7+7+7+7+7+7+7+7+7+7+7+7+7+7+7+7+7+7+7+7+7+7+7+7+7+7+7"

def splitKey : String :=
  "0é0000000000000000000000000000000000000000000000000000000000000"

/-- A key of signs and digits is taken, and an accented letter in the
second place ends the client. -/
theorem decodeKey_misreads :
    (decodeKey plusKey = .ok (Vector.replicate 32 7) ∧ ¬IsHexKey plusKey ∧ ¬ReadsHex plusKey) ∧
    decodeKey splitKey = .error .panic ∧ ¬ReadsHex splitKey := by
  have hplus : decodeKey plusKey = .ok (Vector.replicate 32 7) := by decide +kernel
  have hsplit : decodeKey splitKey = .error .panic := by decide +kernel
  have hnot : ¬IsHexKey plusKey := fun h => absurd (h.2 '+' (by decide)) (by decide)
  refine ⟨⟨hplus, hnot, fun h => hnot (h.accepts.mp ⟨_, hplus⟩)⟩, hsplit, fun h => h.calm hsplit⟩

end Text

end CyberiaVpn.Client
