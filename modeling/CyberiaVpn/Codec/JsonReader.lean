import Mathlib.Tactic.IntervalCases
import CyberiaVpn.Codec.Json

/-!
# Reading JSON

A text is first read as a value, as the scanner of Go's `encoding/json`
does it, and the value is then stored into a variable of some type. The
scanner tells a text that cannot be continued to a value from one that
ends too early, and nests arrays and objects at most 10000 deep.

Storing goes by the type of the variable. It changes what was there
before: `null` leaves most variables alone, members that are repeated are
stored one over the other, and the elements of an array are stored over
those that the slice had.

`Reads` is what the lemmas are about: at the beginning of any longer text
a text is read as a given value. What `Codec.Json` writes is read as the
value that it was written for.
-/

namespace CyberiaVpn.Codec.Json

/-- Strings and numbers are kept as they were written, a string without
its quotes. -/
inductive Value where
  | null
  | bool (b : Bool)
  | number (text : List UInt8)
  | string (inside : List UInt8)
  | array (items : List Value)
  | object (members : List (List UInt8 × Value))

inductive ReadError where
  /-- No continuation of the text is a value. -/
  | invalid
  /-- The text ends within a value. -/
  | short
  /-- More than 10000 arrays and objects within each other. -/
  | deep
  deriving DecidableEq

/-- A reader takes what it reads off a text. -/
abbrev Reader := StateT (List UInt8) (Except ReadError)

def reader {α : Type} (f : List UInt8 → Except ReadError (α × List UInt8)) : Reader α := f

/-! ## Tokens -/

def isSpace (b : UInt8) : Bool := b = 32 || b = 9 || b = 13 || b = 10

def skipSpace (text : List UInt8) : List UInt8 := text.dropWhile isSpace

def hexDigit? (b : UInt8) : Option Nat :=
  if 48 ≤ b ∧ b ≤ 57 then some (b.toNat - 48)
  else if 97 ≤ b ∧ b ≤ 102 then some (b.toNat - 87)
  else if 65 ≤ b ∧ b ≤ 70 then some (b.toNat - 55)
  else none

/-- The byte belongs to the token that is being read. -/
def keep (b : UInt8) :
    Except ReadError (List UInt8 × List UInt8) → Except ReadError (List UInt8 × List UInt8)
  | .ok (token, rest) => .ok (b :: token, rest)
  | .error e => .error e

inductive StringState where
  | plain
  | escape
  | hex (left : Nat)

/-- Up to the closing quote. -/
def scanString : StringState → List UInt8 → Except ReadError (List UInt8 × List UInt8)
  | _, [] => .error .short
  | .plain, b :: rest =>
      if b = 34 then .ok ([], rest)
      else if b = 92 then keep b (scanString .escape rest)
      else if b < 32 then .error .invalid
      else keep b (scanString .plain rest)
  | .escape, b :: rest =>
      if b = 117 then keep b (scanString (.hex 3) rest)
      else if b ∈ bytes "bfnrt\\/\"" then keep b (scanString .plain rest)
      else .error .invalid
  | .hex left, b :: rest =>
      if (hexDigit? b).isSome then
        keep b (scanString (match left with | 0 => .plain | left + 1 => .hex left) rest)
      else .error .invalid

inductive NumberState where
  | minus
  | zero
  | integer
  | point
  | fraction
  | exponent
  | sign
  | digits
  deriving DecidableEq

namespace NumberState

/-- A number may end here. -/
def ends : NumberState → Bool
  | zero | integer | fraction | digits => true
  | minus | point | exponent | sign => false

def next (state : NumberState) (b : UInt8) : Option NumberState :=
  let digit := 48 ≤ b && b ≤ 57
  match state with
  | minus => if b = 48 then some zero else if digit then some integer else none
  | zero => if b = 46 then some point else if b = 101 || b = 69 then some exponent else none
  | integer =>
      if digit then some integer else if b = 46 then some point
      else if b = 101 || b = 69 then some exponent else none
  | point => if digit then some fraction else none
  | fraction => if digit then some fraction else if b = 101 || b = 69 then some exponent else none
  | exponent => if b = 43 || b = 45 then some sign else if digit then some digits else none
  | sign => if digit then some digits else none
  | digits => if digit then some digits else none

end NumberState

def scanNumber : NumberState → List UInt8 → Except ReadError (List UInt8 × List UInt8)
  | state, [] => if state.ends then .ok ([], []) else .error .short
  | state, b :: rest =>
      match state.next b with
      | some state => keep b (scanNumber state rest)
      | none => if state.ends then .ok ([], b :: rest) else .error .invalid

/-- The rest of a word. -/
def scanWord (value : Value) : List UInt8 → List UInt8 → Except ReadError (Value × List UInt8)
  | [], rest => .ok (value, rest)
  | _ :: _, [] => .error .short
  | c :: word, b :: rest => if b = c then scanWord value word rest else .error .invalid

/-! ## Values -/

/-- The next byte that is not a space. -/
def nextByte : Reader UInt8 := reader fun text =>
  match skipSpace text with
  | [] => .error .short
  | b :: rest => .ok (b, rest)

def expect (b : UInt8) : Reader Unit := do
  if (← nextByte) = b then return () else throw .invalid

def beginNumber (b : UInt8) : Option NumberState :=
  if b = 45 then some .minus else if b = 48 then some .zero
  else if 49 ≤ b && b ≤ 57 then some .integer else none

/-- The list of elements ends here, with nothing in it. -/
def atEnd (close : UInt8) : Reader Bool := reader fun text =>
  match skipSpace text with
  | [] => .error .short
  | b :: rest => if b = close then .ok (true, rest) else .ok (false, b :: rest)

/-- After an element. -/
def goesOn (close : UInt8) : Reader Bool := do
  let b ← nextByte
  if b = 44 then return true else if b = close then return false else throw .invalid

def readName : Reader (List UInt8) := do
  expect 34
  let name ← reader (scanString .plain)
  expect 58
  return name

/-- One level further in. -/
def nested {α : Type} (depth : Nat) (reader : Nat → Reader α) : Reader α :=
  match depth with
  | 0 => throw .deep
  | depth + 1 => reader depth

mutual

/-- The value at the beginning of a text. Elements of a list and values
within each other use up the first number. -/
def readValue : Nat → Nat → Reader Value
  | 0, _ => throw .short
  | fuel + 1, depth => do
      let b ← nextByte
      if b = 34 then return .string (← reader (scanString .plain))
      else if b = 123 then
        nested depth fun depth => do
          if ← atEnd 125 then return .object [] else return .object (← readMembers fuel depth)
      else if b = 91 then
        nested depth fun depth => do
          if ← atEnd 93 then return .array [] else return .array (← readItems fuel depth)
      else if b = 116 then reader (scanWord (.bool true) (bytes "rue"))
      else if b = 102 then reader (scanWord (.bool false) (bytes "alse"))
      else if b = 110 then reader (scanWord .null (bytes "ull"))
      else
        match beginNumber b with
        | none => throw .invalid
        | some state => return .number (b :: (← reader (scanNumber state)))

def readItems : Nat → Nat → Reader (List Value)
  | 0, _ => throw .short
  | fuel + 1, depth => do
      let item ← readValue fuel depth
      if ← goesOn 93 then return item :: (← readItems fuel depth) else return [item]

def readMembers : Nat → Nat → Reader (List (List UInt8 × Value))
  | 0, _ => throw .short
  | fuel + 1, depth => do
      let name ← readName
      let value ← readValue fuel depth
      if ← goesOn 125 then return (name, value) :: (← readMembers fuel depth)
      else return [(name, value)]

end

/-- A value and what follows it. -/
def read (text : List UInt8) : Except ReadError (Value × List UInt8) :=
  readValue (2 * text.length + 2) 10000 text

/-! ## Steps -/

section Steps

variable {α β : Type} {m : Reader α} {k : α → Reader β} {a : α} {b close : UInt8}
  {text rest : List UInt8} {fuel depth : Nat}

theorem bind_of_ok (h : m text = .ok (a, rest)) : (m >>= k) text = k a rest := by
  change StateT.bind m k text = _
  rw [StateT.bind, h]
  rfl

theorem skipSpace_cons (h : isSpace b = false) : skipSpace (b :: text) = b :: text := by
  rw [skipSpace, List.dropWhile_cons, h]
  rfl

theorem nextByte_cons (h : isSpace b = false) : nextByte (b :: text) = .ok (b, text) := by
  rw [nextByte, reader, skipSpace_cons h]

theorem expect_cons (h : isSpace b = false) : expect b (b :: text) = .ok ((), text) := by
  rw [expect, bind_of_ok (nextByte_cons h), if_pos rfl]
  rfl

theorem goesOn_comma : goesOn close (44 :: text) = .ok (true, text) := by
  rw [goesOn, bind_of_ok (nextByte_cons rfl), if_pos rfl]
  rfl

theorem goesOn_close (h : isSpace close = false) (hcomma : close ≠ 44) :
    goesOn close (close :: text) = .ok (false, text) := by
  rw [goesOn, bind_of_ok (nextByte_cons h), if_neg hcomma, if_pos rfl]
  rfl

theorem atEnd_close (h : isSpace close = false) :
    atEnd close (close :: text) = .ok (true, text) := by
  rw [atEnd, reader, skipSpace_cons h]
  exact if_pos rfl

theorem atEnd_cons (h : isSpace b = false) (hne : b ≠ close) :
    atEnd close (b :: text) = .ok (false, b :: text) := by
  rw [atEnd, reader, skipSpace_cons h]
  exact if_neg hne

end Steps

/-! ## What is written is read -/

/-- A value ends before one of these. -/
def Ends (rest : List UInt8) : Prop := ∀ b ∈ rest.head?, b = 44 ∨ b = 93 ∨ b = 125

/-- Wherever the text stands it is read as this value. -/
structure Reads (depth : Nat) (text : List UInt8) (value : Value) : Prop where
  head : ∃ b rest, text = b :: rest ∧ isSpace b = false ∧ b ≠ 93
  value : ∀ fuel rest, 2 * text.length + 1 ≤ fuel → Ends rest →
    readValue fuel depth (text ++ rest) = .ok (value, rest)

/-- Bytes that stand for themselves in a string. -/
def Unescaped (text : List UInt8) : Prop := ∀ b ∈ text, 32 ≤ b ∧ b ≠ 34 ∧ b ≠ 92

theorem scanString_unescaped : ∀ {text : List UInt8}, Unescaped text → ∀ rest,
    scanString .plain (text ++ 34 :: rest) = .ok (text, rest)
  | [], _, rest => by
      rw [List.nil_append, scanString, if_pos rfl]
  | b :: text, h, rest => by
      obtain ⟨hcontrol, hquote, hescape⟩ := h b (List.mem_cons_self ..)
      rw [List.cons_append, scanString, if_neg hquote, if_neg hescape,
        if_neg (UInt8.not_lt.mpr hcontrol),
        scanString_unescaped fun c hc => h c (List.mem_cons_of_mem _ hc)]
      rfl

theorem reads_string {depth : Nat} {text : List UInt8} (h : Unescaped text) :
    Reads depth (34 :: text ++ [34]) (.string text) where
  head := ⟨34, text ++ [34], rfl, by decide, by decide⟩
  value := by
    rintro (_ | fuel) rest hfuel -
    · omega
    · rw [readValue, List.cons_append, List.cons_append, List.append_assoc,
        bind_of_ok (nextByte_cons (by decide)), if_pos rfl]
      exact bind_of_ok (scanString_unescaped h rest)

theorem reads_null (depth : Nat) : Reads depth null .null where
  head := ⟨110, bytes "ull", by decide, by decide, by decide⟩
  value := by
    rintro (_ | fuel) rest hfuel -
    · omega
    · have hnull : null = 110 :: bytes "ull" := by decide
      rw [readValue, hnull, List.cons_append, bind_of_ok (nextByte_cons (by decide)),
        if_neg (by decide), if_neg (by decide), if_neg (by decide), if_neg (by decide),
        if_neg (by decide), if_pos rfl]
      rfl

/-! ### Numbers -/

theorem next_integer {b : UInt8} (h : 48 ≤ b.toNat ∧ b.toNat < 58) :
    NumberState.integer.next b = some .integer := by
  simp only [NumberState.next, digit_le h, if_true]

theorem next_of_ends {state : NumberState} {b : UInt8} (h : b = 44 ∨ b = 93 ∨ b = 125) :
    state.next b = none := by
  rcases h with rfl | rfl | rfl <;> cases state <;> decide

theorem scanNumber_ends {state : NumberState} (hstate : state.ends = true) {rest : List UInt8}
    (h : Ends rest) : scanNumber state rest = .ok ([], rest) := by
  cases rest with
  | nil => rw [scanNumber, if_pos hstate]
  | cons b rest => rw [scanNumber, next_of_ends (h b rfl), if_pos hstate]

theorem scanNumber_digits : ∀ {digits : List UInt8},
    (∀ b ∈ digits, 48 ≤ b.toNat ∧ b.toNat < 58) → ∀ {rest}, Ends rest →
      scanNumber .integer (digits ++ rest) = .ok (digits, rest)
  | [], _, rest, hrest => scanNumber_ends rfl hrest
  | b :: digits, h, rest, hrest => by
      rw [List.cons_append, scanNumber, next_integer (h b (List.mem_cons_self ..))]
      change keep b (scanNumber .integer (digits ++ rest)) = _
      rw [scanNumber_digits (fun c hc => h c (List.mem_cons_of_mem _ hc)) hrest]
      rfl

/-- A numeral is a zero, or begins with another digit. -/
theorem decimal_cases (n : Nat) : decimal n = [48] ∨
    ∃ b digits, decimal n = b :: digits ∧ 49 ≤ b.toNat ∧ b.toNat < 58 := by
  rw [decimal]
  split
  · exact .inl rfl
  next hn =>
  have hne := Nat.digits_ne_nil_iff_ne_zero (b := 10).mpr hn
  have hlast := Nat.getLast_digit_ne_zero 10 hn
  have hlt := Nat.digits_lt_base (b := 10) (by decide) (List.getLast_mem hne)
  have hreverse : ((Nat.digits 10 n).map fun d => UInt8.ofNat (d + 48)).reverse =
      UInt8.ofNat ((Nat.digits 10 n).getLast hne + 48) ::
        ((Nat.digits 10 n).dropLast.map fun d => UInt8.ofNat (d + 48)).reverse := by
    conv_lhs => rw [← List.dropLast_append_getLast hne, List.map_append, List.reverse_append]
    rfl
  refine .inr ⟨_, _, hreverse, ?_⟩
  rw [toNat_digit hlt]
  omega

theorem beginNumber_digit {b : UInt8} (h : 49 ≤ b.toNat ∧ b.toNat < 58) :
    beginNumber b = some .integer := by
  have hzero : b ≠ 48 := fun hb => by rw [hb] at h; exact absurd h.1 (by decide)
  have hminus : b ≠ 45 := fun hb => by rw [hb] at h; exact absurd h.1 (by decide)
  rw [beginNumber, if_neg hminus, if_neg hzero, if_pos]
  rw [Bool.and_eq_true, decide_eq_true_eq, decide_eq_true_eq, UInt8.le_iff_toNat_le,
    UInt8.le_iff_toNat_le]
  exact ⟨h.1, Nat.le_of_lt_succ h.2⟩

/-- The reader of values comes to the reader of numbers. -/
theorem readValue_number {fuel depth : Nat} {b : UInt8} {digits rest : List UInt8}
    {state : NumberState} (hspace : isSpace b = false)
    (hb : b ≠ 34 ∧ b ≠ 123 ∧ b ≠ 91 ∧ b ≠ 116 ∧ b ≠ 102 ∧ b ≠ 110)
    (hstate : beginNumber b = some state)
    (hscan : scanNumber state (digits ++ rest) = .ok (digits, rest)) :
    readValue (fuel + 1) depth (b :: (digits ++ rest)) = .ok (.number (b :: digits), rest) := by
  obtain ⟨hquote, hobject, harray, htrue, hfalse, hnull⟩ := hb
  rw [readValue, bind_of_ok (nextByte_cons hspace), if_neg hquote, if_neg hobject, if_neg harray,
    if_neg htrue, if_neg hfalse, if_neg hnull, hstate]
  exact bind_of_ok hscan

theorem digit_head {b : UInt8} (h : 48 ≤ b.toNat ∧ b.toNat < 58) : isSpace b = false ∧ b ≠ 93 ∧
    b ≠ 34 ∧ b ≠ 123 ∧ b ≠ 91 ∧ b ≠ 116 ∧ b ≠ 102 ∧ b ≠ 110 := by
  have hall : ∀ n, 48 ≤ n → n < 58 → isSpace (UInt8.ofNat n) = false ∧ UInt8.ofNat n ≠ 93 ∧
      UInt8.ofNat n ≠ 34 ∧ UInt8.ofNat n ≠ 123 ∧ UInt8.ofNat n ≠ 91 ∧ UInt8.ofNat n ≠ 116 ∧
      UInt8.ofNat n ≠ 102 ∧ UInt8.ofNat n ≠ 110 := by
    intro n hle hlt
    interval_cases n <;> decide
  have hb := hall b.toNat h.1 h.2
  rwa [UInt8.ofNat_toNat] at hb

theorem reads_decimal (depth n : Nat) : Reads depth (decimal n) (.number (decimal n)) := by
  rcases decimal_cases n with hzero | ⟨b, digits, hn, hb⟩
  · rw [hzero]
    refine ⟨⟨48, [], rfl, by decide, by decide⟩, ?_⟩
    rintro (_ | fuel) rest hfuel hrest
    · omega
    · exact @readValue_number fuel depth 48 [] rest _ (by decide) (by decide) rfl
        (scanNumber_ends rfl hrest)
  · have hdigits : ∀ c ∈ b :: digits, 48 ≤ c.toNat ∧ c.toNat < 58 := fun c hc =>
      decimal_digit (n := n) (hn ▸ hc)
    obtain ⟨hspace, hclose, hothers⟩ := digit_head (hdigits b (List.mem_cons_self ..))
    rw [hn]
    refine ⟨⟨b, digits, rfl, hspace, hclose⟩, ?_⟩
    rintro (_ | fuel) rest hfuel hrest
    · omega
    · exact readValue_number hspace hothers (beginNumber_digit hb)
        (scanNumber_digits (fun c hc => hdigits c (List.mem_cons_of_mem _ hc)) hrest)

theorem reads_number (depth : Nat) (n : Int) : Reads depth (number n) (.number (number n)) := by
  rw [number]
  split
  swap
  · exact reads_decimal depth n.natAbs
  refine ⟨⟨45, decimal n.natAbs, rfl, by decide, by decide⟩, ?_⟩
  rintro (_ | fuel) rest hfuel hrest
  · omega
  refine readValue_number (by decide) (by decide) rfl ?_
  rcases decimal_cases n.natAbs with hzero | ⟨b, digits, hn, hb⟩
  · rw [hzero, List.singleton_append, scanNumber]
    change keep 48 (scanNumber .zero rest) = _
    rw [scanNumber_ends rfl hrest]
    rfl
  · have hdigits : ∀ c ∈ digits, 48 ≤ c.toNat ∧ c.toNat < 58 := fun c hc =>
      decimal_digit (n := n.natAbs) (hn ▸ List.mem_cons_of_mem _ hc)
    have hnext : NumberState.minus.next b = some .integer := by
      have hzero : b ≠ 48 := fun hb' => by rw [hb'] at hb; exact absurd hb.1 (by decide)
      rw [NumberState.next, if_neg hzero, if_pos (digit_le ⟨by omega, hb.2⟩)]
    rw [hn, List.cons_append, scanNumber, hnext]
    change keep b (scanNumber .integer (digits ++ rest)) = _
    rw [scanNumber_digits hdigits hrest]
    rfl

/-! ### Arrays and objects -/

theorem ends_comma (rest : List UInt8) : Ends (44 :: rest) := fun _ hb =>
  .inl (Option.mem_some.mp hb).symm

theorem ends_items (rest : List UInt8) : Ends (93 :: rest) := fun _ hb =>
  .inr (.inl (Option.mem_some.mp hb).symm)

theorem ends_members (rest : List UInt8) : Ends (125 :: rest) := fun _ hb =>
  .inr (.inr (Option.mem_some.mp hb).symm)

theorem commas_cons (item next : List UInt8) (items : List (List UInt8)) :
    commas (item :: next :: items) = item ++ 44 :: commas (next :: items) := rfl

theorem readItems_commas {depth : Nat} {text : List UInt8} {value : Value}
    {texts : List (List UInt8)} {values : List Value} (hfirst : Reads depth text value)
    (h : List.Forall₂ (Reads depth) texts values) : ∀ fuel rest,
      2 * (commas (text :: texts)).length + 2 ≤ fuel →
        readItems fuel depth (commas (text :: texts) ++ 93 :: rest) =
          .ok (value :: values, rest) := by
  induction h generalizing text value with
  | nil =>
      rintro (_ | fuel) rest hfuel
      · omega
      rw [commas] at hfuel ⊢
      rw [readItems, bind_of_ok (hfirst.value fuel _ (by omega) (ends_items rest)),
        bind_of_ok (goesOn_close (by decide) (by decide))]
      rfl
  | @cons next nextValue texts values hnext _ ih =>
      rintro (_ | fuel) rest hfuel
      · omega
      rw [commas_cons] at hfuel ⊢
      rw [List.length_append, List.length_cons] at hfuel
      rw [readItems, List.append_assoc, List.cons_append,
        bind_of_ok (hfirst.value fuel _ (by omega) (ends_comma _)), bind_of_ok goesOn_comma,
        if_pos rfl]
      exact bind_of_ok (ih hnext fuel rest (by omega))

theorem commas_head {depth : Nat} {text : List UInt8} {value : Value} (h : Reads depth text value)
    (texts : List (List UInt8)) : ∃ b rest, commas (text :: texts) = b :: rest ∧
      isSpace b = false ∧ b ≠ 93 := by
  obtain ⟨b, rest, rfl, hspace, hclose⟩ := h.head
  cases texts with
  | nil => exact ⟨b, rest, rfl, hspace, hclose⟩
  | cons next texts => exact ⟨b, _, rfl, hspace, hclose⟩

theorem reads_array {depth : Nat} {texts : List (List UInt8)} {values : List Value}
    (h : List.Forall₂ (Reads depth) texts values) :
    Reads (depth + 1) (array texts) (.array values) where
  head := ⟨91, commas texts ++ [93], rfl, by decide, by decide⟩
  value := by
    rintro (_ | fuel) rest hfuel -
    · omega
    rw [readValue, array, List.cons_append, List.cons_append, List.append_assoc,
      bind_of_ok (nextByte_cons (by decide)), if_neg (by decide), if_neg (by decide), if_pos rfl,
      nested]
    cases h with
    | nil => exact bind_of_ok (atEnd_close (by decide))
    | @cons text value texts values hfirst hothers =>
        have hitems := readItems_commas hfirst hothers fuel rest (by
          rw [array, List.length_append, List.length_cons] at hfuel
          simp only [List.length_singleton] at hfuel
          omega)
        obtain ⟨b, more, hhead, hspace, hclose⟩ := commas_head hfirst texts
        rw [hhead, List.cons_append] at hitems ⊢
        rw [bind_of_ok (atEnd_cons hspace hclose), if_neg Bool.false_ne_true]
        exact bind_of_ok hitems

/-- The text of a member and what it is read as. -/
structure ReadsMember (depth : Nat) (written : String × List UInt8)
    (member : List UInt8 × Value) : Prop where
  name : bytes written.1 = member.1
  unescaped : Unescaped member.1
  value : Reads depth written.2 member.2

theorem readsMember {depth : Nat} {name : String} {text : List UInt8} {value : Value}
    (hname : (bytes name).all (fun b => 32 ≤ b && b ≠ 34 && b ≠ 92) = true)
    (hvalue : Reads depth text value) : ReadsMember depth (name, text) (bytes name, value) := by
  refine ⟨rfl, fun b hb => ?_, hvalue⟩
  simpa [and_assoc] using List.all_eq_true.mp hname b hb

theorem readName_quoted {name rest : List UInt8} (h : Unescaped name) :
    readName (34 :: (name ++ 34 :: 58 :: rest)) = .ok (name, rest) := by
  have hscan : reader (scanString .plain) (name ++ 34 :: 58 :: rest) = .ok (name, 58 :: rest) :=
    scanString_unescaped h (58 :: rest)
  rw [readName, bind_of_ok (expect_cons (by decide)), bind_of_ok hscan,
    bind_of_ok (expect_cons (by decide))]
  rfl

/-- A member as `object` writes it. -/
def member (written : String × List UInt8) : List UInt8 :=
  34 :: (bytes written.1 ++ 34 :: 58 :: written.2)

theorem length_member (written : String × List UInt8) :
    (member written).length = (bytes written.1).length + written.2.length + 3 := by
  simp only [member, List.length_cons, List.length_append]
  omega

theorem member_append (written : String × List UInt8) (rest : List UInt8) :
    member written ++ rest = 34 :: (bytes written.1 ++ 34 :: 58 :: (written.2 ++ rest)) := by
  simp only [member, List.cons_append, List.append_assoc]

theorem object_eq (members : List (String × List UInt8)) :
    object members = 123 :: (commas (members.map member) ++ [125]) := rfl

theorem readMembers_commas {depth : Nat} {first : String × List UInt8}
    {firstMember : List UInt8 × Value} {written : List (String × List UInt8)}
    {members : List (List UInt8 × Value)} (hfirst : ReadsMember depth first firstMember)
    (h : List.Forall₂ (ReadsMember depth) written members) : ∀ fuel rest,
      2 * (commas ((first :: written).map member)).length + 2 ≤ fuel →
        readMembers fuel depth (commas ((first :: written).map member) ++ 125 :: rest) =
          .ok (firstMember :: members, rest) := by
  induction h generalizing first firstMember with
  | nil =>
      rintro (_ | fuel) rest hfuel
      · omega
      obtain ⟨name, value⟩ := firstMember
      obtain ⟨rfl, hunescaped, hvalue⟩ := hfirst
      simp only [List.map_cons, List.map_nil, commas, length_member] at hfuel ⊢
      rw [member_append, readMembers, bind_of_ok (readName_quoted hunescaped),
        bind_of_ok (hvalue.value fuel _ (by omega) (ends_members rest)),
        bind_of_ok (goesOn_close (by decide) (by decide))]
      rfl
  | @cons next nextMember written members hnext _ ih =>
      rintro (_ | fuel) rest hfuel
      · omega
      obtain ⟨name, value⟩ := firstMember
      obtain ⟨rfl, hunescaped, hvalue⟩ := hfirst
      have hothers := ih hnext fuel rest
      simp only [List.map_cons, commas_cons, List.length_append, List.length_cons] at hfuel hothers ⊢
      rw [length_member] at hfuel
      rw [List.append_assoc, member_append, List.cons_append]
      rw [readMembers, bind_of_ok (readName_quoted hunescaped),
        bind_of_ok (hvalue.value fuel _ (by omega) (ends_comma _)), bind_of_ok goesOn_comma,
        if_pos rfl]
      exact bind_of_ok (hothers (by omega))

theorem reads_object {depth : Nat} {written : List (String × List UInt8)}
    {members : List (List UInt8 × Value)} (h : List.Forall₂ (ReadsMember depth) written members) :
    Reads (depth + 1) (object written) (.object members) where
  head := ⟨123, _, object_eq written, by decide, by decide⟩
  value := by
    rintro (_ | fuel) rest hfuel -
    · omega
    rw [object_eq] at hfuel ⊢
    rw [readValue, List.cons_append, List.append_assoc, bind_of_ok (nextByte_cons (by decide)),
      if_neg (by decide), if_pos rfl, nested]
    cases h with
    | nil => exact bind_of_ok (atEnd_close (by decide))
    | @cons first firstMember written members hfirst hothers =>
        have hmembers := readMembers_commas hfirst hothers fuel rest (by
          rw [List.length_cons, List.length_append] at hfuel
          simp only [List.length_singleton] at hfuel
          omega)
        obtain ⟨more, hhead⟩ : ∃ more, commas ((first :: written).map member) = 34 :: more := by
          cases written with
          | nil => exact ⟨_, rfl⟩
          | cons next written => exact ⟨_, rfl⟩
        rw [hhead, List.cons_append] at hmembers ⊢
        change (atEnd 125 >>= _) (34 :: (more ++ 125 :: rest)) = _
        rw [bind_of_ok (atEnd_cons (by decide) (by decide)), if_neg Bool.false_ne_true]
        exact bind_of_ok hmembers

theorem read_of_reads {text : List UInt8} {value : Value} (h : Reads 10000 text value) :
    read text = .ok (value, []) := by
  have hvalue := h.value (2 * text.length + 2) [] (by omega) nofun
  rwa [List.append_nil] at hvalue

end CyberiaVpn.Codec.Json
