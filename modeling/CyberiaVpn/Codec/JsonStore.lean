import CyberiaVpn.Codec.JsonReader

/-!
# Storing JSON values

What `Unmarshal` of Go's `encoding/json` does with a value that was read:
it is stored into a variable, over what was there before. `null` leaves
most variables alone; the members of an object are stored one after the
other, so the last one of a name counts; the elements of an array are
stored over those that the slice has, and over those that it had before
it was cut.

A `Target` is a variable with its type. Any error makes the whole of
`Unmarshal` fail, so storing is partial and what it had stored by then is
lost.
-/

namespace CyberiaVpn.Codec.Json

/-! ## Strings -/

/-- U+FFFD. -/
def replacement : List UInt8 := [0xef, 0xbf, 0xbd]

/-- What four digits after `\u` stand for. -/
def hexUnit : List UInt8 → Option Nat
  | 92 :: 117 :: a :: b :: c :: d :: _ => do
      return (((← hexDigit? a) * 16 + (← hexDigit? b)) * 16 + (← hexDigit? c)) * 16 + (← hexDigit? d)
  | _ => none

/-- The character of a surrogate pair. -/
def surrogates (high low : Nat) : Option Nat :=
  if 0xd800 ≤ high ∧ high < 0xdc00 ∧ 0xdc00 ≤ low ∧ low < 0xe000 then
    some ((high - 0xd800) * 1024 + (low - 0xdc00) + 0x10000)
  else none

/-- What the byte after a backslash stands for. -/
def unescape (b : UInt8) : UInt8 :=
  if b = 98 then 8 else if b = 102 then 12 else if b = 110 then 10
  else if b = 114 then 13 else if b = 116 then 9 else b

/-- The text of a string that was read, of whose bytes some are done
already. What is not UTF-8 is replaced, byte by byte, and so is half a
surrogate pair. -/
def unquote : Nat → List UInt8 → List UInt8
  | _, [] => []
  | done + 1, _ :: rest => unquote done rest
  | 0, b :: rest =>
      if b = 92 then
        match hexUnit (b :: rest) with
        | none => unescape (rest.headD 0) :: unquote 1 rest
        | some unit =>
            if 0xd800 ≤ unit ∧ unit < 0xe000 then
              match (hexUnit (rest.drop 5)).bind (surrogates unit) with
              | some c => String.utf8EncodeChar (Char.ofNat c) ++ unquote 11 rest
              | none => replacement ++ unquote 5 rest
            else String.utf8EncodeChar (Char.ofNat unit) ++ unquote 5 rest
      else if b < 128 then b :: unquote 0 rest
      else
        match (ByteArray.mk (b :: rest).toArray).utf8DecodeChar? 0 with
        | none => replacement ++ unquote 0 rest
        | some c => (b :: rest).take c.utf8Size ++ unquote (c.utf8Size - 1) rest

/-! ## Variables -/

structure Target (σ : Type) where
  /-- What the variable holds at first. -/
  zero : σ
  store : Value → σ → Option σ

namespace Target

def text : Target (List UInt8) where
  zero := []
  store
    | .null, old => some old
    | .string inside, _ => some (unquote 0 inside)
    | _, _ => none

def isNumeral (digits : List UInt8) : Bool := digits.all fun b => 48 ≤ b && b ≤ 57

/-- `strconv.ParseInt`, of a JSON number. -/
def parseInt : List UInt8 → Option Int
  | 45 :: digits => if isNumeral digits then some (-(parseDecimal digits : Int)) else none
  | digits => if isNumeral digits then some (parseDecimal digits) else none

def integer (bits : Nat) : Target Int where
  zero := 0
  store
    | .null, old => some old
    | .number digits, _ =>
        (parseInt digits).filter fun n => -(2 ^ (bits - 1)) ≤ n ∧ n < 2 ^ (bits - 1)
    | _, _ => none

/-- `strconv.ParseUint` has no sign at all. -/
def natural (bits : Nat) : Target Nat where
  zero := 0
  store
    | .null, old => some old
    | .number digits, _ =>
        if isNumeral digits then (some (parseDecimal digits)).filter (· < 2 ^ bits) else none
    | _, _ => none

end Target

/-- A slice, with the elements behind its end that it once had. -/
structure Slice (σ : Type) where
  items : List σ
  spare : List σ

namespace Target

section

variable {σ τ : Type}

/-- The elements of an array over what was there before. -/
def storeItems (T : Target σ) : List Value → List σ → Option (Slice σ)
  | [], before => some ⟨[], before⟩
  | item :: items, before => do
      let first ← T.store item (before.headD T.zero)
      let ⟨rest, spare⟩ ← T.storeItems items before.tail
      return ⟨first :: rest, spare⟩

/-- A nil slice is `none`. -/
def slice (T : Target σ) : Target (Option (Slice σ)) where
  zero := none
  store
    | .null, _ => some none
    | .array [], _ => some (some ⟨[], []⟩)
    | .array items, old =>
        (T.storeItems items ((old.map fun s => s.items ++ s.spare).getD [])).map some
    | _, _ => none

/-- Another view of the same variable. -/
def view (get : σ → τ) (put : τ → σ) (T : Target τ) : Target σ where
  zero := put T.zero
  store value old := (T.store value (get old)).map put

def byte : Target UInt8 := (natural 8).view UInt8.toNat UInt8.ofNat

/-- A byte slice is also stored from a string, in base64 and with line
breaks anywhere. -/
def bytes : Target (Option (Slice UInt8)) where
  zero := none
  store
    | .string inside, _ => do
        let symbols := (unquote 0 inside).filter fun b => b ≠ 10 && b ≠ 13
        let data ← Base64.decode (symbols.map fun b => Char.ofNat b.toNat)
        return some ⟨data, []⟩
    | value, old => byte.slice.store value old

/-! ### Structs -/

structure Field (σ : Type) where
  name : String
  store : Value → σ → Option σ

def Field.of (name : String) (get : σ → τ) (set : τ → σ → σ) (T : Target τ) : Field σ where
  name := name
  store value s := (T.store value (get s)).map (set · s)

end

/-- Letters of either case, and the two characters beyond ASCII that fold
to a letter, as far as an ASCII name can tell. -/
def foldName : Nat → List UInt8 → List UInt8
  | _, [] => []
  | done + 1, _ :: rest => foldName done rest
  | 0, b :: rest =>
      if b = 0xc5 ∧ rest.take 1 = [0xbf] then 83 :: foldName 1 rest
      else if b = 0xe2 ∧ rest.take 2 = [0x84, 0xaa] then 75 :: foldName 2 rest
      else (if 97 ≤ b ∧ b ≤ 122 then b - 32 else b) :: foldName 0 rest

section

variable {σ : Type}

/-- The field of that very name, or else the first one of a name that
folds to the same. -/
def findField (fields : List (Field σ)) (name : List UInt8) : Option (Field σ) :=
  (fields.find? fun f => Json.bytes f.name = name).or
    (fields.find? fun f => foldName 0 (Json.bytes f.name) = foldName 0 name)

/-- The members one after the other, with unknown fields disallowed. -/
def storeMembers (fields : List (Field σ)) : List (List UInt8 × Value) → σ → Option σ
  | [], s => some s
  | (name, value) :: members, s => do
      let field ← findField fields (unquote 0 name)
      storeMembers fields members (← field.store value s)

def struct (zero : σ) (fields : List (Field σ)) : Target σ where
  zero := zero
  store
    | .null, old => some old
    | .object members, old => storeMembers fields members old
    | _, _ => none

end

end Target

inductive DecodeError where
  | read (error : ReadError)
  | unmarshal
  deriving DecidableEq

/-- `Decoder.Decode` into a new variable, and what it leaves of the text. -/
def decode {σ : Type} (T : Target σ) (text : List UInt8) : Except DecodeError (σ × List UInt8) :=
  match read text with
  | .error e => .error (.read e)
  | .ok (value, rest) =>
      match T.store value T.zero with
      | none => .error .unmarshal
      | some s => .ok (s, rest)

/-! ## What is written is stored -/

theorem unquote_ascii : ∀ {text : List UInt8}, (∀ b ∈ text, b < 128 ∧ b ≠ 92) →
    unquote 0 text = text
  | [], _ => rfl
  | b :: rest, h => by
      obtain ⟨hascii, hescape⟩ := h b (List.mem_cons_self ..)
      rw [unquote, if_neg hescape, if_pos hascii,
        unquote_ascii fun c hc => h c (List.mem_cons_of_mem _ hc)]

/-! ### Numbers -/

theorem isNumeral_decimal (n : Nat) : Target.isNumeral (decimal n) = true :=
  List.all_eq_true.mpr fun _ hb => digit_le (decimal_digit hb)

theorem parseInt_number (n : Int) : Target.parseInt (number n) = some n := by
  rw [number]
  split
  · rw [Target.parseInt, if_pos (isNumeral_decimal _), parseDecimal_decimal]
    exact congrArg some (by omega)
  · have hminus : ∀ digits, decimal n.natAbs ≠ 45 :: digits := fun digits hn => by
      have hdigit := decimal_digit (n := n.natAbs) (b := 45) (hn ▸ List.mem_cons_self ..)
      exact absurd hdigit.1 (by decide)
    rw [Target.parseInt.eq_2 _ fun digits hn => hminus digits hn, if_pos (isNumeral_decimal _),
      parseDecimal_decimal]
    exact congrArg some (by omega)

theorem integer_store {bits : Nat} {n : Int} (hn : -(2 ^ (bits - 1)) ≤ n ∧ n < 2 ^ (bits - 1))
    (old : Int) : (Target.integer bits).store (.number (number n)) old = some n := by
  simp only [Target.integer, parseInt_number, Option.filter_some, hn, decide_true, and_self,
    if_true]

/-! ### Byte slices -/

def symbols (data : List UInt8) : List UInt8 :=
  (Base64.encode data).map fun c => UInt8.ofNat c.toNat

theorem symbol_plain {c : Char} (h : c ∈ '=' :: Base64.alphabet) :
    c.toNat < 128 ∧ 32 ≤ UInt8.ofNat c.toNat ∧ UInt8.ofNat c.toNat ≠ 34 ∧
      UInt8.ofNat c.toNat ≠ 92 := by
  have hall : ('=' :: Base64.alphabet).all (fun c => c.toNat < 128 && 32 ≤ UInt8.ofNat c.toNat &&
      UInt8.ofNat c.toNat ≠ 34 && UInt8.ofNat c.toNat ≠ 92) = true := by decide +kernel
  simpa [and_assoc] using List.all_eq_true.mp hall c h

theorem mem_encode {data : List UInt8} {c : Char} (h : c ∈ Base64.encode data) :
    c ∈ '=' :: Base64.alphabet := by
  obtain ⟨symbols, hsymbols, heq⟩ := Base64.encode_padding data
  rw [heq] at h
  rcases List.mem_append.mp h with h | h
  · exact List.mem_cons_of_mem _ (hsymbols c h)
  · rw [List.eq_of_mem_replicate h]
    exact List.mem_cons_self ..

theorem unescaped_symbols (data : List UInt8) : Unescaped (symbols data) := by
  intro b hb
  obtain ⟨c, hc, rfl⟩ := List.mem_map.mp hb
  exact (symbol_plain (mem_encode hc)).2

theorem reads_slice (depth : Nat) (data : List UInt8) :
    Reads depth (slice data) (.string (symbols data)) :=
  reads_string (unescaped_symbols data)

theorem bytes_store (data : List UInt8) (old : Option (Slice UInt8)) :
    Target.bytes.store (.string (symbols data)) old = some (some ⟨data, []⟩) := by
  have hascii : ∀ c ∈ Base64.encode data, (UInt8.ofNat c.toNat).toNat = c.toNat := fun c hc => by
    rw [UInt8.toNat_ofNat']
    exact Nat.mod_eq_of_lt (Nat.lt_trans (symbol_plain (mem_encode hc)).1 (by decide))
  have hplain : unquote 0 (symbols data) = symbols data := unquote_ascii fun b hb => by
    obtain ⟨c, hc, rfl⟩ := List.mem_map.mp hb
    obtain ⟨hlt, -, -, hescape⟩ := symbol_plain (mem_encode hc)
    rw [UInt8.lt_iff_toNat_lt, hascii c hc]
    exact ⟨hlt, hescape⟩
  have hkept : (symbols data).filter (fun b => b ≠ 10 && b ≠ 13) = symbols data := by
    refine List.filter_eq_self.mpr fun b hb => ?_
    have hle := (unescaped_symbols data b hb).1
    rw [Bool.and_eq_true, decide_eq_true_eq, decide_eq_true_eq]
    exact ⟨fun h => absurd (h ▸ hle) (by decide), fun h => absurd (h ▸ hle) (by decide)⟩
  have hchars : (symbols data).map (fun b => Char.ofNat b.toNat) = Base64.encode data := by
    rw [symbols, List.map_map]
    refine (List.map_congr_left fun c hc => ?_).trans (List.map_id _)
    rw [Function.comp_apply, hascii c hc, Char.ofNat_toNat]
    rfl
  simp only [Target.bytes, hplain, hkept, hchars, Base64.decode_encode, Option.pure_def,
    Option.bind_eq_bind, Option.bind_some]

/-! ### Slices and structs -/

section

variable {σ : Type}

theorem storeItems_new {T : Target σ} {values : List Value} {items : List σ}
    (h : List.Forall₂ (fun value item => T.store value T.zero = some item) values items) :
    T.storeItems values [] = some ⟨items, []⟩ := by
  induction h with
  | nil => rfl
  | cons hfirst _ ih =>
      rw [Target.storeItems, List.headD_nil, hfirst, List.tail_nil, ih]
      rfl

theorem slice_store_new {T : Target σ} {values : List Value} {items : List σ}
    (h : List.Forall₂ (fun value item => T.store value T.zero = some item) values items) :
    T.slice.store (.array values) none = some (some ⟨items, []⟩) := by
  cases h with
  | nil => rfl
  | cons hfirst hothers =>
      exact congrArg (Option.map some) (storeItems_new (.cons hfirst hothers))

/-- A text that is read as a value and stored as `x` into a new
variable. -/
def Restores (T : Target σ) (depth : Nat) (text : List UInt8) (x : σ) : Prop :=
  ∃ value, Reads depth text value ∧ T.store value T.zero = some x

theorem restores_array {T : Target σ} {depth : Nat} {texts : List (List UInt8)} {items : List σ}
    (h : List.Forall₂ (Restores T depth) texts items) :
    Restores T.slice (depth + 1) (array texts) (some ⟨items, []⟩) := by
  have hvalues : ∃ values, List.Forall₂ (Reads depth) texts values ∧
      List.Forall₂ (fun value item => T.store value T.zero = some item) values items := by
    induction h with
    | nil => exact ⟨[], .nil, .nil⟩
    | cons hfirst _ ih =>
        obtain ⟨value, hreads, hstore⟩ := hfirst
        obtain ⟨values, hothers, hstored⟩ := ih
        exact ⟨value :: values, .cons hreads hothers, .cons hstore hstored⟩
  obtain ⟨values, hreads, hstored⟩ := hvalues
  exact ⟨.array values, reads_array hreads, slice_store_new hstored⟩

theorem field_store {τ : Type} {name : String} {get : σ → τ} {set : τ → σ → σ} {T : Target τ}
    {value : Value} {s : σ} {x : τ} (h : T.store value (get s) = some x) :
    (Target.Field.of name get set T).store value s = some (set x s) :=
  congrArg (Option.map _) h

/-- Fields of these names, no two of them alike. -/
structure Named (fields : List (Target.Field σ)) (names : List String) : Prop where
  fields : fields.map Target.Field.name = names
  distinct : (names.map bytes).Nodup
  plain : names.all (fun name => unquote 0 (bytes name) = bytes name) = true

/-- A member whose name is that of a field. -/
theorem Named.storeMembers {fields : List (Target.Field σ)} {names : List String}
    (h : Named fields names) {i : Nat} {name : String} {field : Target.Field σ} {value : Value}
    {members : List (List UInt8 × Value)} {s s' : σ} (hname : names[i]? = some name)
    (hfield : fields[i]? = some field) (hstore : field.store value s = some s') :
    Target.storeMembers fields ((bytes name, value) :: members) s =
      Target.storeMembers fields members s' := by
  have hplain := of_decide_eq_true (List.all_eq_true.mp h.plain name (List.mem_of_getElem? hname))
  have hget : ∀ {j : Nat} {f : Target.Field σ}, fields[j]? = some f →
      (names.map bytes)[j]? = some (bytes f.name) := fun hf => by
    rw [← h.fields, List.getElem?_map, List.getElem?_map, hf]
    rfl
  have hsame : bytes field.name = bytes name := by
    have heq := hget hfield
    rw [List.getElem?_map, hname] at heq
    exact (Option.some.inj heq).symm
  have hfind : fields.find? (fun f => bytes f.name = bytes name) = some field := by
    obtain ⟨hi, hget_i⟩ := List.getElem?_eq_some_iff.mp hfield
    refine List.find?_eq_some_iff_getElem.mpr ⟨decide_eq_true hsame, i, hi, hget_i, fun j hj => ?_⟩
    rw [Bool.not_eq_true', decide_eq_false_iff_not]
    intro hother
    have hj' : j < fields.length := Nat.lt_trans hj hi
    have htwice := List.getElem?_inj (i := j) (j := i) (by simpa [← h.fields] using hj') h.distinct
    refine absurd (htwice.mp ?_) (Nat.ne_of_lt hj)
    rw [hget (List.getElem?_eq_getElem hj'), hget hfield, hother, hsame]
  rw [Target.storeMembers, hplain, Target.findField, hfind, Option.some_or, Option.bind_eq_bind,
    Option.bind_some, hstore]
  rfl

end

end CyberiaVpn.Codec.Json
