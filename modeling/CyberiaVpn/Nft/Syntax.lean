import Mathlib.Data.List.Basic

/-!
# nft input, one command per line

A fragment of the language `nft --file -` reads: tables of family `inet`,
base chains, and rules that match interface names, addresses, a UDP port
or a connection state. A text is read line by line, a line is cut into
tokens, and the tokens are parsed. Whatever lies outside the fragment is
refused, so a text that is accepted means what its commands say and
nothing else.

The lexer is a state machine over the characters. `printLine` writes
tokens down again, and `lex_printLine` says that well-formed tokens are
read back as they were: a name between quotes ends at its own quote, a
word at the next blank, and neither a name nor a word can become more than
one token.

How an address or a prefix is written is a parameter.
-/

namespace CyberiaVpn.Nft

/-! ## Tokens -/

inductive Token where
  | word (text : String)
  | quoted (text : String)
  | symbol (c : Char)
  deriving DecidableEq

def isSymbol (c : Char) : Bool := c == '\x7b' || c == '\x7d' || c == ';'

def isWordChar (c : Char) : Bool :=
  c.isAlphanum || c == '_' || c == '-' || c == '.' || c == ':' || c == '/' || c == ','

def isNameChar (c : Char) : Bool := c != '"' && c != '\n'

namespace Token

def print : Token → List Char
  | word text => text.toList
  | quoted text => '"' :: (text.toList ++ ['"'])
  | symbol c => [c]

/-- The tokens a line can consist of. -/
def wellFormed : Token → Bool
  | word text => !text.toList.isEmpty && text.toList.all isWordChar
  | quoted text => text.toList.all isNameChar
  | symbol c => isSymbol c

end Token

/-- Tokens are set apart by one blank, but a semicolon follows directly. -/
def printLine : List Token → List Char
  | [] => []
  | t :: ts => t.print ++ ts.flatMap fun t => (if t = .symbol ';' then [] else [' ']) ++ t.print

/-! ## The lexer -/

/-- What the lexer is in the middle of. The characters are newest first. -/
inductive Mode where
  | blank
  | word (letters : List Char)
  | quoted (letters : List Char)
  deriving DecidableEq

/-- The tokens that are complete, newest first, and the current one. -/
structure Lexer where
  done : List Token
  mode : Mode
  deriving DecidableEq

namespace Lexer

/-- The tokens if the current word ends here. -/
def flush (s : Lexer) : List Token :=
  match s.mode with
  | .word letters => .word (String.ofList letters.reverse) :: s.done
  | _ => s.done

def letters (s : Lexer) : List Char :=
  match s.mode with
  | .word letters => letters
  | _ => []

def step (s : Lexer) (c : Char) : Option Lexer :=
  match s.mode with
  | .quoted letters =>
      if c = '"' then some ⟨.quoted (String.ofList letters.reverse) :: s.done, .blank⟩
      else if isNameChar c then some ⟨s.done, .quoted (c :: letters)⟩
      else none
  | _ =>
      if c = ' ' then some ⟨s.flush, .blank⟩
      else if c = '"' then some ⟨s.flush, .quoted []⟩
      else if isSymbol c then some ⟨.symbol c :: s.flush, .blank⟩
      else if isWordChar c then some ⟨s.done, .word (c :: s.letters)⟩
      else none

/-- Not between two quotes. -/
def Open (s : Lexer) : Prop := ∀ letters, s.mode ≠ .quoted letters

end Lexer

/-- A quote that is not closed on its line is an error. -/
def lex (line : List Char) : Option (List Token) :=
  match line.foldlM Lexer.step ⟨[], .blank⟩ with
  | some ⟨_, .quoted _⟩ => none
  | some s => some s.flush.reverse
  | none => none

namespace Lexer

variable {s : Lexer} {done : List Token}

theorem open_blank : Open ⟨done, .blank⟩ := nofun

theorem open_word {letters : List Char} : Open ⟨done, .word letters⟩ := nofun

theorem step_blank (h : s.Open) : s.step ' ' = some ⟨s.flush, .blank⟩ := by
  obtain ⟨done, mode⟩ := s
  cases mode with
  | quoted letters => exact absurd rfl (h letters)
  | _ => rfl

theorem step_symbol (h : s.Open) {c : Char} (hc : isSymbol c = true) :
    s.step c = some ⟨.symbol c :: s.flush, .blank⟩ := by
  have hblank : c ≠ ' ' := by rintro rfl; cases hc
  have hquote : c ≠ '"' := by rintro rfl; cases hc
  obtain ⟨done, mode⟩ := s
  cases mode with
  | quoted letters => exact absurd rfl (h letters)
  | _ => simp only [step, if_neg hblank, if_neg hquote, if_pos hc]

theorem not_isSymbol {c : Char} (h : isWordChar c = true) :
    c ≠ ' ' ∧ c ≠ '"' ∧ isSymbol c = false := by
  have hne : ∀ d, isWordChar d = false → c ≠ d := by
    rintro d hd rfl
    rw [h] at hd
    cases hd
  have hopening := hne '\x7b' (by decide)
  have hclosing := hne '\x7d' (by decide)
  have hsemicolon := hne ';' (by decide)
  exact ⟨hne ' ' (by decide), hne '"' (by decide), by
    simp [isSymbol, hopening, hclosing, hsemicolon]⟩

theorem step_wordChar (h : s.Open) {c : Char} (hc : isWordChar c = true) :
    s.step c = some ⟨s.done, .word (c :: s.letters)⟩ := by
  obtain ⟨hblank, hquote, hsymbol⟩ := not_isSymbol hc
  obtain ⟨done, mode⟩ := s
  cases mode with
  | quoted letters => exact absurd rfl (h letters)
  | _ =>
      simp only [step, if_neg hblank, if_neg hquote, hsymbol, Bool.false_eq_true, if_false,
        if_pos hc]

/-- Word characters join the current word. -/
theorem foldlM_word : ∀ (w letters : List Char), w.all isWordChar = true →
    w.foldlM step ⟨done, .word letters⟩ = some ⟨done, .word (w.reverse ++ letters)⟩
  | [], _, _ => rfl
  | c :: w, letters, h => by
      obtain ⟨hc, hw⟩ := Bool.and_eq_true_iff.mp h
      rw [List.foldlM_cons, step_wordChar open_word hc, List.reverse_cons,
        List.append_assoc]
      exact foldlM_word w (c :: letters) hw

/-- Between quotes everything but a quote and a line break is part of the
name. -/
theorem foldlM_quoted : ∀ (w letters : List Char), w.all isNameChar = true →
    w.foldlM step ⟨done, .quoted letters⟩ = some ⟨done, .quoted (w.reverse ++ letters)⟩
  | [], _, _ => rfl
  | c :: w, letters, h => by
      obtain ⟨hc, hw⟩ := Bool.and_eq_true_iff.mp h
      have hquote : c ≠ '"' := by rintro rfl; cases hc
      have hstep : step ⟨done, .quoted letters⟩ c = some ⟨done, .quoted (c :: letters)⟩ := by
        simp only [step, if_neg hquote, if_pos hc]
      rw [List.foldlM_cons, hstep, List.reverse_cons, List.append_assoc]
      exact foldlM_quoted w (c :: letters) hw

/-- One token is read where no other one is going on. -/
theorem foldlM_print {t : Token} (h : t.wellFormed = true) :
    ∃ s : Lexer, t.print.foldlM step ⟨done, .blank⟩ = some s ∧ s.Open ∧ s.flush = t :: done := by
  cases t with
  | word text =>
      obtain ⟨hne, hall⟩ := Bool.and_eq_true_iff.mp h
      refine ⟨⟨done, .word text.toList.reverse⟩, ?_, open_word, ?_⟩
      · rw [Token.print]
        cases hw : text.toList with
        | nil => simp [hw] at hne
        | cons c w =>
            -- the first letter opens the word, the others join it
            rw [hw] at hall
            obtain ⟨hc, hrest⟩ := Bool.and_eq_true_iff.mp hall
            rw [List.foldlM_cons, step_wordChar open_blank hc, List.reverse_cons]
            exact foldlM_word w [c] hrest
      · simp only [flush, List.reverse_reverse, String.ofList_toList]
  | quoted text =>
      refine ⟨⟨.quoted text :: done, .blank⟩, ?_, open_blank, rfl⟩
      have hopen : step ⟨done, .blank⟩ '"' = some ⟨done, .quoted []⟩ := rfl
      rw [Token.print, List.foldlM_cons, hopen, Option.bind_eq_bind, Option.bind_some,
        List.foldlM_append, foldlM_quoted _ _ h, List.append_nil]
      simp [step]
  | symbol c =>
      refine ⟨⟨.symbol c :: done, .blank⟩, ?_, open_blank, rfl⟩
      rw [Token.print, List.foldlM_cons, step_symbol open_blank h]
      rfl

/-- The tokens that follow are read one after the other. -/
theorem foldlM_rest : ∀ {ts : List Token} {s : Lexer}, s.Open →
    (∀ t ∈ ts, t.wellFormed = true) →
    ∃ s' : Lexer, (ts.flatMap fun t => (if t = .symbol ';' then [] else [' ']) ++
        t.print).foldlM step s = some s' ∧ s'.Open ∧ s'.flush = ts.reverse ++ s.flush
  | [], s, hopen, _ => ⟨s, rfl, hopen, rfl⟩
  | t :: ts, s, hopen, h => by
      obtain ⟨s₁, hs₁, hopen₁, hflush₁⟩ : ∃ s₁ : Lexer,
          ((if t = .symbol ';' then [] else [' ']) ++ t.print).foldlM step s = some s₁ ∧
            s₁.Open ∧ s₁.flush = t :: s.flush := by
        split
        · next heq =>
          subst heq
          refine ⟨⟨.symbol ';' :: s.flush, .blank⟩, ?_, open_blank, rfl⟩
          rw [List.nil_append, Token.print, List.foldlM_cons, step_symbol hopen rfl]
          rfl
        · rw [List.singleton_append, List.foldlM_cons, step_blank hopen]
          exact foldlM_print (h t (List.mem_cons_self ..))
      obtain ⟨s₂, hs₂, hopen₂, hflush₂⟩ :=
        foldlM_rest hopen₁ fun t' ht' => h t' (List.mem_cons_of_mem _ ht')
      refine ⟨s₂, ?_, hopen₂, ?_⟩
      · rw [List.flatMap_cons, List.foldlM_append, hs₁]
        exact hs₂
      · rw [hflush₂, hflush₁, List.reverse_cons, List.append_assoc]
        rfl

/-- No line break is ever inside a token. -/
theorem step_newline (s : Lexer) : s.step '\n' = none := by
  obtain ⟨done, mode⟩ := s
  cases mode <;> rfl

theorem newline_notMem {line : List Char} {s s' : Lexer} (h : line.foldlM step s = some s') :
    '\n' ∉ line := by
  intro hmem
  obtain ⟨before, after, rfl⟩ := List.append_of_mem hmem
  rw [List.foldlM_append] at h
  obtain ⟨s₁, -, h⟩ := Option.bind_eq_some_iff.mp h
  rw [List.foldlM_cons, step_newline] at h
  cases h

end Lexer

theorem lex_of_foldlM {line : List Char} {s : Lexer}
    (h : line.foldlM Lexer.step ⟨[], .blank⟩ = some s) (hopen : s.Open) :
    lex line = some s.flush.reverse := by
  obtain ⟨done, mode⟩ := s
  cases mode with
  | quoted letters => exact absurd rfl (hopen letters)
  | _ => rw [lex, h]

/-- Well-formed tokens are read back as they were printed. -/
theorem lex_printLine : ∀ {ts : List Token}, (∀ t ∈ ts, t.wellFormed = true) →
    lex (printLine ts) = some ts
  | [], _ => rfl
  | t :: ts, h => by
      obtain ⟨s₁, hs₁, hopen₁, hflush₁⟩ := Lexer.foldlM_print (h t (List.mem_cons_self ..))
      obtain ⟨s₂, hs₂, hopen₂, hflush₂⟩ :=
        Lexer.foldlM_rest hopen₁ fun t' ht' => h t' (List.mem_cons_of_mem _ ht')
      have hall : (printLine (t :: ts)).foldlM Lexer.step ⟨[], .blank⟩ = some s₂ := by
        rw [printLine, List.foldlM_append, hs₁]
        exact hs₂
      rw [lex_of_foldlM hall hopen₂, hflush₂, hflush₁]
      simp

theorem newline_notMem_of_lex {line : List Char} {ts : List Token} (h : lex line = some ts) :
    '\n' ∉ line := by
  unfold lex at h
  cases hs : line.foldlM Lexer.step ⟨[], .blank⟩ with
  | none => rw [hs] at h; cases h
  | some s => exact Lexer.newline_notMem hs

/-! ## Commands -/

inductive Family where
  | ip | ip6
  deriving DecidableEq

inductive ChainType where
  | filter | nat | route
  deriving DecidableEq

inductive Hook where
  | prerouting | input | forward | output | postrouting
  deriving DecidableEq

inductive Policy where
  | accept | drop
  deriving DecidableEq

inductive CtState where
  | new | established | related | invalid | untracked
  deriving DecidableEq

inductive Verdict where
  | accept | drop | masquerade
  deriving DecidableEq

/-- Where a base chain is hooked in. -/
structure Base where
  type : ChainType
  hook : Hook
  priority : Int
  deriving DecidableEq

/-- One condition of a rule; `ν` are the address prefixes. -/
inductive Condition (ν : Type) where
  | iifname (name : String)
  | oifname (name : String)
  | saddr (network : ν)
  | daddr (network : ν)
  | udpDport (port : UInt16)
  | ctState (states : List CtState)
  deriving DecidableEq

structure Rule (ν : Type) where
  conditions : List (Condition ν)
  verdict : Verdict
  deriving DecidableEq

/-- The commands of the fragment, on tables of family `inet`. -/
inductive Command (ν : Type) where
  | addTable (table : String)
  | flushTable (table : String)
  | deleteTable (table : String)
  | addChain (table chain : String) (base : Base) (policy : Policy)
  | addRule (table chain : String) (rule : Rule ν)
  deriving DecidableEq

/-- The table a command is about. -/
def Command.table {ν : Type} : Command ν → String
  | addTable table => table
  | flushTable table => table
  | deleteTable table => table
  | addChain table _ _ _ => table
  | addRule table _ _ => table

/-! ## Numbers and keywords -/

def readNat (digits : List Char) : Option Nat :=
  if !digits.isEmpty && digits.all Char.isDigit then some (Nat.ofDigitChars 10 digits 0) else none

def readInt : List Char → Option Int
  | '-' :: digits => (readNat digits).map fun n => -(n : Int)
  | digits => (readNat digits).map fun n => (n : Int)

def readPort (text : String) : Option UInt16 :=
  (readNat text.toList).bind fun n => if n < 65536 then some (UInt16.ofNat n) else none

theorem readNat_repr (n : Nat) : readNat (toString n).toList = some n := by
  have hdigits : (Nat.toDigits 10 n).all Char.isDigit = true :=
    List.all_eq_true.mpr fun c hc => Nat.isDigit_of_mem_toDigits (by decide) (by decide) hc
  have hne : (Nat.toDigits 10 n).isEmpty = false := by
    simp
  rw [Nat.toString_eq_repr, Nat.toList_repr, readNat, hne, hdigits, Nat.ofDigitChars_ten_toDigits]
  rfl

theorem readPort_toString (port : UInt16) : readPort (toString port) = some port := by
  have htext : toString port = toString port.toNat := rfl
  rw [readPort, htext, readNat_repr, Option.bind_some, if_pos port.toNat_lt, UInt16.ofNat_toNat]

def ChainType.read : String → Option ChainType
  | "filter" => some .filter
  | "nat" => some .nat
  | "route" => some .route
  | _ => none

def Hook.read : String → Option Hook
  | "prerouting" => some .prerouting
  | "input" => some .input
  | "forward" => some .forward
  | "output" => some .output
  | "postrouting" => some .postrouting
  | _ => none

def Policy.read : String → Option Policy
  | "accept" => some .accept
  | "drop" => some .drop
  | _ => none

def CtState.read : String → Option CtState
  | "new" => some .new
  | "established" => some .established
  | "related" => some .related
  | "invalid" => some .invalid
  | "untracked" => some .untracked
  | _ => none

def Verdict.read : String → Option Verdict
  | "accept" => some .accept
  | "drop" => some .drop
  | "masquerade" => some .masquerade
  | _ => none

/-! ## The parser -/

section Parser

variable {ν : Type} (read : Family → String → Option ν)

/-- A condition of the form `key "name"`. -/
def parseName (key name : String) : Option (Condition ν) :=
  match key with
  | "iifname" => some (.iifname name)
  | "oifname" => some (.oifname name)
  | _ => none

/-- A condition of three words. -/
def parseField (key field value : String) : Option (Condition ν) :=
  match key, field with
  | "ip", "saddr" => (read .ip value).map .saddr
  | "ip6", "saddr" => (read .ip6 value).map .saddr
  | "ip", "daddr" => (read .ip value).map .daddr
  | "ip6", "daddr" => (read .ip6 value).map .daddr
  | "udp", "dport" => (readPort value).map .udpDport
  | "ct", "state" =>
      (((value.toList.splitOn ',').map String.ofList).mapM CtState.read).map .ctState
  | _, _ => none

/-- Conditions and, at the end, the verdict. -/
def parseRule : List Token → Option (Rule ν)
  | [.word verdict] => (Verdict.read verdict).map fun verdict => ⟨[], verdict⟩
  | .word key :: .quoted name :: rest => do
      let condition ← parseName key name
      let rule ← parseRule rest
      return { rule with conditions := condition :: rule.conditions }
  | .word key :: .word field :: .word value :: rest => do
      let condition ← parseField read key field value
      let rule ← parseRule rest
      return { rule with conditions := condition :: rule.conditions }
  | _ => none

def parseBase : List Token → Option (Base × Policy)
  | [.symbol '\x7b', .word "type", .word type, .word "hook", .word hook, .word "priority",
      .word priority, .symbol ';', .word "policy", .word policy, .symbol ';', .symbol '\x7d'] => do
      let type ← ChainType.read type
      let hook ← Hook.read hook
      let priority ← readInt priority.toList
      let policy ← Policy.read policy
      return (⟨type, hook, priority⟩, policy)
  | _ => none

def parseCommand : List Token → Option (Command ν)
  | .word verb :: .word object :: .word "inet" :: .word table :: rest =>
      match verb, object, rest with
      | "add", "table", [] => some (.addTable table)
      | "flush", "table", [] => some (.flushTable table)
      | "delete", "table", [] => some (.deleteTable table)
      | "add", "chain", .word chain :: rest =>
          (parseBase rest).map fun (base, policy) => .addChain table chain base policy
      | "add", "rule", .word chain :: rest => (parseRule read rest).map (.addRule table chain)
      | _, _, _ => none
  | _ => none

def parseLine (line : List Char) : Option (Command ν) := (lex line).bind (parseCommand read)

/-- Empty lines are skipped. -/
def parse (text : List Char) : Option (List (Command ν)) :=
  ((text.splitOn '\n').filter fun line => !line.isEmpty).mapM (parseLine read)

variable {read}

theorem newline_notMem_of_parseLine {line : List Char} {c : Command ν}
    (h : parseLine read line = some c) : '\n' ∉ line ∧ line.isEmpty = false := by
  obtain ⟨ts, hts, hc⟩ := Option.bind_eq_some_iff.mp h
  refine ⟨newline_notMem_of_lex hts, ?_⟩
  cases line with
  | cons c line => rfl
  | nil =>
      cases hts
      cases hc

/-- The first line is the first command. -/
theorem parse_cons {line text : List Char} {c : Command ν} {cs : List (Command ν)}
    (hline : parseLine read line = some c) (htext : parse read text = some cs) :
    parse read (line ++ '\n' :: text) = some (c :: cs) := by
  obtain ⟨hnewline, hne⟩ := newline_notMem_of_parseLine hline
  rw [parse] at htext ⊢
  rw [List.splitOn_append_cons_self_of_not_mem hnewline, List.filter_cons, hne]
  simp only [Bool.not_false, if_true, List.mapM_cons, hline, htext, Option.bind_eq_bind,
    Option.bind_some, Option.pure_def]

/-- A line that prints well-formed tokens. -/
theorem parse_printLine (ts : List Token) {text : List Char} {c : Command ν}
    {cs : List (Command ν)} (hts : ts.all Token.wellFormed = true)
    (hc : parseCommand read ts = some c) (htext : parse read text = some cs) :
    parse read (printLine ts ++ '\n' :: text) = some (c :: cs) := by
  refine parse_cons ?_ htext
  rw [parseLine, lex_printLine (List.all_eq_true.mp hts), Option.bind_some, hc]

/-! ## Lines of tokens -/

def tableTokens (verb table : String) : List Token :=
  [.word verb, .word "table", .word "inet", .word table]

def chainTokens (table chain type hook priority policy : String) : List Token :=
  [.word "add", .word "chain", .word "inet", .word table, .word chain, .symbol '\x7b',
    .word "type", .word type, .word "hook", .word hook, .word "priority", .word priority,
    .symbol ';', .word "policy", .word policy, .symbol ';', .symbol '\x7d']

/-- A rule by what follows the name of its chain. -/
def ruleTokens (table chain : String) (ts : List Token) : List Token :=
  .word "add" :: .word "rule" :: .word "inet" :: .word table :: .word chain :: ts

theorem parse_ruleTokens {table chain : String} (ts : List Token) {rule : Rule ν}
    {text : List Char} {cs : List (Command ν)} (htable : (Token.word table).wellFormed = true)
    (hchain : (Token.word chain).wellFormed = true) (hts : ts.all Token.wellFormed = true)
    (hrule : parseRule read ts = some rule) (htext : parse read text = some cs) :
    parse read (printLine (ruleTokens table chain ts) ++ '\n' :: text) =
      some (.addRule table chain rule :: cs) := by
  have hwords : (Token.word "add").wellFormed = true ∧ (Token.word "rule").wellFormed = true ∧
      (Token.word "inet").wellFormed = true := by decide
  refine parse_printLine _ ?_ ?_ htext
  · simp only [ruleTokens, List.all_cons, hwords, htable, hchain, hts, Bool.and_self]
  · exact congrArg (Option.map (Command.addRule table chain)) hrule

end Parser

end CyberiaVpn.Nft
