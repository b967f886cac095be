import Mathlib.Logic.Function.Basic
import CyberiaVpn.Nft.Syntax

/-!
# Rulesets and what they do to packets

A ruleset maps table names to tables and a table maps chain names to base
chains. A command works on the one table it names, so a list of commands
on one table leaves every other table alone (`run_eq`), and what it does
can be computed on that table.

A chain decides a packet by its first rule whose conditions all hold, else
by its policy. A chain that does not exist, or that hangs at another hook,
lets every packet pass.

Which addresses a prefix contains is a parameter.
-/

namespace CyberiaVpn.Nft

/-! ## Packets -/

/-- A packet at a hook; `udpDport` is there for UDP packets only. -/
structure Packet (α : Type) where
  iifname : String
  oifname : String
  source : α
  destination : α
  udpDport : Option UInt16
  ctState : CtState
  deriving DecidableEq

/-- A trailing asterisk stands for any rest of the name. -/
def nameMatches (pattern name : String) : Bool :=
  if pattern.toList.getLast? = some '*' then pattern.toList.dropLast.isPrefixOf name.toList
  else pattern = name

theorem nameMatches_iff {pattern name : String} (h : '*' ∉ pattern.toList) :
    nameMatches pattern name = true ↔ name = pattern := by
  rw [nameMatches, if_neg fun hlast => h (List.mem_of_getLast? hlast), decide_eq_true_iff, eq_comm]

/-! ## Rulesets -/

structure Chain (ν : Type) where
  base : Base
  policy : Policy
  rules : List (Rule ν)

abbrev Table (ν : Type) := String → Option (Chain ν)

abbrev Ruleset (ν : Type) := String → Option (Table ν)

section Evaluation

variable {ν α : Type} (contains : ν → α → Bool)

def Condition.holds (p : Packet α) : Condition ν → Bool
  | iifname name => nameMatches name p.iifname
  | oifname name => nameMatches name p.oifname
  | saddr network => contains network p.source
  | daddr network => contains network p.destination
  | udpDport port => p.udpDport = some port
  | ctState states => p.ctState ∈ states

def Rule.applies (p : Packet α) (rule : Rule ν) : Bool :=
  rule.conditions.all fun condition => condition.holds contains p

/-- The verdict of the first rule that applies. -/
def Chain.verdict (p : Packet α) (chain : Chain ν) : Option Verdict :=
  (chain.rules.find? fun rule => rule.applies contains p).map (·.verdict)

def Chain.accepts (p : Packet α) (chain : Chain ν) : Bool :=
  match chain.verdict contains p with
  | some verdict => verdict ≠ .drop
  | none => chain.policy = .accept

/-- The packet gets past this chain of this table at this hook. -/
def Ruleset.passes (r : Ruleset ν) (table chain : String) (hook : Hook) (p : Packet α) : Bool :=
  match (r table).bind fun t => t chain with
  | none => true
  | some c => c.base.hook ≠ hook || c.accepts contains p

/-- This chain of this table rewrites the source of the packet. -/
def Ruleset.masquerades (r : Ruleset ν) (table chain : String) (p : Packet α) : Bool :=
  match (r table).bind fun t => t chain with
  | none => false
  | some c => c.base.type = .nat && c.base.hook = .postrouting &&
      c.verdict contains p = some .masquerade

variable {contains} {p : Packet α}

/-- A chain without drop rules accepts what one of its rules accepts and
what its policy accepts. -/
theorem Chain.accepts_iff {chain : Chain ν} (h : ∀ rule ∈ chain.rules, rule.verdict ≠ .drop) :
    chain.accepts contains p = true ↔
      (∃ rule ∈ chain.rules, rule.applies contains p = true) ∨ chain.policy = .accept := by
  rw [Chain.accepts, Chain.verdict]
  cases hfind : chain.rules.find? fun rule => rule.applies contains p with
  | none =>
      have hnone : ¬∃ rule ∈ chain.rules, rule.applies contains p = true := by
        rintro ⟨rule, hmem, happlies⟩
        exact List.find?_eq_none.mp hfind rule hmem happlies
      simp [hnone]
  | some rule =>
      have hmem := List.mem_of_find?_eq_some hfind
      have happlies := List.find?_some hfind
      simp only [Option.map_some, decide_eq_true_iff]
      exact ⟨fun _ => Or.inl ⟨rule, hmem, happlies⟩, fun _ => h rule hmem⟩

/-- Where every rule has the same verdict, that is the verdict on a packet
to which some rule applies. -/
theorem Chain.verdict_eq_some_iff {chain : Chain ν} {v : Verdict}
    (h : ∀ rule ∈ chain.rules, rule.verdict = v) :
    chain.verdict contains p = some v ↔
      ∃ rule ∈ chain.rules, rule.applies contains p = true := by
  rw [Chain.verdict, Option.map_eq_some_iff]
  constructor
  · rintro ⟨rule, hfind, -⟩
    exact ⟨rule, List.mem_of_find?_eq_some hfind, List.find?_some hfind⟩
  · rintro ⟨rule, hmem, happlies⟩
    obtain ⟨first, hfirst⟩ := Option.isSome_iff_exists.mp
      (List.find?_isSome.mpr ⟨rule, hmem, happlies⟩)
    exact ⟨first, hfirst, h first (List.mem_of_find?_eq_some hfirst)⟩

end Evaluation

/-! ## Commands -/

section Commands

variable {ν : Type}

/-- The rules go, the chains stay. -/
def Table.flush (t : Table ν) : Table ν := fun chain => (t chain).map ({ · with rules := [] })

/-- A base chain that exists may be added again if it hangs at the same
place; its rules stay and its policy is the new one. -/
def Table.addChain (t : Table ν) (chain : String) (base : Base) (policy : Policy) :
    Option (Table ν) :=
  match t chain with
  | none => some (Function.update t chain (some ⟨base, policy, []⟩))
  | some c => if c.base = base then some (Function.update t chain (some { c with policy })) else none

def Table.addRule (t : Table ν) (chain : String) (rule : Rule ν) : Option (Table ν) :=
  (t chain).map fun c => Function.update t chain (some { c with rules := c.rules ++ [rule] })

/-- What a command makes of its table. `none` inside stands for a table
that does not exist, outside for a command that is refused. -/
def Command.apply : Command ν → Option (Table ν) → Option (Option (Table ν))
  | addTable _, t => some (some (t.getD fun _ => none))
  | flushTable _, t => t.map fun t => some t.flush
  | deleteTable _, t => t.map fun _ => none
  | addChain _ chain base policy, t => t.bind fun t => (t.addChain chain base policy).map some
  | addRule _ chain rule, t => t.bind fun t => (t.addRule chain rule).map some

def Command.exec (c : Command ν) (r : Ruleset ν) : Option (Ruleset ν) :=
  (c.apply (r c.table)).map fun t => Function.update r c.table t

/-- One transaction: every command is carried out, or none is. -/
def run (cs : List (Command ν)) (r : Ruleset ν) : Option (Ruleset ν) :=
  cs.foldlM (fun r c => c.exec r) r

/-- The commands on one table, on that table. -/
def runTable (cs : List (Command ν)) (t : Option (Table ν)) : Option (Option (Table ν)) :=
  cs.foldlM (fun t c => c.apply t) t

/-- Commands on one table change that table and no other. -/
theorem run_eq {table : String} : ∀ {cs : List (Command ν)} {r : Ruleset ν},
    (∀ c ∈ cs, c.table = table) →
      run cs r = (runTable cs (r table)).map fun t => Function.update r table t
  | [], r, _ => by
      rw [run, runTable, List.foldlM_nil, List.foldlM_nil]
      exact congrArg some (Function.update_eq_self table r).symm
  | c :: cs, r, h => by
      have hc : c.table = table := h c (List.mem_cons_self ..)
      have ih := fun t => run_eq (r := Function.update r table t)
        fun c' hc' => h c' (List.mem_cons_of_mem _ hc')
      rw [run, runTable, List.foldlM_cons, List.foldlM_cons, Command.exec, hc]
      cases c.apply (r table) with
      | none => rfl
      | some t =>
          simp only [Function.update_self, Function.update_idem] at ih
          exact ih t

theorem runTable_cons {c : Command ν} {cs : List (Command ν)} {t t' : Option (Table ν)}
    (h : c.apply t = some t') : runTable (c :: cs) t = runTable cs t' := by
  rw [runTable, List.foldlM_cons, h]
  rfl

theorem Table.addRule_of_eq {t : Table ν} {chain : String} {c : Chain ν} (h : t chain = some c)
    (rule : Rule ν) : t.addRule chain rule =
      some (Function.update t chain (some { c with rules := c.rules ++ [rule] })) := by
  rw [addRule, h, Option.map_some]

end Commands

end CyberiaVpn.Nft
