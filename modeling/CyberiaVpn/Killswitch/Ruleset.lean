import CyberiaVpn.Killswitch.Nftables
import CyberiaVpn.Linux.NftText

/-!
# What a rendered policy does to packets

The text `NftablesConfig::render` hands to `nft` is read back as commands
and carried out on a ruleset. The commands are those of `commands`,
whatever the interface is called: the checks on the name leave no
character over that could end its quotes, its line or stand for more than
one interface.

All commands are on the private table. It does not exist, or it holds the
one output chain earlier texts have put there (`Private`); a text leaves
it in one of these two states again, with the rules of its own policy.
-/

namespace CyberiaVpn.Killswitch

open Effects Transport Linux
open Nft (Token Command Rule)

namespace NftablesConfig

/-! ## The commands of a policy -/

def outputBase : Nft.Base := ⟨.filter, .output, -100⟩

def loopbackRule : Rule AllowedIp := ⟨[.oifname "lo"], .accept⟩

def endpointRule (config : NftablesConfig) : Rule AllowedIp :=
  ⟨[.daddr ⟨config.endpointAddress, UInt8.ofNat config.endpointAddress.width⟩,
    .udpDport config.endpointPort.val], .accept⟩

def tunnelRule (interface : String) : Rule AllowedIp := ⟨[.oifname interface], .accept⟩

/-- The rules of the output chain; the disabled policy has no chain. -/
def rules (config : NftablesConfig) : TrafficPolicy → List (Rule AllowedIp)
  | .disabled => []
  | .blockNonTunnel => [loopbackRule, config.endpointRule]
  | .tunnelOnly interface => [loopbackRule, config.endpointRule, tunnelRule interface]

def commands (config : NftablesConfig) (policy : TrafficPolicy) : List (Command AllowedIp) :=
  .addTable tableName :: .flushTable tableName ::
    if policy = .disabled then [.deleteTable tableName]
    else .addChain tableName "output" outputBase .drop ::
      (config.rules policy).map (.addRule tableName "output")

theorem table_of_mem_commands {config : NftablesConfig} {policy : TrafficPolicy}
    {c : Command AllowedIp} (hc : c ∈ config.commands policy) : c.table = tableName := by
  rw [commands, List.mem_cons, List.mem_cons] at hc
  rcases hc with rfl | rfl | hc
  · rfl
  · rfl
  split at hc
  · rw [List.mem_singleton.mp hc]
    rfl
  · rcases List.mem_cons.mp hc with rfl | hc
    · rfl
    · obtain ⟨rule, -, rfl⟩ := List.mem_map.mp hc
      rfl

/-! ## The text is read back -/

section Text

variable {config : NftablesConfig} {policy : TrafficPolicy} {rest : List Char}
  {cs : List (Command AllowedIp)}

theorem wellFormed_tableName : (Token.word tableName).wellFormed = true := by decide

theorem wellFormed_output : (Token.word "output").wellFormed = true := by decide

theorem wellFormed_accept : (Token.word "accept").wellFormed = true := by decide

theorem parse_reset (hrest : Nft.parse readNetwork rest = some cs) :
    Nft.parse readNetwork ("add table inet ".toList ++ (tableName.toList ++
      ("\nflush table inet ".toList ++ (tableName.toList ++ ("\n".toList ++ rest))))) =
      some (.addTable tableName :: .flushTable tableName :: cs) := by
  have hflush := Nft.parse_printLine (Nft.tableTokens "flush" tableName)
    (c := .flushTable tableName) (by decide) rfl hrest
  have hadd := Nft.parse_printLine (Nft.tableTokens "add" tableName)
    (c := .addTable tableName) (by decide) rfl hflush
  simpa [Nft.tableTokens, Nft.printLine, Token.print] using hadd

theorem parse_delete (hrest : Nft.parse readNetwork rest = some cs) :
    Nft.parse readNetwork ("delete table inet ".toList ++ (tableName.toList ++
      ("\n".toList ++ rest))) = some (.deleteTable tableName :: cs) := by
  have hline := Nft.parse_printLine (Nft.tableTokens "delete" tableName)
    (c := .deleteTable tableName) (by decide) rfl hrest
  simpa [Nft.tableTokens, Nft.printLine, Token.print] using hline

theorem parse_chain (hrest : Nft.parse readNetwork rest = some cs) :
    Nft.parse readNetwork ("add chain inet ".toList ++ (tableName.toList ++
      (" output \x7b type filter hook output priority -100; policy drop; \x7d\n".toList ++ rest))) =
      some (.addChain tableName "output" outputBase .drop :: cs) := by
  have hline := Nft.parse_printLine
    (Nft.chainTokens tableName "output" "filter" "output" "-100" "drop")
    (c := .addChain tableName "output" outputBase .drop) (by decide) rfl hrest
  simpa [Nft.chainTokens, Nft.printLine, Token.print] using hline

theorem parse_loopback (hrest : Nft.parse readNetwork rest = some cs) :
    Nft.parse readNetwork ("add rule inet ".toList ++ (tableName.toList ++
      (" output oifname \"lo\" accept\n".toList ++ rest))) =
      some (.addRule tableName "output" loopbackRule :: cs) := by
  have hline := Nft.parse_ruleTokens [.word "oifname", .quoted "lo", .word "accept"]
    wellFormed_tableName wellFormed_output (by decide) (rfl : _ = some loopbackRule) hrest
  simpa [Nft.ruleTokens, Nft.printLine, Token.print] using hline

def endpointTokens (config : NftablesConfig) : List Token :=
  [.word (familyWord config.endpointAddress), .word "daddr", .word config.endpointAddress.display,
    .word "udp", .word "dport", .word (toString config.endpointPort.val), .word "accept"]

theorem wellFormed_endpointTokens (config : NftablesConfig) :
    config.endpointTokens.all Token.wellFormed = true := by
  have hwords : (Token.word "daddr").wellFormed = true ∧ (Token.word "udp").wellFormed = true ∧
      (Token.word "dport").wellFormed = true := by decide
  simp only [endpointTokens, List.all_cons, List.all_nil, wellFormed_familyWord,
    wellFormed_display, wellFormed_port, wellFormed_accept, hwords, Bool.and_self]

theorem parseRule_endpointTokens (config : NftablesConfig) :
    Nft.parseRule readNetwork config.endpointTokens = some config.endpointRule := by
  have hport : Nft.parseField readNetwork "udp" "dport" (toString config.endpointPort.val) =
      some (.udpDport config.endpointPort.val) :=
    congrArg (Option.map Nft.Condition.udpDport) (Nft.readPort_toString config.endpointPort.val)
  simp only [endpointTokens, Nft.parseRule, parseField_daddr, readNetwork_address, hport]
  rfl

theorem parse_endpoint (config : NftablesConfig) (hrest : Nft.parse readNetwork rest = some cs) :
    Nft.parse readNetwork ("add rule inet ".toList ++ (tableName.toList ++ (" output ".toList ++
      ((familyWord config.endpointAddress).toList ++ (" daddr ".toList ++
        (config.endpointAddress.display.toList ++ (" udp dport ".toList ++
          ((toString config.endpointPort.val).toList ++ (" accept\n".toList ++ rest))))))))) =
      some (.addRule tableName "output" config.endpointRule :: cs) := by
  have hline := Nft.parse_ruleTokens _ wellFormed_tableName wellFormed_output
    (wellFormed_endpointTokens config) (parseRule_endpointTokens config) hrest
  simpa [endpointTokens, Nft.ruleTokens, Nft.printLine, Token.print] using hline

theorem parse_tunnel {i : String} (hi : validInterface i = true)
    (hrest : Nft.parse readNetwork rest = some cs) :
    Nft.parse readNetwork ("add rule inet ".toList ++ (tableName.toList ++
      (" output oifname \"".toList ++ (i.toList ++ ("\" accept\n".toList ++ rest))))) =
      some (.addRule tableName "output" (tunnelRule i) :: cs) := by
  have hname := wellFormed_interface (isInterfaceChar_of_validInterface hi)
  have hwf : [Token.word "oifname", .quoted i, .word "accept"].all Token.wellFormed = true := by
    have hoifname : (Token.word "oifname").wellFormed = true := by decide
    simp only [List.all_cons, List.all_nil, hname, hoifname, wellFormed_accept, Bool.and_self]
  have hline := Nft.parse_ruleTokens _ wellFormed_tableName wellFormed_output hwf
    (rfl : _ = some (tunnelRule i)) hrest
  simpa [Nft.ruleTokens, Nft.printLine, Token.print] using hline

theorem parse_nil : Nft.parse readNetwork [] = some [] := rfl

/-- The text of a policy is the text of its commands. -/
theorem parse_render {text : String} (h : config.render policy = .ok text) :
    Nft.parse readNetwork text.toList = some (config.commands policy) := by
  unfold render at h
  dsimp only at h
  cases policy with
  | disabled =>
      dsimp only at h
      rw [Except.ok.injEq] at h
      subst h
      have hparse := parse_reset (parse_delete parse_nil)
      simp only [List.append_nil] at hparse
      simp only [String.toList_append, List.append_assoc]
      exact hparse
  | blockNonTunnel =>
      dsimp only at h
      rw [Except.ok.injEq] at h
      subst h
      have hparse := parse_reset (parse_chain (parse_loopback
        (parse_endpoint config parse_nil)))
      simp only [List.append_nil] at hparse
      simp only [String.toList_append, List.append_assoc]
      exact hparse
  | tunnelOnly i =>
      dsimp only at h
      split at h
      · next hi =>
        rw [Except.ok.injEq] at h
        subst h
        have hparse := parse_reset (parse_chain (parse_loopback
          (parse_endpoint config (parse_tunnel hi parse_nil))))
        simp only [List.append_nil] at hparse
        simp only [String.toList_append, List.append_assoc]
        exact hparse
      · cases h

end Text

/-! ## The table -/

/-- The table with its one chain. -/
def outputTable (rules : List (Rule AllowedIp)) : Nft.Table AllowedIp :=
  Function.update (fun _ => none) "output" (some ⟨outputBase, .drop, rules⟩)

/-- The table as rendered texts leave it. -/
def Private (t : Option (Nft.Table AllowedIp)) : Prop :=
  t = none ∨ ∃ rules, t = some (outputTable rules)

/-- The table after the text of a policy. -/
def installed (config : NftablesConfig) (policy : TrafficPolicy) : Option (Nft.Table AllowedIp) :=
  if policy = .disabled then none else some (outputTable (config.rules policy))

section Table

variable {config : NftablesConfig} {policy : TrafficPolicy}

theorem private_installed : Private (config.installed policy) := by
  rw [installed]
  split
  · exact Or.inl rfl
  · exact Or.inr ⟨_, rfl⟩

theorem flush_outputTable (rules : List (Rule AllowedIp)) :
    (outputTable rules).flush = outputTable [] := by
  funext chain
  by_cases hchain : chain = "output"
  · subst hchain
    rfl
  · simp only [Nft.Table.flush, outputTable, Function.update_of_ne hchain, Option.map_none]

/-- The chain is there with no rules in it, whether it was there before or
not. -/
theorem addChain_flush {t : Option (Nft.Table AllowedIp)} (h : Private t) :
    (t.getD fun _ => none).flush.addChain "output" outputBase .drop = some (outputTable []) := by
  rcases h with rfl | ⟨rules, rfl⟩
  · rfl
  · have hchain : outputTable [] "output" = some ⟨outputBase, .drop, []⟩ := rfl
    rw [Option.getD_some, flush_outputTable, Nft.Table.addChain, hchain]
    exact congrArg some (Function.update_idem ..)

theorem addRule_outputTable (rules : List (Rule AllowedIp)) (rule : Rule AllowedIp) :
    (outputTable rules).addRule "output" rule = some (outputTable (rules ++ [rule])) := by
  have hchain : outputTable rules "output" = some ⟨outputBase, .drop, rules⟩ := rfl
  rw [Nft.Table.addRule_of_eq hchain]
  exact congrArg some (Function.update_idem ..)

theorem runTable_rules : ∀ new old : List (Rule AllowedIp),
    Nft.runTable (new.map (.addRule tableName "output")) (some (outputTable old)) =
      some (some (outputTable (old ++ new)))
  | [], old => by rw [List.append_nil]; rfl
  | rule :: new, old => by
      have hrule : (Command.addRule tableName "output" rule).apply (some (outputTable old)) =
          some (some (outputTable (old ++ [rule]))) :=
        congrArg (Option.map some) (addRule_outputTable old rule)
      rw [List.map_cons, Nft.runTable_cons hrule, runTable_rules new, List.append_assoc]
      rfl

theorem runTable_commands {t : Option (Nft.Table AllowedIp)} (h : Private t) :
    Nft.runTable (config.commands policy) t = some (config.installed policy) := by
  rw [commands, Nft.runTable_cons rfl, Nft.runTable_cons rfl, installed]
  split
  · rfl
  · have hchain : (Command.addChain tableName "output" outputBase .drop).apply
        (some (t.getD fun _ => none).flush) = some (some (outputTable [])) :=
      congrArg (Option.map some) (addChain_flush h)
    rw [Nft.runTable_cons hchain, runTable_rules, List.nil_append]

/-- On a whole ruleset nothing but the private table changes. -/
theorem run_commands {r : Nft.Ruleset AllowedIp} (h : Private (r tableName)) :
    Nft.run (config.commands policy) r =
      some (Function.update r tableName (config.installed policy)) := by
  rw [Nft.run_eq fun _ => table_of_mem_commands, runTable_commands h, Option.map_some]

end Table

/-! ## The packets -/

section Packets

variable {config : NftablesConfig} {policy : TrafficPolicy} {p : Nft.Packet IpAddr}

/-- What a policy lets out. -/
def Permits (config : NftablesConfig) (p : Nft.Packet IpAddr) : TrafficPolicy → Prop
  | .disabled => True
  | .blockNonTunnel => p.oifname = "lo" ∨
      p.destination = config.endpointAddress ∧ p.udpDport = some config.endpointPort.val
  | .tunnelOnly interface => p.oifname = "lo" ∨
      p.destination = config.endpointAddress ∧ p.udpDport = some config.endpointPort.val ∨
      p.oifname = interface

theorem applies_oifname {i : String} (hi : i.toList.all isInterfaceChar = true) :
    (⟨[.oifname i], .accept⟩ : Rule AllowedIp).applies AllowedIp.contains p = true ↔
      p.oifname = i := by
  rw [Rule.applies, List.all_cons, List.all_nil, Bool.and_true]
  exact nameMatches_interface hi

theorem applies_endpointRule : config.endpointRule.applies AllowedIp.contains p = true ↔
    p.destination = config.endpointAddress ∧ p.udpDport = some config.endpointPort.val := by
  rw [Rule.applies, endpointRule, List.all_cons, List.all_cons, List.all_nil, Bool.and_true,
    Bool.and_eq_true]
  exact and_congr AllowedIp.contains_host decide_eq_true_iff

theorem verdict_of_mem_rules {rule : Rule AllowedIp} (h : rule ∈ config.rules policy) :
    rule.verdict = .accept := by
  cases policy with
  | disabled => cases h
  | blockNonTunnel =>
      rcases List.mem_cons.mp h with rfl | h
      · rfl
      · rw [List.mem_singleton.mp h]
        rfl
  | tunnelOnly i =>
      rcases List.mem_cons.mp h with rfl | h
      · rfl
      rcases List.mem_cons.mp h with rfl | h
      · rfl
      · rw [List.mem_singleton.mp h]
        rfl

/-- The chain accepts what one of the rules of the policy accepts. -/
theorem accepts_rules (hrender : ∀ i, policy = .tunnelOnly i → validInterface i = true)
    (hpolicy : policy ≠ .disabled) :
    (⟨outputBase, .drop, config.rules policy⟩ : Nft.Chain AllowedIp).accepts
      AllowedIp.contains p = true ↔ config.Permits p policy := by
  have hlo : loopbackRule.applies AllowedIp.contains p = true ↔ p.oifname = "lo" :=
    applies_oifname (by decide)
  rw [Nft.Chain.accepts_iff fun rule hrule => by rw [verdict_of_mem_rules hrule]; decide,
    or_iff_left Nft.Policy.noConfusion]
  cases policy with
  | disabled => exact absurd rfl hpolicy
  | blockNonTunnel =>
      simp only [rules, List.mem_cons, List.not_mem_nil, or_false, exists_eq_or_imp,
        exists_eq_left, hlo, applies_endpointRule]
      exact Iff.rfl
  | tunnelOnly i =>
      have hi : (tunnelRule i).applies AllowedIp.contains p = true ↔ p.oifname = i :=
        applies_oifname (isInterfaceChar_of_validInterface (hrender i rfl))
      simp only [rules, List.mem_cons, List.not_mem_nil, or_false, exists_eq_or_imp,
        exists_eq_left, hlo, applies_endpointRule, hi]
      exact Iff.rfl

theorem passes_installed {r : Nft.Ruleset AllowedIp} (hr : r tableName = config.installed policy)
    (hrender : ∀ i, policy = .tunnelOnly i → validInterface i = true) :
    r.passes AllowedIp.contains tableName "output" .output p = true ↔ config.Permits p policy := by
  rw [Nft.Ruleset.passes, hr, installed]
  by_cases hpolicy : policy = .disabled
  · subst hpolicy
    exact iff_of_true rfl trivial
  · rw [if_neg hpolicy]
    exact accepts_rules hrender hpolicy

end Packets

/-! ## Which policies are rendered -/

theorem render_eq_error {config : NftablesConfig} {policy : TrafficPolicy} {e : NftablesError} :
    config.render policy = .error e ↔
      e = .invalidInterface ∧ ∃ i, policy = .tunnelOnly i ∧ validInterface i = false := by
  unfold render
  dsimp only
  cases policy with
  | disabled => exact iff_of_false nofun fun ⟨_, _, h, _⟩ => TrafficPolicy.noConfusion h
  | blockNonTunnel => exact iff_of_false nofun fun ⟨_, _, h, _⟩ => TrafficPolicy.noConfusion h
  | tunnelOnly i =>
      by_cases hi : validInterface i = true
      · dsimp only
        rw [if_pos hi]
        refine iff_of_false nofun ?_
        rintro ⟨-, j, hj, hinvalid⟩
        obtain rfl := TrafficPolicy.tunnelOnly.inj hj
        rw [hi] at hinvalid
        cases hinvalid
      · dsimp only
        rw [if_neg hi, Except.error.injEq, eq_comm]
        exact ⟨fun h => ⟨h, i, rfl, by simpa using hi⟩, fun h => h.1⟩

theorem render_tunnelOnly (config : NftablesConfig) {i : String} (h : validInterface i = true) :
    ∃ text, config.render (.tunnelOnly i) = .ok text := ⟨_, if_pos h⟩

theorem validInterface_of_render {config : NftablesConfig} {policy : TrafficPolicy} {text : String}
    (h : config.render policy = .ok text) (i : String) (hi : policy = .tunnelOnly i) :
    validInterface i = true := by
  by_contra hinvalid
  rw [render_eq_error.mpr ⟨rfl, i, hi, by simpa using hinvalid⟩] at h
  cases h

end NftablesConfig

end CyberiaVpn.Killswitch
