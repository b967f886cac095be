import CyberiaVpn.Linux.NftText
import CyberiaVpn.Linux.Node

/-!
# What the node gateway's rules do to packets

The text of `node_gateway_rules` is read back as commands and carried out
on a ruleset that has no such table yet. The loop over the client networks
appends to two chains in turn, one rule each, so after any number of
networks the forward chain holds the rule for replies and one rule per
network, and the postrouting chain one rule per network.

The forward chain drops what no rule accepts. A packet that is not part of
a known connection needs a network rule, which wants it to enter on the
WireGuard interface and to leave on the uplink. Since the networks of a
validated policy do not overlap, it finds at most one.
-/

namespace CyberiaVpn.Linux

open Effects Transport
open Nft (Token Command Rule)

/-! ## The commands -/

def gatewayTable : String := "cyberia_vpn_node"

def forwardBase : Nft.Base := ⟨.filter, .forward, 0⟩

def postroutingBase : Nft.Base := ⟨.nat, .postrouting, 100⟩

def replyRule : Rule AllowedIp := ⟨[.ctState [.established, .related]], .accept⟩

def forwardRule (wireguardInterface uplinkInterface : String) (network : AllowedIp) :
    Rule AllowedIp :=
  ⟨[.iifname wireguardInterface, .oifname uplinkInterface, .saddr network], .accept⟩

def masqueradeRule (uplinkInterface : String) (network : AllowedIp) : Rule AllowedIp :=
  ⟨[.oifname uplinkInterface, .saddr network], .masquerade⟩

def gatewaySetup : List (Command AllowedIp) :=
  [.addTable gatewayTable, .addChain gatewayTable "forward" forwardBase .drop,
    .addChain gatewayTable "postrouting" postroutingBase .accept,
    .addRule gatewayTable "forward" replyRule]

def networkCommands (wireguardInterface uplinkInterface : String) (network : AllowedIp) :
    List (Command AllowedIp) :=
  [.addRule gatewayTable "forward" (forwardRule wireguardInterface uplinkInterface network),
    .addRule gatewayTable "postrouting" (masqueradeRule uplinkInterface network)]

def gatewayCommands (wireguardInterface uplinkInterface : String)
    (policy : WireGuardNodeGatewayPolicy) : List (Command AllowedIp) :=
  gatewaySetup ++
    policy.clientNetworks.flatMap (networkCommands wireguardInterface uplinkInterface)

section

variable {wg uplink : String} {policy : WireGuardNodeGatewayPolicy}

theorem table_of_mem_gatewayCommands {c : Command AllowedIp}
    (hc : c ∈ gatewayCommands wg uplink policy) : c.table = gatewayTable := by
  rcases List.mem_append.mp hc with hc | hc
  · exact (by decide : ∀ c ∈ gatewaySetup, c.table = gatewayTable) c hc
  · obtain ⟨network, -, hc⟩ := List.mem_flatMap.mp hc
    rcases List.mem_cons.mp hc with rfl | hc
    · rfl
    · rw [List.mem_singleton.mp hc]
      rfl

/-! ## The text is read back -/

variable {rest : List Char} {cs : List (Command AllowedIp)}

theorem wellFormed_gatewayTable : (Token.word gatewayTable).wellFormed = true := by decide

theorem wellFormed_forward : (Token.word "forward").wellFormed = true := by decide

theorem wellFormed_postrouting : (Token.word "postrouting").wellFormed = true := by decide

theorem parse_gatewayTable (hrest : Nft.parse readNetwork rest = some cs) :
    Nft.parse readNetwork ("add table inet cyberia_vpn_node\n".toList ++ rest) =
      some (.addTable gatewayTable :: cs) := by
  have hline := Nft.parse_printLine (Nft.tableTokens "add" gatewayTable)
    (c := .addTable gatewayTable) (by decide) rfl hrest
  simpa [gatewayTable, Nft.tableTokens, Nft.printLine, Token.print] using hline

theorem parse_forwardChain (hrest : Nft.parse readNetwork rest = some cs) :
    Nft.parse readNetwork ("add chain inet cyberia_vpn_node forward ".toList ++
      ("\x7b type filter hook forward priority 0; policy drop; \x7d\n".toList ++ rest)) =
      some (.addChain gatewayTable "forward" forwardBase .drop :: cs) := by
  have hline := Nft.parse_printLine
    (Nft.chainTokens gatewayTable "forward" "filter" "forward" "0" "drop")
    (c := .addChain gatewayTable "forward" forwardBase .drop) (by decide) rfl hrest
  simpa [gatewayTable, Nft.chainTokens, Nft.printLine, Token.print] using hline

theorem parse_postroutingChain (hrest : Nft.parse readNetwork rest = some cs) :
    Nft.parse readNetwork ("add chain inet cyberia_vpn_node postrouting ".toList ++
      ("\x7b type nat hook postrouting priority 100; policy accept; \x7d\n".toList ++ rest)) =
      some (.addChain gatewayTable "postrouting" postroutingBase .accept :: cs) := by
  have hline := Nft.parse_printLine
    (Nft.chainTokens gatewayTable "postrouting" "nat" "postrouting" "100" "accept")
    (c := .addChain gatewayTable "postrouting" postroutingBase .accept) (by decide) rfl hrest
  simpa [gatewayTable, Nft.chainTokens, Nft.printLine, Token.print] using hline

theorem parse_replyRule (hrest : Nft.parse readNetwork rest = some cs) :
    Nft.parse readNetwork
      ("add rule inet cyberia_vpn_node forward ct state established,related accept\n".toList ++
        rest) = some (.addRule gatewayTable "forward" replyRule :: cs) := by
  have hline := Nft.parse_ruleTokens [.word "ct", .word "state", .word "established,related",
    .word "accept"] wellFormed_gatewayTable wellFormed_forward (by decide)
    (by decide : _ = some replyRule) hrest
  simpa [gatewayTable, Nft.ruleTokens, Nft.printLine, Token.print] using hline

theorem parse_nodeGatewayTable (hrest : Nft.parse readNetwork rest = some cs) :
    Nft.parse readNetwork (nodeGatewayTable.toList ++ rest) = some (gatewaySetup ++ cs) := by
  have hparse := parse_gatewayTable (parse_forwardChain (parse_postroutingChain
    (parse_replyRule hrest)))
  delta nodeGatewayTable
  simp only [String.toList_append, List.append_assoc]
  exact hparse

def forwardTokens (wg uplink : String) (network : AllowedIp) : List Token :=
  [.word "iifname", .quoted wg, .word "oifname", .quoted uplink,
    .word (familyWord network.network), .word "saddr", .word network.display, .word "accept"]

def masqueradeTokens (uplink : String) (network : AllowedIp) : List Token :=
  [.word "oifname", .quoted uplink, .word (familyWord network.network), .word "saddr",
    .word network.display, .word "masquerade"]

theorem wellFormed_forwardTokens (hwg : Transport.validInterface wg = true)
    (huplink : Transport.validInterface uplink = true) (network : AllowedIp) :
    (forwardTokens wg uplink network).all Token.wellFormed = true := by
  have hwords : (Token.word "iifname").wellFormed = true ∧
      (Token.word "oifname").wellFormed = true ∧ (Token.word "saddr").wellFormed = true ∧
      (Token.word "accept").wellFormed = true := by decide
  simp only [forwardTokens, List.all_cons, List.all_nil, hwords,
    wellFormed_interface (isInterfaceChar_of_transport hwg),
    wellFormed_interface (isInterfaceChar_of_transport huplink), wellFormed_familyWord,
    wellFormed_network, Bool.and_self]

theorem wellFormed_masqueradeTokens (huplink : Transport.validInterface uplink = true)
    (network : AllowedIp) : (masqueradeTokens uplink network).all Token.wellFormed = true := by
  have hwords : (Token.word "oifname").wellFormed = true ∧
      (Token.word "saddr").wellFormed = true ∧ (Token.word "masquerade").wellFormed = true := by
    decide
  simp only [masqueradeTokens, List.all_cons, List.all_nil, hwords,
    wellFormed_interface (isInterfaceChar_of_transport huplink), wellFormed_familyWord,
    wellFormed_network, Bool.and_self]

theorem parseRule_forwardTokens {network : AllowedIp}
    (hnetwork : network.prefixLength.toNat ≤ network.network.width) :
    Nft.parseRule readNetwork (forwardTokens wg uplink network) =
      some (forwardRule wg uplink network) := by
  simp only [forwardTokens, Nft.parseRule, parseField_saddr, readNetwork_network hnetwork]
  rfl

theorem parseRule_masqueradeTokens {network : AllowedIp}
    (hnetwork : network.prefixLength.toNat ≤ network.network.width) :
    Nft.parseRule readNetwork (masqueradeTokens uplink network) =
      some (masqueradeRule uplink network) := by
  simp only [masqueradeTokens, Nft.parseRule, parseField_saddr, readNetwork_network hnetwork]
  rfl

theorem parse_forwardRule (hwg : Transport.validInterface wg = true)
    (huplink : Transport.validInterface uplink = true) {network : AllowedIp}
    (hnetwork : network.prefixLength.toNat ≤ network.network.width)
    (hrest : Nft.parse readNetwork rest = some cs) :
    Nft.parse readNetwork ("add rule inet cyberia_vpn_node forward iifname \"".toList ++
      (wg.toList ++ ("\" oifname \"".toList ++ (uplink.toList ++ ("\" ".toList ++
        ((familyWord network.network).toList ++ (" saddr ".toList ++ (network.display.toList ++
          (" accept\n".toList ++ rest))))))))) =
      some (.addRule gatewayTable "forward" (forwardRule wg uplink network) :: cs) := by
  have hline := Nft.parse_ruleTokens _ wellFormed_gatewayTable wellFormed_forward
    (wellFormed_forwardTokens hwg huplink network) (parseRule_forwardTokens hnetwork) hrest
  simpa [gatewayTable, forwardTokens, Nft.ruleTokens, Nft.printLine, Token.print] using hline

theorem parse_masqueradeRule (huplink : Transport.validInterface uplink = true)
    {network : AllowedIp} (hnetwork : network.prefixLength.toNat ≤ network.network.width)
    (hrest : Nft.parse readNetwork rest = some cs) :
    Nft.parse readNetwork ("add rule inet cyberia_vpn_node postrouting oifname \"".toList ++
      (uplink.toList ++ ("\" ".toList ++ ((familyWord network.network).toList ++
        (" saddr ".toList ++ (network.display.toList ++ (" masquerade\n".toList ++ rest))))))) =
      some (.addRule gatewayTable "postrouting" (masqueradeRule uplink network) :: cs) := by
  have hline := Nft.parse_ruleTokens _ wellFormed_gatewayTable wellFormed_postrouting
    (wellFormed_masqueradeTokens huplink network) (parseRule_masqueradeTokens hnetwork) hrest
  simpa [gatewayTable, masqueradeTokens, Nft.ruleTokens, Nft.printLine, Token.print] using hline

/-- The two lines of one network. -/
theorem parse_networkRules (hwg : Transport.validInterface wg = true)
    (huplink : Transport.validInterface uplink = true) {network : AllowedIp}
    (hnetwork : network.prefixLength.toNat ≤ network.network.width)
    (hrest : Nft.parse readNetwork rest = some cs) :
    Nft.parse readNetwork ((nodeGatewayNetworkRules wg uplink network).toList ++ rest) =
      some (networkCommands wg uplink network ++ cs) := by
  have hparse := parse_forwardRule hwg huplink hnetwork
    (parse_masqueradeRule huplink hnetwork hrest)
  delta nodeGatewayNetworkRules
  simp only [String.toList_append, List.append_assoc]
  exact hparse

/-- The loop over the networks, from any text before it. -/
theorem toList_foldl_networkRules : ∀ (networks : List AllowedIp) (rules : String),
    (networks.foldl (fun rules network => rules ++ nodeGatewayNetworkRules wg uplink network)
      rules).toList = rules.toList ++
        networks.flatMap fun network => (nodeGatewayNetworkRules wg uplink network).toList
  | [], rules => by rw [List.foldl_nil, List.flatMap_nil, List.append_nil]
  | network :: networks, rules => by
      rw [List.foldl_cons, toList_foldl_networkRules networks, String.toList_append,
        List.append_assoc, List.flatMap_cons]

theorem parse_networks (hwg : Transport.validInterface wg = true)
    (huplink : Transport.validInterface uplink = true) : ∀ {networks : List AllowedIp},
    (∀ network ∈ networks, network.prefixLength.toNat ≤ network.network.width) →
      Nft.parse readNetwork (networks.flatMap fun network =>
        (nodeGatewayNetworkRules wg uplink network).toList) =
        some (networks.flatMap (networkCommands wg uplink))
  | [], _ => rfl
  | network :: networks, h => by
      rw [List.flatMap_cons, List.flatMap_cons]
      exact parse_networkRules hwg huplink (h network (List.mem_cons_self ..))
        (parse_networks hwg huplink fun n hn => h n (List.mem_cons_of_mem _ hn))

theorem parse_nodeGatewayRules (hwg : Transport.validInterface wg = true)
    (huplink : Transport.validInterface uplink = true) (hpolicy : policy.validate = .ok ()) :
    Nft.parse readNetwork (nodeGatewayRules wg uplink policy).toList =
      some (gatewayCommands wg uplink policy) := by
  obtain ⟨-, hfit, -⟩ := WireGuardNodeGatewayPolicy.validate_eq_ok.mp hpolicy
  rw [nodeGatewayRules, toList_foldl_networkRules]
  exact parse_nodeGatewayTable (parse_networks hwg huplink fun network hnetwork =>
    le_width_of_validNetwork (hfit network hnetwork).valid)

/-! ## The two chains -/

/-- The table with its two chains. -/
def gatewayChains (forward postrouting : List (Rule AllowedIp)) : Nft.Table AllowedIp :=
  Function.update (Function.update (fun _ => none) "forward" (some ⟨forwardBase, .drop, forward⟩))
    "postrouting" (some ⟨postroutingBase, .accept, postrouting⟩)

theorem gatewayChains_forward (f n : List (Rule AllowedIp)) :
    gatewayChains f n "forward" = some ⟨forwardBase, .drop, f⟩ := rfl

theorem gatewayChains_postrouting (f n : List (Rule AllowedIp)) :
    gatewayChains f n "postrouting" = some ⟨postroutingBase, .accept, n⟩ := rfl

theorem addRule_forward (f n : List (Rule AllowedIp)) (rule : Rule AllowedIp) :
    (gatewayChains f n).addRule "forward" rule = some (gatewayChains (f ++ [rule]) n) := by
  rw [Nft.Table.addRule_of_eq (gatewayChains_forward f n), gatewayChains,
    Function.update_comm (by decide), Function.update_idem]
  rfl

theorem addRule_postrouting (f n : List (Rule AllowedIp)) (rule : Rule AllowedIp) :
    (gatewayChains f n).addRule "postrouting" rule = some (gatewayChains f (n ++ [rule])) := by
  rw [Nft.Table.addRule_of_eq (gatewayChains_postrouting f n), gatewayChains,
    Function.update_idem]
  rfl

/-- One network adds one rule to each chain. -/
theorem runTable_networks : ∀ (networks : List AllowedIp) (f n : List (Rule AllowedIp)),
    Nft.runTable (networks.flatMap (networkCommands wg uplink)) (some (gatewayChains f n)) =
      some (some (gatewayChains (f ++ networks.map (forwardRule wg uplink))
        (n ++ networks.map (masqueradeRule uplink))))
  | [], f, n => by
      rw [List.map_nil, List.map_nil, List.append_nil, List.append_nil]
      rfl
  | network :: networks, f, n => by
      have hforward : (Command.addRule gatewayTable "forward"
          (forwardRule wg uplink network)).apply (some (gatewayChains f n)) =
          some (some (gatewayChains (f ++ [forwardRule wg uplink network]) n)) :=
        congrArg (Option.map some) (addRule_forward f n _)
      have hpostrouting : (Command.addRule gatewayTable "postrouting"
          (masqueradeRule uplink network)).apply
            (some (gatewayChains (f ++ [forwardRule wg uplink network]) n)) =
          some (some (gatewayChains (f ++ [forwardRule wg uplink network])
            (n ++ [masqueradeRule uplink network]))) :=
        congrArg (Option.map some) (addRule_postrouting _ n _)
      rw [List.flatMap_cons, networkCommands, List.cons_append, List.cons_append, List.nil_append,
        Nft.runTable_cons hforward, Nft.runTable_cons hpostrouting, runTable_networks networks,
        List.append_assoc, List.append_assoc]
      rfl

def forwardRules (wg uplink : String) (policy : WireGuardNodeGatewayPolicy) :
    List (Rule AllowedIp) := replyRule :: policy.clientNetworks.map (forwardRule wg uplink)

def masqueradeRules (uplink : String) (policy : WireGuardNodeGatewayPolicy) :
    List (Rule AllowedIp) := policy.clientNetworks.map (masqueradeRule uplink)

theorem runTable_gatewaySetup {cs : List (Command AllowedIp)} :
    Nft.runTable (gatewaySetup ++ cs) none =
      Nft.runTable cs (some (gatewayChains [replyRule] [])) := by
  have hreply : (Command.addRule gatewayTable "forward" replyRule).apply
      (some (gatewayChains [] [])) = some (some (gatewayChains [replyRule] [])) :=
    congrArg (Option.map some) (addRule_forward [] [] replyRule)
  -- the two chains are new in the new table
  exact (Nft.runTable_cons rfl).trans ((Nft.runTable_cons rfl).trans
    ((Nft.runTable_cons rfl).trans (Nft.runTable_cons hreply)))

theorem run_gatewayCommands {r : Nft.Ruleset AllowedIp} (h : r gatewayTable = none) :
    Nft.run (gatewayCommands wg uplink policy) r = some (Function.update r gatewayTable
      (some (gatewayChains (forwardRules wg uplink policy) (masqueradeRules uplink policy)))) := by
  rw [Nft.run_eq fun _ => table_of_mem_gatewayCommands, h, gatewayCommands, runTable_gatewaySetup,
    runTable_networks, Option.map_some]
  rfl

/-! ## The packets -/

section Packets

variable {p : Nft.Packet IpAddr} {network : AllowedIp}

theorem applies_replyRule : replyRule.applies AllowedIp.contains p = true ↔
    p.ctState = .established ∨ p.ctState = .related := by
  rw [Rule.applies, replyRule, List.all_cons, List.all_nil, Bool.and_true, Nft.Condition.holds,
    decide_eq_true_iff, List.mem_cons, List.mem_singleton]

theorem applies_forwardRule (hwg : Transport.validInterface wg = true)
    (huplink : Transport.validInterface uplink = true) :
    (forwardRule wg uplink network).applies AllowedIp.contains p = true ↔
      p.iifname = wg ∧ p.oifname = uplink ∧ network.contains p.source = true := by
  rw [Rule.applies, forwardRule, List.all_cons, List.all_cons, List.all_cons, List.all_nil,
    Bool.and_true, Bool.and_eq_true, Bool.and_eq_true]
  exact and_congr (nameMatches_interface (isInterfaceChar_of_transport hwg))
    (and_congr (nameMatches_interface (isInterfaceChar_of_transport huplink)) Iff.rfl)

theorem applies_masqueradeRule (huplink : Transport.validInterface uplink = true) :
    (masqueradeRule uplink network).applies AllowedIp.contains p = true ↔
      p.oifname = uplink ∧ network.contains p.source = true := by
  rw [Rule.applies, masqueradeRule, List.all_cons, List.all_cons, List.all_nil, Bool.and_true,
    Bool.and_eq_true]
  exact and_congr (nameMatches_interface (isInterfaceChar_of_transport huplink)) Iff.rfl

/-- What the forward chain lets through. -/
def Forwards (wg uplink : String) (policy : WireGuardNodeGatewayPolicy) (p : Nft.Packet IpAddr) :
    Prop :=
  (p.ctState = .established ∨ p.ctState = .related) ∨
    p.iifname = wg ∧ p.oifname = uplink ∧
      ∃ network ∈ policy.clientNetworks, network.contains p.source = true

theorem exists_forwardRules (hwg : Transport.validInterface wg = true)
    (huplink : Transport.validInterface uplink = true) :
    (∃ rule ∈ forwardRules wg uplink policy, rule.applies AllowedIp.contains p = true) ↔
      Forwards wg uplink policy p := by
  simp only [forwardRules, List.mem_cons, List.mem_map, exists_eq_or_imp, applies_replyRule,
    Forwards]
  refine or_congr Iff.rfl ⟨?_, ?_⟩
  · rintro ⟨rule, ⟨network, hmem, rfl⟩, happlies⟩
    obtain ⟨hin, hout, hsource⟩ := (applies_forwardRule hwg huplink).mp happlies
    exact ⟨hin, hout, network, hmem, hsource⟩
  · rintro ⟨hin, hout, network, hmem, hsource⟩
    exact ⟨_, ⟨network, hmem, rfl⟩, (applies_forwardRule hwg huplink).mpr ⟨hin, hout, hsource⟩⟩

theorem exists_masqueradeRules (huplink : Transport.validInterface uplink = true) :
    (∃ rule ∈ masqueradeRules uplink policy, rule.applies AllowedIp.contains p = true) ↔
      p.oifname = uplink ∧ ∃ network ∈ policy.clientNetworks, network.contains p.source = true := by
  simp only [masqueradeRules, List.mem_map]
  constructor
  · rintro ⟨rule, ⟨network, hmem, rfl⟩, happlies⟩
    obtain ⟨hout, hsource⟩ := (applies_masqueradeRule huplink).mp happlies
    exact ⟨hout, network, hmem, hsource⟩
  · rintro ⟨hout, network, hmem, hsource⟩
    exact ⟨_, ⟨network, hmem, rfl⟩, (applies_masqueradeRule huplink).mpr ⟨hout, hsource⟩⟩

/-- A packet that is not a reply and goes from the tunnel to the uplink
meets the rules of the networks its source is in. -/
theorem filter_forwardRules (hwg : Transport.validInterface wg = true)
    (huplink : Transport.validInterface uplink = true)
    (hnew : ¬(p.ctState = .established ∨ p.ctState = .related)) (hin : p.iifname = wg)
    (hout : p.oifname = uplink) :
    (forwardRules wg uplink policy).filter (·.applies AllowedIp.contains p) =
      (policy.clientNetworks.filter (·.contains p.source)).map (forwardRule wg uplink) := by
  have hreply : ¬replyRule.applies AllowedIp.contains p = true := mt applies_replyRule.mp hnew
  have hnetwork : ∀ network : AllowedIp,
      (forwardRule wg uplink network).applies AllowedIp.contains p = network.contains p.source :=
    fun network => Bool.eq_iff_iff.mpr
      ⟨fun h => ((applies_forwardRule hwg huplink).mp h).2.2,
        fun h => (applies_forwardRule hwg huplink).mpr ⟨hin, hout, h⟩⟩
  rw [forwardRules, List.filter_cons, if_neg hreply, List.filter_map]
  exact congrArg _ (List.filter_congr fun network _ => hnetwork network)

/-- Such a packet that is let through meets one rule. -/
theorem filter_forwardRules_eq_singleton (hwg : Transport.validInterface wg = true)
    (huplink : Transport.validInterface uplink = true) (hpolicy : policy.validate = .ok ())
    (hnew : ¬(p.ctState = .established ∨ p.ctState = .related))
    (h : Forwards wg uplink policy p) :
    ∃ network ∈ policy.clientNetworks, network.contains p.source = true ∧
      (forwardRules wg uplink policy).filter (·.applies AllowedIp.contains p) =
        [forwardRule wg uplink network] := by
  obtain ⟨-, -, hapart⟩ := WireGuardNodeGatewayPolicy.validate_eq_ok.mp hpolicy
  obtain ⟨hin, hout, network, hmem, hsource⟩ := h.resolve_left hnew
  have hfound : network ∈ policy.clientNetworks.filter (·.contains p.source) :=
    List.mem_filter.mpr ⟨hmem, hsource⟩
  have hone : (policy.clientNetworks.filter (·.contains p.source)).length ≤ 1 := by
    rw [← List.countP_eq_length_filter]
    exact countP_contains_le_one p.source hapart
  have hfilter : policy.clientNetworks.filter (·.contains p.source) = [network] := by
    obtain ⟨only, honly⟩ := List.length_eq_one_iff.mp
      (Nat.le_antisymm hone (List.length_pos_of_mem hfound))
    rw [honly] at hfound ⊢
    rw [List.mem_singleton.mp hfound]
  refine ⟨network, hmem, hsource, ?_⟩
  rw [filter_forwardRules hwg huplink hnew hin hout, hfilter]
  rfl

theorem verdict_of_mem_forwardRules {rule : Rule AllowedIp}
    (h : rule ∈ forwardRules wg uplink policy) : rule.verdict = .accept := by
  rcases List.mem_cons.mp h with rfl | h
  · rfl
  · obtain ⟨network, -, rfl⟩ := List.mem_map.mp h
    rfl

theorem verdict_of_mem_masqueradeRules {rule : Rule AllowedIp}
    (h : rule ∈ masqueradeRules uplink policy) : rule.verdict = .masquerade := by
  obtain ⟨network, -, rfl⟩ := List.mem_map.mp h
  rfl

variable {r : Nft.Ruleset AllowedIp}
  (hr : r gatewayTable =
    some (gatewayChains (forwardRules wg uplink policy) (masqueradeRules uplink policy)))
include hr

theorem passes_forward (hwg : Transport.validInterface wg = true)
    (huplink : Transport.validInterface uplink = true) :
    r.passes AllowedIp.contains gatewayTable "forward" .forward p = true ↔
      Forwards wg uplink policy p := by
  have hchain : r.passes AllowedIp.contains gatewayTable "forward" .forward p =
      (⟨forwardBase, .drop, forwardRules wg uplink policy⟩ : Nft.Chain AllowedIp).accepts
        AllowedIp.contains p := by
    rw [Nft.Ruleset.passes, hr]
    rfl
  rw [hchain, Nft.Chain.accepts_iff fun rule hrule => by
    rw [verdict_of_mem_forwardRules hrule]; decide, or_iff_left Nft.Policy.noConfusion]
  exact exists_forwardRules hwg huplink

theorem masquerades_postrouting (huplink : Transport.validInterface uplink = true) :
    r.masquerades AllowedIp.contains gatewayTable "postrouting" p = true ↔
      p.oifname = uplink ∧ ∃ network ∈ policy.clientNetworks, network.contains p.source = true := by
  have hchain : r.masquerades AllowedIp.contains gatewayTable "postrouting" p =
      decide ((⟨postroutingBase, .accept, masqueradeRules uplink policy⟩ :
        Nft.Chain AllowedIp).verdict AllowedIp.contains p = some .masquerade) := by
    rw [Nft.Ruleset.masquerades, hr]
    rfl
  rw [hchain, decide_eq_true_iff, Nft.Chain.verdict_eq_some_iff fun rule hrule =>
    verdict_of_mem_masqueradeRules hrule]
  exact exists_masqueradeRules huplink

end Packets

end

/-! ## The rules of a checked policy -/

/-- The gateway hands no other text to `nft` when it is enabled, and only
for names and a policy that passed the checks. -/
theorem LinuxWireGuardNodeGateway.sat_enable_input (wg uplink : String)
    (policy : WireGuardNodeGatewayPolicy) (g : LinuxWireGuardNodeGateway) (w : Host) :
    (LinuxWireGuardNodeGateway.enable wg uplink policy).Sat
      (fun e => ∀ spec text ok, e.effect = .input spec text ok →
        text = nodeGatewayRules wg uplink policy ∧ Transport.validInterface wg = true ∧
          Transport.validInterface uplink = true ∧ wg ≠ uplink ∧ policy.validate = .ok ())
      (fun _ _ _ => True) (fun _ _ _ => True) g w := by
  rw [LinuxWireGuardNodeGateway.enable, Prog.sat_bind, Prog.sat_self]
  split
  · exact Prog.sat_fail.mpr trivial
  split
  · exact Prog.sat_fail.mpr trivial
  next hnames =>
  simp only [Bool.or_eq_true, Bool.not_eq_true', decide_eq_true_iff, not_or,
    Bool.not_eq_false] at hnames
  obtain ⟨⟨hwg, huplink⟩, hne⟩ := hnames
  rw [Prog.sat_bind, Prog.sat_liftExcept]
  split
  case h_2 => exact trivial
  next hpolicy =>
  rw [Prog.sat_bind]
  refine sat_check (fun env => ⟨by rintro _ _ _ ⟨⟩, ?_⟩)
    (fun _ env => ⟨by rintro _ _ _ ⟨⟩, trivial⟩)
  rw [Prog.sat_bind]
  refine (Prog.sat_forEach (J := fun _ _ => True) (E := fun _ _ _ => True)
    (fun key _ g w _ => ?_) trivial).mono (fun _ h => h) (fun _ g' w' _ => ?_) (fun _ _ _ h => h)
  · rw [LinuxWireGuardNodeGateway.checkForwarding, Prog.sat_bind, Prog.sat_self, Prog.sat_bind]
    refine sat_output (fun k env out _ => ⟨by rintro _ _ _ ⟨⟩, ?_⟩)
      (fun _ env => ⟨by rintro _ _ _ ⟨⟩, trivial⟩)
    split
    · exact Prog.sat_pure.mpr trivial
    · exact Prog.sat_fail.mpr trivial
  · have hinput : ∀ (s : LinuxWireGuardNodeGateway) (pre post : Host) (spec : CommandSpec)
        (ok : Bool) (spec' : CommandSpec) (text : String) (ok' : Bool),
        (⟨s, pre, .input spec (nodeGatewayRules wg uplink policy) ok, post⟩ :
          Entry LinuxWireGuardNodeGateway Host Effect).effect = .input spec' text ok' →
        text = nodeGatewayRules wg uplink policy ∧ Transport.validInterface wg = true ∧
          Transport.validInterface uplink = true ∧ wg ≠ uplink ∧ policy.validate = .ok () := by
      intro s pre post spec ok spec' text ok' heq
      obtain ⟨-, htext, -⟩ := Effect.input.inj heq
      exact ⟨htext.symm, hwg, huplink, hne, hpolicy⟩
    rw [Prog.sat_bind]
    refine sat_check (fun env => ⟨by rintro _ _ _ ⟨⟩, ?_⟩)
      (fun _ env => ⟨by rintro _ _ _ ⟨⟩, trivial⟩)
    rw [Prog.sat_bind]
    refine sat_input (fun k env _ => ⟨hinput _ _ _ _ _, Prog.sat_update.mpr trivial⟩)
      (fun _ env => ⟨hinput _ _ _ _ _, trivial⟩)

/-- The text for two distinct checked names and a validated policy, read as
one command per line and carried out on a ruleset without the table. -/
theorem nodeGatewayRules_exact {wg uplink : String} {policy : WireGuardNodeGatewayPolicy}
    (hwg : Transport.validInterface wg = true) (huplink : Transport.validInterface uplink = true)
    (hne : wg ≠ uplink) (hpolicy : policy.validate = .ok ()) :
    ∃ commands, Nft.parse readNetwork (nodeGatewayRules wg uplink policy).toList = some commands ∧
      (∀ c ∈ commands, c.table = gatewayTable) ∧
      ∀ r : Nft.Ruleset AllowedIp, r gatewayTable = none →
        ∃ r' : Nft.Ruleset AllowedIp, Nft.run commands r = some r' ∧
          (∀ table, table ≠ gatewayTable → r' table = r table) ∧
          ∀ p : Nft.Packet IpAddr,
            (r'.passes AllowedIp.contains gatewayTable "forward" .forward p = true ↔
              (p.ctState = .established ∨ p.ctState = .related) ∨
                p.iifname = wg ∧ p.oifname = uplink ∧
                  ∃ network ∈ policy.clientNetworks, network.contains p.source = true) ∧
            (r'.masquerades AllowedIp.contains gatewayTable "postrouting" p = true ↔
              p.oifname = uplink ∧
                ∃ network ∈ policy.clientNetworks, network.contains p.source = true) ∧
            (¬(p.ctState = .established ∨ p.ctState = .related) →
              (p.oifname = wg ∨ p.iifname = uplink →
                r'.passes AllowedIp.contains gatewayTable "forward" .forward p = false) ∧
              (r'.passes AllowedIp.contains gatewayTable "forward" .forward p = true →
                ∃ chain, (r' gatewayTable).bind (fun t => t "forward") = some chain ∧
                  ∃ network ∈ policy.clientNetworks, network.contains p.source = true ∧
                    chain.rules.filter (·.applies AllowedIp.contains p) =
                      [forwardRule wg uplink network])) := by
  refine ⟨gatewayCommands wg uplink policy, parse_nodeGatewayRules hwg huplink hpolicy,
    fun c => table_of_mem_gatewayCommands, fun r hr => ?_⟩
  refine ⟨_, run_gatewayCommands hr, fun table htable => Function.update_of_ne htable _ _,
    fun p => ?_⟩
  generalize hr' : Function.update r gatewayTable (some (gatewayChains
    (forwardRules wg uplink policy) (masqueradeRules uplink policy))) = r'
  have htable : r' gatewayTable = some (gatewayChains (forwardRules wg uplink policy)
      (masqueradeRules uplink policy)) := by
    rw [← hr', Function.update_self]
  have hpasses := passes_forward (p := p) htable hwg huplink
  refine ⟨hpasses, masquerades_postrouting htable huplink, fun hnew => ⟨fun hdirection => ?_,
    fun hpassed => ?_⟩⟩
  · rw [← Bool.not_eq_true, hpasses]
    rintro (hreply | ⟨hin, hout, -⟩)
    · exact hnew hreply
    · -- in on the tunnel and out on the uplink, against the direction
      rcases hdirection with hback | hback
      · exact hne (hback.symm.trans hout)
      · exact hne (hin.symm.trans hback)
  · rw [htable]
    exact ⟨_, gatewayChains_forward _ _,
      filter_forwardRules_eq_singleton hwg huplink hpolicy hnew (hpasses.mp hpassed)⟩

/-- A client of the first of two networks gets out through the uplink, with
a new source, and does not get to another client. -/
theorem nodeGatewayRules_exact_client :
    let policy : WireGuardNodeGatewayPolicy :=
      ⟨[⟨.v4 0x0a080000#32, 24⟩, ⟨.v6 0xfd000000000000000000000000000000#128, 64⟩]⟩
    let out : Nft.Packet IpAddr :=
      ⟨"wg0", "eth0", .v4 0x0a080007#32, .v4 0x01010101#32, none, .new⟩
    let across : Nft.Packet IpAddr :=
      ⟨"wg0", "wg0", .v4 0x0a080007#32, .v4 0x0a080009#32, none, .new⟩
    ∃ commands r', Nft.parse readNetwork (nodeGatewayRules "wg0" "eth0" policy).toList =
        some commands ∧ Nft.run commands (fun _ => none) = some r' ∧
      r'.passes AllowedIp.contains gatewayTable "forward" .forward out = true ∧
      r'.masquerades AllowedIp.contains gatewayTable "postrouting" out = true ∧
      r'.passes AllowedIp.contains gatewayTable "forward" .forward across = false := by
  intro policy out across
  obtain ⟨commands, hparse, -, hrun⟩ := nodeGatewayRules_exact
    (by decide : Transport.validInterface "wg0" = true)
    (by decide : Transport.validInterface "eth0" = true) (by decide)
    (rfl : policy.validate = .ok ())
  obtain ⟨r', hr', -, hpackets⟩ := hrun (fun _ => none) rfl
  refine ⟨commands, r', hparse, hr', ?_, ?_, ?_⟩
  · exact (hpackets out).1.mpr (Or.inr ⟨rfl, rfl, _, List.mem_cons_self .., by decide⟩)
  · exact (hpackets out).2.1.mpr ⟨rfl, _, List.mem_cons_self .., by decide⟩
  · exact ((hpackets across).2.2 (by decide)).1 (Or.inl rfl)

end CyberiaVpn.Linux
