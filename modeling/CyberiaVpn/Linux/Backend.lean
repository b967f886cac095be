import CyberiaVpn.Linux.Handshakes
import CyberiaVpn.Linux.Host
import CyberiaVpn.Linux.Tools

/-!
# The client's WireGuard backend

`LinuxWireGuardBackend` of `core/transport/src/linux.rs`: one link, its
addresses and routes, and for a default prefix the pair of policy rules
that keeps the encrypted traffic on the underlying network.

`bringUp` creates resources one command at a time and keeps the rules it
added in a local variable until the end; a failure runs `rollbackSetup`,
itself a sequence of commands that may fail. `bringDown` takes the
recorded rules back one by one and stores what is left when it has to
stop.

The specifications below say exactly what each exit path leaves behind.
`Kernel.Undisturbed` is the frame: no command of this backend touches the
traffic policy or the resolvers. Everything the backend itself puts into
the kernel is accounted for by an equation `rules = before + recorded`,
and a deletion that fails leaves a mark in the host's log.
-/

namespace CyberiaVpn.Linux

open Effects Transport Killswitch

inductive AddressFamily where
  | v4 | v6
  deriving DecidableEq

namespace AddressFamily

def argument : AddressFamily → String
  | v4 => "-4"
  | v6 => "-6"

def of : IpAddr → AddressFamily
  | .v4 _ => v4
  | .v6 _ => v6

end AddressFamily

inductive PolicyRule where
  | notFirewallMark (family : AddressFamily)
  | suppressDefault (family : AddressFamily)
  deriving DecidableEq

structure LinuxWireGuardBackend where
  tools : LinuxTools
  routingMark : NonZeroU32
  activeRules : List PolicyRule
  activeInterface : Option String
  healthFailures : UInt32

/-! ## Argument rendering -/

def endpointArgument (endpoint : Endpoint) : String :=
  if endpoint.host.toList.contains ':' then
    "[" ++ endpoint.host ++ "]:" ++ toString endpoint.port.val
  else endpoint.host ++ ":" ++ toString endpoint.port.val

def base64Alphabet : List Char :=
  "ABCDEFGHIJKLMNOPQRSTUVWXYZabcdefghijklmnopqrstuvwxyz0123456789+/".toList

/-- `ALPHABET[index]`; every index the encoder computes is below 64. -/
def base64Char (index : UInt8) : Char := base64Alphabet.getD index.toNat '='

/-- `key.chunks(3)`, each chunk padded to four characters. -/
def encodeChunks : List UInt8 → List Char
  | first :: second :: third :: rest =>
      base64Char (first >>> 2) :: base64Char (((first &&& 3) <<< 4) ||| (second >>> 4)) ::
        base64Char (((second &&& 15) <<< 2) ||| (third >>> 6)) ::
        base64Char (third &&& 63) :: encodeChunks rest
  | [first, second] =>
      [base64Char (first >>> 2), base64Char (((first &&& 3) <<< 4) ||| (second >>> 4)),
        base64Char ((second &&& 15) <<< 2), '=']
  | [first] => [base64Char (first >>> 2), base64Char ((first &&& 3) <<< 4), '=', '=']
  | [] => []

def encodeKey (key : Key) : String := String.ofList (encodeChunks key.toList)

def saturatingIncrement (n : UInt32) : UInt32 := if n = 0xffffffff then n else n + 1

/-! ## Programs -/

namespace LinuxWireGuardBackend

def fresh (tools : LinuxTools) (routingMark : NonZeroU32) : LinuxWireGuardBackend :=
  { tools, routingMark, activeRules := [], activeInterface := none, healthFailures := 0 }

def new (files : FileSystem) (tools : LinuxTools) (routingMark : NonZeroU32) :
    Except TransportError LinuxWireGuardBackend := do
  tools.validate files
  if tools.privateKey.toStr.isNone then
    throw (.invalidConfig "WireGuard private key path is not UTF-8")
  return fresh tools routingMark

theorem new_eq_ok_iff {files : FileSystem} {tools : LinuxTools} {routingMark : NonZeroU32}
    {b : LinuxWireGuardBackend} :
    new files tools routingMark = .ok b ↔
      tools.validate files = .ok () ∧ tools.privateKey.toStr ≠ none ∧
        fresh tools routingMark = b :=
  LinuxTools.checked_eq_ok

theorem new_eq_ok {files : FileSystem} {tools : LinuxTools} {routingMark : NonZeroU32}
    {b : LinuxWireGuardBackend} (h : new files tools routingMark = .ok b) :
    fresh tools routingMark = b :=
  (new_eq_ok_iff.mp h).2.2

/-- The text that `configure` hands to `wg` names the key file. -/
theorem key_argument {files : FileSystem} {tools : LinuxTools} {routingMark : NonZeroU32}
    {b : LinuxWireGuardBackend} (h : new files tools routingMark = .ok b) :
    PathBuf.ofString b.tools.privateKey.toStringLossy = tools.privateKey := by
  obtain ⟨-, hkey, rfl⟩ := new_eq_ok_iff.mp h
  exact PathBuf.ofString_toStringLossy hkey

abbrev BackendM := Prog LinuxWireGuardBackend Host Effect TransportError

/-- The backend with the local rule list of a setup or a teardown. -/
abbrev RulesM := Prog (LinuxWireGuardBackend × List PolicyRule) Host Effect TransportError

def deleteInterface (interface : String) : BackendM Unit := do
  command (← Prog.self).tools.ip ["link", "delete", "dev", interface]

def configure (interface : String) (profile : WireGuardConfig) : BackendM Unit := do
  let b ← Prog.self
  let arguments :=
    ["set", interface, "private-key", b.tools.privateKey.toStringLossy, "fwmark",
      toString b.routingMark.val, "peer", encodeKey profile.peerPublicKey, "endpoint",
      endpointArgument profile.endpoint, "allowed-ips",
      joinComma (profile.allowedIps.map AllowedIp.display)] ++
    (match profile.persistentKeepaliveSeconds with
      | some seconds => ["persistent-keepalive", toString seconds]
      | none => [])
  check
  command b.tools.wg arguments
  Prog.forEach (fun address => do
    check
    command b.tools.ip ["address", "add", TunnelAddress.display address, "dev", interface])
    profile.tunnelAddresses
  check
  command b.tools.ip ["link", "set", "dev", interface, "mtu", toString profile.mtu, "up"]

/-- `ip rule add`, and the rule pushed once the kernel has it. -/
def addPolicyRule (rule : PolicyRule) (family : AddressFamily) (selector : List String) :
    RulesM Unit := do
  let (b, _) ← Prog.self
  command b.tools.ip (family.argument :: "rule" :: "add" :: selector)
  Prog.update fun (b, rules) => (b, rules ++ [rule])

/-- One iteration of `install_routes`; the rules pushed so far survive a
failure. -/
def installRoute (interface : String) (allowed : AllowedIp) : RulesM Unit := do
  check
  let (b, _) ← Prog.self
  let family := AddressFamily.of allowed.network
  if allowed.prefixLength ≠ 0 then
    command b.tools.ip
      [family.argument, "route", "replace", allowed.display, "dev", interface]
  else
    let mark := toString b.routingMark.val
    command b.tools.ip
      [family.argument, "route", "replace", "default", "dev", interface, "table", mark]
    addPolicyRule (.notFirewallMark family) family ["not", "fwmark", mark, "table", mark]
    addPolicyRule (.suppressDefault family) family
      ["table", "main", "suppress_prefixlength", "0"]

def installRoutes (interface : String) (profile : WireGuardConfig) : RulesM Unit :=
  Prog.forEach (installRoute interface) profile.allowedIps

def removePolicyRule (rule : PolicyRule) : RulesM Unit := do
  let (b, _) ← Prog.self
  let mark := toString b.routingMark.val
  match rule with
  | .notFirewallMark family =>
      command b.tools.ip
        [family.argument, "rule", "delete", "not", "fwmark", mark, "table", mark]
  | .suppressDefault family =>
      command b.tools.ip
        [family.argument, "rule", "delete", "table", "main", "suppress_prefixlength", "0"]

/-- `while let Some(rule) = rules.last()`: from the last rule to the first,
each popped once it is deleted. -/
def removePolicyRules : RulesM Unit := do
  let (_, rules) ← Prog.self
  Prog.forEach (fun rule => do
    removePolicyRule rule
    Prog.update fun (b, rules) => (b, rules.dropLast)) rules.reverse

/-- Both halves of the cleanup are tried; the result is the error to
return. -/
def rollbackSetup (interface : String) (rules : List PolicyRule)
    (setupError : TransportError) : BackendM TransportError := do
  let (_, rulesResult) ← Prog.withLocal rules removePolicyRules
  let interfaceResult ← (deleteInterface interface).attempt
  match rulesResult, interfaceResult with
  | .ok (), .ok () => return setupError
  | rules, interface =>
      return .network ("WireGuard setup failed: " ++ setupError.display ++
        "; cleanup failed: rules=" ++ TransportError.debugResult rules ++
        ", interface=" ++ TransportError.debugResult interface)

def bringUp (interface : String) (profile : WireGuardConfig) : BackendM Unit := do
  if (← Prog.self).activeInterface.isSome then
    Prog.fail .alreadyConnected
  else
    check
    command (← Prog.self).tools.ip ["link", "add", "dev", interface, "type", "wireguard"]
    match ← (configure interface profile).attempt with
    | .error setupError => do
        Prog.fail (← rollbackSetup interface [] setupError)
    | .ok () =>
        match ← Prog.withLocal [] (installRoutes interface profile) with
        | (rules, .error setupError) => do
            Prog.fail (← rollbackSetup interface rules setupError)
        | (rules, .ok ()) =>
            Prog.update fun b =>
              { b with activeRules := rules, activeInterface := some interface }

def bringDown (interface : String) : BackendM Unit := do
  let b ← Prog.self
  if b.activeInterface ≠ some interface then
    Prog.fail .notConnected
  else
    Prog.update fun b => { b with activeRules := [] }
    match ← Prog.withLocal b.activeRules removePolicyRules with
    | (rules, .error error) => do
        Prog.update fun b => { b with activeRules := rules }
        Prog.fail error
    | (_, .ok ()) =>
        deleteInterface interface
        Prog.update fun b => { b with activeInterface := none }

/-- `now` is the wall clock in seconds. -/
def health (now : Nat) : Prog LinuxWireGuardBackend Host Effect Empty TransportHealth := do
  let b ← Prog.self
  match b.activeInterface with
  | none => return ⟨.unavailable, b.healthFailures⟩
  | some interface =>
      match ← (output b.tools.wg ["show", interface, "latest-handshakes"]).attempt with
      | .error _ =>
          Prog.update fun b => { b with healthFailures := saturatingIncrement b.healthFailures }
          return ⟨.unavailable, (← Prog.self).healthFailures⟩
      | .ok out =>
          Prog.update fun b => { b with healthFailures := 0 }
          let fresh := (latestHandshake out).any fun stamp =>
            stamp ≤ now && now - stamp ≤ maximumHandshakeAgeSeconds
          return ⟨if fresh then .healthy else .degraded, 0⟩

/-! ## The recorded rules, as the kernel sees them -/

/-- The family flag and selector of a recorded rule. -/
def ruleArguments (b : LinuxWireGuardBackend) : PolicyRule → List String
  | .notFirewallMark family =>
      let mark := toString b.routingMark.val
      [family.argument, "not", "fwmark", mark, "table", mark]
  | .suppressDefault family =>
      [family.argument, "table", "main", "suppress_prefixlength", "0"]

def ruleSet (b : LinuxWireGuardBackend) (rules : List PolicyRule) : Multiset (List String) :=
  (rules.map b.ruleArguments : List (List String))

@[simp] theorem ruleSet_nil (b : LinuxWireGuardBackend) : b.ruleSet [] = 0 := rfl

theorem ruleSet_concat (b : LinuxWireGuardBackend) (rules : List PolicyRule)
    (rule : PolicyRule) :
    b.ruleSet (rules ++ [rule]) = b.ruleArguments rule ::ₘ b.ruleSet rules := by
  rw [ruleSet, List.map_append, ← Multiset.coe_add, Multiset.add_comm]
  rfl

theorem ruleSet_eq_zero {b : LinuxWireGuardBackend} {rules : List PolicyRule} :
    b.ruleSet rules = 0 ↔ rules = [] := by
  simp [ruleSet]

/-! ## Specifications -/

section Specs

variable {k : Kernel} {links : Finset String} {rules : Multiset (List String)} {n : Nat}
  {b : LinuxWireGuardBackend} {w : Host} {interface : String}

theorem sat_configure (profile : WireGuardConfig) (hw : Laid k links rules n w) :
    (configure interface profile).Sat (Quiet (Eq b) k)
      (fun _ b' w' => b' = b ∧ Laid k links rules n w')
      (fun _ b' w' => b' = b ∧ Laid k links rules n w') b w := by
  rw [configure, Prog.sat_bind, Prog.sat_self]
  dsimp only
  refine (sat_setupCheck rfl hw).bind ?_
  rintro - b₁ w₁ ⟨rfl, hw₁⟩
  refine (sat_setupCommand (fun _ => Kernel.exec_wgSet) rfl rfl hw₁).bind ?_
  rintro - b₂ w₂ ⟨rfl, hw₂⟩
  -- the addresses, one check and one command each
  refine (Prog.sat_forEach (J := fun b' w' => b' = b₂ ∧ Laid k links rules n w')
    ?_ ⟨rfl, hw₂⟩).bind ?_
  · rintro address - b₃ w₃ ⟨rfl, hw₃⟩
    refine (sat_setupCheck rfl hw₃).bind ?_
    rintro - b₄ w₄ ⟨rfl, hw₄⟩
    exact sat_setupCommand (fun _ => Kernel.exec_addressAdd) rfl rfl hw₄
  · rintro - b₅ w₅ ⟨rfl, hw₅⟩
    refine (sat_setupCheck rfl hw₅).bind ?_
    rintro - b₆ w₆ ⟨rfl, hw₆⟩
    exact sat_setupCommand (fun _ => Kernel.exec_linkUp) rfl rfl hw₆

/-- The local rule list and the kernel's rules are in step: the kernel has
what it had before, `rules`, and the listed ones. -/
def InStep (k : Kernel) (links : Finset String) (rules : Multiset (List String)) (n : Nat)
    (b : LinuxWireGuardBackend) (s : LinuxWireGuardBackend × List PolicyRule) (w : Host) : Prop :=
  b = s.1 ∧ Laid k links (rules + b.ruleSet s.2) n w

variable {installed : List PolicyRule}

theorem sat_inStepCheck (hw : Laid k links (rules + b.ruleSet installed) n w) :
    (check).Sat (Quiet (b = ·.1) k)
      (fun _ s w' => s = (b, installed) ∧ Laid k links (rules + b.ruleSet installed) n w')
      (fun _ => InStep k links rules n b) (b, installed) w :=
  (sat_setupCheck (S := (b = ·.1)) rfl hw).mono (fun _ h => h) (fun _ _ _ h => h)
    (fun _ _ _ ⟨hs, h⟩ => by subst hs; exact ⟨rfl, h⟩)

theorem sat_inStepCommand {program : PathBuf} {arguments : List String}
    (hstep : ∀ k', w.kernel.exec arguments = some k' → w.kernel.SetupStep k')
    (hlabel : (Effect.command ⟨program, arguments⟩ false).failedDeletion = false)
    (hw : Laid k links (rules + b.ruleSet installed) n w) :
    (command program arguments).Sat (Quiet (b = ·.1) k)
      (fun _ s w' => s = (b, installed) ∧ Laid k links (rules + b.ruleSet installed) n w')
      (fun _ => InStep k links rules n b) (b, installed) w :=
  (sat_setupCommand (S := (b = ·.1)) hstep hlabel rfl hw).mono (fun _ h => h)
    (fun _ _ _ h => h) (fun _ _ _ ⟨hs, h⟩ => by subst hs; exact ⟨rfl, h⟩)

theorem exec_route {family : AddressFamily} {target : String} {table : List String}
    {k k' : Kernel} (htable : table = [] ∨ ∃ t, table = ["table", t])
    (h : k.exec (family.argument :: "route" :: "replace" :: target :: "dev" :: interface :: table)
      = some k') : k.SetupStep k' := by
  rcases htable with rfl | ⟨t, rfl⟩ <;> cases family <;>
    · obtain ⟨-, rfl⟩ := Kernel.onLink_eq_some.mp h
      exact ⟨rfl, rfl, rfl, rfl, rfl, rfl⟩

theorem exec_ruleAdd (k : Kernel) (family : AddressFamily) (selector : List String) :
    k.exec (family.argument :: "rule" :: "add" :: selector)
      = some { k with rules := (family.argument :: selector) ::ₘ k.rules } := by
  cases family <;> rfl

theorem exec_ruleDelete {k : Kernel} {family : AddressFamily} {selector : List String}
    (h : family.argument :: selector ∈ k.rules) :
    k.exec (family.argument :: "rule" :: "delete" :: selector)
      = some { k with rules := k.rules.erase (family.argument :: selector) } := by
  cases family <;> exact if_pos h

/-- Adding a rule and pushing it keeps the two in step; the rule is not in
the list while the command runs. -/
theorem sat_addPolicyRule {family : AddressFamily} {selector : List String}
    {rule : PolicyRule} (hrule : b.ruleArguments rule = family.argument :: selector)
    (hw : Laid k links (rules + b.ruleSet installed) n w) :
    (addPolicyRule rule family selector).Sat (Quiet (b = ·.1) k)
      (fun _ s w' => s = (b, installed ++ [rule]) ∧
        Laid k links (rules + b.ruleSet (installed ++ [rule])) n w')
      (fun _ => InStep k links rules n b) (b, installed) w := by
  rw [addPolicyRule, Prog.sat_bind, Prog.sat_self]
  dsimp only
  rw [Prog.sat_bind]
  refine sat_command (fun k' env hk => ?_) (fun _ env => ?_)
  · rw [exec_ruleAdd] at hk
    obtain rfl := Option.some.inj hk
    have hframe : k.Undisturbed
        { w.kernel with rules := (family.argument :: selector) ::ₘ w.kernel.rules } :=
      ⟨hw.frame.policy, hw.frame.resolvers, hw.frame.gateway, hw.frame.sysctl⟩
    have hlog : (Effect.command ⟨b.tools.ip, family.argument :: "rule" :: "add" :: selector⟩
        true).failedDeletion = false := by cases family <;> rfl
    refine ⟨⟨rfl, hw.frame, hframe, nofun, rfl⟩, Prog.sat_update.mpr ⟨rfl, hw.links, ?_, hframe,
      (Host.failedDeletions_cons hlog).trans hw.deletions⟩⟩
    rw [ruleSet_concat, hrule, Multiset.add_cons, ← hw.rules]
  · have hlog : (Effect.command ⟨b.tools.ip, family.argument :: "rule" :: "add" :: selector⟩
        false).failedDeletion = false := by cases family <;> rfl
    exact ⟨⟨rfl, hw.frame, hw.frame, nofun, rfl⟩, rfl, hw.links, hw.rules, hw.frame,
      (Host.failedDeletions_cons hlog).trans hw.deletions⟩

theorem sat_installRoute (allowed : AllowedIp)
    (hw : Laid k links (rules + b.ruleSet installed) n w) :
    (installRoute interface allowed).Sat (Quiet (b = ·.1) k)
      (fun _ => InStep k links rules n b) (fun _ => InStep k links rules n b)
      (b, installed) w := by
  rw [installRoute]
  refine (sat_inStepCheck hw).bind ?_
  rintro - s₁ w₁ ⟨rfl, hw₁⟩
  rw [Prog.sat_bind, Prog.sat_self]
  dsimp only
  split
  · refine (sat_inStepCommand (fun _ => exec_route (Or.inl rfl)) ?_ hw₁).mono (fun _ h => h)
      (fun _ _ _ ⟨hs, h⟩ => by subst hs; exact ⟨rfl, h⟩) (fun _ _ _ h => h)
    cases AddressFamily.of allowed.network <;> rfl
  · refine (sat_inStepCommand (fun _ => exec_route (Or.inr ⟨_, rfl⟩)) ?_ hw₁).bind ?_
    · cases AddressFamily.of allowed.network <;> rfl
    rintro - s₂ w₂ ⟨rfl, hw₂⟩
    refine (sat_addPolicyRule rfl hw₂).bind ?_
    rintro - s₃ w₃ ⟨rfl, hw₃⟩
    exact (sat_addPolicyRule rfl hw₃).mono (fun _ h => h)
      (fun _ _ _ ⟨hs, h⟩ => by subst hs; exact ⟨rfl, h⟩) (fun _ _ _ h => h)

/-- `install_routes` leaves the list in step, also where it stops. -/
theorem sat_installRoutes (profile : WireGuardConfig)
    (hw : Laid k links (rules + b.ruleSet installed) n w) :
    (installRoutes interface profile).Sat (Quiet (b = ·.1) k)
      (fun _ => InStep k links rules n b) (fun _ => InStep k links rules n b)
      (b, installed) w := by
  refine Prog.sat_forEach ?_ ⟨rfl, hw⟩
  rintro allowed - ⟨b', installed'⟩ w₁ ⟨hb, hw₁⟩
  obtain rfl : b = b' := hb
  exact sat_installRoute allowed hw₁

/-- Both branches issue `rule delete` with the rule's own family and
selector. -/
theorem removePolicyRule_eq (s : LinuxWireGuardBackend × List PolicyRule) (rule : PolicyRule) :
    ∃ (family : AddressFamily) (selector : List String),
      s.1.ruleArguments rule = family.argument :: selector ∧
      ∀ w, removePolicyRule rule s w =
        command s.1.tools.ip (family.argument :: "rule" :: "delete" :: selector) s w := by
  cases rule with
  | notFirewallMark family => exact ⟨family, _, rfl, fun _ => rfl⟩
  | suppressDefault family => exact ⟨family, _, rfl, fun _ => rfl⟩

/-- Deleting the last recorded rule: it is in the kernel, so only the
environment can make the command fail. -/
theorem sat_removePolicyRule {rule : PolicyRule}
    (hw : Laid k links (rules + b.ruleSet (installed ++ [rule])) n w) :
    (removePolicyRule rule).Sat (Quiet (b = ·.1) k)
      (fun _ s w' => s = (b, installed ++ [rule]) ∧
        Laid k links (rules + b.ruleSet installed) n w')
      (fun _ s w' => s = (b, installed ++ [rule]) ∧
        Laid k links (rules + b.ruleSet (installed ++ [rule])) (n + 1) w')
      (b, installed ++ [rule]) w := by
  obtain ⟨family, selector, hargs, hprog⟩ := removePolicyRule_eq (b, installed ++ [rule]) rule
  have hrules : w.kernel.rules =
      (family.argument :: selector) ::ₘ (rules + b.ruleSet installed) := by
    rw [hw.rules, ruleSet_concat, Multiset.add_cons, ← hargs]
  rw [Prog.sat_congr (hprog w)]
  refine sat_command (fun k' env hk => ?_) (fun _ env => ?_)
  · rw [exec_ruleDelete (by rw [hrules]; exact Multiset.mem_cons_self _ _)] at hk
    obtain rfl := Option.some.inj hk
    have hframe : k.Undisturbed
        { w.kernel with rules := w.kernel.rules.erase (family.argument :: selector) } :=
      ⟨hw.frame.policy, hw.frame.resolvers, hw.frame.gateway, hw.frame.sysctl⟩
    have hlog : (Effect.command ⟨b.tools.ip, family.argument :: "rule" :: "delete" :: selector⟩
        true).failedDeletion = false := by cases family <;> rfl
    refine ⟨⟨rfl, hw.frame, hframe, nofun, rfl⟩, rfl, hw.links, ?_, hframe,
      (Host.failedDeletions_cons hlog).trans hw.deletions⟩
    simp only [hrules, Multiset.erase_cons_head]
  · have hlog : (Effect.command ⟨b.tools.ip, family.argument :: "rule" :: "delete" :: selector⟩
        false).failedDeletion = true := by cases family <;> rfl
    refine ⟨⟨rfl, hw.frame, hw.frame, nofun, rfl⟩, rfl, hw.links, hw.rules, hw.frame, ?_⟩
    rw [Host.failedDeletions_cons_failed hlog, hw.deletions]

/-- Taking the rules back from the last to the first: all of them, or up
to the first deletion that fails. -/
theorem sat_removePolicyRules (hw : Laid k links (rules + b.ruleSet installed) n w) :
    removePolicyRules.Sat (Quiet (b = ·.1) k)
      (fun _ s w' => s = (b, []) ∧ Laid k links rules n w')
      (fun _ s w' => b = s.1 ∧ s.2 ≠ [] ∧ Laid k links (rules + b.ruleSet s.2) (n + 1) w')
      (b, installed) w := by
  rw [removePolicyRules, Prog.sat_bind, Prog.sat_self]
  dsimp only
  -- the induction is on the reversed list, whose head is the rule to delete next
  obtain ⟨rev, rfl⟩ : ∃ rev : List PolicyRule, installed = rev.reverse :=
    ⟨installed.reverse, (List.reverse_reverse _).symm⟩
  rw [List.reverse_reverse]
  induction rev generalizing w with
  | nil =>
      rw [Prog.forEach, Prog.sat_ret]
      simpa using hw
  | cons rule rest ih =>
      rw [List.reverse_cons] at hw ⊢
      rw [Prog.forEach, Prog.sat_seq, Prog.sat_bind]
      refine (sat_removePolicyRule hw).mono (fun _ h => h) ?_ ?_
      · rintro - s₁ w₁ ⟨rfl, hw₁⟩
        rw [Prog.sat_update, List.dropLast_concat]
        exact ih hw₁
      · rintro - s₁ w₁ ⟨rfl, hw₁⟩
        exact ⟨rfl, by simp, hw₁⟩

theorem sat_deleteInterface (hw : Laid k links rules n w) :
    (deleteInterface interface).Sat (Quiet (Eq b) k)
      (fun _ b' w' => b' = b ∧ Laid k (links.erase interface) rules n w')
      (fun _ b' w' => b' = b ∧ Laid k links rules (n + 1) w') b w := by
  rw [deleteInterface, Prog.sat_bind, Prog.sat_self]
  refine sat_command (fun k' env hk => ?_) (fun _ env => ?_)
  · obtain ⟨-, rfl⟩ := Kernel.exec_linkDelete.mp hk
    have hframe : k.Undisturbed (w.kernel.deleteLink interface) :=
      ⟨hw.frame.policy, hw.frame.resolvers, hw.frame.gateway, hw.frame.sysctl⟩
    exact ⟨⟨rfl, hw.frame, hframe, nofun, rfl⟩, rfl, by rw [Kernel.deleteLink, hw.links],
      hw.rules, hframe, (Host.failedDeletions_cons rfl).trans hw.deletions⟩
  · refine ⟨⟨rfl, hw.frame, hw.frame, nofun, rfl⟩, rfl, hw.links, hw.rules, hw.frame, ?_⟩
    rw [Host.failedDeletions_cons_failed rfl, hw.deletions]

/-- What an incomplete rollback leaves in the kernel without a record: the
link, some rules, or both, and a failed deletion in the log. -/
def LeftBehind (k : Kernel) (interface : String) (links : Finset String)
    (rules : Multiset (List String)) (n : Nat) (b : LinuxWireGuardBackend) (w : Host) : Prop :=
  ∃ left links' n', n < n' ∧ (links' = links ∨ links' = insert interface links) ∧
    (left ≠ [] ∨ links' ≠ links) ∧ Laid k links' (rules + b.ruleSet left) n' w

/-- Rollback either restores links and rules, or leaves something behind. -/
theorem sat_rollbackSetup (setupError : TransportError) (hi : interface ∉ links)
    (hw : Laid k (insert interface links) (rules + b.ruleSet installed) n w) :
    (rollbackSetup interface installed setupError).Sat (Quiet (Eq b) k)
      (fun _ b' w' => b' = b ∧
        (Laid k links rules n w' ∨ LeftBehind k interface links rules n b w'))
      (fun _ _ _ => False) b w := by
  have hmem : interface ∈ insert interface links := Finset.mem_insert_self _ _
  have herase : (insert interface links).erase interface = links := Finset.erase_insert hi
  have hne : insert interface links ≠ links := fun h => hi (h ▸ hmem)
  rw [rollbackSetup, Prog.sat_bind, Prog.sat_withLocal]
  refine (sat_removePolicyRules hw).mono (fun _ h => ⟨h.self, h.pre, h.post, h.effect, h.logged⟩) ?_ ?_
  · rintro - s₁ w₁ ⟨rfl, hw₁⟩
    rw [Prog.sat_bind, Prog.sat_attempt]
    refine (sat_deleteInterface hw₁).mono (fun _ h => h) ?_ ?_
    · rintro - b₂ w₂ ⟨rfl, hw₂⟩
      rw [herase] at hw₂
      exact Prog.sat_pure.mpr ⟨rfl, Or.inl hw₂⟩
    · rintro e b₂ w₂ ⟨rfl, hw₂⟩
      refine Prog.sat_pure.mpr ⟨rfl, Or.inr ⟨[], _, n + 1, by omega, Or.inr rfl, Or.inr hne, ?_⟩⟩
      rwa [ruleSet_nil, Multiset.add_zero]
  · rintro e ⟨b', left⟩ w₁ ⟨hb, hleft, hw₁⟩
    obtain rfl : b = b' := hb
    rw [Prog.sat_bind, Prog.sat_attempt]
    refine (sat_deleteInterface hw₁).mono (fun _ h => h) ?_ ?_
    · rintro - b₂ w₂ ⟨rfl, hw₂⟩
      rw [herase] at hw₂
      exact Prog.sat_pure.mpr
        ⟨rfl, Or.inr ⟨left, _, n + 1, by omega, Or.inl rfl, Or.inl hleft, hw₂⟩⟩
    · rintro e' b₂ w₂ ⟨rfl, hw₂⟩
      exact Prog.sat_pure.mpr
        ⟨rfl, Or.inr ⟨left, _, n + 1 + 1, by omega, Or.inr rfl, Or.inl hleft, hw₂⟩⟩

theorem sat_bringUp (interface : String) (profile : WireGuardConfig) (hw : Laid k links rules n w) :
    (bringUp interface profile).Sat (Quiet (Eq b) k)
      (fun _ b' w' => ∃ installed, b.activeInterface = none ∧ interface ∉ links ∧
        b' = { b with activeRules := installed, activeInterface := some interface } ∧
        Laid k (insert interface links) (rules + b.ruleSet installed) n w')
      (fun _ b' w' => b' = b ∧ (Laid k links rules n w' ∨
        b.activeInterface = none ∧ interface ∉ links ∧
          LeftBehind k interface links rules n b w')) b w := by
  have hstill : ∀ {b' w'}, b' = b ∧ Laid k links rules n w' → b' = b ∧
      (Laid k links rules n w' ∨ b.activeInterface = none ∧ interface ∉ links ∧
        LeftBehind k interface links rules n b w') :=
    fun h => ⟨h.1, Or.inl h.2⟩
  rw [bringUp, Prog.sat_bind, Prog.sat_self]
  split
  · exact Prog.sat_fail.mpr ⟨rfl, Or.inl hw⟩
  case isFalse hsome =>
  have hidle : b.activeInterface = none := by simpa using hsome
  refine ((sat_setupCheck rfl hw).mono (fun _ h => h) (fun _ _ _ h => h)
    (fun _ _ _ h => hstill h)).bind ?_
  rintro - b₁ w₁ ⟨rfl, hw₁⟩
  rw [Prog.sat_bind, Prog.sat_self, Prog.sat_bind]
  refine sat_command (fun k' env hk => ?_) (fun _ env => ?_)
  case refine_2 =>
    exact ⟨⟨rfl, hw₁.frame, hw₁.frame, nofun, rfl⟩, hstill ⟨rfl, hw₁.links, hw₁.rules, hw₁.frame,
      (Host.failedDeletions_cons rfl).trans hw₁.deletions⟩⟩
  obtain ⟨hi, rfl⟩ := Kernel.exec_linkAdd.mp hk
  rw [hw₁.links] at hi
  have hframe : k.Undisturbed (w₁.kernel.addLink interface) :=
    ⟨hw₁.frame.policy, hw₁.frame.resolvers, hw₁.frame.gateway, hw₁.frame.sysctl⟩
  have hadded : Laid k (insert interface links) rules n
      ⟨w₁.kernel.addLink interface, env,
        .command ⟨b₁.tools.ip, ["link", "add", "dev", interface, "type", "wireguard"]⟩ true ::
          w₁.log⟩ :=
    ⟨congrArg (insert interface) hw₁.links, hw₁.rules, hframe,
      (Host.failedDeletions_cons rfl).trans hw₁.deletions⟩
  refine ⟨⟨rfl, hw₁.frame, hframe, nofun, rfl⟩, ?_⟩
  rw [Prog.sat_bind, Prog.sat_attempt]
  refine (sat_configure profile hadded).mono (fun _ h => h) ?_ ?_
  · rintro - b₂ w₂ ⟨rfl, hw₂⟩
    have hnone : Laid k (insert interface links) (rules + b₂.ruleSet []) n w₂ := by
      simpa using hw₂
    rw [Prog.sat_bind, Prog.sat_withLocal]
    refine (sat_installRoutes profile hnone).mono
      (fun _ h => ⟨h.self, h.pre, h.post, h.effect, h.logged⟩) ?_ ?_
    · rintro - ⟨b₃, installed⟩ w₃ ⟨hb, hw₃⟩
      obtain rfl : b₂ = b₃ := hb
      exact Prog.sat_update.mpr ⟨installed, hidle, hi, rfl, hw₃⟩
    · rintro e ⟨b₃, installed⟩ w₃ ⟨hb, hw₃⟩
      obtain rfl : b₂ = b₃ := hb
      refine ((sat_rollbackSetup e hi hw₃).mono (fun _ h => h) (fun _ _ _ h => h)
        (fun _ _ _ h => h.elim)).bind ?_
      rintro e' b₄ w₄ ⟨rfl, h⟩
      exact Prog.sat_fail.mpr ⟨rfl, h.imp_right fun h => ⟨hidle, hi, h⟩⟩
  · rintro e b₂ w₂ ⟨rfl, hw₂⟩
    have hnone : Laid k (insert interface links) (rules + b₂.ruleSet []) n w₂ := by
      simpa using hw₂
    refine ((sat_rollbackSetup e hi hnone).mono (fun _ h => h) (fun _ _ _ h => h)
      (fun _ _ _ h => h.elim)).bind ?_
    rintro e' b₄ w₄ ⟨rfl, h⟩
    exact Prog.sat_fail.mpr ⟨rfl, h.imp_right fun h => ⟨hidle, hi, h⟩⟩

theorem sat_bringDown (interface : String) (hw : Laid k links (rules + b.ruleSet b.activeRules) n w) :
    (bringDown interface).Sat (Quiet (Eq { b with activeRules := [] }) k)
      (fun _ b' w' => b.activeInterface = some interface ∧
        b' = { b with activeRules := [], activeInterface := none } ∧
        Laid k (links.erase interface) rules n w')
      (fun _ b' w' => ∃ left n', b' = { b with activeRules := left } ∧
        (b.activeInterface = some interface ∨ left = b.activeRules) ∧
        Laid k links (rules + b.ruleSet left) n' w') b w := by
  rw [bringDown, Prog.sat_bind, Prog.sat_self]
  split
  · exact Prog.sat_fail.mpr ⟨_, _, rfl, Or.inr rfl, hw⟩
  case isFalse hactive =>
  have hactive : b.activeInterface = some interface := not_ne_iff.mp hactive
  rw [Prog.sat_bind, Prog.sat_update, Prog.sat_bind, Prog.sat_withLocal]
  refine (sat_removePolicyRules (b := { b with activeRules := [] }) hw).mono
    (fun _ h => ⟨h.self, h.pre, h.post, h.effect, h.logged⟩) ?_ ?_
  · rintro - s₁ w₁ ⟨rfl, hw₁⟩
    refine ((sat_deleteInterface hw₁).mono (fun _ h => h) (fun _ _ _ h => h) ?_).bind ?_
    · rintro - b₂ w₂ ⟨rfl, hw₂⟩
      exact ⟨[], n + 1, rfl, Or.inl hactive, by rwa [ruleSet_nil, Multiset.add_zero]⟩
    · rintro - b₂ w₂ ⟨rfl, hw₂⟩
      exact Prog.sat_update.mpr ⟨hactive, rfl, hw₂⟩
  · rintro e ⟨b₁, left⟩ w₁ ⟨hb, -, hw₁⟩
    obtain rfl : { b with activeRules := [] } = b₁ := hb
    rw [Prog.sat_bind, Prog.sat_update, Prog.sat_fail]
    exact ⟨left, n + 1, rfl, Or.inl hactive, hw₁⟩

/-- Whether or not there was such a rule, nothing else changes. -/
theorem exec_ruleDelete_frame {k k' : Kernel} {family : AddressFamily} {selector : List String}
    (h : k.exec (family.argument :: "rule" :: "delete" :: selector) = some k') :
    k'.links = k.links ∧ k'.routes = k.routes := by
  have hexec : k.exec (family.argument :: "rule" :: "delete" :: selector) =
      if family.argument :: selector ∈ k.rules then
        some { k with rules := k.rules.erase (family.argument :: selector) }
      else none := by
    cases family <;> rfl
  rw [hexec] at h
  split at h
  · obtain rfl := Option.some.inj h
    exact ⟨rfl, rfl⟩
  · cases h

/-- The link is the last thing a teardown deletes: whenever it issues a
command, the links are still as they were. -/
theorem sat_bringDown_links :
    (bringDown interface).Sat (fun e => e.pre.kernel.links = w.kernel.links)
      (fun _ _ _ => True) (fun _ _ _ => True) b w := by
  rw [bringDown, Prog.sat_bind, Prog.sat_self]
  split
  · exact Prog.sat_fail.mpr trivial
  rw [Prog.sat_bind, Prog.sat_update, Prog.sat_bind, Prog.sat_withLocal, removePolicyRules,
    Prog.sat_bind, Prog.sat_self]
  refine (Prog.sat_forEach (J := fun _ w' => w'.kernel.links = w.kernel.links)
    (E := fun _ _ _ => True) ?_ rfl).mono (fun _ h => h) ?_ ?_
  · rintro rule - s₁ w₁ hlinks
    obtain ⟨family, selector, -, hprog⟩ := removePolicyRule_eq s₁ rule
    rw [Prog.sat_bind, Prog.sat_congr (hprog w₁)]
    refine sat_command (fun k' env hk => ⟨hlinks, ?_⟩) (fun _ env => ⟨hlinks, trivial⟩)
    exact Prog.sat_update.mpr ((exec_ruleDelete_frame hk).1.trans hlinks)
  · rintro - s₁ w₁ hlinks
    rw [Prog.sat_bind, deleteInterface, Prog.sat_bind, Prog.sat_self]
    exact sat_command (fun _ _ _ => ⟨hlinks, Prog.sat_update.mpr trivial⟩)
      (fun _ _ => ⟨hlinks, trivial⟩)
  · rintro e s₁ w₁ -
    rw [Prog.sat_bind, Prog.sat_update, Prog.sat_fail]
    trivial

/-- A health probe reads. -/
theorem sat_health (now : Nat) :
    (health now).Sat
      (fun e => e.self = b ∧ e.pre.kernel = w.kernel ∧ e.post.kernel = w.kernel ∧
        ∀ rules ok, e.effect ≠ .transaction rules ok)
      (fun _ b' w' => (∃ m, b' = { b with healthFailures := m }) ∧ w'.kernel = w.kernel)
      (fun _ _ _ => False) b w := by
  rw [health, Prog.sat_bind, Prog.sat_self]
  split
  · exact Prog.sat_pure.mpr ⟨⟨b.healthFailures, rfl⟩, rfl⟩
  rw [Prog.sat_bind, Prog.sat_attempt]
  refine sat_output (fun k' env out hk => ?_) (fun _ env => ?_)
  · obtain rfl := Kernel.exec_show hk
    refine ⟨⟨rfl, rfl, rfl, nofun⟩, ?_⟩
    rw [Prog.sat_bind, Prog.sat_update]
    exact Prog.sat_pure.mpr ⟨⟨0, rfl⟩, rfl⟩
  · refine ⟨⟨rfl, rfl, rfl, nofun⟩, ?_⟩
    rw [Prog.sat_bind, Prog.sat_update, Prog.sat_bind, Prog.sat_self]
    exact Prog.sat_pure.mpr ⟨⟨_, rfl⟩, rfl⟩

end Specs

/-! ## Teardown in a calm environment -/

section Calm

variable {b : LinuxWireGuardBackend} {w : Host} {rules : Multiset (List String)}
  {installed : List PolicyRule} {interface : String}

theorem sat_removePolicyRules_calm (hcalm : w.env = .calm)
    (hrules : w.kernel.rules = rules + b.ruleSet installed) :
    removePolicyRules.Sat (fun _ => True)
      (fun _ s w' => s = (b, []) ∧ w'.env = .calm ∧
        w'.kernel = { w.kernel with rules := rules })
      (fun _ _ _ => False) (b, installed) w := by
  rw [removePolicyRules, Prog.sat_bind, Prog.sat_self]
  dsimp only
  obtain ⟨rev, rfl⟩ : ∃ rev : List PolicyRule, installed = rev.reverse :=
    ⟨installed.reverse, (List.reverse_reverse _).symm⟩
  rw [List.reverse_reverse]
  induction rev generalizing w with
  | nil =>
      have hr : w.kernel.rules = rules := by simpa using hrules
      rw [Prog.forEach, Prog.sat_ret]
      exact ⟨rfl, hcalm, by rw [← hr]⟩
  | cons rule rest ih =>
      obtain ⟨family, selector, hargs, hprog⟩ :=
        removePolicyRule_eq (b, (rule :: rest).reverse) rule
      rw [List.reverse_cons, ruleSet_concat, Multiset.add_cons] at hrules
      rw [Prog.forEach, Prog.sat_seq, Prog.sat_bind, Prog.sat_congr (hprog w)]
      have hmem : family.argument :: selector ∈ w.kernel.rules := by
        rw [hrules, ← hargs]
        exact Multiset.mem_cons_self _ _
      refine sat_command_calm hcalm (exec_ruleDelete hmem) fun log => ?_
      rw [Prog.sat_update, List.reverse_cons, List.dropLast_concat]
      have herase : w.kernel.rules.erase (family.argument :: selector)
          = rules + b.ruleSet rest.reverse := by
        rw [hrules, ← hargs, Multiset.erase_cons_head]
      exact ih rfl herase

/-- With the interface recorded and in the kernel, one call takes down the
rules and the link. -/
theorem sat_bringDown_calm (hcalm : w.env = .calm)
    (hactive : b.activeInterface = some interface) (hi : interface ∈ w.kernel.links)
    (hrules : w.kernel.rules = rules + b.ruleSet b.activeRules) :
    (bringDown interface).Sat (fun _ => True)
      (fun _ b' w' => b' = { b with activeRules := [], activeInterface := none } ∧
        w'.env = .calm ∧
        w'.kernel = Kernel.deleteLink { w.kernel with rules := rules } interface)
      (fun _ _ _ => False) b w := by
  rw [bringDown, Prog.sat_bind, Prog.sat_self, if_neg (not_ne_iff.mpr hactive), Prog.sat_bind,
    Prog.sat_update, Prog.sat_bind, Prog.sat_withLocal]
  refine (sat_removePolicyRules_calm (b := { b with activeRules := [] }) hcalm hrules).mono
    (fun _ _ => trivial) ?_ (fun _ _ _ h => h.elim)
  rintro - s₁ w₁ ⟨rfl, hcalm₁, hk₁⟩
  rw [Prog.sat_bind, deleteInterface, Prog.sat_bind, Prog.sat_self]
  have hdel : w₁.kernel.exec ["link", "delete", "dev", interface]
      = some (w₁.kernel.deleteLink interface) := by
    refine Kernel.exec_linkDelete.mpr ⟨?_, rfl⟩
    rw [hk₁]
    exact hi
  refine sat_command_calm hcalm₁ hdel fun log => ?_
  rw [Prog.sat_update]
  exact ⟨rfl, rfl, by rw [hk₁]⟩

end Calm

end LinuxWireGuardBackend

end CyberiaVpn.Linux
