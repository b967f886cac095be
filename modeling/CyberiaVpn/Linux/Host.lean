import Mathlib.Data.Finset.Basic
import Mathlib.Data.Multiset.AddSub
import CyberiaVpn.Effects.Prog
import CyberiaVpn.Killswitch.State
import CyberiaVpn.Linux.Paths

/-!
# The Linux host

What lies behind the process boundary of `core/transport/src/linux.rs`
and `core/killswitch/src/linux.rs`. A command is an argument vector; the
`Kernel` interprets the vectors the backends emit: links, policy rules,
routes, WireGuard peers, per-link resolver state, the two nftables tables
and the forwarding switches. A command that fails has no effect.

Which calls fail is the environment's choice (`Env`), one answer per
command, per nftables transaction and per `ConnectContext::check`; when
an answer list runs out, the remaining calls succeed. On top of that the
kernel refuses what it cannot do: adding a link that exists, or anything
about a link or a rule that does not.

The host keeps a log of everything it was asked to do, newest first.
-/

namespace CyberiaVpn.Linux

open Effects Transport Killswitch

structure CommandSpec where
  program : PathBuf
  arguments : List String
  deriving DecidableEq

/-- Comma-separated words, as `wg` takes its allowed IPs. -/
def joinComma (words : List String) : String :=
  String.ofList (List.intercalate [','] (words.map String.toList))

def splitComma (text : String) : List String :=
  (text.toList.splitOn ',').map String.ofList

/-! ## Kernel state -/

/-- Resolver settings of one link; the default is a link nobody touched. -/
structure ResolverState where
  servers : List String := []
  domain : Option String := none
  defaultRoute : Option String := none
  deriving DecidableEq, Inhabited

/-- A policy rule is its family flag and its selector; a route is keyed by
its family flag and prefix, outside the main table by the table as well,
and leads to a device. -/
structure Kernel where
  links : Finset String
  rules : Multiset (List String)
  routes : List String → Option String
  peers : String → String → Option (Finset String)
  resolvers : String → ResolverState
  policy : TrafficPolicy
  gateway : Option String
  sysctl : String → List UInt8

namespace Kernel

variable (k : Kernel)

/-- A command about a link the kernel does not have is refused. -/
def onLink (i : String) (next : Kernel) : Option Kernel :=
  if i ∈ k.links then some next else none

/-- A new link has no peers. -/
def addLink (i : String) : Kernel :=
  { k with
    links := insert i k.links
    peers := fun j => if j = i then fun _ => none else k.peers j }

/-- Deleting a link takes its routes and peers with it. Its resolver
settings are the resolver daemon's, and stay. -/
def deleteLink (i : String) : Kernel :=
  { k with
    links := k.links.erase i
    routes := fun key => (k.routes key).filter (· ≠ i)
    peers := fun j => if j = i then fun _ => none else k.peers j }

def setRoute (key : List String) (i : String) : Kernel :=
  { k with routes := fun key' => if key' = key then some i else k.routes key' }

/-- A peer's routes are moved away from whichever peer held them. -/
def setPeer (i key : String) (allowed : Finset String) : Kernel :=
  { k with peers := fun j key' =>
      if j = i then
        if key' = key then some allowed else (k.peers i key').map (· \ allowed)
      else k.peers j key' }

def removePeer (i key : String) : Kernel :=
  { k with peers := fun j key' => if j = i ∧ key' = key then none else k.peers j key' }

def setResolver (i : String) (f : ResolverState → ResolverState) : Kernel :=
  { k with resolvers := fun j => if j = i then f (k.resolvers i) else k.resolvers j }

/-- `wg set <link> ...`, the part after the link. -/
def execWg (i : String) : List String → Kernel
  | "private-key" :: _ :: rest => execWg i rest
  | "listen-port" :: _ :: rest => execWg i rest
  | "fwmark" :: _ :: rest => execWg i rest
  | ["peer", key, "remove"] => k.removePeer i key
  | "peer" :: key :: "endpoint" :: _ :: "allowed-ips" :: allowed :: _ =>
      k.setPeer i key (splitComma allowed).toFinset
  | "peer" :: key :: "allowed-ips" :: allowed :: _ =>
      k.setPeer i key (splitComma allowed).toFinset
  | _ => k

/-- A route's key. The main table, which `ip` means when it is told none,
is number 254. -/
def routeKey (family target table : String) : List String :=
  if table = "254" then [family, target] else [family, target, table]

/-- `ip -4 ...` and `ip -6 ...`, the part after the family flag. -/
def execFamily (family : String) : List String → Option Kernel
  | ["route", "replace", target, "dev", i] => k.onLink i (k.setRoute [family, target] i)
  | ["route", "replace", target, "dev", i, "table", table] =>
      k.onLink i (k.setRoute (routeKey family target table) i)
  | "rule" :: "add" :: selector => some { k with rules := (family :: selector) ::ₘ k.rules }
  | "rule" :: "delete" :: selector =>
      if family :: selector ∈ k.rules then
        some { k with rules := k.rules.erase (family :: selector) }
      else none
  | _ => none

/-- The effect of one argument vector; `none` when the kernel refuses. The
first word tells `ip`, `wg`, `resolvectl` and `sysctl` apart. -/
def exec : List String → Option Kernel
  | ["link", "add", "dev", i, "type", "wireguard"] =>
      if i ∈ k.links then none else some (k.addLink i)
  | ["link", "delete", "dev", i] => k.onLink i (k.deleteLink i)
  | ["link", "set", "dev", i, "mtu", _, "up"] => k.onLink i k
  | ["address", "add", _, "dev", i] => k.onLink i k
  | "-4" :: rest => k.execFamily "-4" rest
  | "-6" :: rest => k.execFamily "-6" rest
  | "set" :: i :: rest => k.onLink i (k.execWg i rest)
  | ["show", i, "latest-handshakes"] => k.onLink i k
  | "dns" :: i :: servers => k.onLink i (k.setResolver i ({ · with servers }))
  | ["domain", i, domain] => k.onLink i (k.setResolver i ({ · with domain := some domain }))
  | ["default-route", i, flag] =>
      k.onLink i (k.setResolver i ({ · with defaultRoute := some flag }))
  | ["revert", i] => k.onLink i (k.setResolver i fun _ => {})
  | ["-n", _] => some k
  | _ => none

/-- Standard output: `sysctl` prints the switch, anything else prints what
the environment says. -/
def stdout (arguments : List String) (out : List UInt8) : List UInt8 :=
  match arguments with
  | ["-n", key] => k.sysctl key
  | _ => out

/-- `nft --file -` on the node's table: the deletion of the table, or rules
added to it. -/
def load (text : String) : Option Kernel :=
  if text = "delete table inet cyberia_vpn_node\n" then
    if k.gateway.isSome then some { k with gateway := none } else none
  else some { k with gateway := some (k.gateway.getD "" ++ text) }

/-- The link does not exist, and no resolver settings are kept for it. -/
def Absent (i : String) : Prop := i ∉ k.links ∧ k.resolvers i = {}

end Kernel

/-! ## Environment and host -/

/-- Why `ConnectContext::check` stops an attempt. -/
inductive Interruption where
  | cancelled | expired
  deriving DecidableEq

def Interruption.error : Interruption → TransportError
  | cancelled => .cancelled
  | expired => .timedOut

inductive NftablesError where
  | invalidInterface
  | invalidExecutable
  | command (reason : String)
  deriving DecidableEq

def NftablesError.display : NftablesError → String
  | invalidInterface => "invalid nftables tunnel interface"
  | invalidExecutable => "invalid nftables executable"
  | command reason => s!"nftables command failed: {reason}"

/-- The answers still to come: each command's output or error, each
transaction's and each check's verdict. -/
structure Env where
  commands : List (Except TransportError (List UInt8)) := []
  transactions : List (Option NftablesError) := []
  checks : List (Option Interruption) := []

/-- Nothing fails from here on. -/
def Env.calm : Env := {}

inductive Effect where
  | command (spec : CommandSpec) (ok : Bool)
  | input (spec : CommandSpec) (text : String) (ok : Bool)
  | transaction (rules : String) (ok : Bool)
  | check (ok : Bool)
  deriving DecidableEq

structure Host where
  kernel : Kernel
  env : Env
  log : List Effect

namespace Host

/-- The verdict on one command that would take the kernel to `next`. -/
def answer (w : Host) (label : Bool → Effect) (next : Option Kernel) :
    Effect × Except TransportError (List UInt8) × Host :=
  let env := { w.env with commands := w.env.commands.tail }
  match w.env.commands.headD (.ok []), next with
  | .ok out, some k => (label true, .ok out, ⟨k, env, label true :: w.log⟩)
  | .ok _, none =>
      (label false, .error (.network "platform command exited with exit status: 2"),
        ⟨w.kernel, env, label false :: w.log⟩)
  | .error e, _ => (label false, .error e, ⟨w.kernel, env, label false :: w.log⟩)

end Host

variable {σ : Type}

/-- `CommandRunner::output`. -/
def output (program : PathBuf) (arguments : List String) :
    Prog σ Host Effect TransportError (List UInt8) :=
  Prog.effect fun w =>
    let (label, result, w') :=
      w.answer (.command ⟨program, arguments⟩) (w.kernel.exec arguments)
    (label, result.map (w.kernel.stdout arguments), w')

/-- `CommandRunner::run`. -/
def command (program : PathBuf) (arguments : List String) :
    Prog σ Host Effect TransportError Unit := do
  let _ ← output program arguments

/-- `CommandRunner::input`, fed to `nft --file -`. -/
def input (program : PathBuf) (arguments : List String) (text : String) :
    Prog σ Host Effect TransportError Unit :=
  Prog.effect fun w =>
    let (label, result, w') :=
      w.answer (.input ⟨program, arguments⟩ text) (w.kernel.load text)
    (label, result.map fun _ => (), w')

/-- `NftablesRunner::apply` of the rendering of `policy`: one transaction,
accepted as a whole or not at all. -/
def transaction (policy : TrafficPolicy) (rules : String) :
    Prog σ Host Effect NftablesError Unit :=
  Prog.effect fun w =>
    let env := { w.env with transactions := w.env.transactions.tail }
    match w.env.transactions.headD none with
    | none =>
        (.transaction rules true, .ok (),
          ⟨{ w.kernel with policy := policy }, env, .transaction rules true :: w.log⟩)
    | some e =>
        (.transaction rules false, .error e,
          ⟨w.kernel, env, .transaction rules false :: w.log⟩)

/-- `ConnectContext::check`. -/
def check : Prog σ Host Effect TransportError Unit :=
  Prog.effect fun w =>
    let env := { w.env with checks := w.env.checks.tail }
    match w.env.checks.headD none with
    | none => (.check true, .ok (), ⟨w.kernel, env, .check true :: w.log⟩)
    | some why =>
        (.check false, .error why.error, ⟨w.kernel, env, .check false :: w.log⟩)

/-! ## Rules for the primitives

One rule for a call that may fail, quantified over the environment, and
one for a calm environment, where only the kernel can refuse. -/

section Rules

variable {I : Entry σ Host Effect → Prop} {s : σ} {w : Host} {program : PathBuf}
  {arguments : List String}

theorem sat_output {Q : List UInt8 → σ → Host → Prop} {E : TransportError → σ → Host → Prop}
    (hok : ∀ k env out, w.kernel.exec arguments = some k →
      let w' : Host := ⟨k, env, .command ⟨program, arguments⟩ true :: w.log⟩
      I ⟨s, w, .command ⟨program, arguments⟩ true, w'⟩ ∧ Q out s w')
    (herr : ∀ e env,
      let w' : Host := ⟨w.kernel, env, .command ⟨program, arguments⟩ false :: w.log⟩
      I ⟨s, w, .command ⟨program, arguments⟩ false, w'⟩ ∧ E e s w') :
    (output program arguments).Sat I Q E s w := by
  simp only [output, Prog.sat_effect, Host.answer]
  cases hans : w.env.commands.headD (.ok []) with
  | error e => exact herr e _
  | ok out =>
      cases hk : w.kernel.exec arguments with
      | some k => exact hok k _ _ hk
      | none => exact herr _ _

theorem sat_command {Q : Unit → σ → Host → Prop} {E : TransportError → σ → Host → Prop}
    (hok : ∀ k env, w.kernel.exec arguments = some k →
      let w' : Host := ⟨k, env, .command ⟨program, arguments⟩ true :: w.log⟩
      I ⟨s, w, .command ⟨program, arguments⟩ true, w'⟩ ∧ Q () s w')
    (herr : ∀ e env,
      let w' : Host := ⟨w.kernel, env, .command ⟨program, arguments⟩ false :: w.log⟩
      I ⟨s, w, .command ⟨program, arguments⟩ false, w'⟩ ∧ E e s w') :
    (command program arguments).Sat I Q E s w := by
  rw [command, Prog.sat_bind]
  refine sat_output (fun k env out hk => ?_) herr
  exact ⟨(hok k env hk).1, Prog.sat_pure.mpr (hok k env hk).2⟩

theorem sat_input {text : String} {Q : Unit → σ → Host → Prop}
    {E : TransportError → σ → Host → Prop}
    (hok : ∀ k env, w.kernel.load text = some k →
      let w' : Host := ⟨k, env, .input ⟨program, arguments⟩ text true :: w.log⟩
      I ⟨s, w, .input ⟨program, arguments⟩ text true, w'⟩ ∧ Q () s w')
    (herr : ∀ e env,
      let w' : Host := ⟨w.kernel, env, .input ⟨program, arguments⟩ text false :: w.log⟩
      I ⟨s, w, .input ⟨program, arguments⟩ text false, w'⟩ ∧ E e s w') :
    (input program arguments text).Sat I Q E s w := by
  simp only [input, Prog.sat_effect, Host.answer]
  cases hans : w.env.commands.headD (.ok []) with
  | error e => exact herr e _
  | ok out =>
      cases hk : w.kernel.load text with
      | some k => exact hok k _ hk
      | none => exact herr _ _

theorem sat_transaction {policy : TrafficPolicy} {rules : String}
    {Q : Unit → σ → Host → Prop} {E : NftablesError → σ → Host → Prop}
    (hok : ∀ env,
      let w' : Host := ⟨{ w.kernel with policy := policy }, env, .transaction rules true :: w.log⟩
      I ⟨s, w, .transaction rules true, w'⟩ ∧ Q () s w')
    (herr : ∀ e env,
      let w' : Host := ⟨w.kernel, env, .transaction rules false :: w.log⟩
      I ⟨s, w, .transaction rules false, w'⟩ ∧ E e s w') :
    (transaction policy rules).Sat I Q E s w := by
  simp only [transaction, Prog.sat_effect]
  cases hans : w.env.transactions.headD none with
  | none => exact hok _
  | some e => exact herr e _

theorem sat_check {Q : Unit → σ → Host → Prop} {E : TransportError → σ → Host → Prop}
    (hok : ∀ env, let w' : Host := ⟨w.kernel, env, .check true :: w.log⟩
      I ⟨s, w, .check true, w'⟩ ∧ Q () s w')
    (herr : ∀ e env, let w' : Host := ⟨w.kernel, env, .check false :: w.log⟩
      I ⟨s, w, .check false, w'⟩ ∧ E e s w') :
    (check).Sat I Q E s w := by
  simp only [check, Prog.sat_effect]
  cases hans : w.env.checks.headD none with
  | none => exact hok _
  | some why => exact herr _ _

end Rules

section CalmRules

variable {s : σ} {w : Host} {k : Kernel} {program : PathBuf} {arguments : List String}
  {E : TransportError → σ → Host → Prop}

theorem sat_output_calm {Q : List UInt8 → σ → Host → Prop} (hcalm : w.env = .calm)
    (hk : w.kernel.exec arguments = some k)
    (hQ : ∀ log, Q (w.kernel.stdout arguments []) s ⟨k, .calm, log⟩) :
    (output program arguments).Sat (fun _ => True) Q E s w := by
  simp only [output, Prog.sat_effect, Host.answer, hcalm, hk]
  exact ⟨trivial, hQ _⟩

theorem sat_command_calm {Q : Unit → σ → Host → Prop} (hcalm : w.env = .calm)
    (hk : w.kernel.exec arguments = some k) (hQ : ∀ log, Q () s ⟨k, .calm, log⟩) :
    (command program arguments).Sat (fun _ => True) Q E s w := by
  rw [command, Prog.sat_bind]
  exact sat_output_calm hcalm hk fun log => Prog.sat_pure.mpr (hQ log)

theorem sat_input_calm {text : String} {Q : Unit → σ → Host → Prop} (hcalm : w.env = .calm)
    (hk : w.kernel.load text = some k) (hQ : ∀ log, Q () s ⟨k, .calm, log⟩) :
    (input program arguments text).Sat (fun _ => True) Q E s w := by
  simp only [input, Prog.sat_effect, Host.answer, hcalm, hk]
  exact ⟨trivial, hQ _⟩

theorem sat_transaction_calm {policy : TrafficPolicy} {rules : String}
    {Q : Unit → σ → Host → Prop} {E : NftablesError → σ → Host → Prop}
    (hcalm : w.env = .calm)
    (hQ : ∀ log, Q () s ⟨{ w.kernel with policy := policy }, .calm, log⟩) :
    (transaction policy rules).Sat (fun _ => True) Q E s w := by
  simp only [transaction, Prog.sat_effect, hcalm]
  exact ⟨trivial, hQ _⟩

theorem sat_check_calm {Q : Unit → σ → Host → Prop} (hcalm : w.env = .calm)
    (hQ : ∀ log, Q () s ⟨w.kernel, .calm, log⟩) :
    (check).Sat (fun _ => True) Q E s w := by
  simp only [check, Prog.sat_effect, hcalm]
  exact ⟨trivial, hQ _⟩

end CalmRules

/-! ## What the link and routing commands leave alone -/

/-- The traffic policy, the resolvers, the node table and the switches are
the same in both kernels. -/
structure Kernel.Undisturbed (k k' : Kernel) : Prop where
  policy : k'.policy = k.policy
  resolvers : k'.resolvers = k.resolvers
  gateway : k'.gateway = k.gateway
  sysctl : k'.sysctl = k.sysctl

theorem Kernel.Undisturbed.refl (k : Kernel) : k.Undisturbed k := ⟨rfl, rfl, rfl, rfl⟩

theorem Kernel.Undisturbed.trans {k k' k'' : Kernel} (h : k.Undisturbed k')
    (h' : k'.Undisturbed k'') : k.Undisturbed k'' :=
  ⟨h'.policy.trans h.policy, h'.resolvers.trans h.resolvers,
    h'.gateway.trans h.gateway, h'.sysctl.trans h.sysctl⟩

/-- A step that in addition creates and deletes no link and no rule. -/
structure Kernel.SetupStep (k k' : Kernel) : Prop where
  links : k'.links = k.links
  rules : k'.rules = k.rules
  frame : k.Undisturbed k'

namespace Kernel

variable {k k' : Kernel} {i : String}

theorem onLink_eq_some {next : Kernel} :
    k.onLink i next = some k' ↔ i ∈ k.links ∧ k' = next := by
  unfold onLink
  split <;> simp_all [eq_comm]

theorem execWg_step (i : String) : ∀ (rest : List String), k.SetupStep (k.execWg i rest) := by
  intro rest
  fun_induction k.execWg i rest with
  | case1 _ _ ih => exact ih
  | case2 _ _ ih => exact ih
  | case3 _ _ ih => exact ih
  | case4 => exact ⟨rfl, rfl, rfl, rfl, rfl, rfl⟩
  | case5 => exact ⟨rfl, rfl, rfl, rfl, rfl, rfl⟩
  | case6 => exact ⟨rfl, rfl, rfl, rfl, rfl, rfl⟩
  | case7 => exact ⟨rfl, rfl, Undisturbed.refl k⟩

theorem exec_linkAdd :
    k.exec ["link", "add", "dev", i, "type", "wireguard"] = some k' ↔
      i ∉ k.links ∧ k' = k.addLink i := by
  change (if i ∈ k.links then none else some (k.addLink i)) = some k' ↔ _
  split <;> simp_all [eq_comm]

theorem exec_linkDelete :
    k.exec ["link", "delete", "dev", i] = some k' ↔ i ∈ k.links ∧ k' = k.deleteLink i := by
  exact onLink_eq_some

theorem exec_linkUp {mtu : String} (h : k.exec ["link", "set", "dev", i, "mtu", mtu, "up"] = some k') :
    k.SetupStep k' := by
  obtain ⟨-, rfl⟩ := onLink_eq_some.mp h
  exact ⟨rfl, rfl, Undisturbed.refl _⟩

theorem exec_addressAdd {address : String}
    (h : k.exec ["address", "add", address, "dev", i] = some k') : k.SetupStep k' := by
  obtain ⟨-, rfl⟩ := onLink_eq_some.mp h
  exact ⟨rfl, rfl, Undisturbed.refl _⟩

theorem exec_wgSet {rest : List String} (h : k.exec ("set" :: i :: rest) = some k') :
    k.SetupStep k' := by
  obtain ⟨-, rfl⟩ := onLink_eq_some.mp h
  exact execWg_step i rest

theorem exec_show (h : k.exec ["show", i, "latest-handshakes"] = some k') : k' = k := by
  exact (onLink_eq_some.mp h).2

end Kernel

/-- A deletion of a link or of a policy rule that failed. -/
def Effect.failedDeletion : Effect → Bool
  | .command ⟨_, "link" :: "delete" :: _⟩ false => true
  | .command ⟨_, "-4" :: "rule" :: "delete" :: _⟩ false => true
  | .command ⟨_, "-6" :: "rule" :: "delete" :: _⟩ false => true
  | _ => false

def Host.failedDeletions (w : Host) : Nat := w.log.countP Effect.failedDeletion

/-- The kernel has exactly these links and rules, is otherwise undisturbed
since `k`, and so many deletions have failed so far. -/
structure Laid (k : Kernel) (links : Finset String) (rules : Multiset (List String)) (n : Nat)
    (w : Host) : Prop where
  links : w.kernel.links = links
  rules : w.kernel.rules = rules
  frame : k.Undisturbed w.kernel
  deletions : w.failedDeletions = n

/-- The host as it stands, as a starting point for the specifications. -/
theorem laid_refl (w : Host) : Laid w.kernel w.kernel.links w.kernel.rules w.failedDeletions w :=
  ⟨rfl, rfl, Kernel.Undisturbed.refl _, rfl⟩

/-- An effect other than a policy transaction, issued by a component in
`S`, that leaves the kernel undisturbed since `k`. -/
structure Quiet {σ : Type} (S : σ → Prop) (k : Kernel) (e : Entry σ Host Effect) : Prop where
  self : S e.self
  pre : k.Undisturbed e.pre.kernel
  post : k.Undisturbed e.post.kernel
  effect : ∀ rules ok, e.effect ≠ .transaction rules ok
  logged : e.post.log = e.effect :: e.pre.log

/-- What the log says is what the trace says. -/
theorem failedDeletions_eq {σ : Type} : ∀ {es : List (Entry σ Host Effect)} {w w' : Host},
    Chain w es w' → (∀ e ∈ es, e.post.log = e.effect :: e.pre.log) →
    w'.failedDeletions = w.failedDeletions + (es.map (·.effect)).countP Effect.failedDeletion
  | [], w, w', hchain, _ => by
      obtain rfl : w = w' := hchain
      rfl
  | e :: es, w, w', ⟨hpre, hchain⟩, hlog => by
      have hpost : e.post.failedDeletions
          = e.pre.failedDeletions + if e.effect.failedDeletion then 1 else 0 := by
        rw [Host.failedDeletions, hlog e (List.mem_cons_self ..), List.countP_cons]
        rfl
      rw [failedDeletions_eq hchain fun e' he' => hlog e' (List.mem_cons_of_mem _ he'), hpost,
        ← hpre, List.map_cons, List.countP_cons]
      omega

section Laid

variable {S : σ → Prop} {k : Kernel} {links : Finset String} {rules : Multiset (List String)}
  {n : Nat} {s : σ} {w : Host}

theorem Host.failedDeletions_cons {k' : Kernel} {env : Env} {label : Effect}
    (h : label.failedDeletion = false) :
    (⟨k', env, label :: w.log⟩ : Host).failedDeletions = w.failedDeletions := by
  simp [failedDeletions, h]

theorem Host.failedDeletions_cons_failed {k' : Kernel} {env : Env} {label : Effect}
    (h : label.failedDeletion = true) :
    (⟨k', env, label :: w.log⟩ : Host).failedDeletions = w.failedDeletions + 1 := by
  simp [failedDeletions, h]

/-- A check changes nothing but the environment and the log. -/
theorem sat_setupCheck (hS : S s) (hw : Laid k links rules n w) :
    (check).Sat (Quiet S k) (fun _ s' w' => s' = s ∧ Laid k links rules n w')
      (fun _ s' w' => s' = s ∧ Laid k links rules n w') s w := by
  have hlaid : ∀ env ok, Laid k links rules n ⟨w.kernel, env, .check ok :: w.log⟩ :=
    fun env ok => ⟨hw.links, hw.rules, hw.frame,
      (Host.failedDeletions_cons rfl).trans hw.deletions⟩
  exact sat_check
    (fun env => ⟨⟨hS, hw.frame, hw.frame, nofun, rfl⟩, rfl, hlaid env true⟩)
    (fun _ env => ⟨⟨hS, hw.frame, hw.frame, nofun, rfl⟩, rfl, hlaid env false⟩)

/-- So does a setup command, whether it succeeds or not. -/
theorem sat_setupCommand {program : PathBuf} {arguments : List String}
    (hstep : ∀ k', w.kernel.exec arguments = some k' → w.kernel.SetupStep k')
    (hlabel : (Effect.command ⟨program, arguments⟩ false).failedDeletion = false)
    (hS : S s) (hw : Laid k links rules n w) :
    (command program arguments).Sat (Quiet S k)
      (fun _ s' w' => s' = s ∧ Laid k links rules n w')
      (fun _ s' w' => s' = s ∧ Laid k links rules n w') s w := by
  refine sat_command (fun k' env hk => ?_) (fun _ env => ?_)
  · have hs := hstep k' hk
    have hframe := hw.frame.trans hs.frame
    have hdel : (⟨k', env, .command ⟨program, arguments⟩ true :: w.log⟩ : Host).failedDeletions
        = n :=
      (Host.failedDeletions_cons (by simp [Effect.failedDeletion])).trans hw.deletions
    exact ⟨⟨hS, hw.frame, hframe, nofun, rfl⟩, rfl,
      hs.links.trans hw.links, hs.rules.trans hw.rules, hframe, hdel⟩
  · exact ⟨⟨hS, hw.frame, hw.frame, nofun, rfl⟩, rfl, hw.links, hw.rules, hw.frame,
      (Host.failedDeletions_cons hlabel).trans hw.deletions⟩

end Laid

end CyberiaVpn.Linux
