import CyberiaVpn.Killswitch.ConnectionRuns

/-!
# Giving up a connection

From a reachable state in which the adapter is still connected, does one
undisturbed `disconnect` take everything down? It starts with
`dns.revert`, which refuses when the resolver backend holds nothing. That
is the case after a teardown that got past the resolvers and failed on a
rule or on the link, and after a connect whose tunnel policy was refused
and whose tunnel could not be removed. The tunnel is then up, and no call
will take it down.

`disconnect_tears_down_iff` gives the exact condition. Its second half is
about rules an earlier failed setup left without a record: a teardown
only removes what is recorded.
-/

namespace CyberiaVpn.Killswitch

open Effects Transport Linux

namespace LinuxController

open LinuxWireGuardConnection (tunnel firewall)

variable {i : String} {resolving : Prop} {c : LinuxController} {w : Host}

theorem sat_disconnect_calm {others : Multiset (List String)} (hcalm : w.env = .calm)
    (h : Owned i resolving c w.kernel) (hon : c.transport.connected = true)
    (hrules : w.kernel.rules =
      others + c.transport.backend.ruleSet c.transport.backend.activeRules) :
    (ConnectionController.disconnect tunnel firewall).Sat (fun _ => True)
      (fun _ c' w' => c'.transportMayBeActive = false ∧ c'.policy = .blockNonTunnel ∧
        c'.killSwitch.alwaysOn = c.killSwitch.alwaysOn ∧ w'.env = .calm ∧
        w'.kernel = Kernel.deleteLink
          { w.kernel with policy := .blockNonTunnel, rules := others } i)
      (fun _ _ _ => False) c w := by
  have hlost : c.killSwitch.tunnelLost.policy = .blockNonTunnel :=
    KillSwitch.tunnelLost_policy_of_ne (h.live (h.flag_of_connected hon))
  rw [ConnectionController.disconnect, Prog.sat_bind, Prog.sat_self, Prog.sat_bind,
    Prog.sat_mapError, ConnectionController.onFirewall, Prog.sat_zoom, hlost]
  refine NftablesBackend.sat_firewall_apply_calm hcalm (by rintro _ ⟨⟩) fun log => ?_
  rw [Prog.sat_bind, Prog.sat_update, Prog.sat_bind, Prog.sat_mapError,
    ConnectionController.onTransport, Prog.sat_zoom]
  have hmounted : WireGuardAdapter.Mounted i c.transport
      { w.kernel with policy := .blockNonTunnel } :=
    ⟨h.mounted.name, h.mounted.recorded, h.mounted.link⟩
  refine (WireGuardAdapter.sat_disconnect_calm
    (w := ⟨{ w.kernel with policy := .blockNonTunnel }, .calm, log⟩) rfl hmounted hon hrules).mono
    (fun _ _ => trivial) ?_ (fun _ _ _ h => h)
  rintro - a' w' ⟨henv, hk⟩
  exact Prog.sat_update.mpr
    ⟨rfl, hlost, KillSwitch.tunnelLost_alwaysOn c.killSwitch, henv, hk⟩

theorem sat_disable_calm (hcalm : w.env = .calm) (hflag : c.transportMayBeActive = false)
    (hpolicy : c.policy = .blockNonTunnel) (hoff : c.killSwitch.alwaysOn = false) :
    (ConnectionController.disable firewall).Sat (fun _ => True) (fun _ _ _ => True)
      (fun _ _ _ => False) c w := by
  have hp : c.killSwitch.policy = .blockNonTunnel := hpolicy
  have hdis : c.killSwitch.disable = .ok { c.killSwitch with policy := .disabled } :=
    KillSwitch.disable_eq_ok.mpr ⟨hoff, rfl⟩
  rw [ConnectionController.disable, Prog.sat_bind, Prog.sat_self, if_neg (by simp [hflag]), hp,
    Prog.sat_bind, Prog.sat_mapError, hdis, Prog.sat_liftExcept]
  refine Prog.sat_bind.mpr ?_
  rw [Prog.sat_mapError, ConnectionController.onFirewall, Prog.sat_zoom]
  exact NftablesBackend.sat_firewall_apply_calm hcalm (by rintro _ ⟨⟩) fun _ =>
    Prog.sat_update.mpr trivial

end LinuxController

namespace LinuxWireGuardConnection

variable {c : LinuxWireGuardConnection} {w : Host}

/-- One `disconnect` in which nothing fails any more leaves the rules of
`k`, no link and no resolver settings, behind a blocking firewall that
can then be lifted unless it is always on. -/
structure TearsDown (k : Kernel) (c : LinuxWireGuardConnection) (w : Host) : Prop where
  returned : (disconnect c { w with env := .calm }).result = .ok ()
  rules : (disconnect c { w with env := .calm }).world.kernel.rules = k.rules
  link : c.interface ∉ (disconnect c { w with env := .calm }).world.kernel.links
  resolver : (disconnect c { w with env := .calm }).world.kernel.resolvers c.interface = {}
  policy : (disconnect c { w with env := .calm }).world.kernel.policy = .blockNonTunnel
  disable : c.controller.killSwitch.alwaysOn = false →
    (disable (disconnect c { w with env := .calm }).self
      (disconnect c { w with env := .calm }).world).result = .ok ()

/-- The rules the backend has on record. -/
def recordedRules (c : LinuxWireGuardConnection) : Multiset (List String) :=
  let b := c.controller.transport.backend
  b.ruleSet b.activeRules

theorem sat_disconnect_calm {others : Multiset (List String)} (hcalm : w.env = .calm)
    (h : Resting c w.kernel) (hsome : c.dns.activeInterface = some c.interface)
    (hrules : w.kernel.rules = others + c.recordedRules) :
    disconnect.Sat (fun _ => True)
      (fun _ c' w' => c'.controller.transportMayBeActive = false ∧
        c'.policy = .blockNonTunnel ∧
        c'.controller.killSwitch.alwaysOn = c.controller.killSwitch.alwaysOn ∧ w'.env = .calm ∧
        w'.kernel.rules = others ∧ c.interface ∉ w'.kernel.links ∧
        w'.kernel.resolvers c.interface = {} ∧ w'.kernel.policy = .blockNonTunnel)
      (fun _ _ _ => False) c w := by
  have hon : c.controller.transport.connected = true :=
    h.kept.owned.resolving (by rw [hsome]; exact Option.some_ne_none _)
  rw [disconnect, Prog.sat_bind, Prog.sat_self, Prog.sat_bind, Prog.sat_mapError, onDns,
    Prog.sat_zoom]
  refine (LinuxDnsBackend.sat_revert_calm hcalm hsome (h.kept.owned.mounted.link hon)).mono
    (fun _ h => h) ?_ (fun _ _ _ h => h)
  rintro - d₁ w₁ ⟨rfl, hcalm₁, hk₁⟩
  have honly : OnlyResolver c.interface w.kernel w₁.kernel := ⟨{}, hk₁⟩
  have howned : Owned c.interface True c.controller w₁.kernel :=
    owned_onlyResolver h.kept.owned hon honly
  rw [onController, Prog.sat_zoom]
  refine (LinuxController.sat_disconnect_calm hcalm₁ howned hon
    (honly.rules.trans hrules)).mono (fun _ h => h) ?_ (fun _ _ _ h => h)
  rintro - t₂ w₂ ⟨hflag, hpolicy, halways, hcalm₂, hk₂⟩
  refine ⟨hflag, hpolicy, halways, hcalm₂, ?_, ?_, ?_, ?_⟩ <;> rw [hk₂]
  · rfl
  · exact Finset.notMem_erase _ _
  · simp only [Kernel.deleteLink, hk₁, Kernel.setResolver, if_pos]
  · rfl

theorem tearsDown_of_recorded {k : Kernel} (h : Resting c w.kernel)
    (hsome : c.dns.activeInterface = some c.interface)
    (hrules : w.kernel.rules = k.rules + c.recordedRules) : TearsDown k c w := by
  obtain ⟨_, hr, hflag, hpolicy, halways, hcalm, hrules', hlink, hres, hblock⟩ :=
    (sat_disconnect_calm (w := { w with env := .calm }) rfl h hsome hrules).returned
  refine ⟨hr, hrules', hlink, hres, hblock, fun hoff => ?_⟩
  have hdisable := LinuxController.sat_disable_calm hcalm hflag hpolicy (halways.trans hoff)
  obtain ⟨_, hr', -⟩ := hdisable.returned
  exact hr'

theorem recorded_of_tearsDown {k : Kernel} (h : Resting c w.kernel) (ht : TearsDown k c w) :
    c.dns.activeInterface = some c.interface ∧ w.kernel.rules = k.rules + c.recordedRules := by
  have hsome : c.dns.activeInterface = some c.interface := by
    by_contra hne
    -- `revert` refuses, so the call failed
    have hfail : disconnect.Sat (fun _ => True) (fun _ _ _ => False) (fun _ _ _ => True) c
        { w with env := .calm } := by
      rw [disconnect, Prog.sat_bind, Prog.sat_self, Prog.sat_bind, Prog.sat_mapError, onDns,
        Prog.sat_zoom, LinuxDnsBackend.revert, Prog.sat_bind, Prog.sat_self, if_pos hne,
        Prog.sat_fail]
      trivial
    rcases hfail.result with ⟨_, -, hfalse⟩ | ⟨e, hr, -⟩
    · exact hfalse
    · rw [ht.returned] at hr
      cases hr
  obtain ⟨others, hrules⟩ := h.kept.rested.rules
  obtain ⟨_, -, -, -, -, -, hrules', -⟩ :=
    (sat_disconnect_calm (w := { w with env := .calm }) rfl h hsome hrules).returned
  rw [ht.rules] at hrules'
  exact ⟨hsome, by rw [hrules']; exact hrules⟩

/-- In every reachable state, whatever the adapter's flag says, an
undisturbed `disconnect` takes everything down exactly when the resolver
backend still holds the link and every rule added since construction is
on record. -/
theorem disconnect_tears_down_iff (files : FileSystem) (settings : LinuxConnectionSettings)
    (w : Host) (c : LinuxWireGuardConnection) (habsent : w.kernel.Absent settings.interface)
    (hnew : (withRunners files settings () w).result = .ok c) (calls : List Call) :
    let run := (Prog.session (δ := Empty) Call.run calls) c
      (withRunners files settings () w).world
    TearsDown w.kernel run.self run.world ↔ run.self.dns.needsRevert = true ∧
      run.world.kernel.rules = w.kernel.rules + run.self.recordedRules := by
  intro run
  obtain ⟨-, hrest⟩ := resting_run habsent hnew calls
  constructor
  · intro ht
    obtain ⟨hsome, hrules⟩ := recorded_of_tearsDown hrest ht
    exact ⟨Option.isSome_iff_exists.mpr ⟨_, hsome⟩, hrules⟩
  · rintro ⟨hneeds, hrules⟩
    obtain ⟨j, hsome⟩ := Option.isSome_iff_exists.mp hneeds
    rw [hrest.dns j hsome] at hsome
    exact tearsDown_of_recorded hrest hsome hrules

/-- A connect that goes through, and a disconnect that reverts the
resolvers and then cannot delete the link. -/
def exampleStuckHost : Host where
  kernel := LinuxWireGuardBackend.exampleKernel
  env := { commands := List.replicate 9 (.ok []) ++ [.error (.network "ip failed")] }
  log := []

def exampleStuck (calls : List Call) : Outcome LinuxWireGuardConnection Host Effect Empty Unit :=
  (Prog.session Call.run calls) exampleConnection
    (withRunners exampleFiles exampleSettings () exampleStuckHost).world

/-- Before that disconnect, one undisturbed call would have done. -/
theorem disconnect_tears_down_connected :
    (exampleStuck [.connect]).self.connected = true ∧
      TearsDown LinuxWireGuardBackend.exampleKernel (exampleStuck [.connect]).self
        (exampleStuck [.connect]).world :=
  ⟨by decide +kernel,
    (disconnect_tears_down_iff exampleFiles exampleSettings exampleStuckHost exampleConnection
      ⟨by decide, rfl⟩ rfl [.connect]).mpr ⟨by decide +kernel, by decide +kernel⟩⟩

/-- After it the tunnel is up and cannot be taken down. -/
theorem disconnect_stuck_after_revert :
    (withRunners exampleFiles exampleSettings () exampleStuckHost).result = .ok exampleConnection ∧
      (exampleStuck [.connect, .disconnect]).self.connected = true ∧
      ¬TearsDown LinuxWireGuardBackend.exampleKernel (exampleStuck [.connect, .disconnect]).self
        (exampleStuck [.connect, .disconnect]).world := by
  refine ⟨rfl, by decide +kernel, fun ht => ?_⟩
  have hrest : Resting (exampleStuck [.connect, .disconnect]).self
      (exampleStuck [.connect, .disconnect]).world.kernel :=
    (resting_run (w := exampleStuckHost) ⟨by decide, rfl⟩ rfl [.connect, .disconnect]).2
  have hsome := (recorded_of_tearsDown hrest ht).1
  revert hsome
  decide +kernel

end LinuxWireGuardConnection

end CyberiaVpn.Killswitch
