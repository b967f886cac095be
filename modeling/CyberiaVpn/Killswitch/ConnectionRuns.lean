import CyberiaVpn.Killswitch.Connection
import CyberiaVpn.Linux.BackendRuns

/-!
# Runs of the managed connection

A run starts from `withRunners`, while the configured link does not exist,
and goes on with any sequence of calls; every command, transaction and
check may fail. `Resting` is the invariant between two calls. From it
follows what the kill switch is for: at no instant is traffic unfiltered
while the tunnel's link or its resolver settings are in the kernel.
-/

namespace CyberiaVpn.Killswitch

open Effects Transport Linux

namespace LinuxWireGuardConnection

def connected (c : LinuxWireGuardConnection) : Bool := c.controller.transport.connected

inductive Call where
  | connect | disconnect | disable
  | health (now : Nat)

def Call.run : Call → ConnectionM ConnectionError Unit
  | .connect => do let _ ← LinuxWireGuardConnection.connect
  | .disconnect => LinuxWireGuardConnection.disconnect
  | .disable => LinuxWireGuardConnection.disable
  | .health now => do let _ ← (LinuxWireGuardConnection.health now).mapError Empty.elim

/-- The flags, the recorded policy and the kernel at an instant when the
connection is about to act, or has finished. -/
structure Settled (c : LinuxWireGuardConnection) (k : Kernel) : Prop where
  enforced : k.policy = c.policy
  safe : Safe c.interface c.controller k
  resolver : c.dns.activeInterface ≠ none → c.connected = true
  recorded : c.connected = true ↔
    c.controller.transport.backend.activeInterface = some c.interface
  link : c.connected = true → c.interface ∈ k.links
  flag : c.connected = true → c.controller.transportMayBeActive = true

/-- Around one effect: settled before it, and safe right after it. The
policies part only in the window of an accepted transaction. -/
structure FailSecure (e : Entry LinuxWireGuardConnection Host Effect) : Prop where
  before : Settled e.self e.pre.kernel
  after : Safe e.self.interface e.self.controller e.post.kernel
  window : e.post.kernel.policy = e.self.policy ∨ ∃ rules, e.effect = .transaction rules true

/-- The invariant between two calls. -/
structure Resting (c : LinuxWireGuardConnection) (k : Kernel) : Prop where
  kept : LinuxController.Kept c.interface (c.dns.activeInterface ≠ none) c.controller k
  dns : ∀ j, c.dns.activeInterface = some j → j = c.interface
  clear : c.dns.activeInterface = none → k.resolvers c.interface = {}

section

variable {c : LinuxWireGuardConnection} {k k' : Kernel}

theorem settled_of_owned
    (h : Owned c.interface (c.dns.activeInterface ≠ none) c.controller k) : Settled c k := by
  refine ⟨h.policy, h.safe, h.resolving, ?_, h.mounted.link, h.flag_of_connected⟩
  rw [connected, h.mounted.recorded]
  split
  · next hon => simp [hon]
  · next hoff => simp [hoff]

theorem failSecure_of_watched {e : Entry LinuxWireGuardConnection Host Effect}
    (h : Watched e.self.interface (e.self.dns.activeInterface ≠ none)
      ⟨e.self.controller, e.pre, e.effect, e.post⟩) : FailSecure e :=
  ⟨settled_of_owned h.before, h.after, h.window⟩

theorem Resting.settled (h : Resting c k) : Settled c k := settled_of_owned h.kept.owned

/-- A connected tunnel stays owned when only its resolvers change. -/
theorem owned_onlyResolver {i : String} {R R' : Prop} {t : LinuxController}
    (h : Owned i R t k) (hon : t.transport.connected = true) (hk : OnlyResolver i k k') :
    Owned i R' t k' where
  mounted := ⟨h.mounted.name, h.mounted.recorded, fun hc => by rw [hk.links]; exact h.mounted.link hc⟩
  policy := hk.policy.trans h.policy
  resolving := fun _ => hon
  idle := fun hf => by rw [h.flag_of_connected hon] at hf; cases hf
  live := h.live
  tunnel := h.tunnel

theorem kept_onlyResolver {i : String} {R R' : Prop} {t : LinuxController}
    (h : LinuxController.Kept i R t k) (hon : t.transport.connected = true)
    (hk : OnlyResolver i k k') : LinuxController.Kept i R' t k' :=
  ⟨owned_onlyResolver h.owned hon hk, h.rested.of_kernel hk.links hk.rules⟩

/-- An effect of the resolver backend beside a connected tunnel. -/
theorem failSecure_of_onResolver {R : Prop} {d : LinuxDnsBackend}
    {e : Entry LinuxDnsBackend Host Effect} (h : Owned c.interface R c.controller k)
    (hon : c.controller.transport.connected = true)
    (he : LinuxDnsBackend.OnResolver d c.interface k e) :
    FailSecure ⟨{ c with dns := e.self }, e.pre, e.effect, e.post⟩ := by
  have hpost : Owned c.interface True c.controller e.post.kernel :=
    owned_onlyResolver h hon he.post
  exact ⟨settled_of_owned (c := { c with dns := e.self }) (owned_onlyResolver h hon he.pre),
    hpost.safe, Or.inl hpost.policy⟩

end

section Calls

variable {c : LinuxWireGuardConnection} {w : Host}

/-- A call of the controller, with the resolver backend left alone. -/
theorem sat_onController {ε α : Type} {m : Prog LinuxController Host Effect ε α}
    {Q : α → LinuxController → Host → Prop} {E : ε → LinuxController → Host → Prop}
    (h : m.Sat (Watched c.interface (c.dns.activeInterface ≠ none)) Q E c.controller w) :
    (onController m).Sat FailSecure
      (fun a c' w' => c' = { c with controller := c'.controller } ∧ Q a c'.controller w')
      (fun e c' w' => c' = { c with controller := c'.controller } ∧ E e c'.controller w') c w := by
  rw [onController, Prog.sat_zoom]
  exact h.mono (fun e he => failSecure_of_watched he) (fun _ _ _ h => ⟨rfl, h⟩)
    (fun _ _ _ h => ⟨rfl, h⟩)

theorem resting_of_kept {c' : LinuxWireGuardConnection} {k k' : Kernel} (h : Resting c k)
    (hc : c' = { c with controller := c'.controller })
    (hkept : LinuxController.Kept c.interface (c.dns.activeInterface ≠ none) c'.controller k')
    (hres : k'.resolvers = k.resolvers) : Resting c' k' := by
  rw [hc]
  exact ⟨hkept, h.dns, fun hnone => by rw [hres]; exact h.clear hnone⟩

/-- The tunnel comes down once the resolver backend holds nothing. -/
theorem sat_dropController (h : Resting c w.kernel) (hnone : c.dns.activeInterface = none)
    (hon : c.controller.transport.connected = true) :
    (onController (ConnectionController.disconnect tunnel firewall)).Sat FailSecure
      (fun _ c' w' => Resting c' w'.kernel) (fun _ c' w' => Resting c' w'.kernel) c w :=
  (sat_onController (LinuxController.sat_disconnect h.kept hon (h.clear hnone)
    (fun hsome => hsome hnone))).mono (fun _ h => h)
    (fun _ _ _ ⟨hc, hkept, hres⟩ => resting_of_kept h hc hkept hres)
    (fun _ _ _ ⟨hc, hkept, hres⟩ => resting_of_kept h hc hkept hres)

theorem sat_dropTunnel {dnsError : TransportError} (h : Resting c w.kernel)
    (hnone : c.dns.activeInterface = none) (hon : c.controller.transport.connected = true) :
    (dropTunnel dnsError).Sat FailSecure (fun _ c' w' => Resting c' w'.kernel)
      (fun _ c' w' => Resting c' w'.kernel) c w := by
  rw [dropTunnel, Prog.sat_bind, Prog.sat_attempt]
  exact (sat_dropController h hnone hon).mono (fun _ h => h)
    (fun _ _ _ h => Prog.sat_fail.mpr h) (fun _ _ _ h => Prog.sat_fail.mpr h)

theorem sat_connect (h : Resting c w.kernel) :
    connect.Sat FailSecure (fun _ c' w' => Resting c' w'.kernel)
      (fun _ c' w' => Resting c' w'.kernel) c w := by
  have hclear : c.controller.transport.connected = false → w.kernel.resolvers c.interface = {} := by
    intro hoff
    refine h.clear ?_
    by_contra hsome
    rw [h.kept.owned.resolving hsome] at hoff
    cases hoff
  rw [connect, Prog.sat_bind, Prog.sat_self, Prog.sat_bind]
  refine (sat_onController (LinuxController.sat_connect c.transport h.kept hclear)).mono
    (fun _ h => h) ?_ (fun _ _ _ ⟨hc, hkept, hres⟩ => resting_of_kept h hc hkept hres)
  rintro session c₁ w₁ ⟨hc₁, hoff, hon, -, hkept, hres⟩
  have hrest₁ : Resting c₁ w₁.kernel := resting_of_kept h hc₁ hkept hres
  have hdns : c₁.dns = c.dns := by rw [hc₁]
  have hinterface : c₁.interface = c.interface := by rw [hc₁]
  have hnone : c₁.dns.activeInterface = none := by
    rw [hdns]
    by_contra hsome
    rw [h.kept.owned.resolving hsome] at hoff
    cases hoff
  rw [← hinterface, Prog.sat_bind, Prog.sat_attempt, onDns, Prog.sat_zoom]
  refine (LinuxDnsBackend.sat_configure c.dnsConfig).mono
    (fun e he => failSecure_of_onResolver hrest₁.kept.owned hon he) ?_ ?_
  · rintro - d₂ w₂ ⟨-, rfl, honly⟩
    refine Prog.sat_pure.mpr ⟨kept_onlyResolver hrest₁.kept hon honly, ?_, nofun⟩
    rintro j hj
    exact (Option.some.inj hj).symm
  · rintro dnsError d₂ w₂ ⟨honly, hcase⟩
    have hkept₂ : ∀ R, LinuxController.Kept c₁.interface R c₁.controller w₂.kernel :=
      fun _ => kept_onlyResolver hrest₁.kept hon honly
    rw [Prog.sat_bind, Prog.sat_self]
    rcases hcase with ⟨rfl, hclean⟩ | ⟨-, rfl⟩
    · -- the resolver backend cleaned up after itself
      rw [if_neg (by simp [LinuxDnsBackend.needsRevert, hnone])]
      have hclear₂ : w₂.kernel.resolvers c₁.interface = {} := by
        rcases hclean with hsame | hclean
        · rw [hsame]
          exact hrest₁.clear hnone
        · exact hclean
      exact sat_dropTunnel ⟨hkept₂ _, hrest₁.dns, fun _ => hclear₂⟩ hnone hon
    · -- it could not, and is asked once more
      rw [if_pos (by simp [LinuxDnsBackend.needsRevert]), Prog.sat_bind, Prog.sat_attempt, onDns,
        Prog.sat_zoom]
      have hown : ∀ j, some c₁.interface = some j → j = c₁.interface :=
        fun j hj => (Option.some.inj hj).symm
      refine LinuxDnsBackend.sat_revert.mono
        (fun e he => failSecure_of_onResolver (hkept₂ True).owned hon he) ?_ ?_
      · rintro - d₃ w₃ ⟨-, rfl, honly₃, hclear₃⟩
        exact sat_dropTunnel ⟨kept_onlyResolver (hkept₂ True) hon honly₃, nofun, fun _ => hclear₃⟩ rfl hon
      · rintro e d₃ w₃ ⟨rfl, hk₃⟩
        refine Prog.sat_fail.mpr ⟨?_, hown, nofun⟩
        rw [hk₃]
        exact hkept₂ _

theorem sat_disconnect (h : Resting c w.kernel) :
    disconnect.Sat FailSecure (fun _ c' w' => Resting c' w'.kernel)
      (fun _ c' w' => Resting c' w'.kernel) c w := by
  have hon : c.dns.activeInterface = some c.interface →
      c.controller.transport.connected = true := fun hsome =>
    h.kept.owned.resolving (by rw [hsome]; exact Option.some_ne_none _)
  rw [disconnect, Prog.sat_bind, Prog.sat_self, Prog.sat_bind, Prog.sat_mapError, onDns,
    Prog.sat_zoom]
  by_cases hsome : c.dns.activeInterface = some c.interface
  · refine LinuxDnsBackend.sat_revert.mono
      (fun e he => failSecure_of_onResolver h.kept.owned (hon hsome) he) ?_ ?_
    · rintro - d₁ w₁ ⟨-, rfl, honly, hclear⟩
      exact sat_dropController ⟨kept_onlyResolver h.kept (hon hsome) honly, nofun, fun _ => hclear⟩
        rfl (hon hsome)
    · rintro e d₁ w₁ ⟨rfl, hk⟩
      rw [hk]
      exact h
  · rw [LinuxDnsBackend.revert, Prog.sat_bind, Prog.sat_self, if_pos hsome, Prog.sat_fail]
    exact h

theorem sat_disable (h : Resting c w.kernel) :
    disable.Sat FailSecure (fun _ c' w' => Resting c' w'.kernel)
      (fun _ c' w' => Resting c' w'.kernel) c w :=
  (sat_onController (LinuxController.sat_disable h.kept)).mono (fun _ h => h)
    (fun _ _ _ ⟨hc, hkept, hres⟩ => resting_of_kept h hc hkept hres)
    (fun _ _ _ ⟨hc, hkept, hres⟩ => resting_of_kept h hc hkept hres)

theorem sat_health (now : Nat) (h : Resting c w.kernel) :
    (health now).Sat FailSecure (fun _ c' w' => Resting c' w'.kernel)
      (fun _ _ _ => False) c w :=
  (sat_onController (LinuxController.sat_health now h.kept)).mono (fun _ h => h)
    (fun _ _ _ ⟨hc, hkept, hres⟩ => resting_of_kept h hc hkept hres)
    (fun _ _ _ h => h.2)

theorem sat_call (call : Call) (h : Resting c w.kernel) :
    call.run.Sat FailSecure (fun _ c' w' => Resting c' w'.kernel)
      (fun _ c' w' => Resting c' w'.kernel) c w := by
  cases call with
  | connect =>
      rw [Call.run, Prog.sat_bind]
      exact (sat_connect h).mono (fun _ h => h) (fun _ _ _ h => Prog.sat_pure.mpr h)
        (fun _ _ _ h => h)
  | disconnect => exact sat_disconnect h
  | disable => exact sat_disable h
  | health now =>
      rw [Call.run, Prog.sat_bind, Prog.sat_mapError]
      exact (sat_health now h).mono (fun _ h => h) (fun _ _ _ h => Prog.sat_pure.mpr h)
        (fun _ _ _ h => h.elim)

end Calls

/-! ## Fail-secure runs -/

/-- What `withRunners` returns: every flag down, blocking. -/
def freshConnection (settings : LinuxConnectionSettings) (endpointAddress : IpAddr) :
    LinuxWireGuardConnection where
  controller :=
    { killSwitch := ⟨settings.alwaysOn, .blockNonTunnel⟩
      transport := ⟨settings.interface, settings.profile,
        .fresh settings.tools settings.routingMark, false⟩
      firewall := ⟨⟨endpointAddress, settings.profile.endpoint.port⟩⟩
      transportMayBeActive := false }
  dns := ⟨settings.dnsTools, none⟩
  dnsConfig := settings.dns
  interface := settings.interface
  transport := ⟨.wireGuard, settings.profile.endpoint, settings.connectTimeout⟩

/-- Construction applies the blocking policy and leaves the rest alone. -/
theorem sat_withRunners_fresh (files : FileSystem) (settings : LinuxConnectionSettings)
    {w : Host} :
    (withRunners files settings).Sat (fun _ => True)
      (fun c _ w' => (∃ address, c = freshConnection settings address) ∧
        w'.kernel = { w.kernel with policy := .blockNonTunnel })
      (fun _ _ _ => True) () w := by
  rw [withRunners]
  split
  · exact Prog.sat_fail.mpr trivial
  simp only [Prog.sat_bind, Prog.sat_mapError, Prog.sat_liftExcept]
  split
  case h_2 => trivial
  split
  case h_2 => trivial
  split
  case h_2 => trivial
  case h_1 backend hbackend =>
  split
  case h_2 => trivial
  case h_1 adapter hadapter =>
  split
  case h_2 => trivial
  case h_1 dns hdns =>
  obtain rfl := LinuxWireGuardBackend.new_eq_ok hbackend
  obtain rfl := WireGuardAdapter.new_eq_ok hadapter
  obtain rfl := LinuxDnsBackend.new_eq_ok hdns
  rw [Prog.sat_zoom, ConnectionController.new, Prog.sat_bind]
  refine NftablesBackend.sat_firewall_apply (fun rules env => ⟨trivial, ?_⟩)
    (fun _ _ _ => ⟨trivial, trivial⟩) (fun _ => trivial)
  rw [Prog.sat_bind, Prog.sat_self]
  exact Prog.sat_pure.mpr (Prog.sat_pure.mpr ⟨⟨_, rfl⟩, rfl⟩)

theorem resting_freshConnection {settings : LinuxConnectionSettings} {address : IpAddr}
    {k : Kernel} (habsent : k.Absent settings.interface) :
    Resting (freshConnection settings address) { k with policy := .blockNonTunnel } := by
  refine ⟨⟨⟨⟨rfl, rfl, nofun⟩, rfl, fun hsome => absurd rfl hsome, fun _ => ⟨rfl, habsent⟩, nofun,
    nofun⟩, ⟨rfl, rfl, nofun⟩, fun _ => rfl, ?_⟩, nofun, fun _ => habsent.2⟩
  exact ⟨k.rules, (Multiset.add_zero _).symm⟩

/-- With the link absent, the invariant holds from the start. -/
theorem sat_withRunners (files : FileSystem) (settings : LinuxConnectionSettings) {w : Host}
    (habsent : w.kernel.Absent settings.interface) :
    (withRunners files settings).Sat (fun _ => True)
      (fun c _ w' => Resting c w'.kernel ∧ c.interface = settings.interface ∧
        w'.kernel = { w.kernel with policy := .blockNonTunnel })
      (fun _ _ _ => True) () w := by
  refine (sat_withRunners_fresh files settings).mono (fun _ h => h) ?_ (fun _ _ _ h => h)
  rintro c - w' ⟨⟨address, rfl⟩, hk⟩
  exact ⟨by rw [hk]; exact resting_freshConnection habsent, rfl, hk⟩

/-- The state a run ends in. -/
theorem resting_run {files : FileSystem} {settings : LinuxConnectionSettings} {w : Host}
    {c : LinuxWireGuardConnection} (habsent : w.kernel.Absent settings.interface)
    (hnew : (withRunners files settings () w).result = .ok c) (calls : List Call) :
    let run := (Prog.session (δ := Empty) Call.run calls) c
      (withRunners files settings () w).world
    (∀ e ∈ run.trace, FailSecure e) ∧ Resting run.self run.world.kernel := by
  intro run
  obtain ⟨-, hres⟩ := sat_withRunners files settings habsent
  rw [hnew] at hres
  obtain ⟨htrace, hend⟩ := Prog.sat_session (δ := Empty) (E := fun _ _ _ => True)
    (J := fun c' (w' : Host) => Resting c' w'.kernel) (fun call _ _ _ h => sat_call call h) hres.1
  rw [Prog.session_result] at hend
  exact ⟨htrace, hend⟩

/-- **Fail-secure connection.** From construction with the link absent,
over every run of calls and every failure pattern, each external effect
finds the connection settled and leaves the kernel safe, and so does the
end of the run. -/
theorem connection_fail_secure (files : FileSystem) (settings : LinuxConnectionSettings)
    (w : Host) (c : LinuxWireGuardConnection) (habsent : w.kernel.Absent settings.interface)
    (hnew : (withRunners files settings () w).result = .ok c) (calls : List Call) :
    let start := withRunners files settings () w
    let run := (Prog.session (δ := Empty) Call.run calls) c start.world
    (∀ e ∈ run.trace, FailSecure e) ∧ Settled run.self run.world.kernel := by
  intro start run
  obtain ⟨htrace, hend⟩ := resting_run habsent hnew calls
  exact ⟨htrace, hend.settled⟩

/-- Every path is a regular file only its owner may use. -/
def exampleFiles : FileSystem := fun _ => some ⟨true, false, false, 0o700⟩

def exampleSettings : LinuxConnectionSettings where
  interface := "cyb0"
  profile := LinuxWireGuardBackend.exampleProfile
  dns := ⟨[.v4 0x0a080001#32]⟩
  tools := LinuxWireGuardBackend.exampleTools
  dnsTools := ⟨"/usr/bin/resolvectl"⟩
  routingMark := ⟨51820, by decide⟩
  connectTimeout := 30000000000
  alwaysOn := false

def exampleConnection : LinuxWireGuardConnection where
  controller :=
    { killSwitch := ⟨false, .blockNonTunnel⟩
      transport := ⟨"cyb0", LinuxWireGuardBackend.exampleProfile,
        .fresh LinuxWireGuardBackend.exampleTools ⟨51820, by decide⟩, false⟩
      firewall := ⟨⟨.v4 0xcb007109#32, examplePort⟩⟩
      transportMayBeActive := false }
  dns := ⟨⟨"/usr/bin/resolvectl"⟩, none⟩
  dnsConfig := ⟨[.v4 0x0a080001#32]⟩
  interface := "cyb0"
  transport := ⟨.wireGuard, ⟨"203.0.113.9", examplePort⟩, 30000000000⟩

/-- The resolver's routing domain cannot be set. -/
def exampleHost : Host where
  kernel := LinuxWireGuardBackend.exampleKernel
  env := { commands := List.replicate 6 (.ok []) ++ [.error (.network "resolvectl failed")] }
  log := []

def exampleRun : Outcome LinuxWireGuardConnection Host Effect Empty Unit :=
  (Prog.session Call.run [.connect, .disconnect, .disable]) exampleConnection
    (withRunners exampleFiles exampleSettings () exampleHost).world

/-- `connect` takes the tunnel down again, and filtering can be lifted. -/
theorem connection_fail_secure_dns_failure :
    exampleRun.world.kernel.policy = .disabled ∧ exampleRun.trace.length = 21 ∧
      (∀ e ∈ exampleRun.trace, FailSecure e) ∧
      Settled exampleRun.self exampleRun.world.kernel :=
  ⟨by decide +kernel, by decide +kernel,
    connection_fail_secure exampleFiles exampleSettings exampleHost exampleConnection
      ⟨by decide, rfl⟩ rfl [.connect, .disconnect, .disable]⟩

end LinuxWireGuardConnection

end CyberiaVpn.Killswitch
