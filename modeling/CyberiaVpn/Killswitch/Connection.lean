import CyberiaVpn.Killswitch.Nftables
import CyberiaVpn.Linux.Adapter
import CyberiaVpn.Linux.Dns
import CyberiaVpn.Transport.IpText

/-!
# The managed Linux connection

`LinuxWireGuardConnection` of `core/killswitch/src/linux_connection.rs`:
the controller over the WireGuard adapter and the nftables firewall, with
the resolver backend beside it. Four flags describe one tunnel: the
controller's `transportMayBeActive`, the adapter's `connected`, and the
two `activeInterface`s of the link and of the resolver backend.

`Owned` says how these flags, the recorded policy and the kernel go
together. It holds whenever the connection issues an effect and whenever
a call ends; `Safe` is what remains true of the kernel right after an
effect, before the flags have caught up.
-/

namespace CyberiaVpn.Killswitch

open Effects Transport Linux

/-- The path check of `SystemNftablesRunner::new`. -/
def validateNftExecutable (files : FileSystem) (path : PathBuf) : Except NftablesError Unit :=
  match files path with
  | none => .error .invalidExecutable
  | some metadata =>
      if !path.isAbsolute || !metadata.isFile || metadata.isSymlink ||
          metadata.mode &&& 0o111 == 0 then
        .error .invalidExecutable
      else .ok ()

structure LinuxConnectionSettings where
  interface : String
  profile : WireGuardConfig
  dns : DnsConfig
  tools : LinuxTools
  dnsTools : LinuxDnsTools
  routingMark : NonZeroU32
  connectTimeout : Nat
  alwaysOn : Bool

inductive LinuxConnectionBuildError where
  | endpointMustBeIpAddress
  | firewall (error : FirewallError)
  | nftables (error : NftablesError)
  | transport (error : TransportError)

abbrev LinuxController :=
  ConnectionController (WireGuardAdapter LinuxWireGuardBackend) NftablesBackend

structure LinuxWireGuardConnection where
  controller : LinuxController
  dns : LinuxDnsBackend
  dnsConfig : DnsConfig
  interface : String
  transport : TransportConfig

namespace LinuxWireGuardConnection

abbrev ConnectionM := Prog LinuxWireGuardConnection Host Effect

/-- The two collaborators of the controller. -/
abbrev tunnel : TransportImpl (WireGuardAdapter LinuxWireGuardBackend) Host Effect :=
  WireGuardAdapter.transport LinuxWireGuardBackend.impl

abbrev firewall : FirewallImpl NftablesBackend Host Effect := NftablesBackend.firewall

/-- Everything is validated before the initial policy is applied. -/
def withRunners (files : FileSystem) (settings : LinuxConnectionSettings) :
    Prog Unit Host Effect LinuxConnectionBuildError LinuxWireGuardConnection := do
  match IpAddr.parse settings.profile.endpoint.host with
  | none => Prog.fail .endpointMustBeIpAddress
  | some endpointAddress =>
      let endpoint := settings.profile.endpoint
      let transport : TransportConfig :=
        { kind := .wireGuard, endpoint, connectTimeout := settings.connectTimeout }
      (Prog.liftExcept transport.validate).mapError .transport
      (Prog.liftExcept settings.dns.validate).mapError .transport
      let backend ← (Prog.liftExcept (LinuxWireGuardBackend.new files settings.tools
        settings.routingMark)).mapError .transport
      let adapter ← (Prog.liftExcept (WireGuardAdapter.new settings.interface settings.profile
        backend)).mapError .transport
      let dns ← (Prog.liftExcept (LinuxDnsBackend.new files settings.dnsTools)).mapError .transport
      let nftables : NftablesBackend := ⟨{ endpointAddress, endpointPort := endpoint.port }⟩
      let killSwitch := (KillSwitch.new settings.alwaysOn).enable
      let controller ← (Prog.zoom (fun _ => nftables) (fun _ u => u)
        (ConnectionController.new firewall killSwitch adapter)).mapError .firewall
      return { controller, dns, dnsConfig := settings.dns, interface := settings.interface,
               transport }

def system (files : FileSystem) (settings : LinuxConnectionSettings) (nftExecutable : PathBuf) :
    Prog Unit Host Effect LinuxConnectionBuildError LinuxWireGuardConnection := do
  (Prog.liftExcept (validateNftExecutable files nftExecutable)).mapError .nftables
  withRunners files settings

variable {ε α : Type}

def onController (m : Prog LinuxController Host Effect ε α) : ConnectionM ε α :=
  Prog.zoom (·.controller) (fun t c => { c with controller := t }) m

def onDns (m : Prog LinuxDnsBackend Host Effect ε α) : ConnectionM ε α :=
  Prog.zoom (·.dns) (fun d c => { c with dns := d }) m

def policy (c : LinuxWireGuardConnection) : TrafficPolicy := c.controller.policy

/-- The tunnel comes down again because its resolvers could not be set. -/
def dropTunnel (dnsError : TransportError) : ConnectionM ConnectionError Session := do
  match ← (onController (ConnectionController.disconnect tunnel firewall)).attempt with
  | .ok () => Prog.fail (.transport dnsError)
  | .error cleanupError =>
      Prog.fail (.transport (.network ("DNS setup failed: " ++ dnsError.display ++
        "; tunnel cleanup failed: " ++ cleanupError.display)))

def connect : ConnectionM ConnectionError Session := do
  let c ← Prog.self
  let session ← onController (ConnectionController.connect tunnel firewall c.transport)
  match ← (onDns (LinuxDnsBackend.configure c.interface c.dnsConfig)).attempt with
  | .ok () => return session
  | .error dnsError =>
      if (← Prog.self).dns.needsRevert then
        match ← (onDns (LinuxDnsBackend.revert c.interface)).attempt with
        | .error cleanupError =>
            Prog.fail (.transport (.network ("DNS setup failed: " ++ dnsError.display ++
              "; cleanup retry failed: " ++ cleanupError.display)))
        | .ok () => dropTunnel dnsError
      else dropTunnel dnsError

def disconnect : ConnectionM ConnectionError Unit := do
  (onDns (LinuxDnsBackend.revert (← Prog.self).interface)).mapError .transport
  onController (ConnectionController.disconnect tunnel firewall)

def disable : ConnectionM ConnectionError Unit :=
  onController (ConnectionController.disable firewall)

def health (now : Nat) : ConnectionM Empty TransportHealth :=
  onController (ConnectionController.onTransport (tunnel.health now))

end LinuxWireGuardConnection

/-! ## The tunnel's flags and the kernel -/

/-- Never unfiltered over a link or over changed resolvers, and open only
for a link that is up. -/
structure Safe (i : String) (c : LinuxController) (k : Kernel) : Prop where
  disabled : k.policy = .disabled → i ∉ k.links ∧ k.resolvers i = {}
  tunnel : ∀ j, k.policy = .tunnelOnly j → j = i ∧ c.transport.connected = true ∧ i ∈ k.links

/-- `resolving` stands for settings the resolver backend still answers
for. -/
structure Owned (i : String) (resolving : Prop) (c : LinuxController) (k : Kernel) : Prop where
  mounted : WireGuardAdapter.Mounted i c.transport k
  policy : k.policy = c.policy
  resolving : resolving → c.transport.connected = true
  idle : c.transportMayBeActive = false →
    c.transport.connected = false ∧ i ∉ k.links ∧ k.resolvers i = {}
  live : c.transportMayBeActive = true → c.policy ≠ .disabled
  tunnel : ∀ j, c.policy = .tunnelOnly j → j = i ∧ c.transport.connected = true

/-- What holds around one effect. The policy in force and the recorded one
part only after a transaction that was accepted. -/
structure Watched (i : String) (resolving : Prop) (e : Entry LinuxController Host Effect) :
    Prop where
  before : Owned i resolving e.self e.pre.kernel
  after : Safe i e.self e.post.kernel
  window : e.post.kernel.policy = e.self.policy ∨ ∃ rules, e.effect = .transaction rules true

section

variable {i : String} {resolving : Prop} {c : LinuxController} {k k' : Kernel}

theorem Owned.safe (h : Owned i resolving c k) : Safe i c k := by
  refine ⟨fun hd => ?_, fun j hj => ?_⟩
  · cases hf : c.transportMayBeActive with
    | false => exact (h.idle hf).2
    | true => exact absurd (h.policy.symm.trans hd) (h.live hf)
  · obtain ⟨rfl, hon⟩ := h.tunnel j (h.policy.symm.trans hj)
    exact ⟨rfl, hon, h.mounted.link hon⟩

theorem Owned.flag_of_connected (h : Owned i resolving c k)
    (hon : c.transport.connected = true) : c.transportMayBeActive = true := by
  cases hf : c.transportMayBeActive with
  | true => rfl
  | false => rw [(h.idle hf).1] at hon; cases hon

/-- An effect that leaves the kernel as it is. -/
theorem Owned.watched {e : Entry LinuxController Host Effect}
    (h : Owned i resolving e.self e.pre.kernel) (hk : e.post.kernel = e.pre.kernel) :
    Watched i resolving e :=
  ⟨h, by rw [hk]; exact h.safe, Or.inl (by rw [hk]; exact h.policy)⟩

theorem safe_of_blocking (hk : k.policy = .blockNonTunnel) : Safe i c k where
  disabled := fun hd => by rw [hk] at hd; cases hd
  tunnel := fun j hj => by rw [hk] at hj; cases hj

/-- Behind a blocking firewall, with the flag raised, the transport may do
what it does. -/
theorem owned_of_blocking (hmounted : WireGuardAdapter.Mounted i c.transport k)
    (hpolicy : c.policy = .blockNonTunnel) (hk : k.policy = .blockNonTunnel)
    (hflag : c.transportMayBeActive = true) (hres : resolving → c.transport.connected = true) :
    Owned i resolving c k where
  mounted := hmounted
  policy := hk.trans hpolicy.symm
  resolving := hres
  idle := fun hf => by rw [hflag] at hf; cases hf
  live := fun _ hd => by rw [hpolicy] at hd; cases hd
  tunnel := fun j hj => by rw [hpolicy] at hj; cases hj

theorem watched_of_onLink {b : Bool} {e : Entry (WireGuardAdapter LinuxWireGuardBackend) Host Effect}
    (he : WireGuardAdapter.OnLink i b k e) (hpolicy : c.policy = .blockNonTunnel)
    (hk : k.policy = .blockNonTunnel) (hflag : c.transportMayBeActive = true)
    (hres : resolving → b = true) :
    Watched i resolving ⟨{ c with transport := e.self }, e.pre, e.effect, e.post⟩ where
  before := owned_of_blocking he.mounted hpolicy (he.pre.policy.trans hk) hflag
    (fun hr => he.connected.trans (hres hr))
  after := safe_of_blocking (he.post.policy.trans hk)
  window := Or.inl (he.post.policy.trans (hk.trans hpolicy.symm))

end

/-! ## Specifications of the controller's calls -/

namespace LinuxController

open LinuxWireGuardConnection (tunnel firewall)

variable {i : String} {resolving : Prop} {c : LinuxController} {w : Host}

/-- The invariant between two calls of the controller. -/
structure Kept (i : String) (resolving : Prop) (c : LinuxController) (k : Kernel) : Prop where
  owned : Owned i resolving c k
  rested : WireGuardAdapter.Rested i c.transport k

/-- Recording a transaction that was refused changes nothing. -/
theorem watched_refused (h : Owned i resolving c w.kernel) (rules : String) (env : Env) :
    Watched i resolving ⟨c, w, .transaction rules false,
      ⟨w.kernel, env, .transaction rules false :: w.log⟩⟩ :=
  h.watched rfl

theorem watched_accepted {p : TrafficPolicy} (h : Owned i resolving c w.kernel)
    (hsafe : Safe i c { w.kernel with policy := p }) (rules : String) (env : Env) :
    Watched i resolving ⟨c, w, .transaction rules true,
      ⟨{ w.kernel with policy := p }, env, .transaction rules true :: w.log⟩⟩ :=
  ⟨h, hsafe, Or.inr ⟨rules, rfl⟩⟩

/-- The session is given up: the adapter comes down, or stays up behind the
blocking firewall with the flag raised. -/
theorem sat_abandonSession {error : ConnectionError} (h : Kept i resolving c w.kernel)
    (hpolicy : c.policy = .blockNonTunnel) (hflag : c.transportMayBeActive = true)
    (hclear : w.kernel.resolvers i = {}) (hres : ¬resolving) :
    (ConnectionController.abandonSession tunnel error).Sat (Watched i resolving)
      (fun _ _ _ => False)
      (fun _ c' w' => Kept i resolving c' w'.kernel ∧ w'.kernel.resolvers = w.kernel.resolvers)
      c w := by
  have hk : w.kernel.policy = .blockNonTunnel := h.owned.policy.trans hpolicy
  rw [ConnectionController.abandonSession, Prog.sat_bind, Prog.sat_attempt,
    ConnectionController.onTransport, Prog.sat_zoom]
  refine (WireGuardAdapter.sat_disconnect h.rested).mono ?_ ?_ ?_
  · rintro e he
    exact watched_of_onLink he hpolicy hk hflag (fun hr => absurd hr hres)
  · rintro - a' w' ⟨hoff, hgone, hrested, hframe⟩
    rw [Prog.sat_bind, Prog.sat_update, Prog.sat_fail]
    refine ⟨⟨⟨hrested.toMounted, hframe.policy.trans h.owned.policy, fun hr => absurd hr hres,
      fun _ => ⟨hoff, hgone, by rw [hframe.resolvers]; exact hclear⟩, by rintro ⟨⟩, fun j hj => ?_⟩,
      hrested⟩, hframe.resolvers⟩
    rw [show c.policy = .tunnelOnly j from hj] at hpolicy
    cases hpolicy
  · rintro e a' w' ⟨hsame, hrested, hframe⟩
    exact Prog.sat_fail.mpr ⟨⟨owned_of_blocking hrested.toMounted hpolicy
      (hframe.policy.trans hk) hflag (fun hr => absurd hr hres), hrested⟩, hframe.resolvers⟩

theorem sat_connect (config : TransportConfig) (h : Kept i resolving c w.kernel)
    (hclear : c.transport.connected = false → w.kernel.resolvers i = {}) :
    (ConnectionController.connect tunnel firewall config).Sat (Watched i resolving)
      (fun _ c' w' => c.transport.connected = false ∧ c'.transport.connected = true ∧
        c'.policy = .tunnelOnly i ∧ Kept i resolving c' w'.kernel ∧
        w'.kernel.resolvers = w.kernel.resolvers)
      (fun _ c' w' => Kept i resolving c' w'.kernel ∧ w'.kernel.resolvers = w.kernel.resolvers)
      c w := by
  rw [ConnectionController.connect, Prog.sat_bind, Prog.sat_self, Prog.sat_bind,
    Prog.sat_mapError, ConnectionController.onFirewall, Prog.sat_zoom]
  refine NftablesBackend.sat_firewall_apply (fun rules env => ⟨?_, ?_⟩)
    (fun rules _ env => ⟨watched_refused h.owned rules env, h, rfl⟩) (fun _ => ⟨h, rfl⟩)
  · exact watched_accepted h.owned (safe_of_blocking rfl) rules env
  rw [Prog.sat_bind, Prog.sat_update, Prog.sat_bind, Prog.sat_mapError,
    ConnectionController.onTransport, Prog.sat_zoom]
  have hrested : WireGuardAdapter.Rested i c.transport
      { w.kernel with policy := .blockNonTunnel } := h.rested.of_kernel rfl rfl
  refine (WireGuardAdapter.sat_connect (w := ⟨{ w.kernel with policy := .blockNonTunnel }, env,
    .transaction rules true :: w.log⟩) config hrested).mono ?_ ?_ ?_
  · rintro e he
    exact watched_of_onLink he rfl rfl rfl h.owned.resolving
  · rintro session a' w' ⟨rfl, hoff, hon', hrested', hframe⟩
    have hres : ¬resolving := fun hr =>
      Bool.false_ne_true (hoff.symm.trans (h.owned.resolving hr))
    have hclear' : w'.kernel.resolvers session.id = {} := by
      rw [hframe.resolvers]
      exact hclear hoff
    -- behind the blocking firewall, with the new adapter in place
    have hkept : Kept session.id resolving
        { c with killSwitch := c.killSwitch.enable, transport := a', transportMayBeActive := true }
        w'.kernel :=
      ⟨owned_of_blocking hrested'.toMounted rfl hframe.policy rfl (fun hr => absurd hr hres),
        hrested'⟩
    have habandon : ∀ {error env log}, (ConnectionController.abandonSession tunnel error).Sat
        (Watched session.id resolving) (fun _ _ _ => False)
        (fun _ c' w'' => Kept session.id resolving c' w''.kernel ∧
          w''.kernel.resolvers = w.kernel.resolvers)
        { c with killSwitch := c.killSwitch.enable, transport := a', transportMayBeActive := true }
        ⟨w'.kernel, env, log⟩ := fun {error env log} =>
      (sat_abandonSession (w := ⟨w'.kernel, env, log⟩) hkept rfl rfl hclear' hres).mono
        (fun _ h => h) (fun _ _ _ h => h) (fun _ _ _ h => ⟨h.1, h.2.trans hframe.resolvers⟩)
    rw [Prog.sat_bind, Prog.sat_self]
    split
    · exact habandon.mono (fun _ h => h) (fun _ _ _ h => h.elim) (fun _ _ _ h => h)
    case h_2 tunnelSwitch hest =>
    obtain ⟨-, -, rfl⟩ := KillSwitch.tunnelEstablished_eq_ok.mp hest
    rw [Prog.sat_bind, Prog.sat_attempt, ConnectionController.onFirewall, Prog.sat_zoom]
    refine NftablesBackend.sat_firewall_apply (fun rules env => ⟨?_, ?_⟩)
      (fun rules e env => ⟨watched_refused hkept.owned rules env, ?_⟩) (fun e => ?_)
    · refine watched_accepted (p := .tunnelOnly session.id) hkept.owned ⟨by rintro ⟨⟩, ?_⟩ rules env
      rintro j hj
      obtain rfl := TrafficPolicy.tunnelOnly.inj hj
      exact ⟨rfl, hon', hrested'.link hon'⟩
    · rw [Prog.sat_bind, Prog.sat_update]
      refine Prog.sat_pure.mpr ⟨hoff, hon', rfl,
        ⟨⟨?_, rfl, fun _ => hon', by rintro ⟨⟩, by rintro _ ⟨⟩, ?_⟩, ?_⟩, ?_⟩
      · exact ⟨hrested'.name, hrested'.recorded, hrested'.link⟩
      · rintro j hj
        obtain rfl := TrafficPolicy.tunnelOnly.inj hj
        exact ⟨rfl, hon'⟩
      · exact hrested'.of_kernel rfl rfl
      · exact hframe.resolvers
    · exact habandon.mono (fun _ h => h) (fun _ _ _ h => h.elim) (fun _ _ _ h => h)
    · exact habandon.mono (fun _ h => h) (fun _ _ _ h => h.elim) (fun _ _ _ h => h)
  · rintro e a' w' ⟨hsame, hrested', hframe⟩
    exact ⟨⟨owned_of_blocking hrested'.toMounted rfl hframe.policy rfl
      (fun hr => hsame.trans (h.owned.resolving hr)), hrested'⟩, hframe.resolvers⟩

/-- A teardown of a connected tunnel whose resolvers are back to normal. -/
theorem sat_disconnect (h : Kept i resolving c w.kernel) (hon : c.transport.connected = true)
    (hclear : w.kernel.resolvers i = {}) (hres : ¬resolving) :
    (ConnectionController.disconnect tunnel firewall).Sat (Watched i resolving)
      (fun _ c' w' => Kept i resolving c' w'.kernel ∧ w'.kernel.resolvers = w.kernel.resolvers)
      (fun _ c' w' => Kept i resolving c' w'.kernel ∧ w'.kernel.resolvers = w.kernel.resolvers)
      c w := by
  have hflag := h.owned.flag_of_connected hon
  have hlost : c.killSwitch.tunnelLost.policy = .blockNonTunnel :=
    KillSwitch.tunnelLost_policy_of_ne (h.owned.live hflag)
  rw [ConnectionController.disconnect, Prog.sat_bind, Prog.sat_self, Prog.sat_bind,
    Prog.sat_mapError, ConnectionController.onFirewall, Prog.sat_zoom, hlost]
  refine NftablesBackend.sat_firewall_apply (fun rules env => ⟨?_, ?_⟩)
    (fun rules _ env => ⟨watched_refused h.owned rules env, h, rfl⟩) (fun _ => ⟨h, rfl⟩)
  · exact watched_accepted h.owned (safe_of_blocking rfl) rules env
  rw [Prog.sat_bind, Prog.sat_update, Prog.sat_bind, Prog.sat_mapError,
    ConnectionController.onTransport, Prog.sat_zoom]
  have hrested : WireGuardAdapter.Rested i c.transport
      { w.kernel with policy := .blockNonTunnel } := h.rested.of_kernel rfl rfl
  refine (WireGuardAdapter.sat_disconnect (w := ⟨{ w.kernel with policy := .blockNonTunnel }, env,
    .transaction rules true :: w.log⟩) hrested).mono ?_ ?_ ?_
  · rintro e he
    exact watched_of_onLink he hlost rfl hflag (fun hr => absurd hr hres)
  · rintro - a' w' ⟨hoff, hgone, hrested', hframe⟩
    have hclear' : w'.kernel.resolvers i = {} := by
      rw [hframe.resolvers]
      exact hclear
    refine Prog.sat_update.mpr ⟨⟨⟨hrested'.toMounted, hframe.policy.trans hlost.symm,
      fun hr => absurd hr hres, fun _ => ⟨hoff, hgone, hclear'⟩, by rintro ⟨⟩, fun j hj => ?_⟩,
      hrested'⟩,
      hframe.resolvers⟩
    rw [show c.killSwitch.tunnelLost.policy = .tunnelOnly j from hj] at hlost
    cases hlost
  · rintro e a' w' ⟨hsame, hrested', hframe⟩
    exact ⟨⟨owned_of_blocking hrested'.toMounted hlost hframe.policy hflag
      (fun hr => absurd hr hres), hrested'⟩, hframe.resolvers⟩

theorem sat_disable (h : Kept i resolving c w.kernel) :
    (ConnectionController.disable firewall).Sat (Watched i resolving)
      (fun _ c' w' => Kept i resolving c' w'.kernel ∧ w'.kernel.resolvers = w.kernel.resolvers)
      (fun _ c' w' => Kept i resolving c' w'.kernel ∧ w'.kernel.resolvers = w.kernel.resolvers)
      c w := by
  rw [ConnectionController.disable, Prog.sat_bind, Prog.sat_self]
  split
  · exact Prog.sat_fail.mpr ⟨h, rfl⟩
  case isFalse hraised =>
  have hflag : c.transportMayBeActive = false := by simpa using hraised
  obtain ⟨hoff, hgone, hclear⟩ := h.owned.idle hflag
  split
  · exact Prog.sat_fail.mpr ⟨h, rfl⟩
  rw [Prog.sat_bind, Prog.sat_mapError, Prog.sat_liftExcept]
  split
  case h_2 => exact ⟨h, rfl⟩
  case h_1 off hdis =>
  obtain ⟨-, rfl⟩ := KillSwitch.disable_eq_ok.mp hdis
  rw [Prog.sat_bind, Prog.sat_mapError, ConnectionController.onFirewall, Prog.sat_zoom]
  refine NftablesBackend.sat_firewall_apply (fun rules env => ⟨?_, ?_⟩)
    (fun rules _ env => ⟨watched_refused h.owned rules env, h, rfl⟩) (fun _ => ⟨h, rfl⟩)
  · exact watched_accepted (p := .disabled) h.owned ⟨fun _ => ⟨hgone, hclear⟩, by rintro _ ⟨⟩⟩
      rules env
  · refine Prog.sat_update.mpr ⟨⟨⟨⟨h.owned.mounted.name, h.owned.mounted.recorded,
      h.owned.mounted.link⟩, rfl, h.owned.resolving, fun _ => ⟨hoff, hgone, hclear⟩,
      fun hf => absurd hf hraised, by rintro _ ⟨⟩⟩, h.rested.of_kernel rfl rfl⟩, rfl⟩

theorem sat_health (now : Nat) (h : Kept i resolving c w.kernel) :
    (ConnectionController.onTransport (tunnel.health now)).Sat (Watched i resolving)
      (fun _ c' w' => Kept i resolving c' w'.kernel ∧ w'.kernel.resolvers = w.kernel.resolvers)
      (fun _ _ _ => False) c w := by
  rw [ConnectionController.onTransport, Prog.sat_zoom]
  -- the adapter may count a failed probe; everything `Owned` reads stays
  have howned : ∀ {a k}, WireGuardAdapter.Mounted i a k → a.connected = c.transport.connected →
      k = w.kernel → Owned i resolving { c with transport := a } k := by
    rintro a k hm hsame rfl
    exact ⟨hm, h.owned.policy, fun hr => hsame.trans (h.owned.resolving hr),
      fun hf => ⟨hsame.trans (h.owned.idle hf).1, (h.owned.idle hf).2⟩, h.owned.live,
      fun j hj => ⟨(h.owned.tunnel j hj).1, hsame.trans (h.owned.tunnel j hj).2⟩⟩
  refine (WireGuardAdapter.sat_health now h.rested).mono ?_ ?_ (fun _ _ _ h => h)
  · rintro e ⟨hm, hsame, hpre, hpost, -⟩
    exact (howned hm hsame hpre).watched (hpost.trans hpre.symm)
  · rintro - a' w' ⟨hsame, hrested, hk⟩
    exact ⟨⟨howned hrested.toMounted hsame hk, hrested⟩, by rw [hk]⟩

end LinuxController

end CyberiaVpn.Killswitch
