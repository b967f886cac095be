import CyberiaVpn.Effects.Trace
import CyberiaVpn.Killswitch.Connection
import CyberiaVpn.Killswitch.Ruleset

/-!
# Interface names on their way into the rules

Three checks look at an interface name: that of the WireGuard adapter when
it is built, that of the kill switch when a tunnel is established, and
that of the rendering. Each lets through at most what the next one does.

A session carries the name of its adapter's interface. That name passed
the narrowest check and no call changes it, so neither the kill switch nor
the rendering of the tunnel policy can refuse it, and a connect that fails
at the firewall fails because the runner refused a transaction.
-/

namespace CyberiaVpn.Killswitch

open Effects Transport Linux

/-! ## Refused transactions -/

/-- The runner refused a transaction in the course of these effects. -/
def Refused {σ : Type} (t : List (Entry σ Host Effect)) : Prop :=
  ∃ e ∈ t, ∃ rules, e.effect = .transaction rules false

section Refused

variable {σ τ : Type} {t t' : List (Entry σ Host Effect)}

theorem Refused.append (h : Refused t) (t' : List (Entry σ Host Effect)) : Refused (t ++ t') := by
  obtain ⟨e, he, hrefused⟩ := h
  exact ⟨e, List.mem_append_left _ he, hrefused⟩

theorem Refused.append_left (h : Refused t') (t : List (Entry σ Host Effect)) :
    Refused (t ++ t') := by
  obtain ⟨e, he, hrefused⟩ := h
  exact ⟨e, List.mem_append_right _ he, hrefused⟩

theorem Refused.map (h : Refused t) (f : σ → τ) :
    Refused (t.map fun e => (⟨f e.self, e.pre, e.effect, e.post⟩ : Entry τ Host Effect)) := by
  obtain ⟨e, he, hrefused⟩ := h
  exact ⟨_, List.mem_map_of_mem he, hrefused⟩

end Refused

/-- A policy that is rendered is refused by the runner or not at all. -/
theorem NftablesBackend.ends_firewall {f : NftablesBackend} {w : Host} {policy : TrafficPolicy}
    {text : String} (hrender : f.config.render policy = .ok text) :
    (NftablesBackend.firewall.apply policy).Ends (fun _ _ _ _ => True)
      (fun t _ _ _ => Refused t) f w := by
  simp only [NftablesBackend.firewall, NftablesBackend.apply, Prog.ends_mapError,
    Prog.ends_self_bind, hrender]
  rw [Prog.ends_bind, Prog.ends_liftExcept]
  simp only [transaction, Prog.ends_effect]
  cases hanswer : w.env.transactions.headD none with
  | none => exact trivial
  | some e => exact ⟨_, List.mem_singleton_self _, text, rfl⟩

end CyberiaVpn.Killswitch

/-! ## The adapter keeps its name -/

namespace CyberiaVpn.Linux.WireGuardAdapter

open Effects Transport Killswitch

variable {β : Type} (B : WireGuardBackendImpl β)

theorem sat_connect_interface (config : TransportConfig) (a : WireGuardAdapter β) (w : Host) :
    (connect B config).Sat (fun _ => True)
      (fun session a' _ => session.id = a.interface ∧ a'.interface = a.interface)
      (fun _ a' _ => a'.interface = a.interface) a w := by
  rw [connect, Prog.sat_bind, Prog.sat_self]
  split
  · exact Prog.sat_fail.mpr rfl
  split
  · exact Prog.sat_fail.mpr rfl
  rw [Prog.sat_bind, Prog.sat_liftExcept]
  split
  case h_2 => rfl
  rw [Prog.sat_bind]
  refine sat_check (fun env => ⟨trivial, ?_⟩) (fun _ env => ⟨trivial, rfl⟩)
  rw [Prog.sat_bind, onBackend, Prog.sat_zoom]
  refine (Prog.sat_of_end (J := fun _ _ => True) (fun _ _ => trivial) trivial).mono
    (fun _ _ => trivial) (fun _ b' w' _ => ?_) (fun _ _ _ _ => rfl)
  rw [Prog.sat_bind, Prog.sat_update, Prog.sat_pure]
  exact ⟨rfl, rfl⟩

theorem sat_disconnect_interface (a : WireGuardAdapter β) (w : Host) :
    (disconnect B).Sat (fun _ => True) (fun _ a' _ => a'.interface = a.interface)
      (fun _ a' _ => a'.interface = a.interface) a w := by
  rw [disconnect, Prog.sat_bind, Prog.sat_self]
  split
  · exact Prog.sat_fail.mpr rfl
  rw [Prog.sat_bind, onBackend, Prog.sat_zoom]
  exact (Prog.sat_of_end (J := fun _ _ => True) (fun _ _ => trivial) trivial).mono
    (fun _ _ => trivial) (fun _ b' w' _ => Prog.sat_update.mpr rfl) (fun _ _ _ _ => rfl)

theorem validInterface_of_new {interface : String} {profile : WireGuardConfig} {backend : β}
    {a : WireGuardAdapter β} (h : new interface profile backend = .ok a) :
    Transport.validInterface interface = true ∧ a.interface = interface := by
  obtain rfl := new_eq_ok h
  refine ⟨?_, rfl⟩
  by_contra hinvalid
  rw [new, if_pos (by simpa using hinvalid)] at h
  cases h

end CyberiaVpn.Linux.WireGuardAdapter

/-! ## The controller -/

namespace CyberiaVpn.Killswitch.ConnectionController

open Effects Transport Linux

section Kept

variable {τ φ ω κ : Type} {T : TransportImpl τ ω κ} {F : FirewallImpl φ ω κ} {J : τ → Prop}
  {c : ConnectionController τ φ} {w : ω}

/-- The firewall's calls leave the transport alone. -/
theorem sat_onFirewall_transport {ε α : Type} {m : Prog φ ω κ ε α} (hc : J c.transport) :
    (onFirewall m).Sat (fun _ => True) (fun _ c' _ => J c'.transport)
      (fun _ c' _ => J c'.transport) c w := by
  rw [onFirewall, Prog.sat_zoom]
  exact (Prog.sat_of_end (J := fun _ _ => True) (fun _ _ => trivial) trivial).mono
    (fun _ _ => trivial) (fun _ _ _ _ => hc) (fun _ _ _ _ => hc)

variable
  (hconnect : ∀ config t w, J t → (T.connect config).Sat (fun _ => True) (fun _ t' _ => J t')
    (fun _ t' _ => J t') t w)
  (hdisconnect : ∀ t w, J t → T.disconnect.Sat (fun _ => True) (fun _ t' _ => J t')
    (fun _ t' _ => J t') t w)
include hdisconnect

theorem sat_abandonSession_transport {error : ConnectionError} (hc : J c.transport) :
    (abandonSession T error).Sat (fun _ => True) (fun _ c' _ => J c'.transport)
      (fun _ c' _ => J c'.transport) c w := by
  rw [abandonSession, Prog.sat_bind, Prog.sat_attempt, onTransport, Prog.sat_zoom]
  refine (hdisconnect _ _ hc).mono (fun _ _ => trivial) (fun _ t' w' ht' => ?_)
    (fun _ t' w' ht' => Prog.sat_fail.mpr ht')
  rw [Prog.sat_bind, Prog.sat_update, Prog.sat_fail]
  exact ht'

include hconnect

theorem sat_connect_transport (config : TransportConfig) (hc : J c.transport) :
    (connect T F config).Sat (fun _ => True) (fun _ c' _ => J c'.transport)
      (fun _ c' _ => J c'.transport) c w := by
  rw [connect, Prog.sat_bind, Prog.sat_self, Prog.sat_bind, Prog.sat_mapError]
  refine (sat_onFirewall_transport hc).mono (fun _ h => h) (fun _ c₁ w₁ h₁ => ?_) (fun _ _ _ h => h)
  rw [Prog.sat_bind, Prog.sat_update, Prog.sat_bind, Prog.sat_mapError, onTransport,
    Prog.sat_zoom]
  refine (hconnect config _ _ h₁).mono (fun _ _ => trivial) (fun session t' w₂ h₂ => ?_)
    (fun _ _ _ h => h)
  rw [Prog.sat_bind, Prog.sat_self]
  split
  · exact sat_abandonSession_transport hdisconnect h₂
  rw [Prog.sat_bind, Prog.sat_attempt]
  refine (sat_onFirewall_transport h₂).mono (fun _ h => h) (fun _ c₃ w₃ h₃ => ?_)
    (fun _ c₃ w₃ h₃ => sat_abandonSession_transport hdisconnect h₃)
  rw [Prog.sat_bind, Prog.sat_update, Prog.sat_pure]
  exact h₃

omit hconnect in
theorem sat_disconnect_transport (hc : J c.transport) :
    (disconnect T F).Sat (fun _ => True) (fun _ c' _ => J c'.transport)
      (fun _ c' _ => J c'.transport) c w := by
  rw [disconnect, Prog.sat_bind, Prog.sat_self, Prog.sat_bind, Prog.sat_mapError]
  refine (sat_onFirewall_transport hc).mono (fun _ h => h) (fun _ c₁ w₁ h₁ => ?_) (fun _ _ _ h => h)
  rw [Prog.sat_bind, Prog.sat_update, Prog.sat_bind, Prog.sat_mapError, onTransport,
    Prog.sat_zoom]
  exact (hdisconnect _ _ h₁).mono (fun _ _ => trivial) (fun _ _ _ h => Prog.sat_update.mpr h)
    (fun _ _ _ h => h)

omit hconnect hdisconnect in
theorem sat_disable_transport (hc : J c.transport) :
    (disable F).Sat (fun _ => True) (fun _ c' _ => J c'.transport)
      (fun _ c' _ => J c'.transport) c w := by
  rw [disable, Prog.sat_bind, Prog.sat_self]
  split
  · exact Prog.sat_fail.mpr hc
  split
  · exact Prog.sat_fail.mpr hc
  rw [Prog.sat_bind, Prog.sat_mapError, Prog.sat_liftExcept]
  split
  case h_2 => exact hc
  rw [Prog.sat_bind, Prog.sat_mapError]
  exact (sat_onFirewall_transport hc).mono (fun _ h => h) (fun _ _ _ h => Prog.sat_update.mpr h)
    (fun _ _ _ h => h)

/-- What the transport's own calls keep, the controller's calls keep. -/
theorem sat_call_transport (call : Call) (hc : J c.transport) :
    (call.run T F).Sat (fun _ => True) (fun _ c' _ => J c'.transport)
      (fun _ c' _ => J c'.transport) c w := by
  cases call with
  | connect config =>
      rw [Call.run, Prog.sat_bind]
      exact (sat_connect_transport hconnect hdisconnect config hc).mono (fun _ h => h)
        (fun _ _ _ h => Prog.sat_pure.mpr h) (fun _ _ _ h => h)
  | disconnect => exact sat_disconnect_transport hdisconnect hc
  | disable => exact sat_disable_transport hc

end Kept

section WireGuard

variable {β : Type} {B : WireGuardBackendImpl β}
  {c : ConnectionController (WireGuardAdapter β) NftablesBackend} {w : Host}

theorem ends_abandonSession {error : ConnectionError} :
    (abandonSession (φ := NftablesBackend) (WireGuardAdapter.transport B) error).Ends
      (fun _ _ _ _ => True) (fun _ e _ _ => e = error) c w := by
  rw [abandonSession, Prog.ends_bind, Prog.ends_attempt]
  unfold Prog.Ends
  split
  · exact rfl
  · exact rfl

/-- A connect of an adapter with a checked name fails because the transport
failed or because the runner refused a transaction. -/
theorem ends_connect (config : TransportConfig)
    (hvalid : Transport.validInterface c.transport.interface = true) :
    (connect (WireGuardAdapter.transport B) NftablesBackend.firewall config).Ends
      (fun _ _ _ _ => True)
      (fun t e _ _ => e ≠ .killSwitch .invalidInterface ∧ ∀ error, e = .firewall error → Refused t)
      c w := by
  rw [connect, Prog.ends_self_bind, Prog.ends_bind, Prog.ends_mapError, onFirewall,
    Prog.ends_zoom]
  have hblock : c.firewall.config.render c.killSwitch.enable.policy = .ok _ := rfl
  refine (NftablesBackend.ends_firewall hblock).mono (fun t₁ _ f₁ w₁ _ => ?_)
    (fun t₁ _ _ _ hrefused =>
      ⟨by rintro ⟨⟩, fun _ _ => hrefused.map fun f => { c with firewall := f }⟩)
  rw [Prog.ends_update_bind, Prog.ends_bind, Prog.ends_mapError, onTransport, Prog.ends_zoom]
  have htransport := (WireGuardAdapter.sat_connect_interface B config c.transport w₁).ends
  refine htransport.mono (fun t₂ session a w₂ hsession => ?_)
    (fun t₂ _ _ _ _ => ⟨by rintro ⟨⟩, by rintro _ ⟨⟩⟩)
  obtain ⟨hid, -⟩ := hsession
  have hname : validInterface session.id = true := by
    rw [hid]
    exact validInterface_of_transport hvalid
  have hest : c.killSwitch.enable.tunnelEstablished session.id =
      .ok { c.killSwitch.enable with policy := .tunnelOnly session.id } :=
    KillSwitch.tunnelEstablished_eq_ok.mpr ⟨by rintro ⟨⟩, hname, rfl⟩
  obtain ⟨text, htext⟩ := f₁.config.render_tunnelOnly hname
  rw [Prog.ends_self_bind]
  simp only [hest]
  rw [Prog.ends_bind, Prog.ends_attempt, onFirewall, Prog.ends_zoom]
  refine (NftablesBackend.ends_firewall htext).mono (fun t₃ _ f₃ w₃ _ => ?_)
    (fun t₃ error f₃ w₃ hrefused => ?_)
  · rw [Prog.ends_update_bind, Prog.ends_pure]
    exact trivial
  · refine ends_abandonSession.mono (fun _ _ _ _ _ => trivial) (fun t₄ e _ _ he => ?_)
    subst he
    have hsecond := (hrefused.map fun f =>
      { c with killSwitch := c.killSwitch.enable, transport := a, firewall := f,
               transportMayBeActive := true }).append t₄
    exact ⟨by rintro ⟨⟩, fun _ _ => (hsecond.append_left _).append_left _⟩

end WireGuard

end CyberiaVpn.Killswitch.ConnectionController

/-! ## The rendered policies -/

namespace CyberiaVpn.Killswitch.NftablesConfig

open Effects Transport Linux ConnectionController

/-- No run of a controller over an adapter ends a connect with an invalid
interface: the kill switch never reports one, and a firewall error comes
from a transaction the runner refused. -/
theorem connect_after_session {β : Type} (B : WireGuardBackendImpl β) {interface : String}
    {profile : WireGuardConfig} {backend : β} {a : WireGuardAdapter β}
    (ha : WireGuardAdapter.new interface profile backend = .ok a) (calls : List Call)
    (c : ConnectionController (WireGuardAdapter β) NftablesBackend) (hc : c.transport = a)
    (w : Host) (config : TransportConfig) :
    let T := WireGuardAdapter.transport B
    let before := Prog.session (δ := Empty) (Call.run T NftablesBackend.firewall) calls c w
    let after := ConnectionController.connect T NftablesBackend.firewall config
      before.self before.world
    after.result ≠ .error (.killSwitch .invalidInterface) ∧
      ∀ error, after.result = .error (.firewall error) → Refused after.trace := by
  intro T before after
  obtain ⟨hvalid, rfl⟩ := WireGuardAdapter.validInterface_of_new ha
  subst hc
  have hkept : before.self.transport.interface = c.transport.interface := by
    have hsession : (Prog.session (δ := Empty) (Call.run T NftablesBackend.firewall) calls).Sat
        (fun _ => True) (fun _ c' _ => c'.transport.interface = c.transport.interface)
        (fun _ _ _ => False) c w := by
      refine Prog.sat_session (fun call _ s w hs => ?_) rfl
      refine sat_call_transport (J := fun t : WireGuardAdapter β => t.interface = c.transport.interface) ?_ ?_ call hs
      · intro config t w ht
        exact (WireGuardAdapter.sat_connect_interface B config t w).mono (fun _ h => h)
          (fun _ _ _ h => h.2.trans ht) (fun _ _ _ h => h.trans ht)
      · intro t w ht
        exact (WireGuardAdapter.sat_disconnect_interface B t w).mono (fun _ h => h)
          (fun _ _ _ h => h.trans ht) (fun _ _ _ h => h.trans ht)
    obtain ⟨-, -, hend⟩ := hsession.returned
    exact hend
  have hends := ends_connect (B := B) (w := before.world) config (hkept ▸ hvalid)
  refine ⟨fun hr => (hends.of_error hr).1 rfl, fun error hr => (hends.of_error hr).2 error rfl⟩

/-- The rendered text, read as one command per line and carried out on a
ruleset in which the private table does not exist or is as earlier texts
left it. The names that reach it are always rendered. -/
theorem render_ruleset (config : NftablesConfig) (policy : TrafficPolicy) :
    (∀ e, config.render policy = .error e ↔
      e = .invalidInterface ∧ ∃ i, policy = .tunnelOnly i ∧ validInterface i = false) ∧
    (∀ text, config.render policy = .ok text →
      ∃ commands, Nft.parse readNetwork text.toList = some commands ∧
        (∀ c ∈ commands, c.table = tableName) ∧
        ∀ r : Nft.Ruleset AllowedIp, Private (r tableName) →
          ∃ r' : Nft.Ruleset AllowedIp, Nft.run commands r = some r' ∧ Private (r' tableName) ∧
            (∀ table, table ≠ tableName → r' table = r table) ∧
            ∀ p, r'.passes AllowedIp.contains tableName "output" .output p = true ↔
              config.Permits p policy) ∧
    (∀ i (β : Type) (profile : WireGuardConfig) (backend : β) (a : WireGuardAdapter β),
      WireGuardAdapter.new i profile backend = .ok a →
        ∃ text, config.render (.tunnelOnly i) = .ok text) ∧
    (∀ i (k k' : KillSwitch), k.tunnelEstablished i = .ok k' →
      ∃ text, config.render (.tunnelOnly i) = .ok text) ∧
    ∀ (β : Type) (B : WireGuardBackendImpl β) (i : String) (profile : WireGuardConfig)
      (backend : β) (a : WireGuardAdapter β), WireGuardAdapter.new i profile backend = .ok a →
      ∀ (calls : List Call) (c : ConnectionController (WireGuardAdapter β) NftablesBackend),
        c.transport = a → ∀ (w : Host) (transport : TransportConfig),
        let T := WireGuardAdapter.transport B
        let before := Prog.session (δ := Empty) (Call.run T NftablesBackend.firewall) calls c w
        let after := ConnectionController.connect T NftablesBackend.firewall transport
          before.self before.world
        after.result ≠ .error (.killSwitch .invalidInterface) ∧
          ∀ error, after.result = .error (.firewall error) → Refused after.trace := by
  refine ⟨fun _ => render_eq_error, fun text htext => ?_, fun i β profile backend a ha => ?_,
    fun i k k' hk => ?_, fun β B i profile backend a ha calls c hc w transport =>
      connect_after_session B ha calls c hc w transport⟩
  · refine ⟨config.commands policy, parse_render htext, fun c => table_of_mem_commands,
      fun r hr => ?_⟩
    refine ⟨_, run_commands hr, ?_, fun table htable => Function.update_of_ne htable _ _,
      fun p => ?_⟩
    · rw [Function.update_self]
      exact private_installed
    · exact passes_installed (Function.update_self ..) (validInterface_of_render htext)
  · obtain ⟨hvalid, -⟩ := WireGuardAdapter.validInterface_of_new ha
    exact config.render_tunnelOnly (validInterface_of_transport hvalid)
  · exact config.render_tunnelOnly (KillSwitch.tunnelEstablished_eq_ok.mp hk).2.1

end CyberiaVpn.Killswitch.NftablesConfig
