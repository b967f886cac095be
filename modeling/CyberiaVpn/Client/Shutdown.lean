import CyberiaVpn.Killswitch.ConnectionRuns

/-!
# The client's process

`run_until_shutdown` of `apps/linux-client/src/lib.rs`: one connect, a
wait for the signal, one disconnect, and filtering lifted at the end
unless it is always on. When the connect fails, lifting the filter is
tried as well, and whether it worked is not looked at.

So a failed connect is followed by `disable` whatever it left behind, and
a rollback that failed in its turn leaves rules that no component has on
record. What stands between the two is the controller's flag: it is
raised before the transport acts and lowered only by a teardown that
succeeded. `Held` is this argument as an invariant: traffic is filtered,
and the kernel holds nothing of ours once the flag is down. It needs no
assumption about the kernel the run starts from, since a link that
exists already makes the connect fail.
-/

namespace CyberiaVpn.Client

open Effects Transport Linux Killswitch

/-- The methods of the `ManagedClientConnection` trait. -/
structure ManagedClientConnection (γ ω κ : Type) where
  connect : Prog γ ω κ ConnectionError Session
  disconnect : Prog γ ω κ ConnectionError Unit
  disable : Prog γ ω κ ConnectionError Unit

/-- The closure that waits has no access to the connection. -/
def runUntilShutdown {γ ω κ : Type} (M : ManagedClientConnection γ ω κ) (alwaysOn : Bool)
    (waitForShutdown : Prog Unit ω κ Empty Unit) : Prog γ ω κ ConnectionError Unit := do
  match ← M.connect.attempt with
  | .error error =>
      if !alwaysOn then
        let _ ← M.disable.attempt
      Prog.fail error
  | .ok _ =>
      (Prog.zoom (fun _ => ()) (fun _ c => c) waitForShutdown).mapError Empty.elim
      M.disconnect
      if !alwaysOn then
        M.disable

/-- `impl ManagedClientConnection for LinuxWireGuardConnection`. -/
def managedConnection : ManagedClientConnection LinuxWireGuardConnection Host Effect where
  connect := LinuxWireGuardConnection.connect
  disconnect := LinuxWireGuardConnection.disconnect
  disable := LinuxWireGuardConnection.disable

/-! ## What is left, and what is in force -/

/-- Every link, rule and resolver setting of `k` was there in `k₀`. -/
structure NothingLeft (k₀ k : Kernel) : Prop where
  links : k.links ⊆ k₀.links
  rules : k.rules ≤ k₀.rules
  resolvers : ∀ j, k.resolvers j = {} ∨ k.resolvers j = k₀.resolvers j

/-- Filtering is neither lifted by an effect nor asked to be. -/
structure Armed (config : NftablesConfig) (effect : Effect) (k : Kernel) : Prop where
  enforced : k.policy ≠ .disabled
  sent : ∀ rules ok, effect = .transaction rules ok → config.render .disabled ≠ .ok rules

/-- Filtered, and clean once the flag is down. -/
structure Held (k₀ : Kernel) (mayBeActive : Bool) (k : Kernel) : Prop where
  policy : k.policy ≠ .disabled
  idle : mayBeActive = false → NothingLeft k₀ k

/-- The kernel is `k₀` with the adapter's link and rules on top. -/
structure Raised (k₀ : Kernel) (a : WireGuardAdapter LinuxWireGuardBackend) (k : Kernel) :
    Prop where
  links : k.links = insert a.interface k₀.links
  rules : k.rules = k₀.rules + a.backend.ruleSet a.backend.activeRules

/-- An effect beside the firewall and the resolvers. -/
structure Aside {σ : Type} (k : Kernel) (e : Entry σ Host Effect) : Prop where
  post : k.Undisturbed e.post.kernel
  effect : ∀ rules ok, e.effect ≠ .transaction rules ok

variable {k₀ k : Kernel} {w : Host}

theorem held_of_flag {mayBeActive : Bool} (hflag : mayBeActive = true)
    (hpolicy : k.policy ≠ .disabled) : Held k₀ mayBeActive k :=
  ⟨hpolicy, fun hdown => absurd (hflag.symm.trans hdown) Bool.noConfusion⟩

theorem Aside.armed {σ : Type} {config : NftablesConfig} {e : Entry σ Host Effect}
    (h : Aside k e) (hpolicy : k.policy ≠ .disabled) : Armed config e.effect e.post.kernel :=
  ⟨by rw [h.post.policy]; exact hpolicy, fun rules ok he => absurd he (h.effect rules ok)⟩

/-! ## The adapter -/

section Adapter

variable {a : WireGuardAdapter LinuxWireGuardBackend}

theorem sat_adapter_connect (config : TransportConfig) :
    (WireGuardAdapter.connect LinuxWireGuardBackend.impl config).Sat (Aside w.kernel)
      (fun _ a' w' => a'.interface = a.interface ∧ Raised w.kernel a' w'.kernel ∧
        w.kernel.Undisturbed w'.kernel)
      (fun _ _ w' => w.kernel.Undisturbed w'.kernel) a w := by
  have hrefl := Kernel.Undisturbed.refl w.kernel
  rw [WireGuardAdapter.connect, Prog.sat_bind, Prog.sat_self]
  split
  · exact Prog.sat_fail.mpr hrefl
  split
  · exact Prog.sat_fail.mpr hrefl
  rw [Prog.sat_bind, Prog.sat_liftExcept]
  split
  case h_2 => exact hrefl
  rw [Prog.sat_bind]
  refine sat_check (fun env => ⟨⟨hrefl, nofun⟩, ?_⟩) (fun _ env => ⟨⟨hrefl, nofun⟩, hrefl⟩)
  rw [Prog.sat_bind, WireGuardAdapter.onBackend, Prog.sat_zoom]
  have hlaid := laid_refl ⟨w.kernel, env, Effect.check true :: w.log⟩
  refine (LinuxWireGuardBackend.sat_bringUp (b := a.backend) a.interface a.profile hlaid).mono
    (fun e he => ⟨he.post, he.effect⟩) ?_ ?_
  · rintro - b' w' ⟨installed, -, -, rfl, hlaid'⟩
    rw [Prog.sat_bind, Prog.sat_update]
    exact Prog.sat_pure.mpr ⟨rfl, ⟨hlaid'.links, hlaid'.rules⟩, hlaid'.frame⟩
  · rintro e b' w' ⟨-, hlaid' | ⟨-, -, _, _, _, -, -, -, hlaid'⟩⟩
    · exact hlaid'.frame
    · exact hlaid'.frame

/-- A teardown that succeeds takes away everything on top of `k₀`. -/
theorem sat_adapter_disconnect (h : Raised k₀ a w.kernel) :
    (WireGuardAdapter.disconnect LinuxWireGuardBackend.impl).Sat (Aside w.kernel)
      (fun _ _ w' => w'.kernel.links = k₀.links.erase a.interface ∧
        w'.kernel.rules = k₀.rules ∧ w.kernel.Undisturbed w'.kernel)
      (fun _ _ w' => w.kernel.Undisturbed w'.kernel) a w := by
  rw [WireGuardAdapter.disconnect, Prog.sat_bind, Prog.sat_self]
  split
  · exact Prog.sat_fail.mpr (Kernel.Undisturbed.refl _)
  have hlaid : Laid w.kernel (insert a.interface k₀.links)
      (k₀.rules + a.backend.ruleSet a.backend.activeRules) w.failedDeletions w :=
    ⟨h.links, h.rules, Kernel.Undisturbed.refl _, rfl⟩
  rw [Prog.sat_bind, WireGuardAdapter.onBackend, Prog.sat_zoom]
  refine (LinuxWireGuardBackend.sat_bringDown a.interface hlaid).mono
    (fun e he => ⟨he.post, he.effect⟩) ?_ ?_
  · rintro - b' w' ⟨-, -, hlaid'⟩
    refine Prog.sat_update.mpr ⟨?_, hlaid'.rules, hlaid'.frame⟩
    rw [hlaid'.links, Finset.erase_insert_eq_erase]
  · rintro e b' w' ⟨left, n', -, -, hlaid'⟩
    exact hlaid'.frame

end Adapter

/-! ## The controller -/

section Controller

open LinuxWireGuardConnection (tunnel firewall)
open ConnectionController (onTransport onFirewall)

variable {c : LinuxController}

theorem NothingLeft.refl (k : Kernel) : NothingLeft k k :=
  ⟨Finset.Subset.refl _, le_refl _, fun _ => Or.inr rfl⟩

/-- A tunnel that is up behind a filter, with the flag raised. -/
structure Carried (k₀ : Kernel) (c : LinuxController) (k : Kernel) : Prop where
  raised : Raised k₀ c.transport k
  flag : c.transportMayBeActive = true
  recorded : c.policy ≠ .disabled
  enforced : k.policy ≠ .disabled

/-- A policy other than `disabled` is handed to the firewall. -/
theorem sat_arm {p : TrafficPolicy} {Q : Unit → LinuxController → Host → Prop}
    {E : FirewallError → LinuxController → Host → Prop} (hp : p ≠ .disabled)
    (hk : w.kernel.policy ≠ .disabled)
    (hok : ∀ env log, Q () c ⟨{ w.kernel with policy := p }, env, log⟩)
    (herr : ∀ e env log, E e c ⟨w.kernel, env, log⟩) :
    (onFirewall (firewall.apply p)).Sat
      (fun e => Armed e.self.firewall.config e.effect e.post.kernel) Q E c w := by
  rw [onFirewall, Prog.sat_zoom]
  -- whatever the firewall answers, the text was not the one that lifts the filter
  have hsent : ∀ {rules ok}, c.firewall.config.render p = .ok rules →
      ∀ rules' ok', Effect.transaction rules ok = .transaction rules' ok' →
        c.firewall.config.render .disabled ≠ .ok rules' := by
    rintro rules ok hrules rules' ok' heq
    obtain ⟨rfl, -⟩ := Effect.transaction.inj heq
    exact NftablesConfig.render_disabled_ne hp hrules
  exact NftablesBackend.sat_firewall_render
    (fun rules env hrules => ⟨⟨hp, hsent hrules⟩, hok env _⟩)
    (fun rules e env hrules => ⟨⟨hk, hsent hrules⟩, herr e env _⟩)
    (fun e => herr e w.env w.log)

/-- The transport's teardown, however it is called. -/
theorem sat_teardown (h : Carried k₀ c w.kernel)
    (hres : ∀ j, w.kernel.resolvers j = {} ∨ w.kernel.resolvers j = k₀.resolvers j) :
    (onTransport tunnel.disconnect).Sat
      (fun e => Armed e.self.firewall.config e.effect e.post.kernel)
      (fun _ _ w' => NothingLeft k₀ w'.kernel ∧ c.transport.interface ∉ w'.kernel.links ∧
        w'.kernel.policy = w.kernel.policy)
      (fun _ c' w' => c'.transportMayBeActive = true ∧ w'.kernel.policy = w.kernel.policy)
      c w := by
  rw [onTransport, Prog.sat_zoom]
  refine (sat_adapter_disconnect h.raised).mono (fun e he => he.armed h.enforced) ?_ ?_
  · rintro - a' w' ⟨hlinks, hrules, hframe⟩
    refine ⟨⟨?_, hrules.le, fun j => ?_⟩, ?_, hframe.policy⟩
    · rw [hlinks]
      exact Finset.erase_subset _ _
    · rw [hframe.resolvers]
      exact hres j
    · rw [hlinks]
      exact Finset.notMem_erase _ _
  · rintro e a' w' hframe
    exact ⟨h.flag, hframe.policy⟩

theorem sat_abandon {error : ConnectionError} (h : Carried k₀ c w.kernel)
    (hres : w.kernel.resolvers = k₀.resolvers) :
    (ConnectionController.abandonSession tunnel error).Sat
      (fun e => Armed e.self.firewall.config e.effect e.post.kernel) (fun _ _ _ => False)
      (fun _ c' w' => Held k₀ c'.transportMayBeActive w'.kernel) c w := by
  rw [ConnectionController.abandonSession, Prog.sat_bind, Prog.sat_attempt]
  refine (sat_teardown h (fun j => Or.inr (by rw [hres]))).mono (fun _ h => h) ?_ ?_
  · rintro - c' w' ⟨hleft, -, hpolicy⟩
    rw [Prog.sat_bind, Prog.sat_update, Prog.sat_fail]
    exact ⟨by rw [hpolicy]; exact h.enforced, fun _ => hleft⟩
  · rintro e c' w' ⟨hflag, hpolicy⟩
    exact Prog.sat_fail.mpr (held_of_flag hflag (by rw [hpolicy]; exact h.enforced))

theorem sat_controller_connect (config : TransportConfig) (hk : w.kernel.policy ≠ .disabled) :
    (ConnectionController.connect tunnel firewall config).Sat
      (fun e => Armed e.self.firewall.config e.effect e.post.kernel)
      (fun _ c' w' => Carried w.kernel c' w'.kernel ∧
        c'.transport.interface = c.transport.interface ∧
        w'.kernel.resolvers = w.kernel.resolvers)
      (fun _ c' w' => Held w.kernel c'.transportMayBeActive w'.kernel) c w := by
  rw [ConnectionController.connect, Prog.sat_bind, Prog.sat_self, Prog.sat_bind,
    Prog.sat_mapError]
  refine sat_arm (by rintro ⟨⟩) hk (fun env log => ?_)
    (fun e env log => ⟨hk, fun _ => NothingLeft.refl _⟩)
  rw [Prog.sat_bind, Prog.sat_update, Prog.sat_bind, Prog.sat_mapError, onTransport,
    Prog.sat_zoom]
  refine (sat_adapter_connect (w := ⟨{ w.kernel with policy := .blockNonTunnel }, env, log⟩)
    config).mono (fun e he => he.armed (by rintro ⟨⟩)) ?_ ?_
  · rintro session a' w' ⟨hname, hraised, hframe⟩
    have hblock : w'.kernel.policy = .blockNonTunnel := hframe.policy
    have hcarried : Carried w.kernel
        { c with killSwitch := c.killSwitch.enable, transport := a', transportMayBeActive := true }
        w'.kernel :=
      ⟨⟨hraised.links, hraised.rules⟩, rfl, by rintro ⟨⟩, by rw [hblock]; rintro ⟨⟩⟩
    rw [Prog.sat_bind, Prog.sat_self]
    split
    · exact (sat_abandon hcarried hframe.resolvers).mono (fun _ h => h) (fun _ _ _ h => h.elim)
        (fun _ _ _ h => h)
    case h_2 tunnelSwitch hest =>
    obtain ⟨-, -, rfl⟩ := KillSwitch.tunnelEstablished_eq_ok.mp hest
    rw [Prog.sat_bind, Prog.sat_attempt]
    refine sat_arm (by rintro ⟨⟩) hcarried.enforced (fun env log => ?_) (fun e env log => ?_)
    · rw [Prog.sat_bind, Prog.sat_update]
      exact Prog.sat_pure.mpr ⟨⟨⟨hraised.links, hraised.rules⟩, rfl, by rintro ⟨⟩, by rintro ⟨⟩⟩,
        hname,
        hframe.resolvers⟩
    · exact (sat_abandon (w := ⟨w'.kernel, env, log⟩) hcarried hframe.resolvers).mono
        (fun _ h => h) (fun _ _ _ h => h.elim) (fun _ _ _ h => h)
  · rintro e a' w' hframe
    exact held_of_flag rfl (by rw [hframe.policy]; rintro ⟨⟩)

theorem sat_controller_disconnect (h : Carried k₀ c w.kernel)
    (hres : ∀ j, w.kernel.resolvers j = {} ∨ w.kernel.resolvers j = k₀.resolvers j) :
    (ConnectionController.disconnect tunnel firewall).Sat
      (fun e => Armed e.self.firewall.config e.effect e.post.kernel)
      (fun _ c' w' => c'.transportMayBeActive = false ∧ NothingLeft k₀ w'.kernel ∧
        c.transport.interface ∉ w'.kernel.links ∧ w'.kernel.policy = .blockNonTunnel)
      (fun _ c' w' => Held k₀ c'.transportMayBeActive w'.kernel) c w := by
  have hlost : c.killSwitch.tunnelLost.policy = .blockNonTunnel :=
    KillSwitch.tunnelLost_policy_of_ne h.recorded
  rw [ConnectionController.disconnect, Prog.sat_bind, Prog.sat_self, Prog.sat_bind,
    Prog.sat_mapError, hlost]
  refine sat_arm (by rintro ⟨⟩) h.enforced (fun env log => ?_)
    (fun e env log => held_of_flag h.flag h.enforced)
  rw [Prog.sat_bind, Prog.sat_update, Prog.sat_bind, Prog.sat_mapError]
  have hcarried : Carried k₀ { c with killSwitch := c.killSwitch.tunnelLost }
      { w.kernel with policy := .blockNonTunnel } := by
    refine ⟨⟨h.raised.links, h.raised.rules⟩, h.flag, ?_, by rintro ⟨⟩⟩
    rw [ConnectionController.policy, hlost]
    rintro ⟨⟩
  refine (sat_teardown (w := ⟨{ w.kernel with policy := .blockNonTunnel }, env, log⟩) hcarried
    hres).mono (fun _ h => h) ?_ ?_
  · rintro - c' w' ⟨hleft, hgone, hpolicy⟩
    exact Prog.sat_update.mpr ⟨rfl, hleft, hgone, hpolicy⟩
  · rintro e c' w' ⟨hflag, hpolicy⟩
    exact held_of_flag hflag (by rw [hpolicy]; rintro ⟨⟩)

/-- The filter is lifted over a clean kernel, or not at all. -/
theorem sat_controller_disable (h : Held k₀ c.transportMayBeActive w.kernel) :
    (ConnectionController.disable firewall).Sat (fun _ => True)
      (fun _ _ w' => w'.kernel.policy = .disabled ∧ NothingLeft k₀ w'.kernel)
      (fun _ _ w' => w'.kernel.policy ≠ .disabled) c w := by
  rw [ConnectionController.disable, Prog.sat_bind, Prog.sat_self]
  split
  · exact Prog.sat_fail.mpr h.policy
  case isFalse hraised =>
  have hleft := h.idle (by simpa using hraised)
  split
  · exact Prog.sat_fail.mpr h.policy
  rw [Prog.sat_bind, Prog.sat_mapError, Prog.sat_liftExcept]
  split
  case h_2 => exact h.policy
  case h_1 off hdis =>
  obtain ⟨-, rfl⟩ := KillSwitch.disable_eq_ok.mp hdis
  rw [Prog.sat_bind, Prog.sat_mapError, onFirewall, Prog.sat_zoom]
  refine NftablesBackend.sat_firewall_apply (fun rules env => ⟨trivial, ?_⟩)
    (fun rules e env => ⟨trivial, h.policy⟩) (fun e => h.policy)
  exact Prog.sat_update.mpr ⟨rfl, hleft.links, hleft.rules, hleft.resolvers⟩

end Controller

/-! ## The connection -/

section Connection

open LinuxWireGuardConnection

variable {c : LinuxWireGuardConnection}

/-- The tunnel is up, and only its own resolvers may have changed. -/
structure Serving (k₀ : Kernel) (c : LinuxWireGuardConnection) (k : Kernel) : Prop where
  carried : Carried k₀ c.controller k
  name : c.controller.transport.interface = c.interface
  others : ∀ j, j ≠ c.interface → k.resolvers j = k₀.resolvers j

theorem Serving.onlyResolver {k' : Kernel} (h : Serving k₀ c k)
    (hk : OnlyResolver c.interface k k') (d : LinuxDnsBackend) :
    Serving k₀ { c with dns := d } k' where
  carried := ⟨⟨hk.links.trans h.carried.raised.links, hk.rules.trans h.carried.raised.rules⟩,
    h.carried.flag, h.carried.recorded, by rw [hk.policy]; exact h.carried.enforced⟩
  name := h.name
  others := fun j hj => (hk.others hj).trans (h.others j hj)

/-- An effect of the resolver backend beside the tunnel. -/
theorem Serving.armed {d : LinuxDnsBackend} {e : Entry LinuxDnsBackend Host Effect}
    {config : NftablesConfig} (h : Serving k₀ c k)
    (he : LinuxDnsBackend.OnResolver d c.interface k e) :
    Armed config e.effect e.post.kernel :=
  ⟨by rw [he.post.policy]; exact h.carried.enforced,
    fun rules ok heq => absurd heq (he.effect rules ok)⟩

theorem Serving.resolvers (h : Serving k₀ c k)
    (hclear : k.resolvers c.interface = {} ∨
      k.resolvers c.interface = k₀.resolvers c.interface) (j : String) :
    k.resolvers j = {} ∨ k.resolvers j = k₀.resolvers j := by
  by_cases hj : j = c.interface
  · rw [hj]
    exact hclear
  · exact Or.inr (h.others j hj)

/-- The tunnel comes down over resolvers that are back to normal. -/
theorem sat_drop (h : Serving k₀ c w.kernel)
    (hclear : w.kernel.resolvers c.interface = {} ∨
      w.kernel.resolvers c.interface = k₀.resolvers c.interface) :
    (onController (ConnectionController.disconnect tunnel firewall)).Sat
      (fun e => Armed e.self.controller.firewall.config e.effect e.post.kernel)
      (fun _ c' w' => c'.controller.transportMayBeActive = false ∧ NothingLeft k₀ w'.kernel ∧
        c.interface ∉ w'.kernel.links ∧ w'.kernel.policy = .blockNonTunnel)
      (fun _ c' w' => Held k₀ c'.controller.transportMayBeActive w'.kernel) c w := by
  rw [onController, Prog.sat_zoom, ← h.name]
  exact sat_controller_disconnect h.carried (h.resolvers hclear)

theorem sat_dropTunnel {dnsError : TransportError} (h : Serving k₀ c w.kernel)
    (hclear : w.kernel.resolvers c.interface = {} ∨
      w.kernel.resolvers c.interface = k₀.resolvers c.interface) :
    (dropTunnel dnsError).Sat
      (fun e => Armed e.self.controller.firewall.config e.effect e.post.kernel)
      (fun _ _ _ => False)
      (fun _ c' w' => Held k₀ c'.controller.transportMayBeActive w'.kernel) c w := by
  rw [dropTunnel, Prog.sat_bind, Prog.sat_attempt]
  refine (sat_drop h hclear).mono (fun _ h => h) ?_ (fun _ _ _ h => Prog.sat_fail.mpr h)
  rintro - c' w' ⟨-, hleft, -, hpolicy⟩
  exact Prog.sat_fail.mpr ⟨by rw [hpolicy]; rintro ⟨⟩, fun _ => hleft⟩

/-- A connect either leaves the tunnel serving, or the run held. -/
theorem sat_managed_connect (hname : c.controller.transport.interface = c.interface)
    (hk : w.kernel.policy ≠ .disabled) :
    connect.Sat (fun e => Armed e.self.controller.firewall.config e.effect e.post.kernel)
      (fun _ c' w' => c'.interface = c.interface ∧ Serving w.kernel c' w'.kernel)
      (fun _ c' w' => Held w.kernel c'.controller.transportMayBeActive w'.kernel) c w := by
  rw [connect, Prog.sat_bind, Prog.sat_self, Prog.sat_bind, onController, Prog.sat_zoom]
  refine (sat_controller_connect c.transport hk).mono (fun _ h => h) ?_ (fun _ _ _ h => h)
  rintro session t₁ w₁ ⟨hcarried, hname₁, hres⟩
  have hserving : Serving w.kernel { c with controller := t₁ } w₁.kernel :=
    ⟨hcarried, hname₁.trans hname, fun j _ => by rw [hres]⟩
  rw [Prog.sat_bind, Prog.sat_attempt, onDns, Prog.sat_zoom]
  refine (LinuxDnsBackend.sat_configure c.dnsConfig).mono (fun e he => hserving.armed he) ?_ ?_
  · rintro - d₂ w₂ ⟨-, rfl, honly⟩
    exact Prog.sat_pure.mpr ⟨rfl, hserving.onlyResolver honly _⟩
  · rintro dnsError d₂ w₂ ⟨honly, hcase⟩
    have hserving₂ := hserving.onlyResolver honly d₂
    rw [Prog.sat_bind, Prog.sat_self]
    split
    · -- settings the backend still answers for: it is asked once more
      rw [Prog.sat_bind, Prog.sat_attempt, onDns, Prog.sat_zoom]
      refine LinuxDnsBackend.sat_revert.mono (fun e he => hserving₂.armed he) ?_ ?_
      · rintro - d₃ w₃ ⟨-, rfl, honly₃, hclear⟩
        exact (sat_dropTunnel (hserving₂.onlyResolver honly₃ _) (Or.inl hclear)).mono
          (fun _ h => h) (fun _ _ _ h => h.elim) (fun _ _ _ h => h)
      · rintro e d₃ w₃ ⟨rfl, hk₃⟩
        exact Prog.sat_fail.mpr
          (held_of_flag hcarried.flag (by rw [hk₃]; exact hserving₂.carried.enforced))
    · next hneeds =>
      have hclear : w₂.kernel.resolvers c.interface = {} ∨
          w₂.kernel.resolvers c.interface = w.kernel.resolvers c.interface := by
        rcases hcase with ⟨-, hsame | hclear⟩ | ⟨-, rfl⟩
        · exact Or.inr (by rw [hsame, hres])
        · exact Or.inl hclear
        · exact absurd rfl hneeds
      exact (sat_dropTunnel hserving₂ hclear).mono (fun _ h => h) (fun _ _ _ h => h.elim)
        (fun _ _ _ h => h)

theorem sat_managed_disconnect (h : Serving k₀ c w.kernel) :
    disconnect.Sat (fun e => Armed e.self.controller.firewall.config e.effect e.post.kernel)
      (fun _ c' w' => c'.controller.transportMayBeActive = false ∧ NothingLeft k₀ w'.kernel ∧
        c.interface ∉ w'.kernel.links ∧ w'.kernel.policy = .blockNonTunnel)
      (fun _ c' w' => Held k₀ c'.controller.transportMayBeActive w'.kernel) c w := by
  rw [disconnect, Prog.sat_bind, Prog.sat_self, Prog.sat_bind, Prog.sat_mapError, onDns,
    Prog.sat_zoom]
  refine LinuxDnsBackend.sat_revert.mono (fun e he => h.armed he) ?_ ?_
  · rintro - d₁ w₁ ⟨-, rfl, honly, hclear⟩
    exact sat_drop (h.onlyResolver honly _) (Or.inl hclear)
  · rintro e d₁ w₁ ⟨rfl, hk₁⟩
    exact held_of_flag h.carried.flag (by rw [hk₁]; exact h.carried.enforced)

theorem sat_managed_disable (h : Held k₀ c.controller.transportMayBeActive w.kernel) :
    disable.Sat (fun _ => True)
      (fun _ _ w' => w'.kernel.policy = .disabled ∧ NothingLeft k₀ w'.kernel)
      (fun _ _ w' => w'.kernel.policy ≠ .disabled) c w := by
  rw [disable, onController, Prog.sat_zoom]
  exact sat_controller_disable h

end Connection

/-! ## The whole run -/

/-- What holds of a run from any kernel in which traffic is filtered. -/
theorem sat_runUntilShutdown (alwaysOn : Bool) {wait : Prog Unit Host Effect Empty Unit}
    (hwait : ∀ v, (wait () v).trace = []) {c : LinuxWireGuardConnection}
    (hname : c.controller.transport.interface = c.interface)
    (hk : w.kernel.policy ≠ .disabled) :
    (runUntilShutdown managedConnection alwaysOn wait).Sat
      (fun e => alwaysOn = true →
        Armed e.self.controller.firewall.config e.effect e.post.kernel)
      (fun _ _ w' => NothingLeft w.kernel w'.kernel ∧
        if alwaysOn then w'.kernel.policy = .blockNonTunnel ∧ c.interface ∉ w'.kernel.links
        else w'.kernel.policy = .disabled)
      (fun _ _ w' => w'.kernel.policy = .disabled → NothingLeft w.kernel w'.kernel) c w := by
  rw [runUntilShutdown, Prog.sat_bind, Prog.sat_attempt]
  refine (sat_managed_connect hname hk).mono (fun _ h _ => h) ?_ ?_
  · rintro session c₁ w₁ ⟨hinterface, hserving⟩
    rw [← hinterface, Prog.sat_bind, Prog.sat_mapError, Prog.sat_zoom]
    refine (Prog.sat_of_silent (hwait w₁)).mono (fun _ h => h) ?_ (fun e => e.elim)
    rintro - - w₂ rfl
    rw [Prog.sat_bind]
    refine (sat_managed_disconnect hserving).mono (fun _ h _ => h) ?_
      (fun _ _ _ h hoff => absurd hoff h.policy)
    rintro - c₃ w₃ ⟨hflag, hleft, hgone, hpolicy⟩
    have hheld : Held w.kernel c₃.controller.transportMayBeActive w₃.kernel :=
      ⟨by rw [hpolicy]; nofun, fun _ => hleft⟩
    cases alwaysOn with
    | true => exact Prog.sat_pure.mpr ⟨hleft, hpolicy, hgone⟩
    | false =>
        exact (sat_managed_disable hheld).mono (fun _ _ => nofun) (fun _ _ _ h => ⟨h.2, h.1⟩)
          (fun _ _ _ h hoff => absurd hoff h)
  · rintro error c₁ w₁ hheld
    cases alwaysOn with
    | true => exact Prog.sat_fail.mpr fun hoff => absurd hoff hheld.policy
    | false =>
        -- whatever `disable` returns, the caller sees the connect's error
        dsimp only
        rw [if_pos Bool.not_false, Prog.sat_bind, Prog.sat_attempt]
        refine (sat_managed_disable hheld).mono (fun _ _ => nofun) ?_ ?_
        · rintro - c₂ w₂ ⟨-, hleft⟩
          exact Prog.sat_fail.mpr fun _ => hleft
        · rintro e c₂ w₂ hpolicy
          exact Prog.sat_fail.mpr fun hoff => absurd hoff hpolicy

/-- **The process's outcome.** For every run on a fresh connection and
every pattern of failures: filtering is off at the end only over a kernel
that holds nothing of the run; a run that returns normally ends with
filtering off, or, if it is always on, with everything blocked and the
tunnel gone; and then filtering is at no time off, nor is the firewall
ever asked for it. -/
theorem shutdown_outcome (files : FileSystem) (settings : LinuxConnectionSettings) (w : Host)
    (c : LinuxWireGuardConnection)
    (hnew : (LinuxWireGuardConnection.withRunners files settings () w).result = .ok c)
    (wait : Prog Unit Host Effect Empty Unit) (hwait : ∀ v, (wait () v).trace = []) :
    let start := (LinuxWireGuardConnection.withRunners files settings () w).world
    let run := runUntilShutdown managedConnection settings.alwaysOn wait c start
    (run.world.kernel.policy = .disabled → NothingLeft start.kernel run.world.kernel) ∧
    (run.result = .ok () → settings.alwaysOn = false → run.world.kernel.policy = .disabled) ∧
    (run.result = .ok () → settings.alwaysOn = true →
      run.world.kernel.policy = .blockNonTunnel ∧ settings.interface ∉ run.world.kernel.links ∧
        NothingLeft start.kernel run.world.kernel) ∧
    (settings.alwaysOn = true → start.kernel.policy ≠ .disabled ∧
      ∀ e ∈ run.trace, Armed e.self.controller.firewall.config e.effect e.post.kernel) := by
  intro start run
  obtain ⟨⟨address, rfl⟩, hstart⟩ :=
    (LinuxWireGuardConnection.sat_withRunners_fresh files settings (w := w)).of_ok hnew
  have hk : start.kernel.policy ≠ .disabled := by
    rw [show start.kernel = _ from hstart]
    nofun
  have hsat := sat_runUntilShutdown settings.alwaysOn hwait
    (c := LinuxWireGuardConnection.freshConnection settings address) rfl hk
  refine ⟨?_, ?_, ?_, fun hon => ⟨hk, fun e he => hsat.1 e he hon⟩⟩
  · rcases hsat.result with ⟨-, -, hleft, -⟩ | ⟨e, -, hleft⟩
    · exact fun _ => hleft
    · exact hleft
  · intro hok hoff
    obtain ⟨-, hend⟩ := hsat.of_ok hok
    rwa [if_neg (by simp [hoff])] at hend
  · intro hok hon
    obtain ⟨hleft, hend⟩ := hsat.of_ok hok
    rw [if_pos hon] at hend
    exact ⟨hend.1, hend.2, hleft⟩

/-- A host on which the tunnel's link cannot be configured and cannot be
deleted again. -/
def exampleStuckHost : Host where
  kernel := LinuxWireGuardBackend.exampleKernel
  env := { commands := [.ok [], .error (.network "wg failed"), .error (.network "ip failed")] }
  log := []

def exampleRun : Outcome LinuxWireGuardConnection Host Effect ConnectionError Unit :=
  runUntilShutdown managedConnection false (pure ()) LinuxWireGuardConnection.exampleConnection
    (LinuxWireGuardConnection.withRunners LinuxWireGuardConnection.exampleFiles
      LinuxWireGuardConnection.exampleSettings () exampleStuckHost).world

/-- The link stays, and `disable` is tried and refused. -/
theorem shutdown_outcome_stuck :
    "cyb0" ∈ exampleRun.world.kernel.links ∧
      (exampleRun.world.kernel.policy = .disabled →
        NothingLeft { LinuxWireGuardBackend.exampleKernel with policy := .blockNonTunnel }
          exampleRun.world.kernel) ∧
      exampleRun.world.kernel.policy ≠ .disabled :=
  ⟨by decide +kernel,
    (shutdown_outcome LinuxWireGuardConnection.exampleFiles
      LinuxWireGuardConnection.exampleSettings exampleStuckHost
      LinuxWireGuardConnection.exampleConnection rfl (pure ()) (fun _ => rfl)).1,
    by decide +kernel⟩

end CyberiaVpn.Client
