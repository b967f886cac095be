import CyberiaVpn.Linux.BackendRuns

/-!
# Routing state of other devices

A session of the backend is a `bring_up` that fails and cleans up after
itself, or one that succeeds and is taken down later. What the host had
before should be there afterwards: links and policy rules are added and
deleted one by one, so they are. A route is installed with
`ip route replace`, which takes the place of whatever main-table route the
prefix had, and nothing remembers what that was. `session_survives_iff`
says that this is the only way to lose anything: a session leaves the rest
of the host alone, whatever fails, exactly when no prefix it installs in
the main table leads to another device already.

The argument goes through the commands. `Issued` lists what the backend
can ask of the kernel, and a property that every such command preserves
holds at the end of every call (`Chain.invariant`).
-/

namespace CyberiaVpn.Linux

open Effects Transport Killswitch

namespace LinuxWireGuardBackend

/-! ## What the backend asks of the kernel -/

/-- The argument vectors of a session with this mark, interface and these
allowed IPs. -/
inductive Issued (mark : NonZeroU32) (interface : String) (routes : List AllowedIp) :
    List String → Prop where
  | linkAdd : Issued mark interface routes ["link", "add", "dev", interface, "type", "wireguard"]
  | configure (rest : List String) : Issued mark interface routes ("set" :: interface :: rest)
  | address (address : String) :
      Issued mark interface routes ["address", "add", address, "dev", interface]
  | linkUp (mtu : String) :
      Issued mark interface routes ["link", "set", "dev", interface, "mtu", mtu, "up"]
  | route {allowed : AllowedIp} (hmem : allowed ∈ routes) (hlength : allowed.prefixLength ≠ 0) :
      Issued mark interface routes [(AddressFamily.of allowed.network).argument, "route", "replace",
        allowed.display, "dev", interface]
  | defaultRoute {allowed : AllowedIp} (hmem : allowed ∈ routes)
      (hlength : allowed.prefixLength = 0) :
      Issued mark interface routes [(AddressFamily.of allowed.network).argument, "route", "replace",
        "default", "dev", interface, "table", toString mark.val]
  | ruleAdd (family : AddressFamily) (selector : List String) :
      Issued mark interface routes (family.argument :: "rule" :: "add" :: selector)
  | ruleDelete (family : AddressFamily) (selector : List String) :
      Issued mark interface routes (family.argument :: "rule" :: "delete" :: selector)
  | linkDelete : Issued mark interface routes ["link", "delete", "dev", interface]

/-- An effect that leaves the kernel alone or executes one of these
vectors. -/
def Moves {σ : Type} (P : List String → Prop) (e : Entry σ Host Effect) : Prop :=
  e.post.kernel = e.pre.kernel ∨
    ∃ arguments, P arguments ∧ e.pre.kernel.exec arguments = some e.post.kernel

section Walk

variable {σ : Type} {P : List String → Prop} {s : σ} {w : Host}

theorem sat_check_moves : (check).Sat (Moves P) (fun _ s' _ => s' = s) (fun _ s' _ => s' = s) s w :=
  sat_check (fun _ => ⟨Or.inl rfl, rfl⟩) (fun _ _ => ⟨Or.inl rfl, rfl⟩)

theorem sat_command_moves {program : PathBuf} {arguments : List String} (h : P arguments) :
    (command program arguments).Sat (Moves P) (fun _ s' _ => s' = s) (fun _ s' _ => s' = s) s w :=
  sat_command (fun _ _ hk => ⟨Or.inr ⟨arguments, h, hk⟩, rfl⟩) (fun _ _ => ⟨Or.inl rfl, rfl⟩)

variable {b : LinuxWireGuardBackend} {interface : String} {profile : WireGuardConfig}
  {installed : List PolicyRule}

theorem sat_configure_moves :
    (configure interface profile).Sat (Moves (Issued b.routingMark interface profile.allowedIps))
      (fun _ b' _ => b' = b) (fun _ b' _ => b' = b) b w := by
  rw [configure, Prog.sat_bind, Prog.sat_self]
  dsimp only
  refine sat_check_moves.bind ?_
  rintro - b₁ w₁ rfl
  refine (sat_command_moves (Issued.configure _)).bind ?_
  rintro - b₂ w₂ rfl
  refine (Prog.sat_forEach (J := fun b' _ => b' = b₂) ?_ rfl).bind ?_
  · rintro address - b₃ w₃ rfl
    refine sat_check_moves.bind ?_
    rintro - b₄ w₄ rfl
    exact sat_command_moves (Issued.address _)
  · rintro - b₃ w₃ rfl
    refine sat_check_moves.bind ?_
    rintro - b₄ w₄ rfl
    exact sat_command_moves (Issued.linkUp _)

theorem sat_addPolicyRule_moves {rule : PolicyRule} {family : AddressFamily}
    {selector : List String} {routes : List AllowedIp} :
    (addPolicyRule rule family selector).Sat (Moves (Issued b.routingMark interface routes))
      (fun _ s' _ => s'.1 = b) (fun _ s' _ => s'.1 = b) (b, installed) w := by
  rw [addPolicyRule, Prog.sat_bind, Prog.sat_self]
  dsimp only
  refine ((sat_command_moves (Issued.ruleAdd family selector)).mono (fun _ h => h)
    (fun _ _ _ h => h) (fun _ s' _ h => by rw [h])).bind ?_
  rintro - s₁ w₁ rfl
  exact Prog.sat_update.mpr rfl

theorem sat_installRoute_moves {allowed : AllowedIp} {routes : List AllowedIp}
    (hmem : allowed ∈ routes) :
    (installRoute interface allowed).Sat (Moves (Issued b.routingMark interface routes))
      (fun _ s' _ => s'.1 = b) (fun _ s' _ => s'.1 = b) (b, installed) w := by
  have hfst : ∀ (s' : LinuxWireGuardBackend × List PolicyRule), s' = (b, installed) → s'.1 = b :=
    fun s' h => by rw [h]
  rw [installRoute]
  refine (sat_check_moves.mono (fun _ h => h) (fun _ _ _ h => h) (fun _ s' _ h => hfst s' h)).bind ?_
  rintro - s₁ w₁ rfl
  rw [Prog.sat_bind, Prog.sat_self]
  dsimp only
  split
  · next hlength =>
      exact (sat_command_moves (Issued.route hmem hlength)).mono (fun _ h => h)
        (fun _ s' _ h => hfst s' h) (fun _ s' _ h => hfst s' h)
  · next hlength =>
      refine ((sat_command_moves (Issued.defaultRoute hmem (not_ne_iff.mp hlength))).mono
        (fun _ h => h) (fun _ _ _ h => h) (fun _ s' _ h => hfst s' h)).bind ?_
      rintro - s₂ w₂ rfl
      refine sat_addPolicyRule_moves.bind ?_
      rintro - ⟨b₃, installed₃⟩ w₃ hb
      obtain rfl : b₃ = b := hb
      exact sat_addPolicyRule_moves

theorem sat_installRoutes_moves :
    (installRoutes interface profile).Sat
      (Moves (Issued b.routingMark interface profile.allowedIps))
      (fun _ s' _ => s'.1 = b) (fun _ s' _ => s'.1 = b) (b, installed) w := by
  refine Prog.sat_forEach (J := fun (s' : LinuxWireGuardBackend × List PolicyRule) _ => s'.1 = b) ?_ rfl
  rintro allowed hmem ⟨b₁, installed₁⟩ w₁ hb
  obtain rfl : b₁ = b := hb
  exact sat_installRoute_moves hmem

theorem sat_removePolicyRules_moves {mark : NonZeroU32} {routes : List AllowedIp} :
    removePolicyRules.Sat (Moves (Issued mark interface routes))
      (fun _ s' _ => s'.1 = b) (fun _ s' _ => s'.1 = b) (b, installed) w := by
  rw [removePolicyRules, Prog.sat_bind, Prog.sat_self]
  refine Prog.sat_forEach (J := fun (s' : LinuxWireGuardBackend × List PolicyRule) _ => s'.1 = b) ?_ rfl
  rintro rule - s₁ w₁ hb
  obtain ⟨family, selector, -, hprog⟩ := removePolicyRule_eq s₁ rule
  rw [Prog.sat_bind, Prog.sat_congr (hprog w₁)]
  refine (sat_command_moves (Issued.ruleDelete family selector)).mono (fun _ h => h) ?_ ?_
  · rintro - s₂ w₂ rfl
    exact Prog.sat_update.mpr hb
  · rintro - s₂ w₂ rfl
    exact hb

theorem sat_deleteInterface_moves {mark : NonZeroU32} {routes : List AllowedIp} :
    (deleteInterface interface).Sat (Moves (Issued mark interface routes))
      (fun _ b' _ => b' = b) (fun _ b' _ => b' = b) b w := by
  rw [deleteInterface, Prog.sat_bind, Prog.sat_self]
  exact sat_command_moves Issued.linkDelete

theorem sat_rollbackSetup_moves {mark : NonZeroU32} {routes : List AllowedIp}
    (setupError : TransportError) :
    (rollbackSetup interface installed setupError).Sat (Moves (Issued mark interface routes))
      (fun _ _ _ => True) (fun _ _ _ => True) b w := by
  rw [rollbackSetup, Prog.sat_bind, Prog.sat_withLocal]
  refine (sat_removePolicyRules_moves (b := b)).mono (fun _ h => h) ?_ ?_
  · rintro - s₁ w₁ -
    rw [Prog.sat_bind, Prog.sat_attempt]
    exact sat_deleteInterface_moves.mono (fun _ h => h)
      (fun _ _ _ _ => Prog.sat_pure.mpr trivial) (fun _ _ _ _ => Prog.sat_pure.mpr trivial)
  · rintro e s₁ w₁ -
    rw [Prog.sat_bind, Prog.sat_attempt]
    exact sat_deleteInterface_moves.mono (fun _ h => h)
      (fun _ _ _ _ => Prog.sat_pure.mpr trivial) (fun _ _ _ _ => Prog.sat_pure.mpr trivial)

/-- Every effect of `bring_up` is on the list. -/
theorem sat_bringUp_moves :
    (bringUp interface profile).Sat (Moves (Issued b.routingMark interface profile.allowedIps))
      (fun _ _ _ => True) (fun _ _ _ => True) b w := by
  have hrollback : ∀ (b' : LinuxWireGuardBackend) (w' : Host) (rules : List PolicyRule)
      (e : TransportError),
      (rollbackSetup interface rules e >>= fun e' => (Prog.fail e' : BackendM Unit)).Sat
        (Moves (Issued b.routingMark interface profile.allowedIps))
        (fun _ _ _ => True) (fun _ _ _ => True) b' w' := fun b' w' rules e =>
    (sat_rollbackSetup_moves e).bind fun _ _ _ _ => Prog.sat_fail.mpr trivial
  rw [bringUp, Prog.sat_bind, Prog.sat_self]
  split
  · exact Prog.sat_fail.mpr trivial
  refine (sat_check_moves.mono (fun _ h => h) (fun _ _ _ h => h) (fun _ _ _ _ => trivial)).bind ?_
  rintro - b₁ w₁ rfl
  rw [Prog.sat_bind, Prog.sat_self]
  refine ((sat_command_moves Issued.linkAdd).mono (fun _ h => h) (fun _ _ _ h => h)
    (fun _ _ _ _ => trivial)).bind ?_
  rintro - b₂ w₂ rfl
  rw [Prog.sat_bind, Prog.sat_attempt]
  refine sat_configure_moves.mono (fun _ h => h) ?_ (fun e b₃ w₃ _ => hrollback b₃ w₃ [] e)
  rintro - b₃ w₃ rfl
  rw [Prog.sat_bind, Prog.sat_withLocal]
  refine sat_installRoutes_moves.mono (fun _ h => h) ?_ (fun e s₄ w₄ _ => hrollback s₄.1 w₄ s₄.2 e)
  exact fun _ s₄ w₄ _ => Prog.sat_update.mpr trivial

theorem sat_bringDown_moves {mark : NonZeroU32} {routes : List AllowedIp} :
    (bringDown interface).Sat (Moves (Issued mark interface routes))
      (fun _ _ _ => True) (fun _ _ _ => True) b w := by
  rw [bringDown, Prog.sat_bind, Prog.sat_self]
  split
  · exact Prog.sat_fail.mpr trivial
  rw [Prog.sat_bind, Prog.sat_update, Prog.sat_bind, Prog.sat_withLocal]
  refine (sat_removePolicyRules_moves (b := { b with activeRules := [] })).mono (fun _ h => h) ?_ ?_
  · rintro - s₁ w₁ -
    refine (sat_deleteInterface_moves.mono (fun _ h => h) (fun _ _ _ h => h)
      (fun _ _ _ _ => trivial)).bind ?_
    exact fun _ _ _ _ => Prog.sat_update.mpr trivial
  · rintro e s₁ w₁ -
    rw [Prog.sat_bind, Prog.sat_update, Prog.sat_fail]
    trivial

end Walk

/-! ## Other devices' routes -/

/-- The main-table key a prefix is installed under. A default prefix goes to
the table numbered like the mark, which is the main one for 254. -/
def mainKey (mark : NonZeroU32) (allowed : AllowedIp) : Option (List String) :=
  let family := (AddressFamily.of allowed.network).argument
  if allowed.prefixLength ≠ 0 then some [family, allowed.display]
  else if toString mark.val = "254" then some [family, "default"]
  else none

/-- Some prefix is already routed to another device in the main table. -/
def Collides (k : Kernel) (mark : NonZeroU32) (interface : String) (routes : List AllowedIp) : Prop :=
  ∃ allowed ∈ routes, ∃ key dev, mainKey mark allowed = some key ∧ k.routes key = some dev ∧
    dev ≠ interface

/-- Every main-table route of another device in `k` is in `k'`. -/
def RoutesKept (interface : String) (k k' : Kernel) : Prop :=
  ∀ family target dev, k.routes [family, target] = some dev → dev ≠ interface →
    k'.routes [family, target] = some dev

section Routes

variable {k₀ k k' : Kernel} {mark : NonZeroU32} {interface : String} {routes : List AllowedIp}
  {arguments : List String}

theorem execWg_routes (i : String) : ∀ rest : List String, (k.execWg i rest).routes = k.routes := by
  intro rest
  fun_induction k.execWg i rest with
  | case1 _ _ ih => exact ih
  | case2 _ _ ih => exact ih
  | case3 _ _ ih => exact ih
  | case4 => rfl
  | case5 => rfl
  | case6 => rfl
  | case7 => rfl

theorem exec_routeReplace {family : AddressFamily} {target : String} :
    k.exec [family.argument, "route", "replace", target, "dev", interface] = some k' ↔
      interface ∈ k.links ∧ k' = k.setRoute [family.argument, target] interface := by
  cases family <;> exact Kernel.onLink_eq_some

theorem exec_routeReplaceTable {family : AddressFamily} {target table : String} :
    k.exec [family.argument, "route", "replace", target, "dev", interface, "table", table]
      = some k' ↔
      interface ∈ k.links ∧
        k' = k.setRoute (Kernel.routeKey family.argument target table) interface := by
  cases family <;> exact Kernel.onLink_eq_some

/-- What one command does to the routes: nothing, a replacement, or the
removal of those of the interface. -/
theorem routes_of_issued (h : Issued mark interface routes arguments)
    (hk : k.exec arguments = some k') :
    k'.routes = k.routes ∨
      (∃ allowed ∈ routes, ∃ key, k' = k.setRoute key interface ∧
        (∀ family target, key = [family, target] → mainKey mark allowed = some key)) ∨
      k' = k.deleteLink interface := by
  cases h with
  | linkAdd =>
      obtain ⟨-, rfl⟩ := Kernel.exec_linkAdd.mp hk
      exact Or.inl rfl
  | configure rest =>
      obtain ⟨-, rfl⟩ := Kernel.onLink_eq_some.mp hk
      exact Or.inl (execWg_routes interface rest)
  | address address =>
      obtain ⟨-, rfl⟩ := Kernel.onLink_eq_some.mp hk
      exact Or.inl rfl
  | linkUp mtu =>
      obtain ⟨-, rfl⟩ := Kernel.onLink_eq_some.mp hk
      exact Or.inl rfl
  | @route allowed hmem hlength =>
      obtain ⟨-, rfl⟩ := exec_routeReplace.mp hk
      refine Or.inr (Or.inl ⟨allowed, hmem, _, rfl, fun _ _ _ => ?_⟩)
      exact if_pos hlength
  | @defaultRoute allowed hmem hlength =>
      obtain ⟨-, rfl⟩ := exec_routeReplaceTable.mp hk
      refine Or.inr (Or.inl ⟨allowed, hmem, _, rfl, fun family target hkey => ?_⟩)
      rw [Kernel.routeKey] at hkey ⊢
      split at hkey
      · next hmain =>
          rw [if_pos hmain, mainKey]
          exact (if_neg (not_ne_iff.mpr hlength)).trans (if_pos hmain)
      · cases hkey
  | ruleAdd family selector =>
      rw [exec_ruleAdd] at hk
      obtain rfl := Option.some.inj hk
      exact Or.inl rfl
  | ruleDelete family selector => exact Or.inl (exec_ruleDelete_frame hk).2
  | linkDelete =>
      obtain ⟨-, rfl⟩ := Kernel.exec_linkDelete.mp hk
      exact Or.inr (Or.inr rfl)

theorem RoutesKept.exec (hfree : ¬Collides k₀ mark interface routes)
    (h : Issued mark interface routes arguments) (hk : k.exec arguments = some k')
    (hkept : RoutesKept interface k₀ k) : RoutesKept interface k₀ k' := by
  intro family target dev hroute hdev
  have hold := hkept family target dev hroute hdev
  rcases routes_of_issued h hk with hsame | ⟨allowed, hmem, key, rfl, hmain⟩ | rfl
  · rw [hsame]
    exact hold
  · by_cases hkey : [family, target] = key
    · -- the prefix would collide
      refine absurd ⟨allowed, hmem, key, dev, hmain family target hkey.symm, ?_, hdev⟩ hfree
      rw [← hkey]
      exact hroute
    · exact (if_neg hkey).trans hold
  · show (k.routes [family, target]).filter (· ≠ interface) = some dev
    rw [hold]
    simp [hdev]

/-- So the routes are kept by every program that issues only such
commands. -/
theorem routesKept_of_moves {σ ε α : Type} {m : Prog σ Host Effect ε α} {s : σ} {w : Host}
    (hfree : ¬Collides k₀ mark interface routes)
    (htrace : ∀ e ∈ (m s w).trace, Moves (Issued mark interface routes) e)
    (hkept : RoutesKept interface k₀ w.kernel) : RoutesKept interface k₀ (m s w).world.kernel := by
  refine (m.chain s w).invariant (J := fun w' => RoutesKept interface k₀ w'.kernel) ?_ hkept
  intro e he hpre
  rcases htrace e he with hsame | ⟨arguments, hissued, hexec⟩
  · rw [hsame]
    exact hpre
  · exact hpre.exec hfree hissued hexec

end Routes

/-! ## A session on a calm host -/

section Calm

variable {b : LinuxWireGuardBackend} {w : Host} {interface : String}

theorem sat_configure_calm (profile : WireGuardConfig) (hcalm : w.env = .calm)
    (hlink : interface ∈ w.kernel.links) :
    (configure interface profile).Sat (fun _ => True)
      (fun _ b' w' => b' = b ∧ w'.env = .calm ∧ interface ∈ w'.kernel.links)
      (fun _ _ _ => False) b w := by
  rw [configure, Prog.sat_bind, Prog.sat_self]
  refine Prog.sat_bind.mpr (sat_check_calm hcalm fun log₁ => ?_)
  refine Prog.sat_bind.mpr
    (sat_command_calm rfl (Kernel.onLink_eq_some.mpr ⟨hlink, rfl⟩) fun log₂ => ?_)
  have hlink₂ : ∀ rest, interface ∈ (w.kernel.execWg interface rest).links := fun rest => by
    rw [(Kernel.execWg_step interface rest).links]
    exact hlink
  refine (Prog.sat_forEach
    (J := fun b' (w' : Host) => b' = b ∧ w'.env = .calm ∧ interface ∈ w'.kernel.links) ?_
    ⟨rfl, rfl, hlink₂ _⟩).bind ?_
  · rintro address - b₃ w₃ ⟨rfl, hcalm₃, hlink₃⟩
    refine Prog.sat_bind.mpr (sat_check_calm hcalm₃ fun log₄ => ?_)
    exact sat_command_calm rfl (Kernel.onLink_eq_some.mpr ⟨hlink₃, rfl⟩) fun _ => ⟨rfl, rfl, hlink₃⟩
  · rintro - b₃ w₃ ⟨rfl, hcalm₃, hlink₃⟩
    refine Prog.sat_bind.mpr (sat_check_calm hcalm₃ fun log₄ => ?_)
    exact sat_command_calm rfl (Kernel.onLink_eq_some.mpr ⟨hlink₃, rfl⟩) fun _ => ⟨rfl, rfl, hlink₃⟩

/-- The routes of the interface grow, and nothing else happens to it. -/
structure Grown (interface : String) (w w' : Host) : Prop where
  calm : w'.env = .calm
  link : interface ∈ w'.kernel.links
  routes : ∀ key, w.kernel.routes key = some interface → w'.kernel.routes key = some interface

theorem sat_addPolicyRule_calm {rule : PolicyRule} {family : AddressFamily} {selector : List String}
    {installed : List PolicyRule} (hcalm : w.env = .calm) (hlink : interface ∈ w.kernel.links) :
    (addPolicyRule rule family selector).Sat (fun _ => True)
      (fun _ s' w' => s'.1 = b ∧ Grown interface w w') (fun _ _ _ => False) (b, installed) w := by
  rw [addPolicyRule, Prog.sat_bind, Prog.sat_self]
  refine Prog.sat_bind.mpr (sat_command_calm hcalm (exec_ruleAdd _ _ _) fun log => ?_)
  exact Prog.sat_update.mpr ⟨rfl, rfl, hlink, fun _ h => h⟩

theorem setRoute_grows {k : Kernel} {key key' : List String} (h : k.routes key' = some interface) :
    (k.setRoute key interface).routes key' = some interface := by
  by_cases hkey : key' = key
  · exact if_pos hkey
  · exact (if_neg hkey).trans h

theorem sat_installRoute_calm (allowed : AllowedIp) {installed : List PolicyRule}
    (hcalm : w.env = .calm) (hlink : interface ∈ w.kernel.links) :
    (installRoute interface allowed).Sat (fun _ => True)
      (fun _ s' w' => s'.1 = b ∧ Grown interface w w' ∧
        ∀ key, mainKey b.routingMark allowed = some key → w'.kernel.routes key = some interface)
      (fun _ _ _ => False) (b, installed) w := by
  rw [installRoute]
  refine Prog.sat_bind.mpr (sat_check_calm hcalm fun log₁ => ?_)
  rw [Prog.sat_bind, Prog.sat_self]
  dsimp only
  split
  · next hlength =>
      refine sat_command_calm rfl (exec_routeReplace.mpr ⟨hlink, rfl⟩) fun log₂ => ?_
      refine ⟨rfl, ⟨rfl, hlink, fun key h => setRoute_grows h⟩, fun key hkey => ?_⟩
      obtain rfl := Option.some.inj ((if_pos hlength).symm.trans hkey)
      exact if_pos rfl
  · next hlength =>
      refine Prog.sat_bind.mpr
        (sat_command_calm rfl (exec_routeReplaceTable.mpr ⟨hlink, rfl⟩) fun log₂ => ?_)
      refine Prog.Sat.bind (sat_addPolicyRule_calm (b := b) rfl hlink) ?_
      rintro - ⟨b₃, installed₃⟩ w₃ ⟨hb, hgrown₃⟩
      obtain rfl : b₃ = b := hb
      refine (sat_addPolicyRule_calm (b := b₃) hgrown₃.calm hgrown₃.link).mono (fun _ h => h) ?_
        (fun _ _ _ h => h)
      rintro - s₄ w₄ ⟨hb, hgrown₄⟩
      refine ⟨hb, ⟨hgrown₄.calm, hgrown₄.link, fun key h =>
        hgrown₄.routes key (hgrown₃.routes key (setRoute_grows h))⟩, fun key hkey => ?_⟩
      refine hgrown₄.routes key (hgrown₃.routes key ?_)
      rw [mainKey, if_neg hlength] at hkey
      split at hkey
      · next hmain =>
          obtain rfl := Option.some.inj hkey
          exact if_pos (if_pos hmain).symm
      · cases hkey

theorem sat_installRoutes_calm : ∀ {routes : List AllowedIp} {b : LinuxWireGuardBackend}
    {installed : List PolicyRule} {w : Host}, w.env = .calm → interface ∈ w.kernel.links →
    (Prog.forEach (installRoute interface) routes).Sat (fun _ => True)
      (fun _ s' w' => s'.1 = b ∧ Grown interface w w' ∧ ∀ allowed ∈ routes, ∀ key,
        mainKey b.routingMark allowed = some key → w'.kernel.routes key = some interface)
      (fun _ _ _ => False) (b, installed) w
  | [], _, _, _, hcalm, hlink =>
      Prog.sat_ret.mpr ⟨rfl, ⟨hcalm, hlink, fun _ h => h⟩, fun _ h => (nomatch h)⟩
  | allowed :: routes, b, installed, w, hcalm, hlink => by
      rw [Prog.forEach, Prog.sat_seq]
      refine (sat_installRoute_calm allowed hcalm hlink).mono (fun _ h => h) ?_ (fun _ _ _ h => h)
      rintro - ⟨b₁, installed₁⟩ w₁ ⟨hb, hgrown₁, hset₁⟩
      obtain rfl : b₁ = b := hb
      refine (sat_installRoutes_calm hgrown₁.calm hgrown₁.link).mono (fun _ h => h) ?_
        (fun _ _ _ h => h)
      rintro - s₂ w₂ ⟨hb, hgrown₂, hset₂⟩
      refine ⟨hb, ⟨hgrown₂.calm, hgrown₂.link, fun key h =>
        hgrown₂.routes key (hgrown₁.routes key h)⟩, ?_⟩
      refine List.forall_mem_cons.mpr ⟨fun key hkey => ?_, hset₂⟩
      exact hgrown₂.routes key (hset₁ key hkey)

theorem sat_bringUp_calm (profile : WireGuardConfig) (hcalm : w.env = .calm)
    (hidle : b.activeInterface = none) (habsent : interface ∉ w.kernel.links) :
    (bringUp interface profile).Sat (fun _ => True)
      (fun _ _ w' => w'.env = .calm ∧ interface ∈ w'.kernel.links ∧
        ∀ allowed ∈ profile.allowedIps, ∀ key,
          mainKey b.routingMark allowed = some key → w'.kernel.routes key = some interface)
      (fun _ _ _ => False) b w := by
  rw [bringUp, Prog.sat_bind, Prog.sat_self, if_neg (by simp [hidle])]
  refine Prog.sat_bind.mpr (sat_check_calm hcalm fun log₁ => ?_)
  rw [Prog.sat_bind, Prog.sat_self]
  refine Prog.sat_bind.mpr
    (sat_command_calm rfl (Kernel.exec_linkAdd.mpr ⟨habsent, rfl⟩) fun log₂ => ?_)
  rw [Prog.sat_bind, Prog.sat_attempt]
  refine (sat_configure_calm profile rfl (Finset.mem_insert_self _ _)).mono (fun _ h => h) ?_
    (fun _ _ _ h => h.elim)
  rintro - b₃ w₃ ⟨rfl, hcalm₃, hlink₃⟩
  rw [Prog.sat_bind, Prog.sat_withLocal]
  refine (sat_installRoutes_calm hcalm₃ hlink₃).mono (fun _ h => h) ?_ (fun _ _ _ h => h.elim)
  rintro - s₄ w₄ ⟨-, hgrown, hset⟩
  exact Prog.sat_update.mpr ⟨hgrown.calm, hgrown.link, hset⟩

end Calm

/-! ## Sessions -/

/-- Everything in `k` that belongs to another device is in `k'`. -/
structure Survives (interface : String) (k k' : Kernel) : Prop where
  routes : RoutesKept interface k k'
  rules : k.rules ≤ k'.rules
  links : k.links ⊆ k'.links

/-- A session leaves the rest of the host alone: a `bring_up` that failed
and could clean up, or one that succeeded, after any probes and attempts
to take it down, the last of which succeeds. -/
structure SessionSurvives (interface : String) (profile : WireGuardConfig)
    (b : LinuxWireGuardBackend) (w : Host) : Prop where
  failed : (bringUp interface profile b w).result ≠ .ok () →
    RollbackCompletes (.bringUp interface profile) b w →
    Survives interface w.kernel (bringUp interface profile b w).world.kernel
  closed : ∀ calls : List Call,
    (∀ c ∈ calls, c = .bringDown interface ∨ ∃ now, c = .health now) →
    (bringUp interface profile b w).result = .ok () →
    let o := (Prog.session (δ := Empty) Call.run calls)
      (bringUp interface profile b w).self (bringUp interface profile b w).world
    (bringDown interface o.self o.world).result = .ok () →
    Survives interface w.kernel (bringDown interface o.self o.world).world.kernel

section Sessions

variable {k : Kernel} {b : LinuxWireGuardBackend} {w : Host} {interface : String}
  {profile : WireGuardConfig}

theorem Accounted.survives (h : Accounted k b w) (hidle : b.activeInterface = none)
    (hroutes : RoutesKept interface k w.kernel) : Survives interface k w.kernel := by
  obtain ⟨hnil, hlinks⟩ := h.idle hidle
  refine ⟨hroutes, ?_, ?_⟩
  · rw [h.rules, hnil, ruleSet_nil, add_zero]
  · rw [hlinks]

/-- A `bring_up` that returned has issued no deletion. -/
theorem accounted_of_bringUp (h : Accounted k b w)
    (hok : (bringUp interface profile b w).result = .ok ()) :
    Accounted k (bringUp interface profile b w).self (bringUp interface profile b w).world := by
  rcases h.bringUp interface profile with ⟨-, hacc⟩ | ⟨hincomplete, -⟩
  · exact hacc
  · have hspec := sat_bringUp (b := b) interface profile (laid_refl w)
    refine absurd ((no_failedDeletion_iff hspec.1).mpr ?_) hincomplete
    obtain ⟨installed, -, -, -, hlaid⟩ := hspec.of_ok hok
    exact hlaid.deletions

/-- Probes and attempts to take the session down. -/
theorem sat_closing (mark : NonZeroU32) (routes : List AllowedIp) {calls : List Call}
    (hcalls : ∀ c ∈ calls, c = .bringDown interface ∨ ∃ now, c = .health now)
    (h : Accounted k b w) :
    (Prog.session (δ := Empty) Call.run calls).Sat (Moves (Issued mark interface routes))
      (fun _ b' w' => Accounted k b' w') (fun _ _ _ => True) b w := by
  refine Prog.sat_session (fun c hc b' w' hacc => ?_) h
  rcases hcalls c hc with rfl | ⟨now, rfl⟩
  · exact Prog.sat_of_end sat_bringDown_moves.1 (hacc.bringDown interface)
  · refine Prog.sat_of_end (fun e he => ?_) (hacc.health now)
    have hspec : (Call.health now).run.Sat
        (fun e => e.self = b' ∧ e.pre.kernel = w'.kernel ∧ e.post.kernel = w'.kernel ∧
          ∀ rules ok, e.effect ≠ .transaction rules ok) (fun _ _ _ => True) (fun _ _ _ => True) b' w' := by
      rw [Call.run, Prog.sat_bind, Prog.sat_mapError]
      exact (sat_health now).mono (fun _ h => h) (fun _ _ _ _ => Prog.sat_pure.mpr trivial)
        (fun _ _ _ _ => trivial)
    obtain ⟨-, hpre, hpost, -⟩ := hspec.1 e he
    exact Or.inl (hpost.trans hpre.symm)

theorem survives_of_not_collides (tools : LinuxTools) (mark : NonZeroU32)
    (hfree : ¬Collides w.kernel mark interface profile.allowedIps) :
    SessionSurvives interface profile (fresh tools mark) w := by
  have hacc := accounted_fresh tools mark w
  have hup : RoutesKept interface w.kernel
      (bringUp interface profile (fresh tools mark) w).world.kernel :=
    routesKept_of_moves hfree (sat_bringUp_moves (b := fresh tools mark)).1
      fun _ _ _ hroute _ => hroute
  constructor
  · intro hfailed hcompletes
    rcases hacc.bringUp interface profile with ⟨-, hend⟩ | ⟨hincomplete, -⟩
    · refine hend.survives ?_ hup
      rcases (sat_bringUp interface profile (laid_refl w)).result with ⟨_, hok, -⟩ | ⟨e, -, hb, -⟩
      · exact absurd hok hfailed
      · rw [hb]
        rfl
    · exact absurd hcompletes hincomplete
  · intro calls hcalls hok o hdown
    have hsession := sat_closing mark profile.allowedIps hcalls
      (accounted_of_bringUp hacc hok)
    have hmid : Accounted w.kernel o.self o.world := by
      have hend := hsession.2
      rw [Prog.session_result] at hend
      exact hend
    have hkept : RoutesKept interface w.kernel o.world.kernel :=
      routesKept_of_moves hfree hsession.1 hup
    refine (hmid.bringDown interface).survives ?_
      (routesKept_of_moves hfree sat_bringDown_moves.1 hkept)
    have hlaid : Laid o.world.kernel o.world.kernel.links
        (w.kernel.rules + o.self.ruleSet o.self.activeRules) o.world.failedDeletions o.world :=
      ⟨rfl, hmid.rules, Kernel.Undisturbed.refl _, rfl⟩
    rcases (sat_bringDown interface hlaid).result with ⟨_, -, -, hb, -⟩ | ⟨e, he, -⟩
    · rw [hb]
    · rw [hdown] at he
      cases he

theorem mainKey_shape {mark : NonZeroU32} {allowed : AllowedIp} {key : List String}
    (h : mainKey mark allowed = some key) : ∃ family target, key = [family, target] := by
  rw [mainKey] at h
  split at h
  · exact ⟨_, _, (Option.some.inj h).symm⟩
  split at h
  · exact ⟨_, _, (Option.some.inj h).symm⟩
  · cases h

/-- On a calm host a session runs to its end and takes a route that was in
its way with it. -/
theorem lost_of_collides {tools : LinuxTools} {mark : NonZeroU32} (habsent : interface ∉ k.links)
    (hcollides : Collides k mark interface profile.allowedIps) :
    ¬SessionSurvives interface profile (fresh tools mark) ⟨k, .calm, []⟩ := by
  intro hsurvives
  obtain ⟨allowed, hmem, key, dev, hkey, hroute, hdev⟩ := hcollides
  obtain ⟨family, target, rfl⟩ := mainKey_shape hkey
  let w : Host := ⟨k, .calm, []⟩
  let up := bringUp interface profile (fresh tools mark) w
  have hcalm := sat_bringUp_calm (b := fresh tools mark) (w := w) profile rfl rfl habsent
  obtain ⟨_, hok, hcalm', hlink, hset⟩ := hcalm.returned
  have hacc := accounted_of_bringUp (accounted_fresh tools mark w) hok
  have hactive : up.self.activeInterface = some interface := by
    have hspec := sat_bringUp (b := fresh tools mark) interface profile (laid_refl w)
    obtain ⟨installed, -, -, hb, -⟩ := hspec.of_ok hok
    rw [hb]
  obtain ⟨_, hdown, -, -, hkernel⟩ := (sat_bringDown_calm hcalm' hactive hlink hacc.rules).returned
  have hlost := (hsurvives.closed [] (fun _ h => (nomatch h)) hok hdown).routes family target dev
    hroute hdev
  have hgone : (bringDown interface up.self up.world).world.kernel.routes [family, target] = none := by
    rw [hkernel]
    show (up.world.kernel.routes [family, target]).filter (· ≠ interface) = none
    rw [hset allowed hmem _ hkey]
    simp
  have hfalse : none = some dev := hgone.symm.trans hlost
  cases hfalse

/-- A session from a new backend leaves the rest of the host alone, whatever
fails, exactly when no prefix it installs is routed to another device in
the main table. -/
theorem session_survives_iff (tools : LinuxTools) (mark : NonZeroU32) (interface : String)
    (profile : WireGuardConfig) (k : Kernel) (habsent : interface ∉ k.links) :
    (∀ env log, SessionSurvives interface profile (fresh tools mark) ⟨k, env, log⟩) ↔
      ¬Collides k mark interface profile.allowedIps := by
  constructor
  · intro hsurvives hcollides
    exact lost_of_collides habsent hcollides (hsurvives .calm [])
  · intro hfree env log
    exact survives_of_not_collides tools mark hfree

end Sessions

/-- A host with a route to `10.8.0.0/24`, by way of `eth1`. -/
def routedKernel : Kernel :=
  { exampleKernel with
    links := {"eth1"}
    routes := fun key => if key = ["-4", "10.8.0.0/24"] then some "eth1" else none }

/-- The session of `exampleProfile` installs that prefix. -/
theorem routed_collides :
    Collides routedKernel ⟨51820, by decide⟩ "cyb0" exampleProfile.allowedIps :=
  ⟨⟨.v4 0x0a080000#32, 24⟩, List.mem_singleton.mpr rfl, ["-4", "10.8.0.0/24"], "eth1", by decide,
    rfl, by decide⟩

theorem session_loses_route :
    exampleProfile.validate = .ok () ∧
      ¬SessionSurvives "cyb0" exampleProfile (fresh exampleTools ⟨51820, by decide⟩)
        ⟨routedKernel, .calm, []⟩ :=
  ⟨by decide, lost_of_collides (by decide) routed_collides⟩

/-- A host that reaches two networks and everything else by way of `eth1`,
with a policy rule of its own. -/
def busyKernel : Kernel :=
  { exampleKernel with
    links := {"lo", "eth1"}
    rules := {["-4", "from", "192.168.1.0/24", "table", "100"]}
    routes := fun key =>
      if key ∈ [["-4", "default"], ["-4", "192.168.1.0/24"], ["-6", "fd00::/64"]] then some "eth1"
      else none }

/-- With a default prefix the session adds two policy rules and a route
outside the main table. -/
def fullProfile : WireGuardConfig :=
  { exampleProfile with allowedIps := [⟨.v4 0#32, 0⟩, ⟨.v4 0x0a080000#32, 24⟩] }

theorem busyMark_ne : (51820 : UInt32) ≠ 0 := by
  decide

def busyMark : NonZeroU32 := ⟨51820, busyMark_ne⟩

theorem busy_not_collides : ¬Collides busyKernel busyMark "cyb0" fullProfile.allowedIps := by
  rintro ⟨allowed, hmem, key, dev, hkey, hroute, -⟩
  rcases List.mem_pair.mp hmem with rfl | rfl
  · have hnone : mainKey busyMark ⟨.v4 0#32, 0⟩ = none := by decide
    rw [hnone] at hkey
    cases hkey
  · have hsome : mainKey busyMark ⟨.v4 0x0a080000#32, 24⟩ = some ["-4", "10.8.0.0/24"] := by decide
    obtain rfl := Option.some.inj (hsome.symm.trans hkey)
    cases hroute

def busyUp : Outcome LinuxWireGuardBackend Host Effect TransportError Unit :=
  bringUp "cyb0" fullProfile (fresh exampleTools busyMark) ⟨busyKernel, .calm, []⟩

def busyDown : Outcome LinuxWireGuardBackend Host Effect TransportError Unit :=
  bringDown "cyb0" busyUp.self busyUp.world

/-- Whatever fails, a session with the default prefix leaves that host its
link, its rule and its routes; and where nothing fails they are there when
it is over. -/
theorem session_survives_busy :
    fullProfile.validate = .ok () ∧ "cyb0" ∉ busyKernel.links ∧
      (∀ env log, SessionSurvives "cyb0" fullProfile (fresh exampleTools busyMark)
        ⟨busyKernel, env, log⟩) ∧
      busyUp.world.kernel.links = {"lo", "eth1", "cyb0"} ∧
      busyUp.world.kernel.rules.card = 3 ∧ busyDown.result = .ok () ∧
      "eth1" ∈ busyDown.world.kernel.links ∧
      ["-4", "from", "192.168.1.0/24", "table", "100"] ∈ busyDown.world.kernel.rules ∧
      busyDown.world.kernel.routes ["-4", "default"] = some "eth1" ∧
      busyDown.world.kernel.routes ["-4", "192.168.1.0/24"] = some "eth1" ∧
      busyDown.world.kernel.routes ["-6", "fd00::/64"] = some "eth1" := by
  have hsurvives := (session_survives_iff exampleTools busyMark "cyb0" fullProfile busyKernel
    (by decide)).mpr busy_not_collides
  have hdown : busyDown.result = .ok () := by decide +kernel
  obtain ⟨hroutes, hrules, hlinks⟩ :=
    (hsurvives .calm []).closed [] (fun _ h => (nomatch h)) (by decide +kernel) hdown
  refine ⟨by decide, by decide, hsurvives, by decide +kernel, by decide +kernel, hdown, ?_⟩
  exact ⟨hlinks (by decide), Multiset.mem_of_le hrules (Multiset.mem_singleton_self _),
    hroutes _ _ _ rfl (by decide), hroutes _ _ _ rfl (by decide), hroutes _ _ _ rfl (by decide)⟩

end LinuxWireGuardBackend

end CyberiaVpn.Linux
