import CyberiaVpn.Linux.Host
import CyberiaVpn.Linux.Tools

/-!
# Per-link resolvers

`LinuxDnsBackend` of `core/transport/src/linux.rs`. `configure` sets a
link's servers, its routing domain and its default route in three
commands; any failure in between runs `resolvectl revert`, and when that
fails as well the link is recorded so that a later `revert` can retry.

The commands touch nothing but the resolver settings of the one link
(`OnlyResolver`).
-/

namespace CyberiaVpn.Linux

open Effects Transport Killswitch

structure LinuxDnsBackend where
  tools : LinuxDnsTools
  activeInterface : Option String

namespace LinuxDnsBackend

abbrev DnsM := Prog LinuxDnsBackend Host Effect TransportError

def new (files : FileSystem) (tools : LinuxDnsTools) : Except TransportError LinuxDnsBackend := do
  tools.validate files
  return { tools, activeInterface := none }

theorem new_eq_ok {files : FileSystem} {tools : LinuxDnsTools} {d : LinuxDnsBackend}
    (h : new files tools = .ok d) : ⟨tools, none⟩ = d := by
  rw [new] at h
  cases hv : tools.validate files with
  | error e => rw [hv] at h; cases h
  | ok _ => rw [hv] at h; cases h; rfl

/-- The closure of `configure`. -/
def setup (interface : String) (config : DnsConfig) : DnsM Unit := do
  let d ← Prog.self
  command d.tools.resolvectl ("dns" :: interface :: config.resolvers.map IpAddr.display)
  check
  command d.tools.resolvectl ["domain", interface, "~."]
  check
  command d.tools.resolvectl ["default-route", interface, "yes"]

def configure (interface : String) (config : DnsConfig) : DnsM Unit := do
  let d ← Prog.self
  if d.activeInterface.isSome then
    Prog.fail .alreadyConnected
  else if !Transport.validInterface interface then
    Prog.fail (.invalidConfig "invalid DNS interface name")
  else
    Prog.liftExcept config.validate
    check
    match ← (setup interface config).attempt with
    | .ok () => Prog.update fun d => { d with activeInterface := some interface }
    | .error setupError =>
        match ← (command d.tools.resolvectl ["revert", interface]).attempt with
        | .ok () => Prog.fail setupError
        | .error cleanupError => do
            Prog.update fun d => { d with activeInterface := some interface }
            Prog.fail (.network ("DNS setup failed: " ++ setupError.display ++
              "; cleanup failed: " ++ cleanupError.display))

def needsRevert (d : LinuxDnsBackend) : Bool := d.activeInterface.isSome

def revert (interface : String) : DnsM Unit := do
  let d ← Prog.self
  if d.activeInterface ≠ some interface then
    Prog.fail .notConnected
  else
    command d.tools.resolvectl ["revert", interface]
    Prog.update fun d => { d with activeInterface := none }

end LinuxDnsBackend

/-! ## What the commands touch -/

/-- The kernels differ at most in the resolver settings of `i`. -/
def OnlyResolver (i : String) (k k' : Kernel) : Prop :=
  ∃ settings, k' = k.setResolver i fun _ => settings

namespace OnlyResolver

variable {i : String} {k k' k'' : Kernel}

theorem refl (i : String) (k : Kernel) : OnlyResolver i k k := by
  refine ⟨k.resolvers i, ?_⟩
  have hsame : (fun j => if j = i then k.resolvers i else k.resolvers j) = k.resolvers := by
    funext j
    split
    · next h => rw [h]
    · rfl
  rw [Kernel.setResolver, hsame]

theorem set (h : OnlyResolver i k k') (f : ResolverState → ResolverState) :
    OnlyResolver i k (k'.setResolver i f) := by
  obtain ⟨settings, rfl⟩ := h
  refine ⟨f settings, ?_⟩
  simp only [Kernel.setResolver, if_pos]
  congr 1
  funext j
  split <;> rfl

theorem policy (h : OnlyResolver i k k') : k'.policy = k.policy := by
  obtain ⟨_, rfl⟩ := h; rfl

theorem links (h : OnlyResolver i k k') : k'.links = k.links := by
  obtain ⟨_, rfl⟩ := h; rfl

theorem rules (h : OnlyResolver i k k') : k'.rules = k.rules := by
  obtain ⟨_, rfl⟩ := h; rfl

theorem others (h : OnlyResolver i k k') {j : String} (hj : j ≠ i) :
    k'.resolvers j = k.resolvers j := by
  obtain ⟨_, rfl⟩ := h
  exact if_neg hj

end OnlyResolver

namespace Kernel

variable {k k' : Kernel} {i : String}

theorem exec_dns {servers : List String} (h : k.exec ("dns" :: i :: servers) = some k') :
    ∃ f, k' = k.setResolver i f := by
  exact ⟨_, (onLink_eq_some.mp h).2⟩

theorem exec_domain {domain : String} (h : k.exec ["domain", i, domain] = some k') :
    ∃ f, k' = k.setResolver i f := by
  exact ⟨_, (onLink_eq_some.mp h).2⟩

theorem exec_defaultRoute {flag : String} (h : k.exec ["default-route", i, flag] = some k') :
    ∃ f, k' = k.setResolver i f := by
  exact ⟨_, (onLink_eq_some.mp h).2⟩

theorem exec_revert :
    k.exec ["revert", i] = some k' ↔ i ∈ k.links ∧ k' = k.setResolver i fun _ => {} := by
  exact onLink_eq_some

end Kernel

/-! ## Specifications -/

namespace LinuxDnsBackend

/-- An effect of the resolver backend in the state `d`. -/
structure OnResolver (d : LinuxDnsBackend) (i : String) (k : Kernel)
    (e : Entry LinuxDnsBackend Host Effect) : Prop where
  self : e.self = d
  pre : OnlyResolver i k e.pre.kernel
  post : OnlyResolver i k e.post.kernel
  effect : ∀ rules ok, e.effect ≠ .transaction rules ok

section Specs

variable {d : LinuxDnsBackend} {i : String} {k : Kernel} {w : Host}

theorem sat_resolverCheck (hw : OnlyResolver i k w.kernel) :
    (check).Sat (OnResolver d i k) (fun _ d' w' => d' = d ∧ w'.kernel = w.kernel)
      (fun _ d' w' => d' = d ∧ w'.kernel = w.kernel) d w :=
  sat_check (fun _ => ⟨⟨rfl, hw, hw, nofun⟩, rfl, rfl⟩)
    (fun _ _ => ⟨⟨rfl, hw, hw, nofun⟩, rfl, rfl⟩)

theorem sat_resolverCommand {program : PathBuf} {arguments : List String}
    (hset : ∀ k', w.kernel.exec arguments = some k' → ∃ f, k' = w.kernel.setResolver i f)
    (hw : OnlyResolver i k w.kernel) :
    (command program arguments).Sat (OnResolver d i k)
      (fun _ d' w' => d' = d ∧ OnlyResolver i k w'.kernel)
      (fun _ d' w' => d' = d ∧ OnlyResolver i k w'.kernel) d w := by
  refine sat_command (fun k' env hk => ?_) (fun _ env => ⟨⟨rfl, hw, hw, nofun⟩, rfl, hw⟩)
  obtain ⟨f, rfl⟩ := hset k' hk
  exact ⟨⟨rfl, hw, hw.set f, nofun⟩, rfl, hw.set f⟩

theorem sat_resolverRevert {program : PathBuf} (hw : OnlyResolver i k w.kernel) :
    (command program ["revert", i]).Sat (OnResolver d i k)
      (fun _ d' w' => d' = d ∧ OnlyResolver i k w'.kernel ∧ w'.kernel.resolvers i = {})
      (fun _ d' w' => d' = d ∧ w'.kernel = w.kernel) d w := by
  refine sat_command (fun k' env hk => ?_) (fun _ env => ⟨⟨rfl, hw, hw, nofun⟩, rfl, rfl⟩)
  obtain ⟨-, rfl⟩ := Kernel.exec_revert.mp hk
  have hclear := hw.set fun _ => {}
  exact ⟨⟨rfl, hw, hclear, nofun⟩, rfl, hclear, if_pos rfl⟩

theorem sat_setup (config : DnsConfig) (hw : OnlyResolver i k w.kernel) :
    (setup i config).Sat (OnResolver d i k)
      (fun _ d' w' => d' = d ∧ OnlyResolver i k w'.kernel)
      (fun _ d' w' => d' = d ∧ OnlyResolver i k w'.kernel) d w := by
  have hcheck : ∀ {w'}, OnlyResolver i k w'.kernel →
      (check).Sat (OnResolver d i k) (fun _ d' w'' => d' = d ∧ OnlyResolver i k w''.kernel)
        (fun _ d' w'' => d' = d ∧ OnlyResolver i k w''.kernel) d w' := fun h =>
    (sat_resolverCheck h).mono (fun _ h => h) (fun _ _ _ ⟨hd, hk⟩ => ⟨hd, hk ▸ h⟩)
      (fun _ _ _ ⟨hd, hk⟩ => ⟨hd, hk ▸ h⟩)
  rw [setup, Prog.sat_bind, Prog.sat_self]
  refine (sat_resolverCommand (fun _ => Kernel.exec_dns) hw).bind ?_
  rintro - d₁ w₁ ⟨rfl, hw₁⟩
  refine (hcheck hw₁).bind ?_
  rintro - d₂ w₂ ⟨rfl, hw₂⟩
  refine (sat_resolverCommand (fun _ => Kernel.exec_domain) hw₂).bind ?_
  rintro - d₃ w₃ ⟨rfl, hw₃⟩
  refine (hcheck hw₃).bind ?_
  rintro - d₄ w₄ ⟨rfl, hw₄⟩
  exact sat_resolverCommand (fun _ => Kernel.exec_defaultRoute) hw₄

/-- A failed `configure` either leaves no settings of its own, or records
the link. -/
theorem sat_configure (config : DnsConfig) :
    (configure i config).Sat (OnResolver d i w.kernel)
      (fun _ d' w' => d.activeInterface = none ∧ d' = { d with activeInterface := some i } ∧
        OnlyResolver i w.kernel w'.kernel)
      (fun _ d' w' => OnlyResolver i w.kernel w'.kernel ∧
        (d' = d ∧ (w'.kernel = w.kernel ∨ w'.kernel.resolvers i = {}) ∨
          d.activeInterface = none ∧ d' = { d with activeInterface := some i })) d w := by
  have hrefl := OnlyResolver.refl i w.kernel
  have hearly : OnlyResolver i w.kernel w.kernel ∧
      (d = d ∧ (w.kernel = w.kernel ∨ w.kernel.resolvers i = {}) ∨
        d.activeInterface = none ∧ d = { d with activeInterface := some i }) :=
    ⟨hrefl, Or.inl ⟨rfl, Or.inl rfl⟩⟩
  rw [configure, Prog.sat_bind, Prog.sat_self]
  split
  · exact Prog.sat_fail.mpr hearly
  case isFalse hsome =>
  have hidle : d.activeInterface = none := by simpa using hsome
  split
  · exact Prog.sat_fail.mpr hearly
  rw [Prog.sat_bind, Prog.sat_liftExcept]
  split
  case h_2 => exact hearly
  refine ((sat_resolverCheck hrefl).mono (fun _ h => h) (fun _ _ _ h => h) ?_).bind ?_
  · rintro - d₁ w₁ ⟨rfl, hk₁⟩
    rw [hk₁]
    exact hearly
  rintro - d₁ w₁ ⟨rfl, hk₁⟩
  rw [Prog.sat_bind, Prog.sat_attempt]
  refine (sat_setup config (k := w.kernel) (by rw [hk₁]; exact hrefl)).mono (fun _ h => h) ?_ ?_
  · rintro - d₂ w₂ ⟨rfl, hw₂⟩
    exact Prog.sat_update.mpr ⟨hidle, rfl, hw₂⟩
  · rintro e d₂ w₂ ⟨rfl, hw₂⟩
    rw [Prog.sat_bind, Prog.sat_attempt]
    refine (sat_resolverRevert hw₂).mono (fun _ h => h) ?_ ?_
    · rintro - d₃ w₃ ⟨rfl, hw₃, hclear⟩
      exact Prog.sat_fail.mpr ⟨hw₃, Or.inl ⟨rfl, Or.inr hclear⟩⟩
    · rintro e' d₃ w₃ ⟨rfl, hk₃⟩
      rw [Prog.sat_bind, Prog.sat_update, Prog.sat_fail, hk₃]
      exact ⟨hw₂, Or.inr ⟨hidle, rfl⟩⟩

theorem sat_revert :
    (revert i).Sat (OnResolver d i w.kernel)
      (fun _ d' w' => d.activeInterface = some i ∧ d' = { d with activeInterface := none } ∧
        OnlyResolver i w.kernel w'.kernel ∧ w'.kernel.resolvers i = {})
      (fun _ d' w' => d' = d ∧ w'.kernel = w.kernel) d w := by
  rw [revert, Prog.sat_bind, Prog.sat_self]
  split
  · exact Prog.sat_fail.mpr ⟨rfl, rfl⟩
  case isFalse hactive =>
  refine (sat_resolverRevert (OnlyResolver.refl i w.kernel)).bind ?_
  rintro - d₁ w₁ ⟨rfl, hw₁, hclear⟩
  exact Prog.sat_update.mpr ⟨not_ne_iff.mp hactive, rfl, hw₁, hclear⟩

theorem sat_revert_calm (hcalm : w.env = .calm) (hactive : d.activeInterface = some i)
    (hi : i ∈ w.kernel.links) :
    (revert i).Sat (fun _ => True)
      (fun _ d' w' => d' = { d with activeInterface := none } ∧ w'.env = .calm ∧
        w'.kernel = w.kernel.setResolver i fun _ => {})
      (fun _ _ _ => False) d w := by
  rw [revert, Prog.sat_bind, Prog.sat_self, if_neg (not_ne_iff.mpr hactive), Prog.sat_bind]
  refine sat_command_calm hcalm (Kernel.exec_revert.mpr ⟨hi, rfl⟩) fun log => ?_
  exact Prog.sat_update.mpr ⟨rfl, rfl, rfl⟩

end Specs

end LinuxDnsBackend

end CyberiaVpn.Linux
