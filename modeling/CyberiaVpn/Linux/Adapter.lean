import CyberiaVpn.Killswitch.Controller
import CyberiaVpn.Linux.Backend

/-!
# The WireGuard adapter

`WireGuardAdapter` of `core/transport/src/wireguard.rs`: a `Transport`
over a platform backend, with a `connected` flag of its own.
-/

namespace CyberiaVpn.Linux

open Effects Transport Killswitch

/-- The methods of the `WireGuardBackend` trait. -/
structure WireGuardBackendImpl (β : Type) where
  bringUp : String → WireGuardConfig → Prog β Host Effect TransportError Unit
  bringDown : String → Prog β Host Effect TransportError Unit
  health : Nat → Prog β Host Effect Empty TransportHealth

/-- `impl WireGuardBackend for LinuxWireGuardBackend`. -/
def LinuxWireGuardBackend.impl : WireGuardBackendImpl LinuxWireGuardBackend where
  bringUp := bringUp
  bringDown := bringDown
  health := health

structure WireGuardAdapter (β : Type) where
  interface : String
  profile : WireGuardConfig
  backend : β
  connected : Bool

namespace WireGuardAdapter

variable {β ε α : Type} (B : WireGuardBackendImpl β)

def new (interface : String) (profile : WireGuardConfig) (backend : β) :
    Except TransportError (WireGuardAdapter β) := do
  if !Transport.validInterface interface then
    throw (.invalidConfig "invalid WireGuard interface name")
  profile.validate
  return { interface, profile, backend, connected := false }

theorem new_eq_ok {interface : String} {profile : WireGuardConfig} {backend : β}
    {a : WireGuardAdapter β} (h : new interface profile backend = .ok a) :
    ⟨interface, profile, backend, false⟩ = a := by
  rw [new] at h
  split at h
  · cases h
  cases hv : profile.validate with
  | error e => rw [hv] at h; cases h
  | ok _ => rw [hv] at h; cases h; rfl

def onBackend (m : Prog β Host Effect ε α) : Prog (WireGuardAdapter β) Host Effect ε α :=
  Prog.zoom (·.backend) (fun b a => { a with backend := b }) m

def connect (config : TransportConfig) :
    Prog (WireGuardAdapter β) Host Effect TransportError Session := do
  let a ← Prog.self
  if a.connected then
    Prog.fail .alreadyConnected
  else if config.kind ≠ .wireGuard ∨ config.endpoint ≠ a.profile.endpoint then
    Prog.fail (.invalidConfig "WireGuard transport parameters do not match profile")
  else
    Prog.liftExcept config.validate
    check
    onBackend (B.bringUp a.interface a.profile)
    Prog.update fun a => { a with connected := true }
    return { id := a.interface, transport := .wireGuard }

def disconnect : Prog (WireGuardAdapter β) Host Effect TransportError Unit := do
  let a ← Prog.self
  if !a.connected then
    Prog.fail .notConnected
  else
    onBackend (B.bringDown a.interface)
    Prog.update fun a => { a with connected := false }

def health (now : Nat) : Prog (WireGuardAdapter β) Host Effect Empty TransportHealth := do
  if !(← Prog.self).connected then
    return ⟨.unavailable, 0⟩
  else
    onBackend (B.health now)

/-- `impl Transport for WireGuardAdapter`. -/
def transport : TransportImpl (WireGuardAdapter β) Host Effect where
  connect := connect B
  disconnect := disconnect B
  health := health B

/-! ## Specifications over the Linux backend -/

section Specs

variable {i : String} {a : WireGuardAdapter LinuxWireGuardBackend} {k : Kernel} {w : Host}

/-- The flag, the backend's record and the kernel agree on the link. -/
structure Mounted (i : String) (a : WireGuardAdapter LinuxWireGuardBackend) (k : Kernel) :
    Prop where
  name : a.interface = i
  recorded : a.backend.activeInterface = if a.connected then some i else none
  link : a.connected = true → i ∈ k.links

/-- Between two calls the recorded rules are in the kernel as well. -/
structure Rested (i : String) (a : WireGuardAdapter LinuxWireGuardBackend) (k : Kernel) : Prop
    extends Mounted i a k where
  idle : a.connected = false → a.backend.activeRules = []
  rules : ∃ others, k.rules = others + a.backend.ruleSet a.backend.activeRules

/-- An effect of a mounted adapter, with the frame of the backend. -/
structure OnLink (i : String) (connected : Bool) (k : Kernel)
    (e : Entry (WireGuardAdapter LinuxWireGuardBackend) Host Effect) : Prop where
  mounted : Mounted i e.self e.pre.kernel
  connected : e.self.connected = connected
  pre : k.Undisturbed e.pre.kernel
  post : k.Undisturbed e.post.kernel
  effect : ∀ rules ok, e.effect ≠ .transaction rules ok

theorem Rested.of_kernel {k' : Kernel} (h : Rested i a k) (hlinks : k'.links = k.links)
    (hrules : k'.rules = k.rules) : Rested i a k' :=
  ⟨⟨h.name, h.recorded, fun hc => by rw [hlinks]; exact h.link hc⟩, h.idle, by
    rw [hrules]; exact h.rules⟩

theorem sat_connect (config : TransportConfig) (h : Rested i a w.kernel) :
    (connect LinuxWireGuardBackend.impl config).Sat (OnLink i a.connected w.kernel)
      (fun session a' w' => session.id = i ∧ a.connected = false ∧ a'.connected = true ∧
        Rested i a' w'.kernel ∧ w.kernel.Undisturbed w'.kernel)
      (fun _ a' w' => a'.connected = a.connected ∧ Rested i a' w'.kernel ∧
        w.kernel.Undisturbed w'.kernel) a w := by
  have hrefl := Kernel.Undisturbed.refl w.kernel
  obtain rfl := h.name
  rw [connect, Prog.sat_bind, Prog.sat_self]
  split
  · exact Prog.sat_fail.mpr ⟨rfl, h, hrefl⟩
  case isFalse hconn =>
  have hoff : a.connected = false := by simpa using hconn
  split
  · exact Prog.sat_fail.mpr ⟨rfl, h, hrefl⟩
  rw [Prog.sat_bind, Prog.sat_liftExcept]
  split
  case h_2 => exact ⟨rfl, h, hrefl⟩
  rw [Prog.sat_bind]
  have hcheck : ∀ env ok, OnLink a.interface a.connected w.kernel
      ⟨a, w, .check ok, ⟨w.kernel, env, .check ok :: w.log⟩⟩ :=
    fun _ _ => ⟨h.toMounted, rfl, hrefl, hrefl, by rintro _ _ ⟨⟩⟩
  refine sat_check (fun env => ⟨hcheck env true, ?_⟩)
    (fun _ env => ⟨hcheck env false, rfl, h, hrefl⟩)
  rw [Prog.sat_bind, onBackend, Prog.sat_zoom]
  have hlaid := laid_refl ⟨w.kernel, env, Effect.check true :: w.log⟩
  refine (LinuxWireGuardBackend.sat_bringUp (b := a.backend) a.interface a.profile hlaid).mono ?_ ?_ ?_
  · -- the adapter is not connected while the backend works, so nothing is claimed of the link
    rintro e ⟨hself, hpre, hpost, heff, -⟩
    rw [← hself]
    exact ⟨⟨h.name, h.recorded, fun hc => absurd hc hconn⟩, rfl, hpre, hpost, heff⟩
  · rintro - b' w' ⟨installed, -, -, rfl, hlaid'⟩
    rw [Prog.sat_bind, Prog.sat_update]
    refine Prog.sat_pure.mpr
      ⟨rfl, hoff, rfl, ⟨⟨h.name, rfl, fun _ => ?_⟩, by rintro ⟨⟩, ?_⟩, hlaid'.frame⟩
    · rw [hlaid'.links]
      exact Finset.mem_insert_self _ _
    · exact ⟨w.kernel.rules, hlaid'.rules⟩
  · rintro e b' w' ⟨rfl, hcase⟩
    have hframe : w.kernel.Undisturbed w'.kernel := by
      rcases hcase with hlaid' | ⟨-, -, _, _, _, -, -, -, hlaid'⟩
      · exact hlaid'.frame
      · exact hlaid'.frame
    refine ⟨rfl, ⟨⟨h.name, h.recorded, fun hc => absurd hc hconn⟩, h.idle, ?_⟩, hframe⟩
    exact ⟨w'.kernel.rules, by simp [h.idle hoff]⟩

theorem sat_disconnect (h : Rested i a w.kernel) :
    (disconnect LinuxWireGuardBackend.impl).Sat (OnLink i a.connected w.kernel)
      (fun _ a' w' => a'.connected = false ∧ i ∉ w'.kernel.links ∧ Rested i a' w'.kernel ∧
        w.kernel.Undisturbed w'.kernel)
      (fun _ a' w' => a'.connected = a.connected ∧ Rested i a' w'.kernel ∧
        w.kernel.Undisturbed w'.kernel) a w := by
  obtain rfl := h.name
  rw [disconnect, Prog.sat_bind, Prog.sat_self]
  split
  · exact Prog.sat_fail.mpr ⟨rfl, h, Kernel.Undisturbed.refl _⟩
  case isFalse hconn =>
  have hon : a.connected = true := by simpa using hconn
  obtain ⟨others, hrules⟩ := h.rules
  have hlaid : Laid w.kernel w.kernel.links (others + a.backend.ruleSet a.backend.activeRules)
      w.failedDeletions w :=
    ⟨rfl, hrules, Kernel.Undisturbed.refl _, rfl⟩
  rw [Prog.sat_bind, onBackend, Prog.sat_zoom]
  refine ((LinuxWireGuardBackend.sat_bringDown a.interface hlaid).and
    LinuxWireGuardBackend.sat_bringDown_links).mono ?_ ?_ ?_
  · rintro e ⟨⟨hself, hpre, hpost, heff, -⟩, hlinks⟩
    rw [← hself]
    exact ⟨⟨h.name, h.recorded, fun hc => by rw [hlinks]; exact h.link hc⟩, rfl, hpre, hpost, heff⟩
  · rintro - b' w' ⟨⟨-, rfl, hlaid'⟩, -⟩
    have hgone : a.interface ∉ w'.kernel.links := by
      rw [hlaid'.links]
      exact Finset.notMem_erase _ _
    exact Prog.sat_update.mpr
      ⟨rfl, hgone, ⟨⟨h.name, rfl, nofun⟩, fun _ => rfl, w'.kernel.rules, by simp⟩, hlaid'.frame⟩
  · rintro e b' w' ⟨⟨left, n', rfl, -, hlaid'⟩, -⟩
    refine ⟨rfl, ⟨⟨h.name, h.recorded, fun hc => ?_⟩, fun hc => ?_, others, hlaid'.rules⟩,
      hlaid'.frame⟩
    · rw [hlaid'.links]
      exact h.link hc
    · rw [show a.connected = false from hc] at hon
      cases hon

theorem sat_health (now : Nat) (h : Rested i a w.kernel) :
    (health LinuxWireGuardBackend.impl now).Sat
      (fun e => Mounted i e.self e.pre.kernel ∧ e.self.connected = a.connected ∧
        e.pre.kernel = w.kernel ∧ e.post.kernel = w.kernel ∧
        ∀ rules ok, e.effect ≠ .transaction rules ok)
      (fun _ a' w' => a'.connected = a.connected ∧ Rested i a' w'.kernel ∧ w'.kernel = w.kernel)
      (fun _ _ _ => False) a w := by
  rw [health, Prog.sat_bind, Prog.sat_self]
  split
  · exact Prog.sat_pure.mpr ⟨rfl, h, rfl⟩
  rw [onBackend, Prog.sat_zoom]
  refine (LinuxWireGuardBackend.sat_health now).mono ?_ ?_ (fun _ _ _ h => h)
  · rintro e ⟨hself, hpre, hpost, heff⟩
    rw [hself]
    exact ⟨⟨h.name, h.recorded, fun hc => by rw [hpre]; exact h.link hc⟩, rfl, hpre, hpost, heff⟩
  · rintro - b' w' ⟨⟨m, rfl⟩, hk⟩
    refine ⟨rfl, ⟨⟨h.name, h.recorded, fun hc => ?_⟩, h.idle, ?_⟩, hk⟩
    · rw [hk]
      exact h.link hc
    · rw [hk]
      exact h.rules

/-- In a calm environment the recorded rules and the link go. -/
theorem sat_disconnect_calm {others : Multiset (List String)} (hcalm : w.env = .calm)
    (h : Mounted i a w.kernel) (hon : a.connected = true)
    (hrules : w.kernel.rules = others + a.backend.ruleSet a.backend.activeRules) :
    (disconnect LinuxWireGuardBackend.impl).Sat (fun _ => True)
      (fun _ _ w' => w'.env = .calm ∧
        w'.kernel = Kernel.deleteLink { w.kernel with rules := others } i)
      (fun _ _ _ => False) a w := by
  obtain rfl := h.name
  have hactive : a.backend.activeInterface = some a.interface := by rw [h.recorded, if_pos hon]
  rw [disconnect, Prog.sat_bind, Prog.sat_self, if_neg (by simp [hon]), Prog.sat_bind, onBackend,
    Prog.sat_zoom]
  refine (LinuxWireGuardBackend.sat_bringDown_calm hcalm hactive (h.link hon) hrules).mono
    (fun _ _ => trivial) ?_ (fun _ _ _ h => h)
  rintro - b' w' ⟨-, henv, hk⟩
  exact Prog.sat_update.mpr ⟨henv, hk⟩

end Specs

end WireGuardAdapter

end CyberiaVpn.Linux
