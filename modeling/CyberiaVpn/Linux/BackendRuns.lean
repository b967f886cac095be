import Mathlib.Algebra.Order.Group.Multiset
import CyberiaVpn.Linux.Backend

/-!
# What the backend owns, over whole runs

A run is any sequence of `bring_up`, `bring_down` and `health` calls with
any failures. The question is whether the backend's record, one interface
and a list of rules, still covers everything it has put into the kernel.

It does as long as every rollback completes: the record then accounts for
the kernel exactly (`Accounted`). A rollback that fails half-way drops
its local rule list and returns with an empty record, so what it could
not delete is in the kernel and in nobody's list. `tracked_iff_rollbacks`
says that these are the only two possibilities, call by call.
-/

namespace CyberiaVpn.Linux

open Effects Transport Killswitch

namespace LinuxWireGuardBackend

inductive Call where
  | bringUp (interface : String) (profile : WireGuardConfig)
  | bringDown (interface : String)
  | health (now : Nat)

def Call.run : Call → BackendM Unit
  | .bringUp interface profile => LinuxWireGuardBackend.bringUp interface profile
  | .bringDown interface => LinuxWireGuardBackend.bringDown interface
  | .health now => do let _ ← (LinuxWireGuardBackend.health now).mapError Empty.elim

/-- Every link and rule in the kernel that was not there in `k` is
recorded. -/
structure Tracked (k : Kernel) (b : LinuxWireGuardBackend) (k' : Kernel) : Prop where
  links : ∀ i ∈ k'.links, i ∉ k.links → b.activeInterface = some i
  rules : k'.rules ≤ k.rules + b.ruleSet b.activeRules

/-- A `bring_down` of the recorded interface in which nothing fails leaves
no link and no rule that was not there in `k`. -/
def Removable (k : Kernel) (b : LinuxWireGuardBackend) (k' : Kernel) : Prop :=
  ∀ i, b.activeInterface = some i →
    let o := bringDown i b ⟨k', .calm, []⟩
    o.result = .ok () ∧ o.world.kernel.links ⊆ k.links ∧ o.world.kernel.rules ≤ k.rules

/-- No deletion that a `bring_up` issues fails. A call deletes something
only while it rolls a failed setup back. -/
def RollbackCompletes (c : Call) (b : LinuxWireGuardBackend) (w : Host) : Prop :=
  match c with
  | .bringUp interface profile =>
      ∀ e ∈ (LinuxWireGuardBackend.bringUp interface profile b w).trace,
        e.effect.failedDeletion = false
  | _ => True

/-- The record accounts for the kernel exactly. -/
structure Accounted (k : Kernel) (b : LinuxWireGuardBackend) (w : Host) : Prop where
  idle : b.activeInterface = none → b.activeRules = [] ∧ w.kernel.links = k.links
  active : ∀ i, b.activeInterface = some i → i ∉ k.links ∧ w.kernel.links = insert i k.links
  rules : w.kernel.rules = k.rules + b.ruleSet b.activeRules

section

variable {k : Kernel} {b : LinuxWireGuardBackend} {w : Host}

theorem Accounted.tracked (h : Accounted k b w) : Tracked k b w.kernel := by
  refine ⟨fun i hi hni => ?_, h.rules.le⟩
  cases hact : b.activeInterface with
  | none => exact absurd ((h.idle hact).2 ▸ hi) hni
  | some j =>
      rw [(h.active j hact).2, Finset.mem_insert] at hi
      rcases hi with rfl | hi
      · rfl
      · exact absurd hi hni

theorem Accounted.removable (h : Accounted k b w) : Removable k b w.kernel := by
  intro i hact
  obtain ⟨hni, hlinks⟩ := h.active i hact
  have hi : i ∈ w.kernel.links := by rw [hlinks]; exact Finset.mem_insert_self _ _
  obtain ⟨_, hr, -, -, hk⟩ :=
    (sat_bringDown_calm (w := ⟨w.kernel, .calm, []⟩) rfl hact hi h.rules).returned
  refine ⟨hr, ?_, ?_⟩
  · rw [hk]
    simp only [Kernel.deleteLink, hlinks, Finset.erase_insert hni]
    exact Finset.Subset.refl _
  · rw [hk]
    exact le_rfl

/-- What a failed rollback left is not recorded. -/
theorem not_tracked_of_leftBehind {interface : String} {n : Nat} {k' : Kernel}
    (hi : interface ∉ k.links) (hidle : b.activeInterface = none) (hrules : b.activeRules = [])
    (h : LeftBehind k' interface k.links k.rules n b w) : ¬Tracked k b w.kernel := by
  rintro ⟨hlinks, hle⟩
  obtain ⟨left, links', n', -, hcase, hsome, hlaid⟩ := h
  rcases hsome with hleft | hne
  · rw [hlaid.rules, hrules, ruleSet_nil, add_zero] at hle
    have hzero : b.ruleSet left = 0 :=
      Multiset.le_zero.mp ((add_le_iff_nonpos_right k.rules).mp hle)
    exact hleft (ruleSet_eq_zero.mp hzero)
  · rcases hcase with rfl | rfl
    · exact hne rfl
    · have hin : interface ∈ w.kernel.links := by
        rw [hlaid.links]; exact Finset.mem_insert_self _ _
      rw [hlinks interface hin hi] at hidle
      cases hidle

/-- In a trace of quiet effects, no failed deletion was issued exactly when
the log shows no new one. -/
theorem no_failedDeletion_iff {m : BackendM Unit} {S : LinuxWireGuardBackend → Prop}
    (hquiet : ∀ e ∈ (m b w).trace, Quiet S w.kernel e) :
    (∀ e ∈ (m b w).trace, e.effect.failedDeletion = false) ↔
      (m b w).world.failedDeletions = w.failedDeletions := by
  rw [failedDeletions_eq (m.chain b w) fun e he => (hquiet e he).logged, Nat.add_eq_left,
    List.countP_eq_zero, List.forall_mem_map]
  simp

theorem Accounted.bringUp (interface : String) (profile : WireGuardConfig)
    (h : Accounted k b w) :
    let o := LinuxWireGuardBackend.bringUp interface profile b w
    (RollbackCompletes (.bringUp interface profile) b w ∧ Accounted k o.self o.world) ∨
      (¬RollbackCompletes (.bringUp interface profile) b w ∧
        ¬Tracked k o.self o.world.kernel) := by
  intro o
  have hspec := sat_bringUp (b := b) interface profile (laid_refl w)
  have hiff := no_failedDeletion_iff hspec.1
  rcases hspec.result with ⟨_, -, installed, hidle, hi, hb, hlaid⟩ | ⟨e, -, hb, hcase⟩
  · left
    obtain ⟨hnil, hlinks⟩ := h.idle hidle
    refine ⟨hiff.mpr hlaid.deletions, ?_⟩
    rw [hb]
    refine ⟨nofun, ?_, ?_⟩
    · rintro i hsome
      obtain rfl : interface = i := Option.some.inj hsome
      exact ⟨hlinks ▸ hi, by rw [hlaid.links, hlinks]⟩
    · rw [hlaid.rules, h.rules, hnil, ruleSet_nil, add_zero]
      rfl
  · rcases hcase with hlaid | ⟨hidle, hi, hleft⟩
    · left
      refine ⟨hiff.mpr hlaid.deletions, ?_⟩
      rw [hb]
      exact ⟨fun hnone => ⟨(h.idle hnone).1, hlaid.links.trans (h.idle hnone).2⟩,
        fun i hsome => ⟨(h.active i hsome).1, hlaid.links.trans (h.active i hsome).2⟩,
        hlaid.rules.trans h.rules⟩
    · right
      obtain ⟨hnil, hlinks⟩ := h.idle hidle
      have hrules : w.kernel.rules = k.rules := by
        rw [h.rules, hnil, ruleSet_nil, add_zero]
      refine ⟨fun hcompletes => ?_, ?_⟩
      · obtain ⟨_, _, n', hlt, -, -, hlaid⟩ := hleft
        have hsame := hiff.mp hcompletes
        rw [hlaid.deletions] at hsame
        omega
      · rw [hb]
        rw [hlinks] at hi
        rw [hlinks, hrules] at hleft
        exact not_tracked_of_leftBehind hi hidle hnil hleft

theorem Accounted.bringDown (interface : String) (h : Accounted k b w) :
    let o := LinuxWireGuardBackend.bringDown interface b w
    Accounted k o.self o.world := by
  intro o
  have hstart : Laid w.kernel w.kernel.links (k.rules + b.ruleSet b.activeRules)
      w.failedDeletions w :=
    ⟨rfl, h.rules, Kernel.Undisturbed.refl _, rfl⟩
  have hspec := sat_bringDown interface hstart
  rcases hspec.result with ⟨_, -, hact, hb, hlaid⟩ | ⟨e, -, left, n', hb, hguard, hlaid⟩
  · obtain ⟨hni, hlinks⟩ := h.active interface hact
    rw [hb]
    refine ⟨fun _ => ⟨rfl, ?_⟩, nofun, ?_⟩
    · rw [hlaid.links, hlinks, Finset.erase_insert hni]
    · rw [hlaid.rules, ruleSet_nil, add_zero]
  · rw [hb]
    refine ⟨fun hnone => ?_, fun i hsome => ?_, hlaid.rules⟩
    · -- an idle backend has nothing to take down: the call stopped at its guard
      rcases hguard with hact | rfl
      · rw [show b.activeInterface = none from hnone] at hact
        cases hact
      · exact ⟨(h.idle hnone).1, hlaid.links.trans (h.idle hnone).2⟩
    · exact ⟨(h.active i hsome).1, hlaid.links.trans (h.active i hsome).2⟩

theorem Accounted.health (now : Nat) (h : Accounted k b w) :
    let o := (Call.health now).run b w
    Accounted k o.self o.world := by
  intro o
  have hspec : (Call.health now).run.Sat (fun _ => True)
      (fun _ b' w' => (∃ m, b' = { b with healthFailures := m }) ∧ w'.kernel = w.kernel)
      (fun _ _ _ => False) b w := by
    rw [Call.run, Prog.sat_bind, Prog.sat_mapError]
    exact (sat_health now).mono (fun _ _ => trivial)
      (fun _ _ _ h => Prog.sat_pure.mpr h) (fun _ _ _ h => h)
  obtain ⟨_, -, ⟨m, hb⟩, hk⟩ := hspec.returned
  rw [hb]
  refine ⟨?_, ?_, ?_⟩ <;> rw [hk]
  · exact h.idle
  · exact h.active
  · exact h.rules

/-- One call from an accounted state: the record stays exact when the
call's rollback completes, and misses something when it does not. -/
theorem Accounted.step (c : Call) (h : Accounted k b w) :
    (RollbackCompletes c b w ∧ Accounted k (c.run b w).self (c.run b w).world) ∨
      (¬RollbackCompletes c b w ∧ ¬Tracked k (c.run b w).self (c.run b w).world.kernel) := by
  cases c with
  | bringUp interface profile => exact h.bringUp interface profile
  | bringDown interface => exact Or.inl ⟨trivial, h.bringDown interface⟩
  | health now => exact Or.inl ⟨trivial, h.health now⟩

end

/-- Nothing the backend has put into the kernel since `k` is orphaned after
the call: all of it is recorded, and a later `bring_down` can take all of
it back. -/
def KeepsTrack (k : Kernel) (c : Call) (b : LinuxWireGuardBackend) (w : Host) : Prop :=
  Tracked k (c.run b w).self (c.run b w).world.kernel ∧
    Removable k (c.run b w).self (c.run b w).world.kernel

theorem accounted_fresh (tools : LinuxTools) (routingMark : NonZeroU32) (w : Host) :
    Accounted w.kernel (fresh tools routingMark) w :=
  ⟨fun _ => ⟨rfl, rfl⟩, nofun, by simp [fresh]⟩

/-- Over a whole run from a new backend, every call leaves everything it
added recorded and removable exactly when every rollback completes. -/
theorem tracked_iff_rollbacks (tools : LinuxTools) (routingMark : NonZeroU32) (w : Host)
    (calls : List Call) :
    Prog.Each Call.run (KeepsTrack w.kernel) calls (fresh tools routingMark) w ↔
      Prog.Each Call.run RollbackCompletes calls (fresh tools routingMark) w := by
  refine Prog.each_iff (J := Accounted w.kernel) ?_ ?_ (accounted_fresh tools routingMark w)
  · intro c b w' h
    rcases h.step c with ⟨hcompletes, hacc⟩ | ⟨hfails, huntracked⟩
    · exact ⟨fun _ => hcompletes, fun _ => ⟨hacc.tracked, hacc.removable⟩⟩
    · exact ⟨fun hkeeps => absurd hkeeps.1 huntracked, fun hcompletes => absurd hcompletes hfails⟩
  · intro c b w' h hkeeps
    rcases h.step c with ⟨-, hacc⟩ | ⟨-, huntracked⟩
    · exact hacc
    · exact absurd hkeeps.1 huntracked

/-! ## A rollback that fails -/

def exampleTools : LinuxTools := ⟨"/usr/sbin/ip", "/usr/bin/wg", "/etc/wireguard/client.key"⟩

def exampleProfile : WireGuardConfig where
  peerPublicKey := Vector.replicate 32 7
  endpoint := ⟨"203.0.113.9", examplePort⟩
  tunnelAddresses := [⟨.v4 0x0a080002#32, 32⟩]
  allowedIps := [⟨.v4 0x0a080000#32, 24⟩]
  persistentKeepaliveSeconds := none
  mtu := 1420

/-- A host with no link, no rule and no policy in force. -/
def exampleKernel : Kernel where
  links := ∅
  rules := 0
  routes := fun _ => none
  peers := fun _ _ => none
  resolvers := fun _ => {}
  policy := .disabled
  gateway := none
  sysctl := fun _ => []

/-- `link add` succeeds, `wg set` fails, and so does the `link delete` of
the rollback. -/
def exampleFailures : Env where
  commands := [.ok [], .error (.network "wg failed"), .error (.network "ip failed")]

/-- The link is in the kernel and the backend has forgotten it. -/
theorem rollback_failure_orphans_link :
    ¬Prog.Each Call.run (KeepsTrack exampleKernel) [.bringUp "cyb0" exampleProfile]
      (fresh exampleTools ⟨51820, by decide⟩) ⟨exampleKernel, exampleFailures, []⟩ := by
  rintro ⟨⟨⟨hlinks, -⟩, -⟩, -⟩
  have hactive := hlinks "cyb0" (by decide) (by decide)
  revert hactive
  decide

end LinuxWireGuardBackend

end CyberiaVpn.Linux
