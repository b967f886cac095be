import CyberiaVpn.Killswitch.Controller
import CyberiaVpn.Linux.Host

/-!
# The nftables firewall

`NftablesConfig::render` and `NftablesBackend` of
`core/killswitch/src/linux.rs`. A policy is rendered to the text of one
transaction on the private table and handed to the runner. A policy that
cannot be rendered is refused before anything runs.
-/

namespace CyberiaVpn.Killswitch

open Effects Transport Linux

structure NftablesConfig where
  endpointAddress : IpAddr
  endpointPort : NonZeroU16

namespace NftablesConfig

def tableName : String := "cyberia_vpn"

def render (config : NftablesConfig) (policy : TrafficPolicy) : Except NftablesError String :=
  let reset := "add table inet " ++ tableName ++ "\nflush table inet " ++ tableName ++ "\n"
  let family := if config.endpointAddress.isIpv4 then "ip" else "ip6"
  let blocking := reset ++
    "add chain inet " ++ tableName ++
      " output \x7b type filter hook output priority -100; policy drop; \x7d\n" ++
    "add rule inet " ++ tableName ++ " output oifname \"lo\" accept\n" ++
    "add rule inet " ++ tableName ++ " output " ++ family ++ " daddr " ++
      config.endpointAddress.display ++ " udp dport " ++ toString config.endpointPort.val ++
      " accept\n"
  match policy with
  | .disabled => .ok (reset ++ "delete table inet " ++ tableName ++ "\n")
  | .blockNonTunnel => .ok blocking
  | .tunnelOnly interface =>
      if validInterface interface then
        .ok (blocking ++ "add rule inet " ++ tableName ++ " output oifname \"" ++ interface ++
          "\" accept\n")
      else .error .invalidInterface

theorem delete_ne_chain {reset rest rest' : String} :
    reset ++ ("delete table inet " ++ rest) ≠ reset ++ ("add chain inet " ++ rest') := by
  intro h
  have hchars := congrArg (·.toList.head?) ((String.append_right_inj _).mp h)
  simp at hchars

/-- Only the disabled policy deletes the table. -/
theorem render_disabled_ne {config : NftablesConfig} {policy : TrafficPolicy} {rules : String}
    (hpolicy : policy ≠ .disabled) (h : config.render policy = .ok rules) :
    config.render .disabled ≠ .ok rules := by
  intro hdisabled
  unfold render at h hdisabled
  dsimp only at h hdisabled
  rw [Except.ok.injEq] at hdisabled
  subst hdisabled
  -- the common beginning is kept folded: only what follows it matters
  generalize "add table inet " ++ tableName ++ "\nflush table inet " ++ tableName ++ "\n" = reset
    at h
  cases policy with
  | disabled => exact absurd rfl hpolicy
  | blockNonTunnel =>
      dsimp only at h
      rw [Except.ok.injEq] at h
      simp only [String.append_assoc] at h
      exact delete_ne_chain h.symm
  | tunnelOnly i =>
      dsimp only at h
      split at h
      · rw [Except.ok.injEq] at h
        simp only [String.append_assoc] at h
        exact delete_ne_chain h.symm
      · cases h

end NftablesConfig

structure NftablesBackend where
  config : NftablesConfig

namespace NftablesBackend

def apply (policy : TrafficPolicy) : Prog NftablesBackend Host Effect NftablesError Unit := do
  let rules ← Prog.liftExcept ((← Prog.self).config.render policy)
  transaction policy rules

/-- `impl Firewall for NftablesBackend`. -/
def firewall : FirewallImpl NftablesBackend Host Effect where
  apply policy := (apply policy).mapError fun error => ⟨error.display⟩

variable {I : Entry NftablesBackend Host Effect → Prop} {Q : Unit → NftablesBackend → Host → Prop}
  {E : FirewallError → NftablesBackend → Host → Prop} {f : NftablesBackend} {w : Host}
  {policy : TrafficPolicy}

/-- The policy is in force, or nothing has changed; what was sent is the
policy's text. -/
theorem sat_firewall_render
    (hok : ∀ rules env, f.config.render policy = .ok rules →
      let w' : Host := ⟨{ w.kernel with policy := policy }, env, .transaction rules true :: w.log⟩
      I ⟨f, w, .transaction rules true, w'⟩ ∧ Q () f w')
    (herr : ∀ rules e env, f.config.render policy = .ok rules →
      let w' : Host := ⟨w.kernel, env, .transaction rules false :: w.log⟩
      I ⟨f, w, .transaction rules false, w'⟩ ∧ E e f w')
    (hunrendered : ∀ e, E e f w) :
    (firewall.apply policy).Sat I Q E f w := by
  simp only [firewall, apply, Prog.sat_mapError, Prog.sat_bind, Prog.sat_self,
    Prog.sat_liftExcept]
  split
  · next rules hrules =>
    exact sat_transaction (fun env => hok rules env hrules)
      (fun e env => herr rules ⟨e.display⟩ env hrules)
  · exact hunrendered _

theorem sat_firewall_apply
    (hok : ∀ rules env,
      let w' : Host := ⟨{ w.kernel with policy := policy }, env, .transaction rules true :: w.log⟩
      I ⟨f, w, .transaction rules true, w'⟩ ∧ Q () f w')
    (herr : ∀ rules e env,
      let w' : Host := ⟨w.kernel, env, .transaction rules false :: w.log⟩
      I ⟨f, w, .transaction rules false, w'⟩ ∧ E e f w')
    (hunrendered : ∀ e, E e f w) :
    (firewall.apply policy).Sat I Q E f w :=
  sat_firewall_render (fun rules env _ => hok rules env) (fun rules e env _ => herr rules e env)
    hunrendered

theorem sat_firewall_apply_calm (hcalm : w.env = .calm)
    (hrender : ∀ i, policy = .tunnelOnly i → validInterface i = true)
    (hQ : ∀ log, Q () f ⟨{ w.kernel with policy := policy }, .calm, log⟩) :
    (firewall.apply policy).Sat (fun _ => True) Q E f w := by
  obtain ⟨rules, hrules⟩ : ∃ rules, f.config.render policy = .ok rules := by
    cases policy with
    | disabled => exact ⟨_, rfl⟩
    | blockNonTunnel => exact ⟨_, rfl⟩
    | tunnelOnly i => exact ⟨_, if_pos (hrender i rfl)⟩
  simp only [firewall, apply, Prog.sat_mapError, Prog.sat_bind, Prog.sat_self, hrules,
    Prog.sat_liftExcept]
  exact sat_transaction_calm hcalm hQ

end NftablesBackend

end CyberiaVpn.Killswitch
