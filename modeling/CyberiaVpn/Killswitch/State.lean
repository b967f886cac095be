import CyberiaVpn.Transport.Types

/-!
# The kill-switch state machine

`TrafficPolicy` and `KillSwitch` of `core/killswitch/src/lib.rs`: a
policy cell with an always-on flag. The policy starts at
`blockNonTunnel` when always-on and at `disabled` otherwise, and the
transitions keep the previous policy on every error.
-/

namespace CyberiaVpn.Killswitch

inductive TrafficPolicy where
  | disabled
  | blockNonTunnel
  | tunnelOnly (interface : String)
  deriving DecidableEq, Repr

inductive KillSwitchError where
  | alwaysOn | notEnabled | invalidInterface | transportActive
  deriving DecidableEq, Repr

def KillSwitchError.display : KillSwitchError → String
  | alwaysOn => "always-on kill switch cannot be disabled"
  | notEnabled => "kill switch is not enabled"
  | invalidInterface => "invalid tunnel interface name"
  | transportActive => "transport teardown is not complete"

/-- The kill switch's own interface-name check; it also guards the
nftables rendering. Wider than the transport's: 63 bytes, and dots. -/
def validInterface (interface : String) : Bool :=
  interface ≠ "" && interface.utf8ByteSize ≤ 63 &&
    interface.toList.all fun c => c.isAlphanum || c == '-' || c == '_' || c == '.'

structure KillSwitch where
  alwaysOn : Bool
  policy : TrafficPolicy
  deriving DecidableEq

namespace KillSwitch

def new (alwaysOn : Bool) : KillSwitch :=
  { alwaysOn, policy := if alwaysOn then .blockNonTunnel else .disabled }

def enable (k : KillSwitch) : KillSwitch := { k with policy := .blockNonTunnel }

def disable (k : KillSwitch) : Except KillSwitchError KillSwitch :=
  if k.alwaysOn then .error .alwaysOn else .ok { k with policy := .disabled }

def tunnelEstablished (k : KillSwitch) (interface : String) :
    Except KillSwitchError KillSwitch :=
  if k.policy = .disabled then .error .notEnabled
  else if validInterface interface then .ok { k with policy := .tunnelOnly interface }
  else .error .invalidInterface

def tunnelLost (k : KillSwitch) : KillSwitch :=
  if k.policy = .disabled then k else { k with policy := .blockNonTunnel }

@[simp] theorem tunnelLost_alwaysOn (k : KillSwitch) :
    k.tunnelLost.alwaysOn = k.alwaysOn := by
  unfold tunnelLost; split <;> rfl

theorem tunnelLost_policy_of_ne {k : KillSwitch} (h : k.policy ≠ .disabled) :
    k.tunnelLost.policy = .blockNonTunnel := by
  simp [tunnelLost, h]

theorem tunnelLost_policy_eq_disabled {k : KillSwitch}
    (h : k.tunnelLost.policy = .disabled) : k.policy = .disabled := by
  by_contra hne
  rw [tunnelLost_policy_of_ne hne] at h
  cases h

theorem disable_eq_ok {k k' : KillSwitch} :
    k.disable = .ok k' ↔ k.alwaysOn = false ∧ k' = { k with policy := .disabled } := by
  unfold disable
  cases hk : k.alwaysOn <;> simp [eq_comm]

theorem tunnelEstablished_eq_ok {k k' : KillSwitch} {interface : String} :
    k.tunnelEstablished interface = .ok k' ↔
      k.policy ≠ .disabled ∧ validInterface interface = true ∧
        k' = { k with policy := .tunnelOnly interface } := by
  unfold tunnelEstablished
  by_cases hd : k.policy = .disabled
  · simp [hd]
  · by_cases hv : validInterface interface = true
    · simp [hd, hv, eq_comm]
    · simp [hd, hv]

end KillSwitch

end CyberiaVpn.Killswitch
