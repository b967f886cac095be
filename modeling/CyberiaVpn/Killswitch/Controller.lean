import CyberiaVpn.Effects.Prog
import CyberiaVpn.Killswitch.State

/-!
# The connection controller

`ConnectionController` of `core/killswitch/src/lib.rs`, generic in the
transport and in the firewall: both are given by the programs of their
trait methods, over one shared world. The controller clones the kill
switch, tries the new policy on the firewall and commits the clone only
when the firewall accepted it; `transportMayBeActive` is raised before
the transport is asked to connect and lowered only by a teardown that
succeeded.

The second half is about an arbitrary transport and an arbitrary
firewall, as state machines that may succeed or fail at will. Their
calls are observed in a history, and `Guarded` says what each observed
call may be, given the history before it.
-/

namespace CyberiaVpn.Killswitch

open Effects Transport

structure FirewallError where
  reason : String
  deriving DecidableEq

def FirewallError.display (e : FirewallError) : String :=
  s!"firewall policy failed: {e.reason}"

inductive ConnectionError where
  | firewall (error : FirewallError)
  | killSwitch (error : KillSwitchError)
  | transport (error : TransportError)
  deriving DecidableEq

def ConnectionError.display : ConnectionError → String
  | firewall e => e.display
  | killSwitch e => e.display
  | transport e => e.display

/-! ## The two boundaries

The connect context is not an argument: its deadline and its
cancellation token are moved from outside, and all a transport can do
with it is `check`. -/

/-- The methods of the `Transport` trait, for a transport whose state is
`τ`. A health probe is given the wall clock in seconds. -/
structure TransportImpl (τ ω κ : Type) where
  connect : TransportConfig → Prog τ ω κ TransportError Session
  disconnect : Prog τ ω κ TransportError Unit
  health : Nat → Prog τ ω κ Empty TransportHealth

/-- The method of the `Firewall` trait. -/
structure FirewallImpl (φ ω κ : Type) where
  apply : TrafficPolicy → Prog φ ω κ FirewallError Unit

structure ConnectionController (τ φ : Type) where
  killSwitch : KillSwitch
  transport : τ
  firewall : φ
  transportMayBeActive : Bool

namespace ConnectionController

variable {τ φ ω κ ε α : Type} (T : TransportImpl τ ω κ) (F : FirewallImpl φ ω κ)

def policy (c : ConnectionController τ φ) : TrafficPolicy := c.killSwitch.policy

/-- Run a method of the transport. -/
def onTransport (m : Prog τ ω κ ε α) : Prog (ConnectionController τ φ) ω κ ε α :=
  Prog.zoom (·.transport) (fun t c => { c with transport := t }) m

/-- Run a method of the firewall. -/
def onFirewall (m : Prog φ ω κ ε α) : Prog (ConnectionController τ φ) ω κ ε α :=
  Prog.zoom (·.firewall) (fun f c => { c with firewall := f }) m

/-- Construction runs on the firewall alone: no controller exists unless
its initial policy was applied. -/
def new (killSwitch : KillSwitch) (transport : τ) :
    Prog φ ω κ FirewallError (ConnectionController τ φ) := do
  F.apply killSwitch.policy
  let firewall ← Prog.self
  return { killSwitch, transport, firewall, transportMayBeActive := false }

/-- The cleanup of a connect that got a session but not its policy. -/
def abandonSession (error : ConnectionError) :
    Prog (ConnectionController τ φ) ω κ ConnectionError Session := do
  match ← (onTransport T.disconnect).attempt with
  | .ok () => Prog.update fun c => { c with transportMayBeActive := false }
  | .error _ => pure ()
  Prog.fail error

def connect (config : TransportConfig) :
    Prog (ConnectionController τ φ) ω κ ConnectionError Session := do
  let blocking := (← Prog.self).killSwitch.enable
  (onFirewall (F.apply blocking.policy)).mapError .firewall
  -- A failed connect may leave partial platform state behind.
  Prog.update fun c => { c with killSwitch := blocking, transportMayBeActive := true }
  let session ← (onTransport (T.connect config)).mapError .transport
  match (← Prog.self).killSwitch.tunnelEstablished session.id with
  | .error error => abandonSession T (.killSwitch error)
  | .ok tunnel =>
      match ← (onFirewall (F.apply tunnel.policy)).attempt with
      | .error error => abandonSession T (.firewall error)
      | .ok () =>
          Prog.update fun c => { c with killSwitch := tunnel }
          return session

def disconnect : Prog (ConnectionController τ φ) ω κ ConnectionError Unit := do
  let blocking := (← Prog.self).killSwitch.tunnelLost
  (onFirewall (F.apply blocking.policy)).mapError .firewall
  Prog.update fun c => { c with killSwitch := blocking }
  (onTransport T.disconnect).mapError .transport
  Prog.update fun c => { c with transportMayBeActive := false }

def disable : Prog (ConnectionController τ φ) ω κ ConnectionError Unit := do
  let c ← Prog.self
  if c.transportMayBeActive then
    Prog.fail (.killSwitch .transportActive)
  else
    match c.killSwitch.policy with
    | .tunnelOnly _ => Prog.fail (.killSwitch .notEnabled)
    | _ =>
        let disabled ← (Prog.liftExcept c.killSwitch.disable).mapError .killSwitch
        (onFirewall (F.apply disabled.policy)).mapError .firewall
        Prog.update fun c => { c with killSwitch := disabled }

end ConnectionController

/-! ## Observed collaborators -/

/-- One call of the controller into its collaborators, with its result. -/
inductive Event where
  | apply (policy : TrafficPolicy) (ok : Bool)
  | connect (result : Except TransportError Session)
  | disconnect (ok : Bool)

/-- Newest event first. -/
abbrev History := List Event

/-- The policy in force: the last one the firewall accepted. -/
def lastApplied : History → Option TrafficPolicy
  | [] => none
  | .apply p true :: _ => some p
  | _ :: h => lastApplied h

/-- Some connect attempt has not been followed by a successful teardown. -/
def awaitingTeardown : History → Bool
  | [] => false
  | .connect _ :: _ => true
  | .disconnect true :: _ => false
  | _ :: h => awaitingTeardown h

/-- An arbitrary transport: any state machine, each call observed. -/
def observedTransport {τ : Type}
    (connect : TransportConfig → τ → Except TransportError Session × τ)
    (disconnect : τ → Except TransportError Unit × τ)
    (health : Nat → τ → TransportHealth × τ) : TransportImpl τ History Event where
  connect config := do
    let (result, next) := connect config (← Prog.self)
    Prog.effect fun h => (.connect result, .ok (), .connect result :: h)
    Prog.update fun _ => next
    Prog.liftExcept result
  disconnect := do
    let (result, next) := disconnect (← Prog.self)
    Prog.effect fun h => (.disconnect result.toBool, .ok (), .disconnect result.toBool :: h)
    Prog.update fun _ => next
    Prog.liftExcept result
  health now := do
    let (report, next) := health now (← Prog.self)
    Prog.update fun _ => next
    return report

/-- An arbitrary firewall, each call observed. -/
def observedFirewall {φ : Type}
    (apply : TrafficPolicy → φ → Except FirewallError Unit × φ) :
    FirewallImpl φ History Event where
  apply policy := do
    let (result, next) := apply policy (← Prog.self)
    Prog.effect fun h =>
      (.apply policy result.toBool, .ok (), .apply policy result.toBool :: h)
    Prog.update fun _ => next
    Prog.liftExcept result

section Observed

variable {τ φ : Type} {I : Entry τ History Event → Prop} {J : Entry φ History Event → Prop}
  {connect : TransportConfig → τ → Except TransportError Session × τ}
  {disconnect : τ → Except TransportError Unit × τ}
  {health : Nat → τ → TransportHealth × τ}
  {apply : TrafficPolicy → φ → Except FirewallError Unit × φ}
  {t : τ} {f : φ} {h : History}

theorem sat_observed_connect {config : TransportConfig} {Q : Session → τ → History → Prop}
    {E : TransportError → τ → History → Prop}
    (hI : ∀ r, I ⟨t, h, .connect r, .connect r :: h⟩)
    (hQ : ∀ session t', Q session t' (.connect (.ok session) :: h))
    (hE : ∀ e t', E e t' (.connect (.error e) :: h)) :
    ((observedTransport connect disconnect health).connect config).Sat I Q E t h := by
  simp only [observedTransport, Prog.sat_bind, Prog.sat_self, Prog.sat_effect,
    Prog.sat_update, Prog.sat_liftExcept]
  refine ⟨hI _, ?_⟩
  cases hr : (connect config t).1 with
  | ok session => exact hQ session _
  | error e => exact hE e _

theorem sat_observed_disconnect {Q : Unit → τ → History → Prop}
    {E : TransportError → τ → History → Prop}
    (hI : ∀ ok, I ⟨t, h, .disconnect ok, .disconnect ok :: h⟩)
    (hQ : ∀ t', Q () t' (.disconnect true :: h))
    (hE : ∀ e t', E e t' (.disconnect false :: h)) :
    (observedTransport connect disconnect health).disconnect.Sat I Q E t h := by
  simp only [observedTransport, Prog.sat_bind, Prog.sat_self, Prog.sat_effect,
    Prog.sat_update, Prog.sat_liftExcept]
  refine ⟨hI _, ?_⟩
  cases hr : (disconnect t).1 with
  | ok _ => exact hQ _
  | error e => exact hE e _

theorem sat_observed_apply {policy : TrafficPolicy} {Q : Unit → φ → History → Prop}
    {E : FirewallError → φ → History → Prop}
    (hI : ∀ ok, J ⟨f, h, .apply policy ok, .apply policy ok :: h⟩)
    (hQ : ∀ f', Q () f' (.apply policy true :: h))
    (hE : ∀ e f', E e f' (.apply policy false :: h)) :
    ((observedFirewall apply).apply policy).Sat J Q E f h := by
  simp only [observedFirewall, Prog.sat_bind, Prog.sat_self, Prog.sat_effect,
    Prog.sat_update, Prog.sat_liftExcept]
  refine ⟨hI _, ?_⟩
  cases hr : (apply policy f).1 with
  | ok _ => exact hQ _
  | error e => exact hE e _

end Observed

/-! ## Fail-secure runs -/

/-- What the controller may ask of its collaborators, given the calls
before: the fields are the clauses of the fail-secure contract. -/
structure Guarded (alwaysOn : Bool) (before : History) (event : Event) : Prop where
  /-- A transport is only asked to connect behind a blocking firewall. -/
  connect_blocked : ∀ r, event = .connect r → lastApplied before = some .blockNonTunnel
  /-- So is a possibly live one asked to disconnect. -/
  disconnect_blocked : ∀ ok, event = .disconnect ok → awaitingTeardown before = true →
    lastApplied before = some .blockNonTunnel
  /-- Filtering is never lifted over a possibly live tunnel. -/
  disabled_idle : ∀ ok, event = .apply .disabled ok → awaitingTeardown before = false
  /-- The tunnel is opened only for the session just returned. -/
  tunnel_fresh : ∀ i ok, event = .apply (.tunnelOnly i) ok →
    ∃ session rest, before = .connect (.ok session) :: rest ∧ session.id = i ∧
      validInterface i = true
  alwaysOn_never_disabled : alwaysOn = true → ∀ ok, event ≠ .apply .disabled ok

section Guarded

variable {alwaysOn : Bool} {h : History}

theorem guarded_block (ok : Bool) : Guarded alwaysOn h (.apply .blockNonTunnel ok) where
  connect_blocked := by simp
  disconnect_blocked := by simp
  disabled_idle := by simp
  tunnel_fresh := by simp
  alwaysOn_never_disabled := by simp

theorem guarded_connect (hb : lastApplied h = some .blockNonTunnel)
    (r : Except TransportError Session) : Guarded alwaysOn h (.connect r) where
  connect_blocked := fun _ _ => hb
  disconnect_blocked := by simp
  disabled_idle := by simp
  tunnel_fresh := by simp
  alwaysOn_never_disabled := by simp

theorem guarded_disconnect
    (hb : awaitingTeardown h = true → lastApplied h = some .blockNonTunnel) (ok : Bool) :
    Guarded alwaysOn h (.disconnect ok) where
  connect_blocked := by simp
  disconnect_blocked := fun _ _ => hb
  disabled_idle := by simp
  tunnel_fresh := by simp
  alwaysOn_never_disabled := by simp

theorem guarded_tunnel {session : Session} (hv : validInterface session.id = true)
    (ok : Bool) :
    Guarded alwaysOn (.connect (.ok session) :: h) (.apply (.tunnelOnly session.id) ok) where
  connect_blocked := by simp
  disconnect_blocked := by simp
  disabled_idle := by simp
  tunnel_fresh := by
    rintro i ok' heq
    obtain ⟨hi, -⟩ := Event.apply.inj heq
    obtain rfl := TrafficPolicy.tunnelOnly.inj hi
    exact ⟨session, h, rfl, rfl, hv⟩
  alwaysOn_never_disabled := by simp

theorem guarded_disabled (hidle : awaitingTeardown h = false) (hoff : alwaysOn = false)
    (ok : Bool) : Guarded alwaysOn h (.apply .disabled ok) where
  connect_blocked := by simp
  disconnect_blocked := by simp
  disabled_idle := fun _ _ => hidle
  tunnel_fresh := by simp
  alwaysOn_never_disabled := by simp [hoff]

end Guarded

namespace ConnectionController

/-- The invariant at call boundaries: the firewall enforces the recorded
policy, the flag tells exactly whether a teardown is owed, and neither a
possibly live tunnel nor an always-on switch goes with `disabled`. -/
structure Consistent {τ φ : Type} (alwaysOn : Bool) (c : ConnectionController τ φ)
    (h : History) : Prop where
  enforced : lastApplied h = some c.policy
  flag : awaitingTeardown h = c.transportMayBeActive
  switch : c.killSwitch.alwaysOn = alwaysOn
  live : c.transportMayBeActive = true → c.policy ≠ .disabled
  armed : alwaysOn = true → c.policy ≠ .disabled

/-- A call of the controller. -/
inductive Call where
  | connect (config : TransportConfig)
  | disconnect
  | disable

section Runs

variable {τ φ ω κ : Type}

def Call.run (T : TransportImpl τ ω κ) (F : FirewallImpl φ ω κ) :
    Call → Prog (ConnectionController τ φ) ω κ ConnectionError Unit
  | .connect config => do let _ ← ConnectionController.connect T F config
  | .disconnect => ConnectionController.disconnect T F
  | .disable => ConnectionController.disable F

variable {connect : TransportConfig → τ → Except TransportError Session × τ}
  {disconnect : τ → Except TransportError Unit × τ}
  {health : Nat → τ → TransportHealth × τ}
  {apply : TrafficPolicy → φ → Except FirewallError Unit × φ}
  {alwaysOn : Bool} {c : ConnectionController τ φ} {h : History}

/-- Recording an attempt that left the policy alone keeps the invariant. -/
theorem Consistent.of_rejected (hc : Consistent alwaysOn c h) (p : TrafficPolicy) (f : φ) :
    Consistent alwaysOn { c with firewall := f } (.apply p false :: h) where
  enforced := hc.enforced
  flag := hc.flag
  switch := hc.switch
  live := hc.live
  armed := hc.armed

/-- Giving up a session behind a blocking firewall keeps the invariant,
whether or not the transport could be torn down. -/
theorem sat_abandonSession {error : ConnectionError}
    (hb : lastApplied h = some .blockNonTunnel) (hw : awaitingTeardown h = true)
    (hp : c.policy = .blockNonTunnel) (hf : c.transportMayBeActive = true)
    (hs : c.killSwitch.alwaysOn = alwaysOn) :
    (abandonSession (observedTransport connect disconnect health) error).Sat
      (fun e => Guarded alwaysOn e.pre e.effect) (fun _ => Consistent alwaysOn)
      (fun _ => Consistent alwaysOn) c h := by
  have hne : c.policy ≠ .disabled := by rw [hp]; exact TrafficPolicy.noConfusion
  simp only [abandonSession, onTransport, Prog.sat_bind, Prog.sat_attempt, Prog.sat_zoom]
  refine sat_observed_disconnect (fun ok => guarded_disconnect (fun _ => hb) ok)
    (fun t' => ?_) (fun e t' => ?_)
  · simp only [Prog.sat_update, Prog.sat_fail]
    exact ⟨hb.trans (congrArg some hp.symm), rfl, hs, by rintro ⟨⟩, fun _ => hne⟩
  · simp only [Prog.sat_fail]
    exact ⟨hb.trans (congrArg some hp.symm), hw.trans hf.symm, hs, fun _ => hne, fun _ => hne⟩

theorem sat_connect (config : TransportConfig) (hc : Consistent alwaysOn c h) :
    (ConnectionController.connect (observedTransport connect disconnect health)
        (observedFirewall apply) config).Sat
      (fun e => Guarded alwaysOn e.pre e.effect) (fun _ => Consistent alwaysOn)
      (fun _ => Consistent alwaysOn) c h := by
  simp only [ConnectionController.connect, onFirewall, onTransport, Prog.sat_bind,
    Prog.sat_self, Prog.sat_mapError, Prog.sat_zoom, Prog.sat_update]
  refine sat_observed_apply (fun ok => guarded_block ok) (fun f' => ?_)
    (fun e f' => hc.of_rejected _ f')
  refine sat_observed_connect (fun r => guarded_connect rfl r) (fun session t' => ?_)
    (fun e t' => ⟨rfl, rfl, hc.switch, fun _ => TrafficPolicy.noConfusion,
      fun _ => TrafficPolicy.noConfusion⟩)
  cases hest : c.killSwitch.enable.tunnelEstablished session.id with
  | error e => exact sat_abandonSession rfl rfl rfl rfl hc.switch
  | ok tunnel =>
      obtain ⟨-, hvalid, rfl⟩ := KillSwitch.tunnelEstablished_eq_ok.mp hest
      simp only [Prog.sat_bind, Prog.sat_attempt, Prog.sat_zoom]
      refine sat_observed_apply (fun ok => guarded_tunnel hvalid ok) (fun f'' => ?_)
        (fun e f'' => sat_abandonSession rfl rfl rfl rfl hc.switch)
      simp only [Prog.sat_update, Prog.sat_pure]
      exact ⟨rfl, rfl, hc.switch, fun _ => TrafficPolicy.noConfusion,
        fun _ => TrafficPolicy.noConfusion⟩

theorem sat_disconnect (hc : Consistent alwaysOn c h) :
    (ConnectionController.disconnect (observedTransport connect disconnect health)
        (observedFirewall apply)).Sat
      (fun e => Guarded alwaysOn e.pre e.effect) (fun _ => Consistent alwaysOn)
      (fun _ => Consistent alwaysOn) c h := by
  -- re-applying `disabled` is the one case that does not block: no teardown is owed then
  have hguard : ∀ ok, Guarded alwaysOn h (.apply c.killSwitch.tunnelLost.policy ok) := by
    intro ok
    by_cases hd : c.killSwitch.policy = .disabled
    · have hidle : c.transportMayBeActive = false := by
        cases hf : c.transportMayBeActive with
        | false => rfl
        | true => exact absurd hd (hc.live hf)
      have hoff : alwaysOn = false := by
        cases ha : alwaysOn with
        | false => rfl
        | true => exact absurd hd (hc.armed ha)
      rw [show c.killSwitch.tunnelLost.policy = .disabled by simp [KillSwitch.tunnelLost, hd]]
      exact guarded_disabled (hc.flag.trans hidle) hoff ok
    · rw [KillSwitch.tunnelLost_policy_of_ne hd]
      exact guarded_block ok
  have hblock : c.transportMayBeActive = true →
      c.killSwitch.tunnelLost.policy = .blockNonTunnel :=
    fun hf => KillSwitch.tunnelLost_policy_of_ne (hc.live hf)
  have hstill : ∀ {P : Prop}, (P → c.policy ≠ .disabled) →
      P → c.killSwitch.tunnelLost.policy ≠ .disabled :=
    fun hne hp hd => hne hp (KillSwitch.tunnelLost_policy_eq_disabled hd)
  simp only [ConnectionController.disconnect, onFirewall, onTransport, Prog.sat_bind,
    Prog.sat_self, Prog.sat_mapError, Prog.sat_zoom, Prog.sat_update]
  refine sat_observed_apply hguard (fun f' => ?_) (fun e f' => hc.of_rejected _ f')
  have hteardown : ∀ ok, Guarded alwaysOn
      (.apply c.killSwitch.tunnelLost.policy true :: h) (.disconnect ok) := by
    intro ok
    refine guarded_disconnect (fun hw => ?_) ok
    exact congrArg some (hblock (hc.flag.symm.trans hw))
  refine sat_observed_disconnect hteardown (fun t' => ?_) (fun e t' => ?_)
  · exact ⟨rfl, rfl, (KillSwitch.tunnelLost_alwaysOn _).trans hc.switch,
      (by rintro ⟨⟩), hstill hc.armed⟩
  · exact ⟨rfl, hc.flag, (KillSwitch.tunnelLost_alwaysOn _).trans hc.switch,
      hstill hc.live, hstill hc.armed⟩

theorem sat_disable (hc : Consistent alwaysOn c h) :
    (ConnectionController.disable (observedFirewall apply)).Sat
      (fun e => Guarded alwaysOn e.pre e.effect) (fun _ => Consistent alwaysOn)
      (fun _ => Consistent alwaysOn) c h := by
  simp only [ConnectionController.disable, Prog.sat_bind, Prog.sat_self]
  cases hf : c.transportMayBeActive with
  | true => simpa using hc
  | false =>
      simp only [Bool.false_eq_true, if_false]
      split
      · simpa using hc
      · simp only [onFirewall, Prog.sat_bind, Prog.sat_mapError, Prog.sat_liftExcept]
        cases hdis : c.killSwitch.disable with
        | error e => exact hc
        | ok off =>
            obtain ⟨hon, rfl⟩ := KillSwitch.disable_eq_ok.mp hdis
            have hoff : alwaysOn = false := hc.switch.symm.trans hon
            simp only [Prog.sat_zoom, Prog.sat_update]
            refine sat_observed_apply
              (fun ok => guarded_disabled (hc.flag.trans hf) hoff ok)
              (fun f' => ?_) (fun e f' => hc.of_rejected _ f')
            exact ⟨rfl, hc.flag, hc.switch, fun h => by simp [hf] at h,
              fun h => by simp [hoff] at h⟩

theorem sat_call (call : Call) (hc : Consistent alwaysOn c h) :
    (call.run (observedTransport connect disconnect health) (observedFirewall apply)).Sat
      (fun e => Guarded alwaysOn e.pre e.effect) (fun _ => Consistent alwaysOn)
      (fun _ => Consistent alwaysOn) c h := by
  cases call with
  | connect config =>
      rw [Call.run, Prog.sat_bind]
      exact (sat_connect config hc).mono (fun _ h => h) (fun _ _ _ h => Prog.sat_pure.mpr h)
        (fun _ _ _ h => h)
  | disconnect => exact sat_disconnect hc
  | disable => exact sat_disable hc

/-- Construction applies the initial policy and starts consistent. -/
theorem sat_new {t : τ} {f : φ} {killSwitch : KillSwitch}
    (hs : killSwitch.alwaysOn = alwaysOn)
    (hp : alwaysOn = true → killSwitch.policy = .blockNonTunnel)
    (ht : ∀ i, killSwitch.policy ≠ .tunnelOnly i) :
    (ConnectionController.new (observedFirewall apply) killSwitch t).Sat
      (fun e => Guarded alwaysOn e.pre e.effect) (fun c _ => Consistent alwaysOn c)
      (fun _ _ _ => True) f [] := by
  have hne : alwaysOn = true → killSwitch.policy ≠ .disabled := by
    intro hon; rw [hp hon]; exact TrafficPolicy.noConfusion
  simp only [ConnectionController.new, Prog.sat_bind, Prog.sat_self, Prog.sat_pure]
  refine sat_observed_apply (fun ok => ?_) (fun f' => ⟨rfl, rfl, hs, by rintro ⟨⟩, hne⟩)
    (fun _ _ => trivial)
  cases hpol : killSwitch.policy with
  | disabled =>
      refine guarded_disabled rfl ?_ ok
      cases ha : alwaysOn with
      | false => rfl
      | true => exact absurd hpol (hne ha)
  | blockNonTunnel => exact guarded_block ok
  | tunnelOnly i => exact absurd hpol (ht i)

/-- **Fail-secure controller.** Over an arbitrary transport and firewall,
for every run of connect, disconnect and disable on a controller built
from `KillSwitch::new`, possibly enabled: the firewall enforces the
recorded policy after every call, and every call into the collaborators,
from construction on, is `Guarded`. -/
theorem controller_runs_guarded
    (connect : TransportConfig → τ → Except TransportError Session × τ)
    (disconnect : τ → Except TransportError Unit × τ)
    (health : Nat → τ → TransportHealth × τ)
    (apply : TrafficPolicy → φ → Except FirewallError Unit × φ)
    (alwaysOn enabled : Bool) (t : τ) (f : φ) (c : ConnectionController τ φ)
    (hnew : (ConnectionController.new (observedFirewall apply)
      (if enabled then (KillSwitch.new alwaysOn).enable else KillSwitch.new alwaysOn)
      t f []).result = .ok c)
    (calls : List Call) :
    let start := ConnectionController.new (observedFirewall apply)
      (if enabled then (KillSwitch.new alwaysOn).enable else KillSwitch.new alwaysOn) t f []
    let run := (Prog.session (δ := Empty)
      (Call.run (observedTransport connect disconnect health) (observedFirewall apply))
      calls) c start.world
    lastApplied run.world = some run.self.policy ∧
      (∀ e ∈ start.trace, Guarded alwaysOn e.pre e.effect) ∧
      ∀ e ∈ run.trace, Guarded alwaysOn e.pre e.effect := by
  intro start run
  have hstart : (ConnectionController.new (τ := τ) (observedFirewall apply)
      (if enabled then (KillSwitch.new alwaysOn).enable else KillSwitch.new alwaysOn) t).Sat
      (fun e => Guarded alwaysOn e.pre e.effect) (fun c _ => Consistent alwaysOn c)
      (fun _ _ _ => True) f [] :=
    sat_new (by cases enabled <;> rfl)
      (by intro hon; cases enabled <;> simp [KillSwitch.new, KillSwitch.enable, hon])
      (by intro i; cases enabled <;> cases alwaysOn <;> simp [KillSwitch.new, KillSwitch.enable])
  obtain ⟨hguard, hres⟩ := hstart
  rw [hnew] at hres
  have hstep : ∀ call ∈ calls, ∀ c' h', Consistent alwaysOn c' h' →
      (Call.run (observedTransport connect disconnect health) (observedFirewall apply) call).Sat
        (fun e => Guarded alwaysOn e.pre e.effect) (fun _ => Consistent alwaysOn)
        (fun _ => Consistent alwaysOn) c' h' :=
    fun call _ _ _ hc => sat_call call hc
  have hrun := Prog.sat_session (δ := Empty) (E := fun _ _ _ => True) hstep hres
  obtain ⟨htrace, hend⟩ := hrun
  refine ⟨?_, hguard, htrace⟩
  rw [Prog.session_result] at hend
  exact hend.enforced

/-- A switch without always-on whose transport first refuses, then accepts
and is torn down, over a firewall that accepts everything. -/
theorem controller_runs_guarded_retry :
    let connect : TransportConfig → Nat → Except TransportError Session × Nat := fun _ n =>
      (if n = 0 then .error .timedOut else .ok ⟨"cyb0", .wireGuard⟩, n + 1)
    let disconnect : Nat → Except TransportError Unit × Nat := fun n => (.ok (), n)
    let health : Nat → Nat → TransportHealth × Nat := fun _ n => (⟨.unavailable, 0⟩, n)
    let apply : TrafficPolicy → Unit → Except FirewallError Unit × Unit :=
      fun _ f => (.ok (), f)
    let config : TransportConfig := ⟨.wireGuard, ⟨"192.0.2.1", ⟨51820, by decide⟩⟩, 5⟩
    let start := ConnectionController.new (observedFirewall apply)
      (KillSwitch.new false).enable 0 () []
    let run := (Prog.session (δ := Empty)
      (Call.run (observedTransport connect disconnect health) (observedFirewall apply))
      [.connect config, .connect config, .disconnect, .disable])
      ⟨(KillSwitch.new false).enable, 0, (), false⟩ start.world
    lastApplied run.world = some .disabled ∧ run.trace.length = 8 ∧
      ∀ e ∈ run.trace, Guarded false e.pre e.effect := by
  intro connect disconnect health apply config start run
  refine ⟨rfl, rfl, ?_⟩
  exact (controller_runs_guarded connect disconnect health apply false true 0 ()
    ⟨(KillSwitch.new false).enable, 0, (), false⟩ rfl
    [.connect config, .connect config, .disconnect, .disable]).2.2

end Runs

end ConnectionController

end CyberiaVpn.Killswitch
