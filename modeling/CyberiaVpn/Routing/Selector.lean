import Mathlib.Data.List.Induction
import CyberiaVpn.Data.Table
import CyberiaVpn.Effects.Clock
import CyberiaVpn.Routing.Ranking

/-!
# The route selector

`RouteSelector` of `core/routing/src/selector.rs`: a circuit breaker for
each node and the node that was chosen last, around the stateless choice of
`RoutingPolicy`. A call of `select` filters the candidates by their
circuits, ranks the rest, looks the winner up again by its name, and keeps
the current node unless the dwell time is over and the winner is enough
better.

`select_cases` says once what a call can do, and `keeps_healthy` what the
comparison with the current node comes to. A run is any sequence of the
three calls from a new selector.
-/

namespace CyberiaVpn.Routing

open Effects Data

structure SelectionPolicy where
  minimumDwellTime : Duration := .ofSecs 30
  switchMargin : UInt32 := 500
  failureThreshold : UInt32 := 3
  circuitCooldown : Duration := .ofSecs 60

structure CircuitState where
  consecutiveFailures : Nat
  openUntil : Option Instant

structure RouteSelector where
  scoring : RoutingPolicy
  stability : SelectionPolicy
  current : Option (String × Instant)
  circuits : Table String CircuitState

def findCandidate (candidates : List NodeCandidate) (nodeId : String) : Option NodeCandidate :=
  candidates.find? (·.id = nodeId)

namespace RouteSelector

def new (scoring : RoutingPolicy) (stability : SelectionPolicy) : RouteSelector :=
  ⟨scoring, stability, none, ∅⟩

def recordFailure (self : RouteSelector) (nodeId : String) (now : Instant) : RouteSelector :=
  let state := (self.circuits.lookup nodeId).getD ⟨0, none⟩
  let failures := Word.saturatingAdd 32 state.consecutiveFailures 1
  let openUntil :=
    if self.stability.failureThreshold.toNat ≤ failures then
      now.checkedAdd self.stability.circuitCooldown
    else state.openUntil
  { self with circuits := self.circuits.insert nodeId ⟨failures, openUntil⟩ }

def recordSuccess (self : RouteSelector) (nodeId : String) : RouteSelector :=
  { self with circuits := self.circuits.erase nodeId }

def circuitIsOpen (self : RouteSelector) (nodeId : String) (now : Instant) : Bool :=
  ((self.circuits.lookup nodeId).bind (·.openUntil)).any fun openUntil =>
    now.nanos < openUntil.nanos

def eligible (self : RouteSelector) (candidates : List NodeCandidate) (now : Instant) :
    List NodeCandidate :=
  candidates.filter fun candidate => !self.circuitIsOpen candidate.id now

/-- The current candidate, if it is healthy and the best one does not
replace it. -/
def keeps (self : RouteSelector) (candidates : List NodeCandidate) (best : NodeCandidate)
    (now : Instant) : Except (Fault RoutingError) (Option NodeCandidate) :=
  match self.current with
  | none => .ok none
  | some (currentId, selectedAt) =>
      match findCandidate candidates currentId with
      | none => .ok none
      | some current =>
          if current.measurements.available && !self.circuitIsOpen currentId now then do
            let dwellElapsed := decide (self.stability.minimumDwellTime.nanos ≤
              (now.saturatingDurationSince selectedAt).nanos)
            let currentScore ← self.scoring.score current.measurements
            let bestScore ← self.scoring.score best.measurements
            let enoughImprovement := decide (Word.saturatingAdd 32 currentScore
              self.stability.switchMargin.toNat ≤ bestScore)
            return if !dwellElapsed || !enoughImprovement then some current else none
          else .ok none

/-- The time of the choice is kept while the node stays the same. -/
def settle (self : RouteSelector) (best : NodeCandidate) (now : Instant) : RouteSelector :=
  if self.current.map (·.1) ≠ some best.id then { self with current := some (best.id, now) }
  else self

def select (self : RouteSelector) (candidates : List NodeCandidate) (now : Instant) :
    Except (Fault RoutingError) NodeCandidate × RouteSelector :=
  match self.scoring.select (self.eligible candidates now) with
  | .error e => (.error e, self)
  | .ok winner =>
      match findCandidate candidates winner.id with
      | none => (.error (.error .noAvailableNodes), self)
      | some best =>
          match self.keeps candidates best now with
          | .error e => (.error e, self)
          | .ok (some current) => (.ok current, self)
          | .ok none => (.ok best, self.settle best now)

/-! ## What a call of `select` can do -/

variable {self : RouteSelector} {candidates : List NodeCandidate} {best c : NodeCandidate}
  {now : Instant} {nodeId : String}

theorem findCandidate_eq_some (h : findCandidate candidates nodeId = some c) :
    c ∈ candidates ∧ c.id = nodeId :=
  ⟨List.mem_of_find?_eq_some h, by simpa using List.find?_some h⟩

theorem mem_eligible : c ∈ self.eligible candidates now ↔
    c ∈ candidates ∧ self.circuitIsOpen c.id now = false := by
  rw [eligible, List.mem_filter, Bool.not_eq_true']

/-- The comparison of a healthy current node with the best one. -/
theorem keeps_healthy {selectedAt : Instant} (hcurrent : self.current = some (nodeId, selectedAt))
    (hfind : findCandidate candidates nodeId = some c)
    (heligible : (c.measurements.available && !self.circuitIsOpen nodeId now) = true) :
    self.keeps candidates best now =
      (self.scoring.score c.measurements >>= fun s =>
        self.scoring.score best.measurements >>= fun t =>
          .ok (if self.stability.minimumDwellTime.nanos ≤
              (now.saturatingDurationSince selectedAt).nanos ∧
            Word.saturatingAdd 32 s self.stability.switchMargin.toNat ≤ t
          then none else some c)) := by
  unfold keeps
  rw [hcurrent]
  dsimp only
  rw [hfind]
  dsimp only
  rw [if_pos heligible]
  refine bind_congr fun s => bind_congr fun t => congrArg Except.ok ?_
  by_cases hdwell : self.stability.minimumDwellTime.nanos ≤
      (now.saturatingDurationSince selectedAt).nanos <;>
    by_cases hmargin : Word.saturatingAdd 32 s self.stability.switchMargin.toNat ≤ t <;>
    simp [hdwell, hmargin]

/-- A node that is kept is the current one, and healthy. -/
theorem keeps_eq_some (h : self.keeps candidates best now = .ok (some c)) :
    ∃ selectedAt, self.current = some (c.id, selectedAt) ∧ c ∈ candidates ∧
      c.measurements.available = true ∧ self.circuitIsOpen c.id now = false := by
  cases hcurrent : self.current with
  | none =>
      rw [keeps, hcurrent] at h
      cases h
  | some entry =>
      obtain ⟨nodeId, selectedAt⟩ := entry
      cases hfind : findCandidate candidates nodeId with
      | none =>
          simp only [keeps, hcurrent, hfind] at h
          cases h
      | some current =>
          by_cases heligible :
              (current.measurements.available && !self.circuitIsOpen nodeId now) = true
          · obtain ⟨hmem, rfl⟩ := findCandidate_eq_some hfind
            rw [keeps_healthy hcurrent hfind heligible] at h
            obtain ⟨s, -, h⟩ := bind_eq_ok.mp h
            obtain ⟨t, -, h⟩ := bind_eq_ok.mp h
            obtain ⟨-, hc⟩ := Option.ite_none_left_eq_some.mp (Except.ok.inj h)
            cases hc
            rw [Bool.and_eq_true, Bool.not_eq_true'] at heligible
            exact ⟨selectedAt, rfl, hmem, heligible⟩
          · simp only [keeps, hcurrent, hfind, if_neg heligible] at h
            cases h

/-- A healthy current node is replaced only after the dwell time and by an
improvement of the margin. -/
theorem keeps_eq_none {selectedAt : Instant} (h : self.keeps candidates best now = .ok none)
    (hcurrent : self.current = some (nodeId, selectedAt))
    (hfind : findCandidate candidates nodeId = some c)
    (heligible : (c.measurements.available && !self.circuitIsOpen nodeId now) = true) :
    self.stability.minimumDwellTime.nanos ≤ (now.saturatingDurationSince selectedAt).nanos ∧
      ∃ s t, self.scoring.score c.measurements = .ok s ∧
        self.scoring.score best.measurements = .ok t ∧
        Word.saturatingAdd 32 s self.stability.switchMargin.toNat ≤ t := by
  rw [keeps_healthy hcurrent hfind heligible] at h
  obtain ⟨s, hs, h⟩ := bind_eq_ok.mp h
  obtain ⟨t, ht, h⟩ := bind_eq_ok.mp h
  have hreplaced := Except.ok.inj h
  split at hreplaced
  · next hboth => exact ⟨hboth.1, s, t, hs, ht, hboth.2⟩
  · cases hreplaced

theorem select_cases (self : RouteSelector) (candidates : List NodeCandidate) (now : Instant) :
    (∃ e, self.select candidates now = (.error e, self)) ∨
    ∃ winner best, self.scoring.select (self.eligible candidates now) = .ok winner ∧
      findCandidate candidates winner.id = some best ∧
      ((∃ current, self.keeps candidates best now = .ok (some current) ∧
          self.select candidates now = (.ok current, self)) ∨
        self.keeps candidates best now = .ok none ∧
          self.select candidates now = (.ok best, self.settle best now)) := by
  unfold select
  split
  · next e _ => exact Or.inl ⟨e, rfl⟩
  · next winner hwinner =>
    split
    · exact Or.inl ⟨_, rfl⟩
    · next best hbest =>
      split
      · next e _ => exact Or.inl ⟨e, rfl⟩
      · next current hkept =>
        exact Or.inr ⟨winner, best, hwinner, hbest, Or.inl ⟨current, hkept, rfl⟩⟩
      · next hnone => exact Or.inr ⟨winner, best, hwinner, hbest, Or.inr ⟨hnone, rfl⟩⟩

end RouteSelector

/-! ## Runs -/

inductive Call where
  | select (candidates : List NodeCandidate) (now : Instant)
  | recordFailure (nodeId : String) (now : Instant)
  | recordSuccess (nodeId : String)

namespace Call

def time? : Call → Option Instant
  | select _ now | recordFailure _ now => some now
  | recordSuccess _ => none

/-- The times of the calls never decrease. -/
def Ordered (calls : List Call) : Prop :=
  (calls.filterMap time?).Pairwise fun t t' => t.nanos ≤ t'.nanos

/-- The names in a list of candidates are distinct. -/
def Distinct : Call → Prop
  | select candidates _ => (candidates.map (·.id)).Nodup
  | recordFailure .. | recordSuccess _ => True

end Call

namespace RouteSelector

def apply (self : RouteSelector) : Call → RouteSelector
  | .select candidates now => (self.select candidates now).2
  | .recordFailure nodeId now => self.recordFailure nodeId now
  | .recordSuccess nodeId => self.recordSuccess nodeId

def run (self : RouteSelector) (calls : List Call) : RouteSelector := calls.foldl apply self

/-- The selector after some calls on a new one. -/
def after (scoring : RoutingPolicy) (stability : SelectionPolicy) (calls : List Call) :
    RouteSelector :=
  (new scoring stability).run calls

theorem after_concat (scoring : RoutingPolicy) (stability : SelectionPolicy) (calls : List Call)
    (call : Call) :
    after scoring stability (calls ++ [call]) = (after scoring stability calls).apply call := by
  rw [after, run, List.foldl_append]
  rfl

/-- Only the current entry changes when a node is chosen. -/
theorem select_frame (self : RouteSelector) (candidates : List NodeCandidate) (now : Instant) :
    (self.select candidates now).2.circuits = self.circuits ∧
      (self.select candidates now).2.scoring = self.scoring ∧
      (self.select candidates now).2.stability = self.stability := by
  rcases select_cases self candidates now with ⟨e, h⟩ | ⟨_, best, _, _, ⟨_, _, h⟩ | ⟨_, h⟩⟩
  · rw [h]
    exact ⟨rfl, rfl, rfl⟩
  · rw [h]
    exact ⟨rfl, rfl, rfl⟩
  · rw [h]
    dsimp only
    rw [settle]
    split <;> exact ⟨rfl, rfl, rfl⟩

theorem apply_scoring (self : RouteSelector) (call : Call) :
    (self.apply call).scoring = self.scoring := by
  cases call with
  | select candidates now => exact (select_frame self candidates now).2.1
  | recordFailure nodeId now => rfl
  | recordSuccess nodeId => rfl

theorem apply_stability (self : RouteSelector) (call : Call) :
    (self.apply call).stability = self.stability := by
  cases call with
  | select candidates now => exact (select_frame self candidates now).2.2
  | recordFailure nodeId now => rfl
  | recordSuccess nodeId => rfl

theorem after_scoring (scoring : RoutingPolicy) (stability : SelectionPolicy)
    (calls : List Call) : (after scoring stability calls).scoring = scoring := by
  induction calls using List.reverseRecOn with
  | nil => rfl
  | append_singleton calls call ih => rw [after_concat, apply_scoring, ih]

theorem after_stability (scoring : RoutingPolicy) (stability : SelectionPolicy)
    (calls : List Call) : (after scoring stability calls).stability = stability := by
  induction calls using List.reverseRecOn with
  | nil => rfl
  | append_singleton calls call ih => rw [after_concat, apply_stability, ih]

end RouteSelector

end CyberiaVpn.Routing
