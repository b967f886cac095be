import CyberiaVpn.Routing.Selector

/-!
# Circuits over a run

What a run has recorded about one node is the list of its failures since
its last success. `lookup_after` says that the circuit kept for the node is
a function of that list: the count, capped at 32 bits, and the end of the
cooldown after the last failure once the threshold is reached.

The end is computed by a checked addition. Where it has no representation
the source stores `None`, which reads as a closed circuit, so the node is
let through although the cooldown is still running: `excluded_iff_due_iff`
says that this is the only way in which the breaker departs from the list.

A chosen node is looked up again by its name. `handsOut_iff` says for which
lists of candidates that lookup can return a node that is not available.
-/

namespace CyberiaVpn.Routing

open Effects Data

/-! ## Recorded failures -/

/-- The times of a node's failures since its last success, after one more
call. -/
def noteCall (nodeId : String) (times : List Instant) : Call → List Instant
  | .select .. => times
  | .recordFailure other now => if other = nodeId then times ++ [now] else times
  | .recordSuccess other => if other = nodeId then [] else times

def failures (nodeId : String) (calls : List Call) : List Instant :=
  calls.foldl (noteCall nodeId) []

theorem failures_concat (nodeId : String) (calls : List Call) (call : Call) :
    failures nodeId (calls ++ [call]) = noteCall nodeId (failures nodeId calls) call := by
  rw [failures, List.foldl_append]
  rfl

namespace SelectionPolicy

/-- What is stored for a node that failed at these times. -/
def circuitOf (stability : SelectionPolicy) (times : List Instant) : Option CircuitState :=
  times.getLast?.map fun last =>
    ⟨min times.length (2 ^ 32 - 1),
      if stability.failureThreshold.toNat ≤ times.length then
        last.checkedAdd stability.circuitCooldown
      else none⟩

theorem circuitOf_concat (stability : SelectionPolicy) (times : List Instant) (now : Instant) :
    stability.circuitOf (times ++ [now]) =
      some ⟨min (times.length + 1) (2 ^ 32 - 1),
        if stability.failureThreshold.toNat ≤ times.length + 1 then
          now.checkedAdd stability.circuitCooldown
        else none⟩ := by
  rw [circuitOf, List.getLast?_concat, Option.map_some, List.length_append, List.length_singleton]

/-- Enough failures, and the cooldown after the last one is not over. -/
def Due (stability : SelectionPolicy) (times : List Instant) (now : Instant) : Prop :=
  max 1 stability.failureThreshold.toNat ≤ times.length ∧
    ∃ last, times.getLast? = some last ∧
      now.nanos < last.nanos + stability.circuitCooldown.nanos

/-- Enough failures, and no instant for the end of the cooldown. -/
def Unrepresentable (stability : SelectionPolicy) (times : List Instant) : Prop :=
  max 1 stability.failureThreshold.toNat ≤ times.length ∧
    ∃ last, times.getLast? = some last ∧
      2 ^ 63 * 10 ^ 9 ≤ last.nanos + stability.circuitCooldown.nanos

end SelectionPolicy

namespace RouteSelector

open SelectionPolicy

variable {self : RouteSelector} {nodeId : String} {times : List Instant} {now : Instant}

/-- Counting one more failure, from what is stored for the earlier ones. -/
theorem lookup_recordFailure (h : self.circuits.lookup nodeId = self.stability.circuitOf times) :
    (self.recordFailure nodeId now).circuits.lookup nodeId =
      self.stability.circuitOf (times ++ [now]) := by
  have hthreshold := self.stability.failureThreshold.toNat_lt
  rw [recordFailure, h]
  dsimp only
  rw [AList.lookup_insert, circuitOf_concat]
  cases hlast : times.getLast? with
  | none =>
      obtain rfl := List.getLast?_eq_none_iff.mp hlast
      rfl
  | some last =>
      simp only [circuitOf, hlast, Option.map_some, Option.getD_some, Word.saturatingAdd]
      refine congrArg some (congrArg₂ CircuitState.mk (by omega) ?_)
      by_cases hle : self.stability.failureThreshold.toNat ≤ times.length + 1
      · rw [if_pos hle, if_pos (by omega)]
      · rw [if_neg hle, if_neg (by omega), if_neg (by omega)]

theorem lookup_apply (h : self.circuits.lookup nodeId = self.stability.circuitOf times)
    (call : Call) :
    (self.apply call).circuits.lookup nodeId =
      self.stability.circuitOf (noteCall nodeId times call) := by
  cases call with
  | select candidates now =>
      rw [apply, (select_frame self candidates now).1, h]
      rfl
  | recordFailure other now =>
      by_cases hsame : other = nodeId
      · subst hsame
        rw [noteCall, if_pos rfl]
        exact lookup_recordFailure h
      · rw [noteCall, if_neg hsame, ← h]
        exact AList.lookup_insert_ne (Ne.symm hsame)
  | recordSuccess other =>
      by_cases hsame : other = nodeId
      · subst hsame
        rw [noteCall, if_pos rfl]
        exact AList.lookup_erase _ _
      · rw [noteCall, if_neg hsame, ← h]
        exact AList.lookup_erase_ne (Ne.symm hsame)

variable (scoring : RoutingPolicy) (stability : SelectionPolicy) (calls : List Call)

theorem lookup_after (nodeId : String) :
    (after scoring stability calls).circuits.lookup nodeId =
      stability.circuitOf (failures nodeId calls) := by
  induction calls using List.reverseRecOn with
  | nil => exact AList.lookup_empty _
  | append_singleton calls call ih =>
      have hstability := after_stability scoring stability calls
      have hcircuit : (after scoring stability calls).circuits.lookup nodeId =
          (after scoring stability calls).stability.circuitOf (failures nodeId calls) := by
        rw [hstability]
        exact ih
      rw [after_concat, failures_concat, lookup_apply hcircuit, hstability]

/-! ## The breaker -/

/-- No candidate of this name passes the filter. -/
def Excluded (self : RouteSelector) (nodeId : String) (now : Instant) : Prop :=
  ∀ candidates, ∀ c ∈ self.eligible candidates now, c.id ≠ nodeId

variable {scoring stability calls}

theorem excluded_iff : self.Excluded nodeId now ↔ self.circuitIsOpen nodeId now = true := by
  constructor
  · intro h
    by_contra hclosed
    rw [Bool.not_eq_true] at hclosed
    let c : NodeCandidate := ⟨nodeId, ⟨true, 0, 0, 0, 0⟩⟩
    exact h [c] c (mem_eligible.mpr ⟨List.mem_singleton_self c, hclosed⟩) rfl
  · rintro hopen candidates c hc rfl
    rw [(mem_eligible.mp hc).2] at hopen
    cases hopen

theorem circuitIsOpen_after :
    (after scoring stability calls).circuitIsOpen nodeId now = true ↔
      stability.failureThreshold.toNat ≤ (failures nodeId calls).length ∧
        ∃ last, (failures nodeId calls).getLast? = some last ∧
          ∃ openUntil, last.checkedAdd stability.circuitCooldown = some openUntil ∧
            now.nanos < openUntil.nanos := by
  rw [circuitIsOpen, lookup_after, circuitOf, Option.any_eq_true]
  simp only [Option.bind_eq_some_iff, Option.map_eq_some_iff]
  constructor
  · rintro ⟨openUntil, ⟨state, ⟨last, hlast, rfl⟩, hopen⟩, hnow⟩
    obtain ⟨hle, hadd⟩ := Option.ite_none_right_eq_some.mp hopen
    exact ⟨hle, last, hlast, openUntil, hadd, of_decide_eq_true hnow⟩
  · rintro ⟨hle, last, hlast, openUntil, hadd, hnow⟩
    exact ⟨openUntil, ⟨_, ⟨last, hlast, rfl⟩, (if_pos hle).trans hadd⟩, decide_eq_true hnow⟩

theorem one_le_length {last : Instant} (h : times.getLast? = some last) : 1 ≤ times.length :=
  List.length_pos_of_mem (List.mem_of_getLast? h)

/-- An open circuit is one that is due. -/
theorem due_of_open
    (h : (after scoring stability calls).circuitIsOpen nodeId now = true) :
    stability.Due (failures nodeId calls) now ∧
      ¬stability.Unrepresentable (failures nodeId calls) := by
  obtain ⟨hle, last, hlast, openUntil, hadd, hnow⟩ := circuitIsOpen_after.mp h
  rw [Instant.checkedAdd_eq_some] at hadd
  refine ⟨⟨max_le (one_le_length hlast) hle, last, hlast, hadd ▸ hnow⟩, ?_⟩
  rintro ⟨-, last', hlast', hover⟩
  cases hlast.symm.trans hlast'
  have := openUntil.upper
  omega

/-- One that is due is open if the end of its cooldown is an instant. -/
theorem open_of_due (h : stability.Due (failures nodeId calls) now)
    (hrep : ¬stability.Unrepresentable (failures nodeId calls)) :
    (after scoring stability calls).circuitIsOpen nodeId now = true := by
  obtain ⟨hle, last, hlast, hnow⟩ := h
  refine circuitIsOpen_after.mpr ⟨le_trans (Nat.le_max_right _ _) hle, last, hlast, ?_⟩
  cases hadd : last.checkedAdd stability.circuitCooldown with
  | none => exact absurd ⟨hle, last, hlast, Instant.checkedAdd_eq_none.mp hadd⟩ hrep
  | some openUntil =>
      refine ⟨openUntil, rfl, ?_⟩
      rw [Instant.checkedAdd_eq_some] at hadd
      rw [hadd]
      exact hnow

theorem due_of_unrepresentable (h : stability.Unrepresentable times) (now : Instant) :
    stability.Due times now := by
  obtain ⟨hle, last, hlast, hover⟩ := h
  exact ⟨hle, last, hlast, lt_of_lt_of_le now.upper hover⟩

/-- **The breaker.** After any run and at any time, a node is excluded
exactly when it is due, except when its last failure is so late, or the
cooldown so long, that the end of the cooldown is not an instant: then it
is due for ever and never excluded. -/
theorem excluded_iff_due_iff (scoring : RoutingPolicy) (stability : SelectionPolicy)
    (calls : List Call) (nodeId : String) (now : Instant) :
    ((after scoring stability calls).Excluded nodeId now ↔
        stability.Due (failures nodeId calls) now) ↔
      ¬stability.Unrepresentable (failures nodeId calls) := by
  rw [excluded_iff]
  constructor
  · intro hexact hover
    exact (due_of_open (hexact.mpr (due_of_unrepresentable hover now))).2 hover
  · intro hrep
    exact ⟨fun h => (due_of_open h).1, fun h => open_of_due h hrep⟩

/-- A cooldown without end: one failure is enough, and the node is never
excluded. -/
theorem excluded_iff_due_endless :
    let stability : SelectionPolicy :=
      { failureThreshold := 1, circuitCooldown := ⟨2 ^ 64 * 10 ^ 9 - 1, by decide⟩ }
    let epoch : Instant := ⟨0, by decide, by decide⟩
    let calls : List Call := [.recordFailure "a" epoch]
    Call.Ordered calls ∧ stability.Due (failures "a" calls) epoch ∧
      ¬(after {} stability calls).Excluded "a" epoch ∧
      ¬((after {} stability calls).Excluded "a" epoch ↔
        stability.Due (failures "a" calls) epoch) := by
  intro stability epoch calls
  have hdue : stability.Due (failures "a" calls) epoch :=
    ⟨by decide, epoch, rfl, by decide⟩
  have hclosed : ¬(after {} stability calls).Excluded "a" epoch := by
    rw [excluded_iff]
    decide
  exact ⟨List.pairwise_singleton _ _, hdue, hclosed, fun hexact => hclosed (hexact.mpr hdue)⟩

/-! ## Handing out a node -/

variable {candidates : List NodeCandidate} {c : NodeCandidate}

/-- Every candidate of a name that is chosen can be scored, and one of
them is available. -/
theorem winner_named {winner : NodeCandidate}
    (h : self.scoring.select (self.eligible candidates now) = .ok winner) :
    winner ∈ candidates ∧ winner.measurements.available = true ∧
      self.circuitIsOpen winner.id now = false ∧
      ∀ c ∈ candidates, c.id = winner.id → c.measurements.available = true →
        RoutingPolicy.impossible c = false := by
  obtain ⟨-, hloss, hbest⟩ := RoutingPolicy.select_eq_ok h
  obtain ⟨heligible, havailable⟩ := List.mem_filter.mp hbest.mem
  obtain ⟨hmem, hclosed⟩ := mem_eligible.mp heligible
  exact ⟨hmem, havailable, hclosed, fun c hc hid hav =>
    hloss c (mem_eligible.mpr ⟨hc, hid ▸ hclosed⟩) hav⟩

/-- The names of a list stand for available nodes wherever the list has
one that can be chosen. -/
def FirstAvailable (candidates : List NodeCandidate) : Prop :=
  ∀ nodeId first, findCandidate candidates nodeId = some first →
    first.measurements.available = false →
    (∀ c ∈ candidates, c.id = nodeId → c.measurements.available = false) ∨
      ∃ c ∈ candidates, c.id = nodeId ∧ c.measurements.available = true ∧
        10000 < c.measurements.packetLossBasisPoints

/-- Whatever the state, a node that is handed out is in the list and its
circuit is closed. Its availability depends on the list. -/
theorem select_ok (h : (self.select candidates now).1 = .ok c) :
    c ∈ candidates ∧ self.circuitIsOpen c.id now = false ∧
      (FirstAvailable candidates → c.measurements.available = true) := by
  rcases select_cases self candidates now with ⟨e, hsel⟩ | ⟨winner, best, hwinner, hfind, hrest⟩
  · rw [hsel] at h
    cases h
  rcases hrest with ⟨current, hkept, hsel⟩ | ⟨hkept, hsel⟩
  · rw [hsel] at h
    cases h
    obtain ⟨_, _, hmem, havailable, hclosed⟩ := keeps_eq_some hkept
    exact ⟨hmem, hclosed, fun _ => havailable⟩
  · rw [hsel] at h
    cases h
    obtain ⟨hwmem, hwavailable, hclosed, hloss⟩ := winner_named hwinner
    obtain ⟨hmem, hid⟩ := findCandidate_eq_some hfind
    refine ⟨hmem, hid ▸ hclosed, fun hfirst => ?_⟩
    by_contra hdown
    rcases hfirst winner.id c hfind (Bool.not_eq_true _ ▸ hdown) with hnone | ⟨d, hd, hsame, hav, hbad⟩
    · rw [hnone winner hwmem rfl] at hwavailable
      cases hwavailable
    · have hpossible := hloss d hd hsame hav
      rw [RoutingPolicy.impossible_eq_true.mpr hbad] at hpossible
      cases hpossible

/-! ## The run that singles out a name -/

/-- One failure opens a circuit for a nanosecond. -/
def touchy : SelectionPolicy :=
  { failureThreshold := 1, circuitCooldown := .ofNanos 1 }

/-- Every other node of the list has failed once. -/
def singleOut (nodeId : String) (candidates : List NodeCandidate) : List Call :=
  (candidates.filter (·.id ≠ nodeId)).map fun c => .recordFailure c.id .epoch

theorem failures_recordFailure (nodeId : String) (cs : List NodeCandidate) :
    failures nodeId (cs.map fun c => .recordFailure c.id .epoch) =
      List.replicate ((cs.map (·.id)).count nodeId) .epoch := by
  induction cs using List.reverseRecOn with
  | nil => rfl
  | append_singleton cs c ih =>
      rw [List.map_append, List.map_singleton, failures_concat, ih, noteCall, List.map_append,
        List.map_singleton, List.count_append, List.count_singleton]
      by_cases hid : c.id = nodeId
      · rw [if_pos hid, if_pos (beq_iff_eq.mpr hid), List.replicate_succ']
      · rw [if_neg hid, if_neg (fun h => hid (beq_iff_eq.mp h)), Nat.add_zero]

theorem current_after_recordFailure (cs : List NodeCandidate) :
    (after {} touchy (cs.map fun c => .recordFailure c.id .epoch)).current = none := by
  induction cs using List.reverseRecOn with
  | nil => rfl
  | append_singleton cs c ih =>
      rw [List.map_append, List.map_singleton, after_concat]
      exact ih

theorem open_iff_mem {nodeId : String} {cs : List NodeCandidate} :
    (after {} touchy (cs.map fun c => .recordFailure c.id .epoch)).circuitIsOpen nodeId .epoch = true ↔
      nodeId ∈ cs.map (·.id) := by
  rw [circuitIsOpen_after, failures_recordFailure, List.length_replicate, ← List.count_pos_iff]
  refine ⟨fun h => h.1, fun hpos => ⟨hpos, .epoch, ?_, ⟨1, by decide, by decide⟩, ?_, by decide⟩⟩
  · rw [List.getLast?_replicate, if_neg (Nat.ne_of_gt hpos)]
  · exact Instant.checkedAdd_eq_some.mpr rfl

/-- After it, exactly the candidates of this name are let through. -/
theorem eligible_singleOut (nodeId : String) (candidates : List NodeCandidate) :
    (after {} touchy (singleOut nodeId candidates)).eligible candidates .epoch =
      candidates.filter (·.id = nodeId) := by
  refine List.filter_congr fun c hc => ?_
  have hopen : (after {} touchy (singleOut nodeId candidates)).circuitIsOpen c.id .epoch = true ↔
      c.id ≠ nodeId := by
    rw [singleOut, open_iff_mem, List.mem_map]
    constructor
    · rintro ⟨d, hd, hid⟩
      rw [← hid]
      exact of_decide_eq_true (List.mem_filter.mp hd).2
    · exact fun hne => ⟨c, List.mem_filter.mpr ⟨hc, decide_eq_true hne⟩, rfl⟩
  by_cases hid : c.id = nodeId
  · rw [decide_eq_true hid, Bool.not_eq_true', Bool.eq_false_iff, ne_eq, hopen]
    exact not_not.mpr hid
  · rw [decide_eq_false hid, hopen.mpr hid, Bool.not_true]

/-- A name whose first candidate is down and that can be chosen is handed
out as that candidate. -/
theorem select_singleOut {nodeId : String} {first : NodeCandidate}
    (hfind : findCandidate candidates nodeId = some first)
    (hsome : ∃ c ∈ candidates, c.id = nodeId ∧ c.measurements.available = true)
    (hloss : ∀ c ∈ candidates, c.id = nodeId → c.measurements.available = true →
      RoutingPolicy.impossible c = false) :
    ((after {} touchy (singleOut nodeId candidates)).select candidates .epoch).1 = .ok first := by
  have hnamed : ∀ c ∈ candidates.filter (·.id = nodeId), c ∈ candidates ∧ c.id = nodeId :=
    fun c hc => ⟨(List.mem_filter.mp hc).1, of_decide_eq_true (List.mem_filter.mp hc).2⟩
  obtain ⟨c, hc, hid, hav⟩ := hsome
  obtain ⟨winner, hwinner, hbest⟩ := @RoutingPolicy.select_best {}
    (candidates.filter (·.id = nodeId)) (by decide)
    ⟨c, List.mem_filter.mpr ⟨hc, decide_eq_true hid⟩, hav⟩
    (fun d hd => hloss d (hnamed d hd).1 (hnamed d hd).2)
  have hid : winner.id = nodeId := (hnamed winner (List.mem_filter.mp hbest.mem).1).2
  rw [select, eligible_singleOut, after_scoring, hwinner]
  dsimp only
  rw [hid, hfind]
  dsimp only
  rw [keeps, singleOut, current_after_recordFailure]

/-- **Handing out a node.** A list is safe for every policy, every run and
every time exactly when no name in it has an unavailable first candidate
and, further on, available ones that can all be scored. -/
theorem handsOut_iff (candidates : List NodeCandidate) :
    (∀ scoring stability calls now c,
      ((after scoring stability calls).select candidates now).1 = .ok c →
      c ∈ candidates ∧ c.measurements.available = true ∧
        (after scoring stability calls).circuitIsOpen c.id now = false) ↔
      FirstAvailable candidates := by
  constructor
  · intro hsafe nodeId first hfind hdown
    by_contra hbad
    rw [not_or] at hbad
    obtain ⟨hsome, hloss⟩ := hbad
    push Not at hsome
    obtain ⟨c, hc, hid, hav⟩ := hsome
    have hout := select_singleOut hfind ⟨c, hc, hid, by simpa using hav⟩ fun d hd hid hav => by
      rw [← Bool.not_eq_true, RoutingPolicy.impossible_eq_true]
      exact fun hover => hloss ⟨d, hd, hid, hav, hover⟩
    rw [(hsafe _ _ _ _ _ hout).2.1] at hdown
    cases hdown
  · intro hfirst scoring stability calls now c h
    obtain ⟨hmem, hclosed, havailable⟩ := select_ok h
    exact ⟨hmem, havailable hfirst, hclosed⟩

/-- One name twice, the first of them down: a new selector hands that one
out. -/
theorem handsOut_repeated_name :
    let down : NodeCandidate := ⟨"a", ⟨false, 0, 0, 0, 0⟩⟩
    let up : NodeCandidate := ⟨"a", ⟨true, 20, 2, 0, 100⟩⟩
    ((after {} {} []).select [down, up] .epoch).1 = .ok down ∧
      ¬∀ scoring stability calls now c,
        ((after scoring stability calls).select [down, up] now).1 = .ok c →
        c ∈ [down, up] ∧ c.measurements.available = true ∧
          (after scoring stability calls).circuitIsOpen c.id now = false := by
  intro down up
  have hout : ((after {} {} []).select [down, up] .epoch).1 = .ok down := by decide +kernel
  refine ⟨hout, fun hsafe => ?_⟩
  have havailable := (hsafe _ _ _ _ _ hout).2.1
  cases havailable

end RouteSelector

end CyberiaVpn.Routing
