import Mathlib.Data.Prod.Lex
import Mathlib.Data.String.Basic
import Mathlib.Order.Compare
import CyberiaVpn.Data.Best
import CyberiaVpn.Routing.Score

/-!
# Choosing a node

`RoutingPolicy::select` of `core/routing/src/lib.rs`. A loop over the
available candidates keeps the best one so far, by score and then by the
smaller name; the first candidate that cannot be scored ends it with that
candidate's error.

Which error comes first does not matter, since a policy has one error for
all of them: its own if it is invalid, otherwise the one about the loss.
`select_eq` says so, and turns the fallible loop into the running best of
`Data.Best` under `rank`.
-/

namespace CyberiaVpn.Routing

open Effects Data

structure NodeCandidate where
  id : String
  measurements : Measurements
  deriving DecidableEq

def compareRank (left right : NodeCandidate × Nat) : Ordering :=
  (compare left.2 right.2).then (compare right.1.id left.1.id)

/-- An error of the policy or of the measurements. -/
def RoutingError.IsValidation : RoutingError → Prop
  | .invalidPolicy _ | .invalidMeasurements _ => True
  | .noAvailableNodes => False

namespace RoutingPolicy

/-- The body of the loop over the candidates after the first. -/
def rankStep (policy : RoutingPolicy) (best : NodeCandidate × Nat) (node : NodeCandidate) :
    Except (Fault RoutingError) (NodeCandidate × Nat) := do
  let score ← policy.score node.measurements
  return if compareRank (node, score) best = .gt then (node, score) else best

def select (policy : RoutingPolicy) (candidates : List NodeCandidate) :
    Except (Fault RoutingError) NodeCandidate := do
  match candidates.filter (·.measurements.available) with
  | [] => throw (.error .noAvailableNodes)
  | first :: rest =>
      let score ← policy.score first.measurements
      let best ← rest.foldlM policy.rankStep (first, score)
      return best.1

/-! ## The loop -/

/-- Higher scores first, then smaller names. -/
def rank (policy : RoutingPolicy) (c : NodeCandidate) : ℕ ×ₗ Stringᵒᵈ :=
  toLex (policy.quality c.measurements, OrderDual.toDual c.id)

variable {policy : RoutingPolicy}

theorem rank_lt {c d : NodeCandidate} : policy.rank c < policy.rank d ↔
    policy.quality c.measurements < policy.quality d.measurements ∨
      policy.quality c.measurements = policy.quality d.measurements ∧ d.id < c.id :=
  Prod.Lex.toLex_lt_toLex

theorem rank_le {c d : NodeCandidate} : policy.rank c ≤ policy.rank d ↔
    policy.quality c.measurements < policy.quality d.measurements ∨
      policy.quality c.measurements = policy.quality d.measurements ∧ d.id ≤ c.id :=
  Prod.Lex.toLex_le_toLex

theorem id_of_rank_eq {c d : NodeCandidate} (h : policy.rank c = policy.rank d) : c.id = d.id :=
  congrArg (fun r : ℕ ×ₗ Stringᵒᵈ => OrderDual.ofDual (ofLex r).2) h

theorem compareRank_eq_gt {c d : NodeCandidate} :
    compareRank (c, policy.quality c.measurements) (d, policy.quality d.measurements) = .gt ↔
      policy.rank d < policy.rank c := by
  rw [compareRank, Ordering.then_eq_gt, compare_gt_iff_gt, compare_eq_iff_eq, compare_gt_iff_gt,
    rank_lt, eq_comm]

/-- A loss nothing can have. -/
def impossible (c : NodeCandidate) : Bool := 10000 < c.measurements.packetLossBasisPoints

def lossError : Fault RoutingError :=
  .error (.invalidMeasurements "packet loss exceeds 100 percent")

theorem score_candidate {c : NodeCandidate} (hvalid : policy.validate = .ok ())
    (havailable : c.measurements.available = true) :
    policy.score c.measurements =
      if impossible c then .error lossError else .ok (policy.quality c.measurements) := by
  rw [score_eq, hvalid, ok_bind, if_pos havailable, reject]
  by_cases hloss : 10000 < c.measurements.packetLossBasisPoints
  · rw [if_pos hloss, impossible, if_pos (decide_eq_true hloss)]
    rfl
  · rw [if_neg hloss, impossible, if_neg (by simpa using hloss)]
    rfl

/-- The loop from a best one so far: the induction is on the candidates
still to come, and each of them may end it with the same error. -/
theorem foldlM_rankStep (hvalid : policy.validate = .ok ()) :
    ∀ (rest : List NodeCandidate) (best : NodeCandidate),
      (∀ c ∈ rest, c.measurements.available = true) →
      rest.foldlM policy.rankStep (best, policy.quality best.measurements) =
        if rest.any impossible then .error lossError
        else
          let last := runningBest policy.rank best rest
          .ok (last, policy.quality last.measurements)
  | [], best, _ => rfl
  | c :: rest, best, havailable => by
      rw [List.foldlM_cons, rankStep, score_candidate hvalid (havailable c (List.mem_cons_self ..)),
        List.any_cons]
      cases hloss : impossible c with
      | true => rfl
      | false =>
          have hrest : ∀ d ∈ rest, d.measurements.available = true := fun d hd =>
            havailable d (List.mem_cons_of_mem _ hd)
          rw [if_neg Bool.false_ne_true, ok_bind, Bool.false_or]
          change rest.foldlM policy.rankStep (if compareRank _ _ = .gt then _ else _) = _
          simp only [compareRank_eq_gt]
          by_cases hlt : policy.rank best < policy.rank c
          · rw [if_pos hlt, foldlM_rankStep hvalid rest c hrest]
            simp only [runningBest, List.foldl_cons, if_pos hlt]
          · rw [if_neg hlt, foldlM_rankStep hvalid rest best hrest]
            simp only [runningBest, List.foldl_cons, if_neg hlt]

theorem available_of_mem_filter {candidates : List NodeCandidate} {c : NodeCandidate}
    (h : c ∈ candidates.filter (·.measurements.available)) : c.measurements.available = true :=
  (List.mem_filter.mp h).2

theorem select_eq (policy : RoutingPolicy) (candidates : List NodeCandidate) :
    policy.select candidates =
      match candidates.filter (·.measurements.available) with
      | [] => .error (.error .noAvailableNodes)
      | first :: rest =>
          policy.validate >>= fun _ =>
            if (first :: rest).any impossible then .error lossError
            else .ok (runningBest policy.rank first rest) := by
  rw [select]
  cases hfilter : candidates.filter (·.measurements.available) with
  | nil => rfl
  | cons first rest =>
      have havailable : ∀ c ∈ first :: rest, c.measurements.available = true := fun c hc =>
        available_of_mem_filter (hfilter ▸ hc)
      dsimp only
      cases hvalidate : policy.validate with
      | error e => rw [score_eq, hvalidate, error_bind, error_bind, error_bind]
      | ok _ =>
          rw [ok_bind, score_candidate hvalidate (havailable first (List.mem_cons_self ..)),
            List.any_cons]
          cases hloss : impossible first with
          | true => rfl
          | false =>
              rw [if_neg Bool.false_ne_true, ok_bind, Bool.false_or, foldlM_rankStep hvalidate rest
                first (fun c hc => havailable c (List.mem_cons_of_mem _ hc))]
              cases rest.any impossible <;> rfl

/-! ## The four outcomes -/

section Outcomes

variable {candidates : List NodeCandidate}

theorem select_of_filter_eq {others : List NodeCandidate}
    (h : others.filter (·.measurements.available) =
      candidates.filter (·.measurements.available)) :
    policy.select others = policy.select candidates := by
  rw [select_eq, select_eq, h]

theorem filter_eq_nil (h : ∀ c ∈ candidates, c.measurements.available = false) :
    candidates.filter (·.measurements.available) = [] :=
  List.filter_eq_nil_iff.mpr fun c hc => by simp [h c hc]

theorem select_none (h : ∀ c ∈ candidates, c.measurements.available = false) :
    policy.select candidates = .error (.error .noAvailableNodes) := by
  rw [select_eq, filter_eq_nil h]

/-- Some candidate is available, and the list starts with one. -/
theorem filter_eq_cons (h : ∃ c ∈ candidates, c.measurements.available = true) :
    ∃ first rest, candidates.filter (·.measurements.available) = first :: rest := by
  obtain ⟨c, hc, havailable⟩ := h
  exact List.exists_cons_of_ne_nil
    (List.ne_nil_of_mem (List.mem_filter.mpr ⟨hc, havailable⟩))

theorem select_invalid {e : Fault RoutingError}
    (h : ∃ c ∈ candidates, c.measurements.available = true) (hvalidate : policy.validate = .error e) :
    policy.select candidates = .error e := by
  obtain ⟨first, rest, hfilter⟩ := filter_eq_cons h
  rw [select_eq, hfilter]
  dsimp only
  rw [hvalidate, error_bind]

theorem select_impossible (hvalidate : policy.validate = .ok ())
    (h : ∃ c ∈ candidates, c.measurements.available = true ∧ impossible c = true) :
    policy.select candidates = .error lossError := by
  obtain ⟨c, hc, havailable, hloss⟩ := h
  obtain ⟨first, rest, hfilter⟩ := filter_eq_cons ⟨c, hc, havailable⟩
  have hany : (first :: rest).any impossible = true := by
    rw [← hfilter]
    exact List.any_eq_true.mpr ⟨c, List.mem_filter.mpr ⟨hc, havailable⟩, hloss⟩
  rw [select_eq, hfilter]
  dsimp only
  rw [hvalidate, ok_bind, if_pos hany]

theorem select_best (hvalidate : policy.validate = .ok ())
    (h : ∃ c ∈ candidates, c.measurements.available = true)
    (hloss : ∀ c ∈ candidates, c.measurements.available = true → impossible c = false) :
    ∃ c, policy.select candidates = .ok c ∧
      IsBest policy.rank (candidates.filter (·.measurements.available)) c := by
  obtain ⟨first, rest, hfilter⟩ := filter_eq_cons h
  have hany : ¬(first :: rest).any impossible = true := by
    rw [← hfilter, List.any_eq_true]
    rintro ⟨c, hc, hbad⟩
    rw [hloss c (List.mem_filter.mp hc).1 (available_of_mem_filter hc)] at hbad
    cases hbad
  rw [select_eq, hfilter]
  dsimp only
  rw [hvalidate, ok_bind, if_neg hany]
  exact ⟨_, rfl, isBest_runningBest first rest⟩

/-- Which of the four it is. -/
theorem select_cases (policy : RoutingPolicy) (candidates : List NodeCandidate) :
    (∀ c ∈ candidates, c.measurements.available = false) ∨
    (∃ c ∈ candidates, c.measurements.available = true) ∧
      ((∃ e, policy.validate = .error e) ∨
        policy.validate = .ok () ∧
          ((∃ c ∈ candidates, c.measurements.available = true ∧ impossible c = true) ∨
            ∀ c ∈ candidates, c.measurements.available = true → impossible c = false)) := by
  by_cases hsome : ∃ c ∈ candidates, c.measurements.available = true
  · refine Or.inr ⟨hsome, ?_⟩
    cases hvalidate : policy.validate with
    | error e => exact Or.inl ⟨e, rfl⟩
    | ok _ =>
        refine Or.inr ⟨rfl, ?_⟩
        by_cases hloss : ∃ c ∈ candidates, c.measurements.available = true ∧ impossible c = true
        · exact Or.inl hloss
        · exact Or.inr fun c hc havailable =>
            Bool.eq_false_iff.mpr fun hbad => hloss ⟨c, hc, havailable, hbad⟩
  · exact Or.inl fun c hc => Bool.eq_false_iff.mpr fun havailable => hsome ⟨c, hc, havailable⟩

/-- A node comes back only from a valid policy and possible losses. -/
theorem select_eq_ok {c : NodeCandidate} (h : policy.select candidates = .ok c) :
    policy.validate = .ok () ∧
      (∀ d ∈ candidates, d.measurements.available = true → impossible d = false) ∧
      IsBest policy.rank (candidates.filter (·.measurements.available)) c := by
  rcases select_cases policy candidates with hnone | ⟨hsome, hrest⟩
  · rw [select_none hnone] at h
    cases h
  rcases hrest with ⟨e, hinvalid⟩ | ⟨hvalidate, hbad | hloss⟩
  · rw [select_invalid hsome hinvalid] at h
    cases h
  · rw [select_impossible hvalidate hbad] at h
    cases h
  · obtain ⟨d, hd, hbest⟩ := select_best hvalidate hsome hloss
    rw [hd] at h
    cases h
    exact ⟨hvalidate, hloss, hbest⟩

/-- With distinct names, the available candidates are told apart by rank. -/
theorem eq_of_rank_eq (hids : (candidates.map (·.id)).Nodup) :
    ∀ c ∈ candidates.filter (·.measurements.available),
      ∀ d ∈ candidates.filter (·.measurements.available), policy.rank c = policy.rank d → c = d :=
  fun _ hc _ hd h => List.inj_on_of_nodup_map hids (List.mem_filter.mp hc).1
    (List.mem_filter.mp hd).1 (id_of_rank_eq h)

/-- A list is judged by its available candidates alone, in any order. -/
theorem select_congr {others : List NodeCandidate} (hids : (candidates.map (·.id)).Nodup)
    (hperm : (others.filter (·.measurements.available)).Perm
      (candidates.filter (·.measurements.available))) :
    policy.select others = policy.select candidates := by
  have hmem : ∀ c, (c ∈ others ∧ c.measurements.available = true) ↔
      (c ∈ candidates ∧ c.measurements.available = true) := fun c =>
    List.mem_filter.symm.trans (hperm.mem_iff.trans List.mem_filter)
  rcases select_cases policy candidates with hnone | ⟨⟨c, hc, hav⟩, hsome⟩
  · rw [select_none hnone, select_none fun d hd => Bool.eq_false_iff.mpr fun hav => ?_]
    obtain ⟨hd, hav⟩ := (hmem d).mp ⟨hd, hav⟩
    rw [hnone d hd] at hav
    cases hav
  have hother : ∃ d ∈ others, d.measurements.available = true := ⟨c, (hmem c).mpr ⟨hc, hav⟩⟩
  rcases hsome with ⟨e, hinvalid⟩ | ⟨hvalidate, ⟨d, hd, havd, hbad⟩ | hloss⟩
  · rw [select_invalid ⟨c, hc, hav⟩ hinvalid, select_invalid hother hinvalid]
  · obtain ⟨hd', _⟩ := (hmem d).mpr ⟨hd, havd⟩
    rw [select_impossible hvalidate ⟨d, hd, havd, hbad⟩,
      select_impossible hvalidate ⟨d, hd', havd, hbad⟩]
  · obtain ⟨x, hx, hbest⟩ := select_best hvalidate ⟨c, hc, hav⟩ hloss
    obtain ⟨y, hy, hbest'⟩ := select_best hvalidate hother fun d hd havd =>
      hloss d ((hmem d).mp ⟨hd, havd⟩).1 havd
    rw [hx, hy, (hbest'.perm hperm).unique hbest (eq_of_rank_eq hids)]

end Outcomes

/-! ## The result in terms of scores -/

/-- An available candidate that no available one beats, by its score or,
with equal scores, by a smaller name. -/
structure Winner (policy : RoutingPolicy) (candidates : List NodeCandidate)
    (c : NodeCandidate) : Prop where
  mem : c ∈ candidates
  available : c.measurements.available = true
  beats : ∀ d ∈ candidates, d.measurements.available = true →
    ∃ s t, policy.score c.measurements = .ok s ∧ policy.score d.measurements = .ok t ∧
      (t < s ∨ t = s ∧ c.id ≤ d.id)

section Winner

variable {candidates : List NodeCandidate} {c : NodeCandidate}

theorem score_possible (hvalidate : policy.validate = .ok ())
    (havailable : c.measurements.available = true) (hloss : impossible c = false) :
    policy.score c.measurements = .ok (policy.quality c.measurements) := by
  rw [score_candidate hvalidate havailable, hloss, if_neg Bool.false_ne_true]

theorem winner_iff (hvalidate : policy.validate = .ok ())
    (hloss : ∀ c ∈ candidates, c.measurements.available = true → impossible c = false) :
    Winner policy candidates c ↔
      IsBest policy.rank (candidates.filter (·.measurements.available)) c := by
  have hscore : ∀ d ∈ candidates, d.measurements.available = true →
      policy.score d.measurements = .ok (policy.quality d.measurements) := fun d hd hav =>
    score_possible hvalidate hav (hloss d hd hav)
  constructor
  · rintro ⟨hmem, hav, hbeats⟩
    refine ⟨List.mem_filter.mpr ⟨hmem, hav⟩, fun d hd => ?_⟩
    obtain ⟨hd, hav'⟩ := List.mem_filter.mp hd
    obtain ⟨s, t, hs, ht, hbeat⟩ := hbeats d hd hav'
    cases (hscore c hmem hav).symm.trans hs
    cases (hscore d hd hav').symm.trans ht
    exact rank_le.mpr hbeat
  · rintro ⟨hmem, hle⟩
    obtain ⟨hmem, hav⟩ := List.mem_filter.mp hmem
    exact ⟨hmem, hav, fun d hd hav' => ⟨_, _, hscore c hmem hav, hscore d hd hav',
      rank_le.mp (hle d (List.mem_filter.mpr ⟨hd, hav'⟩))⟩⟩

end Winner

theorem impossible_eq_true {c : NodeCandidate} :
    impossible c = true ↔ 10000 < c.measurements.packetLossBasisPoints := decide_eq_true_iff

/-- A policy that does not validate has one of its two errors. -/
theorem validate_error {e : Fault RoutingError} (h : policy.validate = .error e) :
    ∃ r, e = .error r ∧ r.IsValidation := by
  rw [validate_eq, reject, reject] at h
  split at h
  · cases h
    exact ⟨_, rfl, trivial⟩
  · rw [ok_bind] at h
    split at h
    · cases h
      exact ⟨_, rfl, trivial⟩
    · cases h

section Results

variable {candidates : List NodeCandidate}

theorem select_noAvailableNodes_iff :
    policy.select candidates = .error (.error .noAvailableNodes) ↔
      ∀ c ∈ candidates, c.measurements.available = false := by
  refine ⟨fun herror => ?_, select_none⟩
  rcases select_cases policy candidates with hnone | ⟨hsome, hrest⟩
  · exact hnone
  exfalso
  rcases hrest with ⟨e, hinvalid⟩ | ⟨hvalidate, hbad | hloss⟩
  · obtain ⟨r, rfl, hr⟩ := validate_error hinvalid
    rw [select_invalid hsome hinvalid] at herror
    cases herror
    exact hr
  · rw [select_impossible hvalidate hbad] at herror
    cases herror
  · obtain ⟨c, hc, -⟩ := select_best hvalidate hsome hloss
    rw [hc] at herror
    cases herror

theorem select_validation_iff :
    (∃ e, policy.select candidates = .error (.error e) ∧ e.IsValidation) ↔
      (∃ c ∈ candidates, c.measurements.available = true) ∧
        (policy.validate ≠ .ok () ∨ ∃ c ∈ candidates, c.measurements.available = true ∧
          10000 < c.measurements.packetLossBasisPoints) := by
  constructor
  · rintro ⟨e, herror, he⟩
    rcases select_cases policy candidates with hnone | ⟨hsome, hrest⟩
    · rw [select_none hnone] at herror
      cases herror
      exact he.elim
    refine ⟨hsome, ?_⟩
    rcases hrest with ⟨e, hinvalid⟩ | ⟨hvalidate, ⟨c, hc, hav, hbad⟩ | hloss⟩
    · exact Or.inl fun hok => by
        rw [hinvalid] at hok
        cases hok
    · exact Or.inr ⟨c, hc, hav, impossible_eq_true.mp hbad⟩
    · obtain ⟨c, hc, -⟩ := select_best hvalidate hsome hloss
      rw [hc] at herror
      cases herror
  · rintro ⟨hsome, hinvalid⟩
    cases hvalidate : policy.validate with
    | error e =>
        obtain ⟨r, rfl, hr⟩ := validate_error hvalidate
        exact ⟨r, select_invalid hsome hvalidate, hr⟩
    | ok _ =>
        obtain ⟨c, hc, hav, hbad⟩ := hinvalid.resolve_left fun h => h hvalidate
        exact ⟨_, select_impossible hvalidate ⟨c, hc, hav, impossible_eq_true.mpr hbad⟩, trivial⟩

/-- What is selected is the one winner. -/
theorem select_winner (hids : (candidates.map (·.id)).Nodup)
    (hsome : ∃ c ∈ candidates, c.measurements.available = true)
    (hvalidate : policy.validate = .ok ())
    (hloss : ∀ c ∈ candidates, c.measurements.available = true →
      ¬10000 < c.measurements.packetLossBasisPoints) :
    ∃ c, policy.select candidates = .ok c ∧ Winner policy candidates c ∧
      ∀ d, Winner policy candidates d → d = c := by
  have hpossible : ∀ c ∈ candidates, c.measurements.available = true → impossible c = false :=
    fun c hc hav => Bool.eq_false_iff.mpr fun hbad => hloss c hc hav (impossible_eq_true.mp hbad)
  obtain ⟨c, hc, hbest⟩ := select_best hvalidate hsome hpossible
  refine ⟨c, hc, (winner_iff hvalidate hpossible).mpr hbest, fun d hd => ?_⟩
  exact ((winner_iff hvalidate hpossible).mp hd).unique hbest (eq_of_rank_eq hids)

end Results

/-- **Selection is an argmax, whatever the order.** With distinct names, a
permutation of the list and a change of its unavailable members leave the
result as it is. It is `NoAvailableNodes` for a list without available
candidates, a validation error for one with an available candidate if the
policy is invalid or an available candidate has an impossible loss, and
otherwise the one winner. -/
theorem select_argmax (policy : RoutingPolicy) (candidates : List NodeCandidate)
    (hids : (candidates.map (·.id)).Nodup) :
    (∀ permuted, List.Perm permuted candidates →
      policy.select permuted = policy.select candidates) ∧
    (policy.select candidates = .error (.error .noAvailableNodes) ↔
      ∀ c ∈ candidates, c.measurements.available = false) ∧
    ((∃ e, policy.select candidates = .error (.error e) ∧ e.IsValidation) ↔
      (∃ c ∈ candidates, c.measurements.available = true) ∧
        (policy.validate ≠ .ok () ∨ ∃ c ∈ candidates, c.measurements.available = true ∧
          10000 < c.measurements.packetLossBasisPoints)) ∧
    ((∃ c ∈ candidates, c.measurements.available = true) → policy.validate = .ok () →
      (∀ c ∈ candidates, c.measurements.available = true →
        ¬10000 < c.measurements.packetLossBasisPoints) →
      ∃ c, policy.select candidates = .ok c ∧ Winner policy candidates c ∧
        ∀ d, Winner policy candidates d → d = c) ∧
    ∀ others : List NodeCandidate, others.filter (·.measurements.available) =
        candidates.filter (·.measurements.available) →
      policy.select others = policy.select candidates := by
  refine ⟨fun permuted hperm => select_congr hids (hperm.filter _), select_noAvailableNodes_iff,
    select_validation_iff, fun hsome hvalidate hloss => select_winner hids hsome hvalidate hloss,
    fun others h => select_of_filter_eq h⟩

/-- Two nodes of one score and a faster one that is down. -/
theorem select_argmax_tie :
    let b : NodeCandidate := ⟨"b", ⟨true, 20, 2, 0, 100⟩⟩
    let a : NodeCandidate := ⟨"a", ⟨true, 20, 2, 0, 100⟩⟩
    let down : NodeCandidate := ⟨"0", ⟨false, 1, 1, 0, 100⟩⟩
    ∃ c, RoutingPolicy.select {} [down, b, a] = .ok c ∧ Winner {} [down, b, a] c ∧
      ∀ d, Winner {} [down, b, a] d → d = c :=
  (select_argmax {} _ (by decide)).2.2.2.1 ⟨⟨"b", ⟨true, 20, 2, 0, 100⟩⟩, by simp, rfl⟩
    (by decide) (by simp)

end RoutingPolicy

end CyberiaVpn.Routing
