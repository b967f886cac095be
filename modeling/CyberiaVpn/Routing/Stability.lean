import CyberiaVpn.Routing.Selector

/-!
# Keeping a route

Over a run with times that never decrease, and for a list with distinct
names, the lookup by name finds the winner itself, and the time stored for
the current node is the time of an earlier call. So the dwell time is a
real difference of times, and since scores stay far below the limit of 32
bits, the saturating comparison with the margin is an exact one.
-/

namespace CyberiaVpn.Routing

open Effects Data

namespace RouteSelector

variable {self : RouteSelector} {candidates : List NodeCandidate} {b c : NodeCandidate}
  {now selectedAt : Instant} {nodeId : String}

theorem findCandidate_of_nodup (hids : (candidates.map (·.id)).Nodup) (hc : c ∈ candidates) :
    findCandidate candidates c.id = some c := by
  cases hfind : findCandidate candidates c.id with
  | none => exact absurd (decide_eq_true rfl) (List.find?_eq_none.mp hfind c hc)
  | some d =>
      obtain ⟨hd, hid⟩ := findCandidate_eq_some hfind
      rw [List.inj_on_of_nodup_map hids hd hc hid]

/-! ## The current entry -/

theorem settle_current (self : RouteSelector) (best : NodeCandidate) (now : Instant) :
    (self.settle best now).current = self.current ∧ self.current.map (·.1) = some best.id ∨
      (self.settle best now).current = some (best.id, now) ∧
        self.current.map (·.1) ≠ some best.id := by
  rw [settle]
  by_cases hsame : self.current.map (·.1) = some best.id
  · rw [if_neg (not_not.mpr hsame)]
    exact Or.inl ⟨rfl, hsame⟩
  · rw [if_pos hsame]
    exact Or.inr ⟨rfl, hsame⟩

/-- A call leaves the entry alone, or chooses another node and notes the
time. -/
theorem apply_current (self : RouteSelector) (call : Call) :
    (self.apply call).current = self.current ∨
      ∃ nodeId now, call.time? = some now ∧ (self.apply call).current = some (nodeId, now) ∧
        self.current.map (·.1) ≠ some nodeId := by
  cases call with
  | select candidates now =>
      rw [apply]
      rcases select_cases self candidates now with ⟨_, h⟩ | ⟨_, best, _, _, ⟨_, _, h⟩ | ⟨_, h⟩⟩
      · rw [h]
        exact Or.inl rfl
      · rw [h]
        exact Or.inl rfl
      · rw [h]
        rcases settle_current self best now with ⟨hkept, -⟩ | ⟨hset, hother⟩
        · exact Or.inl hkept
        · exact Or.inr ⟨best.id, now, rfl, hset, hother⟩
  | recordFailure nodeId now => exact Or.inl rfl
  | recordSuccess nodeId => exact Or.inl rfl

/-- The stored time is the time of some call. -/
theorem time_mem_of_current (scoring : RoutingPolicy) (stability : SelectionPolicy)
    (calls : List Call) (h : (after scoring stability calls).current = some (nodeId, selectedAt)) :
    selectedAt ∈ calls.filterMap Call.time? := by
  induction calls using List.reverseRecOn with
  | nil => cases h
  | append_singleton calls call ih =>
      rw [List.filterMap_append, List.mem_append]
      rw [after_concat] at h
      rcases apply_current (after scoring stability calls) call with hkept | ⟨_, now, htime, hset, _⟩
      · rw [hkept] at h
        exact Or.inl (ih h)
      · rw [hset] at h
        cases h
        exact Or.inr (List.mem_filterMap.mpr ⟨call, List.mem_singleton_self call, htime⟩)

theorem selectedAt_le {scoring : RoutingPolicy} {stability : SelectionPolicy} {calls : List Call}
    (hordered : Call.Ordered (calls ++ [.select candidates now]))
    (h : (after scoring stability calls).current = some (nodeId, selectedAt)) :
    selectedAt.nanos ≤ now.nanos := by
  rw [Call.Ordered, List.filterMap_append, List.pairwise_append] at hordered
  exact hordered.2.2 selectedAt (time_mem_of_current scoring stability calls h) now
    (List.mem_singleton_self now)

/-- After a choice the entry names the chosen node. -/
theorem current_of_select (h : (self.select candidates now).1 = .ok c) :
    ∃ t, (self.select candidates now).2.current = some (c.id, t) := by
  rcases select_cases self candidates now with ⟨_, hsel⟩ | ⟨_, best, _, _, hrest⟩
  · rw [hsel] at h
    cases h
  rcases hrest with ⟨current, hkept, hsel⟩ | ⟨_, hsel⟩
  · rw [hsel] at h ⊢
    cases h
    obtain ⟨t, hcurrent, _⟩ := keeps_eq_some hkept
    exact ⟨t, hcurrent⟩
  · rw [hsel] at h ⊢
    cases h
    dsimp only
    rcases settle_current self c now with ⟨hkept, hsame⟩ | ⟨hset, _⟩
    · rw [hkept]
      obtain ⟨⟨_, t⟩, hcurrent, rfl⟩ := Option.map_eq_some_iff.mp hsame
      exact ⟨t, hcurrent⟩
    · exact ⟨now, hset⟩

/-! ## Switching -/

/-- A switch away from a healthy node: the dwell time is over, the margin
is reached, and the new node wins among the eligible ones. -/
structure Switch (self : RouteSelector) (candidates : List NodeCandidate) (now selectedAt : Instant)
    (a b : NodeCandidate) : Prop where
  dwell : self.stability.minimumDwellTime.nanos ≤ now.nanos - selectedAt.nanos
  margin : ∃ s t, self.scoring.score a.measurements = .ok s ∧
    self.scoring.score b.measurements = .ok t ∧ s + self.stability.switchMargin.toNat ≤ t
  winner : RoutingPolicy.Winner self.scoring (self.eligible candidates now) b

theorem switch_of_select {a : NodeCandidate} (hids : (candidates.map (·.id)).Nodup)
    (hcurrent : self.current = some (a.id, selectedAt)) (hle : selectedAt.nanos ≤ now.nanos)
    (ha : a ∈ candidates) (havailable : a.measurements.available = true)
    (hclosed : self.circuitIsOpen a.id now = false)
    (h : (self.select candidates now).1 = .ok b) (hother : b.id ≠ a.id) :
    Switch self candidates now selectedAt a b := by
  have heligible : (a.measurements.available && !self.circuitIsOpen a.id now) = true := by
    rw [havailable, hclosed]
    rfl
  rcases select_cases self candidates now with ⟨_, hsel⟩ | ⟨winner, best, hwinner, hfind, hrest⟩
  · rw [hsel] at h
    cases h
  rcases hrest with ⟨current, hkept, hsel⟩ | ⟨hkept, hsel⟩
  · -- what is kept is the current node
    rw [hsel] at h
    cases h
    obtain ⟨_, hsame, _⟩ := keeps_eq_some hkept
    exact absurd (congrArg Prod.fst (Option.some.inj (hcurrent.symm.trans hsame))).symm hother
  · rw [hsel] at h
    cases h
    obtain ⟨hvalidate, hloss, hbest⟩ := RoutingPolicy.select_eq_ok hwinner
    have hwins := (RoutingPolicy.winner_iff hvalidate hloss).mpr hbest
    rw [findCandidate_of_nodup hids (mem_eligible.mp hwins.mem).1] at hfind
    cases hfind
    obtain ⟨hdwell, s, t, hs, ht, hmargin⟩ := keeps_eq_none hkept hcurrent
      (findCandidate_of_nodup hids ha) heligible
    refine ⟨?_, ⟨s, t, hs, ht, ?_⟩, hwins⟩
    · change _ ≤ (now.nanos - selectedAt.nanos).toNat at hdwell
      omega
    · have hscore := RoutingPolicy.score_le ht
      rw [qualityMax] at hscore
      exact (Word.saturatingAdd_le (by omega)).mp hmargin

/-- **Route stability.** For a list with distinct names, after any run with
times that never decrease: the entry names what `select` returned; a
healthy current node is replaced only by a `Switch`; no call changes the
time of an entry without changing its node; and a call that fails leaves
the selector as it was. -/
theorem select_stable (scoring : RoutingPolicy) (stability : SelectionPolicy) (calls : List Call)
    (candidates : List NodeCandidate) (now : Instant)
    (hordered : Call.Ordered (calls ++ [.select candidates now]))
    (hdistinct : ∀ call ∈ calls ++ [.select candidates now], call.Distinct) :
    let self := after scoring stability calls
    let result := self.select candidates now
    (∀ c, result.1 = .ok c → ∃ t, result.2.current = some (c.id, t)) ∧
    (∀ (a b : NodeCandidate) (selectedAt : Instant), self.current = some (a.id, selectedAt) →
      a ∈ candidates → a.measurements.available = true → self.circuitIsOpen a.id now = false →
      result.1 = .ok b → b.id ≠ a.id → Switch self candidates now selectedAt a b) ∧
    (∀ call, (self.apply call).current = self.current ∨
      ∃ nodeId t, (self.apply call).current = some (nodeId, t) ∧
        self.current.map (·.1) ≠ some nodeId) ∧
    ∀ e, result.1 = .error e → result.2 = self := by
  intro self result
  have hids : (candidates.map (·.id)).Nodup :=
    hdistinct (.select candidates now) (List.mem_append_right _ (List.mem_singleton_self _))
  refine ⟨fun c h => current_of_select h, fun a b selectedAt hcurrent ha hav hclosed h hother => ?_,
    fun call => ?_, fun e h => ?_⟩
  · exact switch_of_select hids hcurrent (selectedAt_le hordered hcurrent) ha hav hclosed h hother
  · rcases apply_current self call with hkept | ⟨nodeId, t, _, hset, hother⟩
    · exact Or.inl hkept
    · exact Or.inr ⟨nodeId, t, hset, hother⟩
  · rcases select_cases self candidates now with ⟨_, hsel⟩ | ⟨_, _, _, _, ⟨_, _, hsel⟩ | ⟨_, hsel⟩⟩
    · change (self.select candidates now).2 = self
      rw [hsel]
    · change (self.select candidates now).1 = _ at h
      rw [hsel] at h
      cases h
    · change (self.select candidates now).1 = _ at h
      rw [hsel] at h
      cases h

/-- A faster node that appears a minute after the first choice. -/
theorem select_stable_switch :
    let a : NodeCandidate := ⟨"a", ⟨true, 500, 2, 0, 100⟩⟩
    let b : NodeCandidate := ⟨"b", ⟨true, 10, 2, 0, 100⟩⟩
    let start : Instant := ⟨0, by decide, by decide⟩
    let later : Instant := ⟨60 * 10 ^ 9, by decide, by decide⟩
    Switch (after {} {} [.select [a] start]) [a, b] later start a b :=
  (select_stable {} {} [.select [⟨"a", ⟨true, 500, 2, 0, 100⟩⟩] ⟨0, by decide, by decide⟩]
    [⟨"a", ⟨true, 500, 2, 0, 100⟩⟩, ⟨"b", ⟨true, 10, 2, 0, 100⟩⟩]
    ⟨60 * 10 ^ 9, by decide, by decide⟩ (by simp [Call.Ordered, Call.time?])
    (by simp [Call.Distinct])).2.1 _ _ _ (by decide +kernel) (by simp) rfl (by decide +kernel)
    (by decide +kernel) (by decide)

end RouteSelector

end CyberiaVpn.Routing
