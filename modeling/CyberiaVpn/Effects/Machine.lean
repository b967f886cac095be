import Mathlib.Data.List.Basic

/-!
# Machines that may panic

A machine answers one call at a time and keeps a state; `none` is a
panic, which ends the run. A `Turn` is one call with what it found, what
it answered and what it left. The rules are those a development needs
that says once what a call can do: `invariant` for all states of a run,
`total` for runs without a panic, and `answers_eq` for two states no
sequence of calls can tell apart.
-/

namespace CyberiaVpn.Effects

structure Turn (σ ο ρ : Type) where
  before : σ
  op : ο
  answer : ρ
  after : σ

variable {σ ο ρ : Type} (step : σ → ο → Option (ρ × σ))

/-- The turns of a run. -/
def trace : σ → List ο → Option (List (Turn σ ο ρ))
  | _, [] => some []
  | s, op :: ops =>
      (step s op).bind fun (r, s') => (trace s' ops).map (⟨s, op, r, s'⟩ :: ·)

/-- The answers of a run. -/
def answers (s : σ) (ops : List ο) : Option (List ρ) := (trace step s ops).map (·.map Turn.answer)

/-- Each turn is a step and starts where the one before it ended. -/
inductive Linked : σ → List (Turn σ ο ρ) → Prop where
  | nil (s : σ) : Linked s []
  | cons {s s' : σ} {op : ο} {r : ρ} {run : List (Turn σ ο ρ)} (h : step s op = some (r, s'))
      (hrun : Linked s' run) : Linked s (⟨s, op, r, s'⟩ :: run)

/-- Where a run ends. -/
def last : σ → List (Turn σ ο ρ) → σ
  | s, [] => s
  | _, turn :: run => last turn.after run

variable {step} {s : σ} {ops : List ο} {run : List (Turn σ ο ρ)}

theorem trace_cons {op : ο} (h : trace step s (op :: ops) = some run) :
    ∃ r s' run', step s op = some (r, s') ∧ trace step s' ops = some run' ∧
      run = ⟨s, op, r, s'⟩ :: run' := by
  rw [trace] at h
  obtain ⟨⟨r, s'⟩, hstep, h⟩ := Option.bind_eq_some_iff.mp h
  obtain ⟨run', hrun', rfl⟩ := Option.map_eq_some_iff.mp h
  exact ⟨r, s', run', hstep, hrun', rfl⟩

theorem linked_of_trace : ∀ {ops : List ο} {s : σ} {run : List (Turn σ ο ρ)},
    trace step s ops = some run → Linked step s run
  | [], s, run, h => by
      obtain rfl : [] = run := Option.some.inj h
      exact Linked.nil s
  | op :: ops, s, run, h => by
      obtain ⟨r, s', run', hstep, hrun', rfl⟩ := trace_cons h
      exact Linked.cons hstep (linked_of_trace hrun')

theorem Linked.of_cons {turn : Turn σ ο ρ} (h : Linked step s (turn :: run)) :
    turn.before = s ∧ step turn.before turn.op = some (turn.answer, turn.after) ∧
      Linked step turn.after run := by
  cases h with
  | cons hstep hrun => exact ⟨rfl, hstep, hrun⟩

theorem trace_ops : ∀ {ops : List ο} {s : σ} {run : List (Turn σ ο ρ)},
    trace step s ops = some run → run.map Turn.op = ops
  | [], s, run, h => by
      obtain rfl : [] = run := Option.some.inj h
      rfl
  | op :: ops, s, run, h => by
      obtain ⟨r, s', run', hstep, hrun', rfl⟩ := trace_cons h
      rw [List.map_cons, trace_ops hrun']

/-- Two runs, the second from where the first ends. -/
theorem linked_append_iff : ∀ {pre post : List (Turn σ ο ρ)} {s : σ},
    Linked step s (pre ++ post) ↔ Linked step s pre ∧ Linked step (last s pre) post
  | [], _, s => ⟨fun h => ⟨.nil s, h⟩, And.right⟩
  | turn :: pre, post, s => by
      constructor
      · intro h
        cases h with
        | cons hstep hrun =>
            obtain ⟨hpre, hpost⟩ := linked_append_iff.mp hrun
            exact ⟨.cons hstep hpre, hpost⟩
      · rintro ⟨hpre, hpost⟩
        cases hpre with
        | cons hstep hrun => exact .cons hstep (linked_append_iff.mpr ⟨hrun, hpost⟩)

/-- A turn starts where the run before it ends, and the rest where it ends. -/
theorem Linked.split {pre post : List (Turn σ ο ρ)} {turn : Turn σ ο ρ}
    (h : Linked step s (pre ++ turn :: post)) :
    Linked step s pre ∧ turn.before = last s pre ∧
      step turn.before turn.op = some (turn.answer, turn.after) ∧ Linked step turn.after post := by
  obtain ⟨hpre, hpost⟩ := linked_append_iff.mp h
  exact ⟨hpre, hpost.of_cons⟩

/-- What every step preserves holds throughout a run, and of the state a
later part of it starts from. -/
theorem Linked.invariant {I : σ → Prop}
    (hI : ∀ s op r s', I s → step s op = some (r, s') → I s') (h : Linked step s run) (hs : I s) :
    ∀ {pre post : List (Turn σ ο ρ)} {turn : Turn σ ο ρ}, run = pre ++ turn :: post →
      I turn.before ∧ step turn.before turn.op = some (turn.answer, turn.after) ∧
        Linked step turn.after post := by
  induction h with
  | nil s =>
      intro pre post turn hsplit
      exact absurd hsplit (by simp)
  | @cons s s' op r run hstep hrun ih =>
      intro pre post turn hsplit
      cases pre with
      | nil =>
          obtain ⟨rfl, rfl⟩ := List.cons.inj hsplit
          exact ⟨hs, hstep, hrun⟩
      | cons first pre =>
          obtain ⟨-, hsplit⟩ := List.cons.inj hsplit
          exact ih (hI s op r s' hs hstep) hsplit

/-- A machine that does not panic while its invariant holds. -/
theorem trace_total {I : σ → Prop}
    (hI : ∀ s op, I s → ∃ r s', step s op = some (r, s') ∧ I s') :
    ∀ (ops : List ο) {s : σ}, I s → ∃ run, trace step s ops = some run
  | [], _, _ => ⟨[], rfl⟩
  | op :: ops, s, hs => by
      obtain ⟨r, s', hstep, hs'⟩ := hI s op hs
      obtain ⟨run, hrun⟩ := trace_total hI ops hs'
      exact ⟨⟨s, op, r, s'⟩ :: run, by simp [trace, hstep, hrun]⟩

theorem answers_cons {op : ο} {r : ρ} {s' : σ} (h : step s op = some (r, s')) :
    answers step s (op :: ops) = (answers step s' ops).map (r :: ·) := by
  simp only [answers, trace, h, Option.bind_some, Option.map_map]
  rfl

/-- Two states that answer every call alike, and stay so, answer every
sequence of calls alike. -/
theorem answers_eq {R : σ → σ → Prop} {P : ο → Prop}
    (hR : ∀ s t op, P op → R s t →
      ∃ r s' t', step s op = some (r, s') ∧ step t op = some (r, t') ∧ R s' t') :
    ∀ {ops : List ο}, (∀ op ∈ ops, P op) → ∀ {s t : σ}, R s t →
      ∃ rs, answers step s ops = some rs ∧ answers step t ops = some rs
  | [], _, _, _, _ => ⟨[], rfl, rfl⟩
  | op :: ops, hP, s, t, h => by
      obtain ⟨hop, hops⟩ := List.forall_mem_cons.mp hP
      obtain ⟨r, s', t', hs, ht, h'⟩ := hR s t op hop h
      obtain ⟨rs, hs', ht'⟩ := answers_eq hR hops h'
      exact ⟨r :: rs, by rw [answers_cons hs, hs']; rfl, by rw [answers_cons ht, ht']; rfl⟩

/-- A state in which some calls do nothing and all others panic panics on
a sequence with one of the others. -/
theorem answers_eq_none {P : ο → Prop} (hkept : ∀ op, ¬P op → ∃ r, step s op = some (r, s))
    (hpanic : ∀ op, P op → step s op = none) :
    ∀ {ops : List ο}, (∃ op ∈ ops, P op) → answers step s ops = none
  | [], h => by
      obtain ⟨op, hop, -⟩ := h
      cases hop
  | op :: ops, h => by
      by_cases hop : P op
      · rw [answers, trace, hpanic op hop]
        rfl
      · obtain ⟨r, hr⟩ := hkept op hop
        obtain ⟨other, hother, hP⟩ := h
        rcases List.mem_cons.mp hother with rfl | hmem
        · exact absurd hP hop
        · rw [answers_cons hr, answers_eq_none hkept hpanic ⟨other, hmem, hP⟩]
          rfl

end CyberiaVpn.Effects
