import Mathlib.Data.List.Basic
import Mathlib.Data.List.Induction

/-!
# Explaining what was seen by one run

A component that makes its operations durable is seen through answers,
failures and restarts. What was seen is `Explained` by a `Replay`, the
list of operations one uninterrupted run of a machine has to make: those
that were acknowledged, each answered as the machine answers it there,
and those that were in doubt and turned out to have taken effect. At any
time at most one operation is in doubt, and a restart decides it.

Nothing here knows what the machine is.
-/

namespace CyberiaVpn.Effects

inductive Seen (ο ρ : Type) where
  /-- Answered, and its effect with it. -/
  | acknowledged (op : ο) (r : ρ)
  /-- Answered without an effect. -/
  | answered (op : ο) (r : ρ)
  /-- It may have taken effect or not. -/
  | doubtful (op : ο)
  | restarted
  | nothing

structure Replay (ο : Type) where
  ops : List ο
  doubt : Option ο

section

variable {σ ο ρ : Type} (step : σ → ο → ρ × σ) (s₀ : σ)

/-- Where a run of the machine ends. -/
def replayed (ops : List ο) : σ := ops.foldl (fun s op => (step s op).2) s₀

/-- The operations of a run with their answers. -/
def history : σ → List ο → List (ο × ρ)
  | _, [] => []
  | s, op :: ops => (op, (step s op).1) :: history (step s op).2 ops

inductive Explained : List (Seen ο ρ) → Replay ο → Prop where
  | start : Explained [] ⟨[], none⟩
  | acknowledged {seen ops op} (h : Explained seen ⟨ops, none⟩) :
      Explained (seen ++ [.acknowledged op (step (replayed step s₀ ops) op).1]) ⟨ops ++ [op], none⟩
  | answered {seen ops op} (h : Explained seen ⟨ops, none⟩) :
      Explained (seen ++ [.answered op (step (replayed step s₀ ops) op).1]) ⟨ops, none⟩
  | doubtful {seen ops op} (h : Explained seen ⟨ops, none⟩) :
      Explained (seen ++ [.doubtful op]) ⟨ops, some op⟩
  /-- The operation certainly had no effect. -/
  | denied {seen replay op} (h : Explained seen replay) :
      Explained (seen ++ [.doubtful op]) replay
  | found {seen ops op} (h : Explained seen ⟨ops, some op⟩) :
      Explained (seen ++ [.restarted]) ⟨ops ++ [op], none⟩
  | kept {seen ops doubt} (h : Explained seen ⟨ops, doubt⟩) :
      Explained (seen ++ [.restarted]) ⟨ops, none⟩
  | nothing {seen replay} (h : Explained seen replay) :
      Explained (seen ++ [.nothing]) replay

end

/-! ## What was acknowledged, and what was asked for -/

section

variable {σ ο ρ : Type}

def Seen.grant : Seen ο ρ → Option (ο × ρ)
  | .acknowledged op r => some (op, r)
  | _ => none

def Seen.request : Seen ο ρ → Option ο
  | .acknowledged op _ | .answered op _ | .doubtful op => some op
  | .restarted | .nothing => none

variable {step : σ → ο → ρ × σ} {s₀ : σ} {seen : List (Seen ο ρ)} {replay : Replay ο}

theorem history_append (ops : List ο) (op : ο) : ∀ s₀ : σ,
    history step s₀ (ops ++ [op]) =
      history step s₀ ops ++ [(op, (step (replayed step s₀ ops) op).1)] := by
  induction ops with
  | nil => exact fun _ => rfl
  | cons op' ops ih => exact fun s₀ => congrArg (List.cons _) (ih (step s₀ op').2)

theorem filterMap_append_none {α β : Type} {f : α → Option β} {x : α} (hx : f x = none)
    (xs : List α) : (xs ++ [x]).filterMap f = xs.filterMap f := by
  simp [hx]

/-- The acknowledged operations are among those of the run, with the
answers they have there and in that order. -/
theorem Explained.acknowledged_sublist (h : Explained step s₀ seen replay) :
    (seen.filterMap Seen.grant).Sublist (history step s₀ replay.ops) := by
  induction h with
  | start => exact List.Sublist.refl _
  | acknowledged _ ih =>
      rw [List.filterMap_append, history_append]
      exact ih.append (List.Sublist.refl _)
  | found _ ih =>
      rw [filterMap_append_none rfl, history_append]
      exact ih.trans (List.sublist_append_left _ _)
  | answered _ ih | doubtful _ ih | denied _ ih | kept _ ih | nothing _ ih =>
      rw [filterMap_append_none rfl]
      exact ih

/-- The run makes no operation that was not asked for. -/
theorem Explained.requested_sublist (h : Explained step s₀ seen replay) :
    (replay.ops ++ replay.doubt.toList).Sublist (seen.filterMap Seen.request) := by
  induction h with
  | start => exact List.Sublist.refl _
  | acknowledged _ ih | doubtful _ ih =>
      rw [List.filterMap_append]
      simp only [Option.toList_none, List.append_nil, Option.toList_some] at ih ⊢
      exact ih.append (List.Sublist.refl _)
  | answered _ ih | denied _ ih =>
      rw [List.filterMap_append]
      exact ih.trans (List.sublist_append_left _ _)
  | found _ ih =>
      rw [filterMap_append_none rfl]
      simpa using ih
  | kept _ ih =>
      rw [filterMap_append_none rfl]
      simpa using (List.sublist_append_left _ _).trans ih
  | nothing _ ih =>
      rw [filterMap_append_none rfl]
      exact ih

/-! ## Earlier explanations -/

/-- What was seen before the last event has an explanation too. -/
theorem Explained.before {x : Seen ο ρ} (h : Explained step s₀ (seen ++ [x]) replay) :
    ∃ replay', Explained step s₀ seen replay' := by
  generalize hl : seen ++ [x] = l at h
  cases h with
  | start => exact absurd (congrArg List.length hl) (by simp)
  | acknowledged h | answered h | doubtful h | denied h | found h | kept h | nothing h =>
      obtain ⟨rfl, -⟩ := List.append_inj' hl rfl
      exact ⟨_, h⟩

theorem Explained.earlier {later : List (Seen ο ρ)}
    (h : Explained step s₀ (seen ++ later) replay) : ∃ replay', Explained step s₀ seen replay' := by
  induction later using List.reverseRecOn generalizing replay with
  | nil => exact ⟨replay, by simpa using h⟩
  | append_singleton later x ih =>
      rw [← List.append_assoc] at h
      obtain ⟨replay', h'⟩ := h.before
      exact ih h'

/-- An acknowledged operation is answered as the machine answers it after
some of those that were asked for before. -/
theorem Explained.last {op : ο} {r : ρ} (h : Explained step s₀ (seen ++ [.acknowledged op r]) replay) :
    ∃ ops, Explained step s₀ seen ⟨ops, none⟩ ∧ r = (step (replayed step s₀ ops) op).1 := by
  generalize hl : seen ++ [.acknowledged op r] = l at h
  cases h with
  | start => exact absurd (congrArg List.length hl) (by simp)
  | @acknowledged seen' ops op' h =>
      obtain ⟨rfl, hlast⟩ := List.append_inj' hl rfl
      cases hlast
      exact ⟨ops, h, rfl⟩
  | answered h | doubtful h | denied h | found h | kept h | nothing h =>
      obtain ⟨-, hlast⟩ := List.append_inj' hl rfl
      cases hlast

/-- What every operation keeps holds wherever a run answers one. -/
theorem mem_history {J : σ → Prop} (hstep : ∀ s op, J s → J (step s op).2) {op : ο} {r : ρ} :
    ∀ {ops : List ο} {s : σ}, J s → (op, r) ∈ history step s ops → ∃ t, J t ∧ r = (step t op).1
  | op' :: ops, s, hs, hmem => by
      rcases List.mem_cons.mp hmem with heq | hmem
      · obtain ⟨rfl, rfl⟩ := Prod.mk.inj heq
        exact ⟨s, hs, rfl⟩
      · exact mem_history hstep (hstep s op' hs) hmem

/-- What an operation establishes and every operation keeps holds wherever
a later one is answered. -/
theorem pair_history {J : σ → Prop} (hstep : ∀ s op, J s → J (step s op).2) {op op' : ο} {r r' : ρ}
    (hfirst : ∀ s, (step s op).1 = r → J (step s op).2) :
    ∀ {ops : List ο} {s : σ}, [(op, r), (op', r')].Sublist (history step s ops) →
      ∃ t, J t ∧ r' = (step t op').1
  | [], _, hsub => by cases hsub
  | op'' :: ops, s, hsub => by
      rw [history] at hsub
      rcases List.cons_sublist_cons'.mp hsub with hsub | ⟨heq, hsub⟩
      · exact pair_history hstep hfirst hsub
      · obtain ⟨rfl, hr⟩ := Prod.mk.inj heq
        exact mem_history hstep (hfirst s hr.symm) (List.singleton_sublist.mp hsub)

end

end CyberiaVpn.Effects
