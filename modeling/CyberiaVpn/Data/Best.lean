import Mathlib.Data.List.Perm.Basic
import Mathlib.Order.Basic
import Mathlib.Order.Lattice

/-!
# The running best

A loop that keeps the best element seen so far and replaces it only by a
strictly better one. It ends with an element of the list that no other
one beats. Where different elements have different ranks there is only one
such element, so the order of the list does not matter.
-/

namespace CyberiaVpn.Data

variable {α β : Type} [LinearOrder β] {rank : α → β}

def runningBest (rank : α → β) (first : α) (rest : List α) : α :=
  rest.foldl (fun best x => if rank best < rank x then x else best) first

/-- `x` is in the list, and nothing in it beats `x`. -/
structure IsBest (rank : α → β) (xs : List α) (x : α) : Prop where
  mem : x ∈ xs
  le : ∀ y ∈ xs, rank y ≤ rank x

theorem isBest_runningBest : ∀ (first : α) (rest : List α),
    IsBest rank (first :: rest) (runningBest rank first rest)
  | first, [] => ⟨List.mem_cons_self .., fun y hy => by
      rw [List.mem_singleton.mp hy]
      exact le_refl _⟩
  | first, x :: rest => by
      -- the better one of the first two stands for both
      have hstep : runningBest rank first (x :: rest) =
          runningBest rank (if rank first < rank x then x else first) rest := rfl
      obtain ⟨hmem, hle⟩ := isBest_runningBest (if rank first < rank x then x else first) rest
      rw [hstep]
      have hfirst : rank first ≤ rank (if rank first < rank x then x else first) := by
        split
        · next hlt => exact le_of_lt hlt
        · exact le_refl _
      have hx : rank x ≤ rank (if rank first < rank x then x else first) := by
        split
        · exact le_refl _
        · next hlt => exact not_lt.mp hlt
      refine ⟨?_, fun y hy => ?_⟩
      · rcases List.mem_cons.mp hmem with hbest | hrest
        · rw [hbest]
          split
          · exact List.mem_cons_of_mem _ (List.mem_cons_self ..)
          · exact List.mem_cons_self ..
        · exact List.mem_cons_of_mem _ (List.mem_cons_of_mem _ hrest)
      · rcases List.mem_cons.mp hy with rfl | hy
        · exact hfirst.trans (hle _ (List.mem_cons_self ..))
        · rcases List.mem_cons.mp hy with rfl | hy
          · exact hx.trans (hle _ (List.mem_cons_self ..))
          · exact hle y (List.mem_cons_of_mem _ hy)

theorem IsBest.unique {xs : List α} {x y : α} (hx : IsBest rank xs x) (hy : IsBest rank xs y)
    (hinj : ∀ a ∈ xs, ∀ b ∈ xs, rank a = rank b → a = b) : x = y :=
  hinj x hx.mem y hy.mem (le_antisymm (hy.le x hx.mem) (hx.le y hy.mem))

theorem IsBest.perm {xs ys : List α} {x : α} (h : IsBest rank xs x) (hp : xs.Perm ys) :
    IsBest rank ys x :=
  ⟨hp.mem_iff.mp h.mem, fun y hy => h.le y (hp.mem_iff.mpr hy)⟩

end CyberiaVpn.Data
