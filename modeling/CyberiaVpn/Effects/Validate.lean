import Mathlib.Data.List.Nodup

/-!
# Validation

A validator is a sequence of checks, the first of which to fail decides
the error. Beside single conditions there is one loop that validators of
lists share: an element that is bad in itself is rejected, then one whose
key has been seen before. Which error comes back depends on the order;
whether one comes back does not, and the lemmas here say when none does.
-/

namespace CyberiaVpn.Effects

variable {α β ε : Type} [DecidableEq β]

/-- Fail with `e` if the condition holds. -/
def reject (c : Prop) [Decidable c] (e : ε) : Except ε Unit := if c then .error e else .ok ()

theorem reject_eq_ok {c : Prop} [Decidable c] {e : ε} {u : Unit} : reject c e = .ok u ↔ ¬c := by
  unfold reject
  split <;> simp_all

theorem reject_eq_error {c : Prop} [Decidable c] {e e' : ε} :
    reject c e = .error e' ↔ c ∧ e = e' := by
  unfold reject
  split <;> simp_all

theorem ok_bind {δ : Type} (a : α) (rest : α → Except ε δ) :
    ((.ok a : Except ε α) >>= rest) = rest a := rfl

theorem error_bind {δ : Type} (e : ε) (rest : α → Except ε δ) :
    ((.error e : Except ε α) >>= rest) = .error e := rfl

theorem bind_eq_ok {δ : Type} {first : Except ε α} {rest : α → Except ε δ} {d : δ} :
    (first >>= rest) = .ok d ↔ ∃ a, first = .ok a ∧ rest a = .ok d := by
  cases first with
  | error e => exact ⟨nofun, fun ⟨_, h, _⟩ => nomatch h⟩
  | ok a => exact ⟨fun h => ⟨a, rfl, h⟩, fun ⟨_, rfl, h⟩ => h⟩

theorem mapM_eq_ok {δ : Type} {f : α → Except ε δ} {xs : List α} {ys : List δ} :
    xs.mapM f = .ok ys ↔ List.Forall₂ (fun x y => f x = .ok y) xs ys := by
  induction xs generalizing ys with
  | nil =>
      rw [List.mapM_nil, List.forall₂_nil_left_iff]
      exact ⟨fun h => (Except.ok.inj h).symm, fun h => h ▸ rfl⟩
  | cons x xs ih =>
      rw [List.mapM_cons, List.forall₂_cons_left_iff]
      simp only [bind_eq_ok, ih]
      constructor
      · rintro ⟨y, hy, ys', hys, h⟩
        exact ⟨y, ys', hy, hys, (Except.ok.inj h).symm⟩
      · rintro ⟨y, ys', hy, hys, rfl⟩
        exact ⟨y, hy, ys', hys, rfl⟩

theorem exists_of_mem_mapM {δ : Type} {f : α → Except ε δ} {xs : List α} {ys : List δ}
    (h : xs.mapM f = .ok ys) {y : δ} (hy : y ∈ ys) : ∃ x ∈ xs, f x = .ok y := by
  have hpairs := mapM_eq_ok.mp h
  clear h
  induction hpairs with
  | nil => cases hy
  | cons hxy _ ih =>
      rcases List.mem_cons.mp hy with rfl | hy
      · exact ⟨_, List.mem_cons_self .., hxy⟩
      · obtain ⟨x, hx, hxy⟩ := ih hy
        exact ⟨x, List.mem_cons_of_mem _ hx, hxy⟩

/-- A map that fails on no element. -/
theorem mapM_total {δ : Type} {f : α → Except ε δ} : ∀ {xs : List α},
    (∀ x ∈ xs, ∃ y, f x = .ok y) → ∃ ys, xs.mapM f = .ok ys
  | [], _ => ⟨[], rfl⟩
  | x :: xs, h => by
      obtain ⟨y, hy⟩ := h x (List.mem_cons_self ..)
      obtain ⟨ys, hys⟩ := mapM_total fun x' hx' => h x' (List.mem_cons_of_mem _ hx')
      exact ⟨y :: ys, mapM_eq_ok.mpr (.cons hy (mapM_eq_ok.mp hys))⟩

theorem bind_eq_error {δ : Type} {first : Except ε α} {rest : α → Except ε δ} {e : ε} :
    (first >>= rest) = .error e ↔ first = .error e ∨ ∃ a, first = .ok a ∧ rest a = .error e := by
  cases first with
  | error e' =>
      constructor
      · exact fun h => Or.inl (congrArg Except.error (Except.error.inj h))
      · rintro (h | ⟨_, h, _⟩)
        · exact congrArg Except.error (Except.error.inj h)
        · cases h
  | ok a => exact ⟨fun h => Or.inr ⟨a, rfl, h⟩, fun h => h.elim nofun fun ⟨_, rfl, h⟩ => h⟩

theorem mapError_eq_ok {δ : Type} {g : ε → δ} {x : Except ε α} {a : α} :
    x.mapError g = .ok a ↔ x = .ok a := by
  cases x <;> simp [Except.mapError]

/-- A search that meets no error is a search. -/
theorem anyM_eq_ok {f : α → Except ε Bool} {p : α → Bool} : ∀ {xs : List α},
    (∀ x ∈ xs, f x = .ok (p x)) → xs.anyM f = .ok (xs.any p)
  | [], _ => rfl
  | x :: xs, h => by
      obtain ⟨hx, hxs⟩ := List.forall_mem_cons.mp h
      rw [List.anyM, hx, ok_bind, List.any_cons, anyM_eq_ok hxs]
      cases p x <;> rfl

/-- Checks return nothing, so the value in between is known. -/
theorem andThen_eq_ok {first : Except ε Unit} {rest : Unit → Except ε Unit} :
    (first >>= rest) = .ok () ↔ first = .ok () ∧ rest () = .ok () := by
  cases first with
  | error e => exact ⟨nofun, fun h => nomatch h.1⟩
  | ok _ => exact ⟨fun h => ⟨rfl, h⟩, fun h => h.2⟩

/-- Reject a bad element, then reject an element whose key was seen
before. -/
def validateEach (bad : α → Bool) (key : α → β) (invalid duplicate : ε) :
    List β → List α → Except ε Unit
  | _, [] => .ok ()
  | seen, x :: xs =>
      if bad x then .error invalid
      else if key x ∈ seen then .error duplicate
      else validateEach bad key invalid duplicate (key x :: seen) xs

variable {bad : α → Bool} {key : α → β} {invalid duplicate : ε}

/-- What gets through: good elements with distinct new keys. -/
theorem validateEach_eq_ok : ∀ {xs : List α} {seen : List β},
    validateEach bad key invalid duplicate seen xs = .ok () ↔
      (∀ x ∈ xs, bad x = false ∧ key x ∉ seen) ∧ (xs.map key).Nodup
  | [], _ => by simp [validateEach]
  | x :: xs, seen => by
      have ih : validateEach bad key invalid duplicate (key x :: seen) xs = .ok () ↔ _ :=
        validateEach_eq_ok
      rw [validateEach]
      split
      · next hbad => simp [hbad]
      split
      · next hseen => simp [hseen]
      next hbad hseen =>
      rw [ih, List.map_cons, List.nodup_cons, List.forall_mem_cons]
      constructor
      · rintro ⟨hall, hnodup⟩
        refine ⟨⟨⟨by simpa using hbad, hseen⟩, fun y hy => ⟨(hall y hy).1, fun hkey =>
          (hall y hy).2 (List.mem_cons_of_mem _ hkey)⟩⟩, fun hmem => ?_, hnodup⟩
        obtain ⟨y, hy, hkey⟩ := List.mem_map.mp hmem
        exact (hall y hy).2 (hkey ▸ List.mem_cons_self ..)
      · rintro ⟨⟨-, hall⟩, hfresh, hnodup⟩
        refine ⟨fun y hy => ⟨(hall y hy).1, fun hmem => ?_⟩, hnodup⟩
        rcases List.mem_cons.mp hmem with hkey | hmem
        · exact hfresh (hkey ▸ List.mem_map_of_mem hy)
        · exact (hall y hy).2 hmem

end CyberiaVpn.Effects
