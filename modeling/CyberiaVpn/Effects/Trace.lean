import CyberiaVpn.Effects.Prog

/-!
# Whole traces

`Prog.Sat` looks at the effects of a program one by one. Here the trace is
looked at as a whole, in the order of the effects: `Prog.Ends` relates it
to the result and the states a run ends with, with one rule per program
constructor, and a trace grows at its end as a program goes on.

A program that stops at its first refused effect has a trace of accepted
effects and one refused effect at the end, if there is one at all
(`Completed`, `Stopped`). The rules for these two are those of a loop that
breaks.
-/

namespace CyberiaVpn.Effects

variable {σ τ ρ ω κ ε δ α β ι : Type}

namespace Prog

/-- Started in `s` and `w`, a run that returns satisfies `Q` with its whole
trace, one that fails satisfies `E`. -/
def Ends (m : Prog σ ω κ ε α) (Q : List (Entry σ ω κ) → α → σ → ω → Prop)
    (E : List (Entry σ ω κ) → ε → σ → ω → Prop) (s : σ) (w : ω) : Prop :=
  match (m s w).result with
  | .ok a => Q (m s w).trace a (m s w).self (m s w).world
  | .error e => E (m s w).trace e (m s w).self (m s w).world

section Rules

variable {s : σ} {w : ω}

theorem ends_pure {a : α} {Q : List (Entry σ ω κ) → α → σ → ω → Prop}
    {E : List (Entry σ ω κ) → ε → σ → ω → Prop} :
    (pure a : Prog σ ω κ ε α).Ends Q E s w ↔ Q [] a s w := Iff.rfl

theorem ends_fail {e : ε} {Q : List (Entry σ ω κ) → α → σ → ω → Prop}
    {E : List (Entry σ ω κ) → ε → σ → ω → Prop} :
    (fail e : Prog σ ω κ ε α).Ends Q E s w ↔ E [] e s w := Iff.rfl

theorem ends_update {f : σ → σ} {Q : List (Entry σ ω κ) → Unit → σ → ω → Prop}
    {E : List (Entry σ ω κ) → ε → σ → ω → Prop} :
    (update f : Prog σ ω κ ε Unit).Ends Q E s w ↔ Q [] () (f s) w := Iff.rfl

theorem ends_effect {f : ω → κ × Except ε α × ω}
    {Q : List (Entry σ ω κ) → α → σ → ω → Prop} {E : List (Entry σ ω κ) → ε → σ → ω → Prop} :
    (effect f : Prog σ ω κ ε α).Ends Q E s w ↔
      match (f w).2.1 with
      | .ok a => Q [⟨s, w, (f w).1, (f w).2.2⟩] a s (f w).2.2
      | .error e => E [⟨s, w, (f w).1, (f w).2.2⟩] e s (f w).2.2 := Iff.rfl

theorem ends_seq {m : Prog σ ω κ ε α} {f : α → Prog σ ω κ ε β}
    {Q : List (Entry σ ω κ) → β → σ → ω → Prop} {E : List (Entry σ ω κ) → ε → σ → ω → Prop} :
    (m.seq f).Ends Q E s w ↔
      m.Ends (fun t a s' w' => (f a).Ends (fun t' => Q (t ++ t')) (fun t' => E (t ++ t')) s' w')
        E s w := by
  cases h : (m s w).result with
  | ok a => simp only [Ends, seq, andThen, h]
  | error e => simp only [Ends, seq, andThen, h]

theorem ends_bind {m : Prog σ ω κ ε α} {f : α → Prog σ ω κ ε β}
    {Q : List (Entry σ ω κ) → β → σ → ω → Prop} {E : List (Entry σ ω κ) → ε → σ → ω → Prop} :
    (m >>= f).Ends Q E s w ↔
      m.Ends (fun t a s' w' => (f a).Ends (fun t' => Q (t ++ t')) (fun t' => E (t ++ t')) s' w')
        E s w :=
  ends_seq

theorem ends_self_bind {f : σ → Prog σ ω κ ε β} {Q : List (Entry σ ω κ) → β → σ → ω → Prop}
    {E : List (Entry σ ω κ) → ε → σ → ω → Prop} :
    (self >>= f).Ends Q E s w ↔ (f s).Ends Q E s w := Iff.rfl

theorem ends_update_bind {g : σ → σ} {f : Unit → Prog σ ω κ ε β}
    {Q : List (Entry σ ω κ) → β → σ → ω → Prop} {E : List (Entry σ ω κ) → ε → σ → ω → Prop} :
    (update g >>= f).Ends Q E s w ↔ (f ()).Ends Q E (g s) w := Iff.rfl

theorem ends_attempt {m : Prog σ ω κ ε α}
    {Q : List (Entry σ ω κ) → Except ε α → σ → ω → Prop}
    {E : List (Entry σ ω κ) → δ → σ → ω → Prop} :
    (m.attempt : Prog σ ω κ δ (Except ε α)).Ends Q E s w ↔
      m.Ends (fun t a => Q t (.ok a)) (fun t e => Q t (.error e)) s w := by
  cases h : (m s w).result <;> simp only [Ends, attempt, h]

theorem ends_liftExcept {r : Except ε α} {Q : List (Entry σ ω κ) → α → σ → ω → Prop}
    {E : List (Entry σ ω κ) → ε → σ → ω → Prop} :
    (liftExcept r : Prog σ ω κ ε α).Ends Q E s w ↔
      match r with
      | .ok a => Q [] a s w
      | .error e => E [] e s w := by
  cases r <;> exact Iff.rfl

theorem ends_mapError {m : Prog σ ω κ ε α} {g : ε → δ}
    {Q : List (Entry σ ω κ) → α → σ → ω → Prop} {E : List (Entry σ ω κ) → δ → σ → ω → Prop} :
    (m.mapError g).Ends Q E s w ↔ m.Ends Q (fun t e => E t (g e)) s w := by
  cases h : (m s w).result <;> simp only [Ends, mapError, h, Except.mapError]

theorem ends_zoom {get : σ → τ} {put : τ → σ → σ} {m : Prog τ ω κ ε α}
    {Q : List (Entry σ ω κ) → α → σ → ω → Prop} {E : List (Entry σ ω κ) → ε → σ → ω → Prop} :
    (zoom get put m).Ends Q E s w ↔
      m.Ends
        (fun t a s' w' => Q (t.map fun e => ⟨put e.self s, e.pre, e.effect, e.post⟩)
          a (put s' s) w')
        (fun t e s' w' => E (t.map fun e => ⟨put e.self s, e.pre, e.effect, e.post⟩)
          e (put s' s) w')
        (get s) w := by
  cases h : (m (get s) w).result <;> simp only [Ends, zoom, h]

theorem ends_withLocal {x : ρ} {m : Prog (σ × ρ) ω κ ε α}
    {Q : List (Entry σ ω κ) → ρ × Except ε α → σ → ω → Prop}
    {E : List (Entry σ ω κ) → δ → σ → ω → Prop} :
    (withLocal x m : Prog σ ω κ δ (ρ × Except ε α)).Ends Q E s w ↔
      m.Ends
        (fun t a s' w' => Q (t.map fun e => ⟨e.self.1, e.pre, e.effect, e.post⟩)
          (s'.2, .ok a) s'.1 w')
        (fun t e s' w' => Q (t.map fun e => ⟨e.self.1, e.pre, e.effect, e.post⟩)
          (s'.2, .error e) s'.1 w')
        (s, x) w := by
  cases h : (m (s, x) w).result <;> simp only [Ends, withLocal, h]

/-- A cleanup follows either end. -/
theorem ends_deferring {m : Prog σ ω κ ε α} {cleanup : Prog σ ω κ δ β}
    {Q : List (Entry σ ω κ) → α → σ → ω → Prop} {E : List (Entry σ ω κ) → ε → σ → ω → Prop} :
    (m.deferring cleanup).Ends Q E s w ↔
      m.Ends
        (fun t a s' w' => cleanup.Ends (fun t' _ => Q (t ++ t') a) (fun t' _ => Q (t ++ t') a) s' w')
        (fun t e s' w' => cleanup.Ends (fun t' _ => E (t ++ t') e) (fun t' _ => E (t ++ t') e) s' w')
        s w := by
  simp only [deferring, ends_seq, ends_attempt, ends_liftExcept, List.append_nil]

theorem ends_congr {m m' : Prog σ ω κ ε α} {Q : List (Entry σ ω κ) → α → σ → ω → Prop}
    {E : List (Entry σ ω κ) → ε → σ → ω → Prop} (h : m s w = m' s w) :
    m.Ends Q E s w ↔ m'.Ends Q E s w := by
  rw [Ends, Ends, h]

theorem Ends.mono {m : Prog σ ω κ ε α} {Q Q' : List (Entry σ ω κ) → α → σ → ω → Prop}
    {E E' : List (Entry σ ω κ) → ε → σ → ω → Prop} (h : m.Ends Q E s w)
    (hQ : ∀ t a s w, Q t a s w → Q' t a s w) (hE : ∀ t e s w, E t e s w → E' t e s w) :
    m.Ends Q' E' s w := by
  unfold Ends at h ⊢
  cases hr : (m s w).result with
  | ok a => rw [hr] at h; exact hQ _ _ _ _ h
  | error e => rw [hr] at h; exact hE _ _ _ _ h

/-- Two facts about one run hold together. -/
theorem Ends.and {m : Prog σ ω κ ε α} {Q Q' : List (Entry σ ω κ) → α → σ → ω → Prop}
    {E E' : List (Entry σ ω κ) → ε → σ → ω → Prop} (h : m.Ends Q E s w) (h' : m.Ends Q' E' s w) :
    m.Ends (fun t a s w => Q t a s w ∧ Q' t a s w) (fun t e s w => E t e s w ∧ E' t e s w) s w := by
  unfold Ends at h h' ⊢
  cases hr : (m s w).result with
  | ok a => rw [hr] at h h'; exact ⟨h, h'⟩
  | error e => rw [hr] at h h'; exact ⟨h, h'⟩

theorem Sat.ends {m : Prog σ ω κ ε α} {I : Entry σ ω κ → Prop} {Q : α → σ → ω → Prop}
    {E : ε → σ → ω → Prop} (h : m.Sat I Q E s w) : m.Ends (fun _ => Q) (fun _ => E) s w := h.2

/-- The part of a run that ended as it did. -/
theorem Ends.of_ok {m : Prog σ ω κ ε α} {Q : List (Entry σ ω κ) → α → σ → ω → Prop}
    {E : List (Entry σ ω κ) → ε → σ → ω → Prop} {a : α} (h : m.Ends Q E s w)
    (hr : (m s w).result = .ok a) : Q (m s w).trace a (m s w).self (m s w).world := by
  rw [Ends, hr] at h
  exact h

theorem Ends.of_error {m : Prog σ ω κ ε α} {Q : List (Entry σ ω κ) → α → σ → ω → Prop}
    {E : List (Entry σ ω κ) → ε → σ → ω → Prop} {e : ε} (h : m.Ends Q E s w)
    (hr : (m s w).result = .error e) : E (m s w).trace e (m s w).self (m s w).world := by
  rw [Ends, hr] at h
  exact h

end Rules

end Prog

/-! ## Stopping at the first refused effect -/

section Stopping

variable (accepted : κ → Bool) (refuses : ω → κ → ε → Prop)

/-- Every effect was accepted. -/
def Completed (t : List (Entry σ ω κ)) : Prop := ∀ e ∈ t, accepted e.effect = true

/-- Every effect but the last was accepted, and the last one was refused
with this error. -/
def Stopped (t : List (Entry σ ω κ)) (error : ε) : Prop :=
  ∃ done last, t = done ++ [last] ∧ Completed accepted done ∧ accepted last.effect = false ∧
    refuses last.pre last.effect error

variable {accepted refuses} {t t' : List (Entry σ ω κ)} {error : ε}

theorem completed_nil : Completed accepted ([] : List (Entry σ ω κ)) := nofun

theorem Completed.append (h : Completed accepted t) (h' : Completed accepted t') :
    Completed accepted (t ++ t') := by
  intro e he
  rcases List.mem_append.mp he with he | he
  · exact h e he
  · exact h' e he

theorem Completed.stopped (h : Completed accepted t) (h' : Stopped accepted refuses t' error) :
    Stopped accepted refuses (t ++ t') error := by
  obtain ⟨done, last, rfl, hdone, hlast⟩ := h'
  exact ⟨t ++ done, last, (List.append_assoc ..).symm, h.append hdone, hlast⟩

/-- Which component issued the effects does not matter. -/
theorem Completed.map (f : σ → τ) (h : Completed accepted t) :
    Completed accepted (t.map fun e => ⟨f e.self, e.pre, e.effect, e.post⟩) :=
  List.forall_mem_map.mpr h

theorem Stopped.map (f : σ → τ) (h : Stopped accepted refuses t error) :
    Stopped accepted refuses (t.map fun e => ⟨f e.self, e.pre, e.effect, e.post⟩) error := by
  obtain ⟨done, last, rfl, hdone, hlast⟩ := h
  exact ⟨_, _, List.map_append, hdone.map f, hlast⟩

end Stopping

end CyberiaVpn.Effects
