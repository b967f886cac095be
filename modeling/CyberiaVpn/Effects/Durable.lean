import CyberiaVpn.Effects.Prog

/-!
# Components that outlive their process

A `Durable` component keeps part of its state in the world: it is started
from its zero value, called, and lost in a crash, which also does
something to the world. A `Fleet` is a world with all the components that
were started on it since the last crash. A crash may cut a start or a
call short after any number of its effects.

`Exclusive` is the rule for components that own the world one at a time.
It has one obligation for a start while another component holds the
world, one for a start on a free world, one for a call on a component
that does not own the world, one for a call on the one that does, and one
for a crash; `Exclusive.run` is what follows for a whole run.

Nothing here knows what the component or the world is.
-/

namespace CyberiaVpn.Effects

/-! ## Cutting a program short -/

/-- The world after the first `k` effects of a run that began in `w`. -/
def Outcome.worldAfter {σ ω κ ε α : Type} (o : Outcome σ ω κ ε α) (w : ω) (k : Nat) : ω :=
  match (o.trace.take k).getLast? with
  | none => w
  | some e => e.post

/-- What holds at the start and after every effect holds at every cut. -/
theorem Prog.Sat.worldAfter {σ ω κ ε α : Type} {m : Prog σ ω κ ε α} {P : ω → Prop}
    {Q : α → σ → ω → Prop} {E : ε → σ → ω → Prop} {s : σ} {w : ω}
    (h : m.Sat (fun e => P e.post) Q E s w) (hw : P w) (k : Nat) :
    P ((m s w).worldAfter w k) := by
  unfold Outcome.worldAfter
  split
  · exact hw
  · next e he => exact h.1 e (List.mem_of_mem_take (List.mem_of_getLast? he))

/-! ## Fleets -/

structure Durable (σ ω κ ε ι α χ : Type) where
  zero : σ
  start : Prog σ ω κ ε Unit
  call : ι → Prog σ ω κ ε α
  /-- What a crash makes of the world, by the environment's choice. -/
  crash : χ → ω → ω

/-- A component is addressed by the number of starts before its own. -/
inductive Action (ι : Type) where
  | start
  | call (handle : Nat) (c : ι)

inductive Event (ι χ : Type) where
  | act (a : Action ι)
  | crash (a : Action ι) (effects : Nat) (choice : χ)

/-- What the outside sees of an event. A crash reports the call it cut
short, if it was one. -/
inductive Report (ε ι α : Type) where
  | started (r : Except ε Unit)
  | answered (c : ι) (r : Except ε α)
  | cut (c : Option ι)

structure Fleet (σ ω : Type) where
  world : ω
  handles : List σ

namespace Durable

variable {σ ω κ ε ι α χ : Type} (D : Durable σ ω κ ε ι α χ)

/-- The world an action has reached after `k` effects. -/
def reached (f : Fleet σ ω) (k : Nat) : Action ι → ω
  | .start => (D.start D.zero f.world).worldAfter f.world k
  | .call i c =>
      match f.handles[i]? with
      | none => f.world
      | some s => (D.call c s f.world).worldAfter f.world k

def inFlight : Action ι → Option ι
  | .start => none
  | .call _ c => some c

def step : Event ι χ → Fleet σ ω → Fleet σ ω × List (Report ε ι α)
  | .act .start, f =>
      let o := D.start D.zero f.world
      match o.result with
      | .ok _ => (⟨o.world, f.handles ++ [o.self]⟩, [.started o.result])
      | .error _ => (⟨o.world, f.handles⟩, [.started o.result])
  | .act (.call i c), f =>
      match f.handles[i]? with
      | none => (f, [])
      | some s =>
          let o := D.call c s f.world
          (⟨o.world, f.handles.set i o.self⟩, [.answered c o.result])
  | .crash a k choice, f => (⟨D.crash choice (D.reached f k a), []⟩, [.cut (inFlight a)])

def run : List (Event ι χ) → Fleet σ ω → Fleet σ ω × List (Report ε ι α)
  | [], f => (f, [])
  | e :: es, f =>
      ((run es (D.step e f).1).1, (D.step e f).2 ++ (run es (D.step e f).1).2)

/-- What holds of the reports so far and the fleet, and goes through every
event, holds at the end of every run. -/
theorem run_invariant {J : List (Report ε ι α) → Fleet σ ω → Prop}
    (hstep : ∀ h f e, J h f → J (h ++ (D.step e f).2) (D.step e f).1) :
    ∀ (es : List (Event ι χ)) {h : List (Report ε ι α)} {f : Fleet σ ω}, J h f →
      J (h ++ (D.run es f).2) (D.run es f).1
  | [], h, f, hJ => by simpa [run] using hJ
  | e :: es, h, f, hJ => by
      have hrest := run_invariant hstep es (hstep h f e hJ)
      rwa [List.append_assoc] at hrest

/-- What a start establishes and every call keeps holds of all components
of a run. -/
theorem run_handles {P : σ → Prop}
    (hstart : ∀ w, D.start.Sat (fun _ => True) (fun _ s _ => P s) (fun _ _ _ => True) D.zero w)
    (hcall : ∀ c s w, P s → P (D.call c s w).self) (es : List (Event ι χ)) (w : ω) :
    ∀ s ∈ (D.run es ⟨w, []⟩).1.handles, P s := by
  refine D.run_invariant (J := fun _ f => ∀ s ∈ f.handles, P s) (fun h f e hf => ?_) es (h := [])
    nofun
  match e with
  | .act .start =>
      rcases (hstart f.world).result with ⟨_, hok, hP⟩ | ⟨_, he, -⟩
      · simp only [step, hok]
        intro s hs
        rcases List.mem_append.mp hs with hs | hs
        · exact hf s hs
        · rw [List.mem_singleton.mp hs]
          exact hP
      · simp only [step, he]
        exact hf
  | .act (.call i c) =>
      cases hi : f.handles[i]? with
      | none => simpa only [step, hi] using hf
      | some s =>
          simp only [step, hi]
          intro t ht
          rcases List.mem_or_eq_of_mem_set ht with ht | rfl
          · exact hf t ht
          · exact hcall c s f.world (hf s (List.mem_of_getElem? hi))
  | .crash a k x => nofun

end Durable

/-! ## Exclusive ownership -/

section

variable {σ ω κ ε ι α χ : Type}

/-- The world moved in no way that an owner or the next one would notice. -/
def Unmoved (held : ω → Prop) (Rest : List (Report ε ι α) → ω → Prop)
    (Live : List (Report ε ι α) → σ → ω → Prop) (h h' : List (Report ε ι α)) (w w' : ω) : Prop :=
  (held w → held w') ∧ (Rest h w → Rest h' w') ∧ ∀ s, Live h s w → Live h' s w'

/-- Whatever a crash during `c` makes of this world, it is sound. -/
def Survives (D : Durable σ ω κ ε ι α χ) (Rest : List (Report ε ι α) → ω → Prop)
    (h : List (Report ε ι α)) (c : Option ι) (w : ω) : Prop :=
  ∀ x, Rest (h ++ [.cut c]) (D.crash x w)

/-- `live` components own the world, which is then `held`. `Rest` holds of
the reports and the world at all times, `Live` of the owner as well. -/
structure Exclusive (D : Durable σ ω κ ε ι α χ) (live : σ → Prop) (held : ω → Prop)
    (Rest : List (Report ε ι α) → ω → Prop) (Live : List (Report ε ι α) → σ → ω → Prop) :
    Prop where
  crash : ∀ h w c, Rest h w → Survives D Rest h c w
  startHeld : ∀ h w, held w → Rest h w →
    D.start.Sat (fun e => Survives D Rest h none e.post) (fun _ _ _ => False)
      (fun e _ w' => Unmoved held Rest Live h (h ++ [.started (.error e)]) w w') D.zero w
  startFree : ∀ h w, ¬held w → Rest h w →
    D.start.Sat (fun e => Survives D Rest h none e.post)
      (fun _ s w' => Rest (h ++ [.started (.ok ())]) w' ∧
        (live s → held w' ∧ Live (h ++ [.started (.ok ())]) s w'))
      (fun e _ w' => Rest (h ++ [.started (.error e)]) w') D.zero w
  callIdle : ∀ h w c s, ¬live s → Rest h w →
    (D.call c).Sat (fun e => Survives D Rest h (some c) e.post)
      (fun a s' w' => ¬live s' ∧ Unmoved held Rest Live h (h ++ [.answered c (.ok a)]) w w')
      (fun e s' w' => ¬live s' ∧ Unmoved held Rest Live h (h ++ [.answered c (.error e)]) w w') s w
  callLive : ∀ h w c s, live s → held w → Live h s w → Rest h w →
    (D.call c).Sat (fun e => Survives D Rest h (some c) e.post)
      (fun a s' w' => Rest (h ++ [.answered c (.ok a)]) w' ∧
        (live s' → held w' ∧ Live (h ++ [.answered c (.ok a)]) s' w'))
      (fun e s' w' => Rest (h ++ [.answered c (.error e)]) w' ∧
        (live s' → held w' ∧ Live (h ++ [.answered c (.error e)]) s' w')) s w

/-- The invariant of a fleet: at most one component is live, and it holds
the world. -/
structure Fleet.Owned (live : σ → Prop) (held : ω → Prop)
    (Rest : List (Report ε ι α) → ω → Prop) (Live : List (Report ε ι α) → σ → ω → Prop)
    (h : List (Report ε ι α)) (f : Fleet σ ω) : Prop where
  rest : Rest h f.world
  owner : ∀ (i : Nat) s, f.handles[i]? = some s → live s → held f.world ∧ Live h s f.world
  unique : ∀ (i j : Nat) s t, f.handles[i]? = some s → f.handles[j]? = some t → live s → live t → i = j

namespace Exclusive

variable {D : Durable σ ω κ ε ι α χ} {live : σ → Prop} {held : ω → Prop}
  {Rest : List (Report ε ι α) → ω → Prop} {Live : List (Report ε ι α) → σ → ω → Prop}
  {h h' : List (Report ε ι α)} {f : Fleet σ ω}

/-- An action that the owner does not notice keeps the fleet owned. -/
theorem owned_unmoved (hf : f.Owned live held Rest Live h) {w' : ω}
    (hmove : Unmoved held Rest Live h h' f.world w') :
    (⟨w', f.handles⟩ : Fleet σ ω).Owned live held Rest Live h' := by
  refine ⟨hmove.2.1 hf.rest, fun i s hi hs => ?_, hf.unique⟩
  obtain ⟨hheld, hlive⟩ := hf.owner i s hi hs
  exact ⟨hmove.1 hheld, hmove.2.2 s hlive⟩

/-- A component that is not live may be replaced by another such one. -/
theorem owned_set_idle (hf : f.Owned live held Rest Live h) {i : Nat} {s' : σ}
    (hs' : ¬live s') : (⟨f.world, f.handles.set i s'⟩ : Fleet σ ω).Owned live held Rest Live h := by
  have hsame : ∀ (j : Nat) t, (f.handles.set i s')[j]? = some t → live t → f.handles[j]? = some t := by
    intro j t hj ht
    rw [List.getElem?_set] at hj
    split at hj
    · split at hj
      · cases hj; exact absurd ht hs'
      · cases hj
    · exact hj
  refine ⟨hf.rest, fun j t hj ht => hf.owner j t (hsame j t hj ht) ht, ?_⟩
  intro j k t u hj hk ht hu
  exact hf.unique j k t u (hsame j t hj ht) (hsame k u hk hu) ht hu

/-- When nobody else is live, the only obligations are the world's and the
one component's. -/
theorem owned_one {w' : ω} {handles : List σ} {i : Nat} (hrest : Rest h' w')
    (hothers : ∀ (j : Nat) t, handles[j]? = some t → live t → j = i)
    (hone : ∀ t, handles[i]? = some t → live t → held w' ∧ Live h' t w') :
    (⟨w', handles⟩ : Fleet σ ω).Owned live held Rest Live h' := by
  refine ⟨hrest, fun j t hj ht => ?_, fun j k t u hj hk ht hu => ?_⟩
  · obtain rfl := hothers j t hj ht
    exact hone t hj ht
  · rw [hothers j t hj ht, hothers k u hk hu]

variable (hD : Exclusive D live held Rest Live)
include hD

theorem owned_start (hf : f.Owned live held Rest Live h) :
    (D.step (.act .start) f).1.Owned live held Rest Live (h ++ (D.step (.act .start) f).2) := by
  by_cases hheld : held f.world
  · rcases (hD.startHeld h f.world hheld hf.rest).result with ⟨_, -, hfalse⟩ | ⟨e, he, hmove⟩
    · exact hfalse.elim
    · simp only [Durable.step, he]
      exact owned_unmoved hf hmove
  · have hidle : ∀ (j : Nat) t, f.handles[j]? = some t → ¬live t := fun j t hj ht =>
      hheld (hf.owner j t hj ht).1
    rcases (hD.startFree h f.world hheld hf.rest).result with ⟨_, hok, hrest, hlive⟩ | ⟨e, he, hrest⟩
    · simp only [Durable.step, hok]
      refine owned_one (i := f.handles.length) hrest (fun j t hj ht => ?_) fun t ht hlt => ?_
      · rw [List.getElem?_append] at hj
        split at hj
        · exact absurd ht (hidle j t hj)
        · next hge =>
            have hlt := (List.getElem?_eq_some_iff.mp hj).1
            rw [List.length_singleton] at hlt
            omega
      · rw [List.getElem?_append_right (Nat.le_refl _), Nat.sub_self] at ht
        cases ht
        exact hlive hlt
    · simp only [Durable.step, he]
      exact owned_one (i := 0) hrest (fun j t hj ht => absurd ht (hidle j t hj)) fun t ht hlt =>
        absurd hlt (hidle 0 t ht)

theorem owned_call (hf : f.Owned live held Rest Live h) (i : Nat) (c : ι) :
    (D.step (.act (.call i c)) f).1.Owned live held Rest Live
      (h ++ (D.step (.act (.call i c)) f).2) := by
  cases hi : f.handles[i]? with
  | none => simpa [Durable.step, hi] using hf
  | some s =>
      simp only [Durable.step, hi]
      by_cases hs : live s
      · obtain ⟨hheld, hlive⟩ := hf.owner i s hi hs
        have hothers : ∀ s' (j : Nat) t, (f.handles.set i s')[j]? = some t → live t → j = i := by
          intro s' j t hj ht
          rw [List.getElem?_set] at hj
          split at hj
          · next hij => exact hij.symm
          · exact hf.unique j i t s hj hi ht hs
        have hset : ∀ s' t, (f.handles.set i s')[i]? = some t → s' = t := by
          intro s' t ht
          rw [List.getElem?_set_self (List.getElem?_eq_some_iff.mp hi).1] at ht
          exact Option.some.inj ht
        rcases (hD.callLive h f.world c s hs hheld hlive hf.rest).result with
          ⟨a, hr, hrest, hkeep⟩ | ⟨e, hr, hrest, hkeep⟩ <;>
        · rw [hr]
          refine owned_one hrest (hothers _) fun t ht hlt => ?_
          obtain rfl := hset _ t ht
          exact hkeep hlt
      · rcases (hD.callIdle h f.world c s hs hf.rest).result with
          ⟨a, hr, hidle, hmove⟩ | ⟨e, hr, hidle, hmove⟩ <;>
        · rw [hr]
          exact owned_set_idle (owned_unmoved hf hmove) hidle

/-- Every world an action passes through leaves a sound world in a crash. -/
theorem survives_reached (hf : f.Owned live held Rest Live h) (a : Action ι) (k : Nat) :
    Survives D Rest h (Durable.inFlight a) (D.reached f k a) := by
  have hnow := hD.crash h f.world (Durable.inFlight a) hf.rest
  cases a with
  | start =>
      by_cases hheld : held f.world
      · exact Prog.Sat.worldAfter (hD.startHeld h f.world hheld hf.rest) hnow k
      · exact Prog.Sat.worldAfter (hD.startFree h f.world hheld hf.rest) hnow k
  | call i c =>
      simp only [Durable.reached]
      cases hi : f.handles[i]? with
      | none => exact hnow
      | some s =>
          by_cases hs : live s
          · obtain ⟨hheld, hlive⟩ := hf.owner i s hi hs
            exact Prog.Sat.worldAfter (hD.callLive h f.world c s hs hheld hlive hf.rest) hnow k
          · exact Prog.Sat.worldAfter (hD.callIdle h f.world c s hs hf.rest) hnow k

/-- A world that is sound on its own stays sound, with at most one owner,
through every run of starts, calls and crashes. -/
theorem run (w : ω) (hw : Rest [] w) (es : List (Event ι χ)) :
    (D.run es ⟨w, []⟩).1.Owned live held Rest Live (D.run es ⟨w, []⟩).2 := by
  have hstart : (⟨w, []⟩ : Fleet σ ω).Owned live held Rest Live [] :=
    ⟨hw, nofun, nofun⟩
  refine D.run_invariant (fun h f e hf => ?_) es hstart
  match e with
  | .act .start => exact owned_start hD hf
  | .act (.call i c) => exact owned_call hD hf i c
  | .crash a k x => exact ⟨survives_reached hD hf a k x, nofun, nofun⟩

end Exclusive

end

end CyberiaVpn.Effects
