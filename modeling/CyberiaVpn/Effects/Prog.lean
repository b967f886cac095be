import Mathlib.Data.List.Basic

/-!
# Fallible programs over an external world

A `Prog σ ω κ ε α` is a program of a component whose own state is `σ`,
acting on a world `ω` it does not own. It returns `α` or fails with `ε`,
and in either case it leaves the states it had reached: a failure rolls
nothing back. Every external effect it performs is recorded as an
`Entry`, with the component state at the time it was issued and the
world right before and right after it, so that a property can be stated
about every instant between two effects and not only about the final
state.

A program carries the proof that its trace is a `Chain`: the world moves
only through the effects it records, so nothing happens between two
consecutive entries but in-memory updates.

`Prog.Sat` is the program logic: an entry predicate that holds of every
recorded effect, a postcondition for a normal return and one for a
failure. The `sat_*` lemmas give it one rule per program constructor,
each an equivalence, and `sat_forEach` / `sat_session` are the loop rule
and the rule for a whole session of calls.

Nothing here knows what the component or the world is.
-/

namespace CyberiaVpn.Effects

/-- One external effect: the component that issued it, the world before
and after, and a label saying what it was. -/
structure Entry (σ ω κ : Type) where
  self : σ
  pre : ω
  effect : κ
  post : ω

/-- Where a program ends: its result, both states, and the effects it
performed in order. -/
structure Outcome (σ ω κ ε α : Type) where
  result : Except ε α
  self : σ
  world : ω
  trace : List (Entry σ ω κ)

/-- The effects lead from the first world to the last, each starting where
the one before it ended. -/
def Chain {σ ω κ : Type} : ω → List (Entry σ ω κ) → ω → Prop
  | w, [], w' => w = w'
  | w, e :: es, w' => w = e.pre ∧ Chain e.post es w'

theorem Chain.append {σ ω κ : Type} : ∀ {w w' w'' : ω} {es es' : List (Entry σ ω κ)},
    Chain w es w' → Chain w' es' w'' → Chain w (es ++ es') w''
  | _, _, _, [], _, rfl, h' => h'
  | _, _, _, _ :: _, _, ⟨hpre, h⟩, h' => ⟨hpre, h.append h'⟩

/-- What every effect preserves holds of the last world if it holds of the
first. -/
theorem Chain.invariant {σ ω κ : Type} {J : ω → Prop} :
    ∀ {w w' : ω} {es : List (Entry σ ω κ)}, Chain w es w' →
      (∀ e ∈ es, J e.pre → J e.post) → J w → J w'
  | _, _, [], rfl, _, h => h
  | _, _, e :: _, ⟨hpre, hchain⟩, hstep, h =>
      hchain.invariant (fun e' he' => hstep e' (List.mem_cons_of_mem _ he'))
        (hstep e (List.mem_cons_self ..) (hpre ▸ h))

theorem Chain.map {σ τ ω κ : Type} (f : σ → τ) :
    ∀ {w w' : ω} {es : List (Entry σ ω κ)}, Chain w es w' →
      Chain w (es.map fun e => ⟨f e.self, e.pre, e.effect, e.post⟩) w'
  | _, _, [], h => h
  | _, _, _ :: _, ⟨hpre, h⟩ => ⟨hpre, h.map f⟩

/-- A program runs from a component state and a world; the world moves only
through the effects it records. -/
structure Prog (σ ω κ ε α : Type) where
  run : σ → ω → Outcome σ ω κ ε α
  chain : ∀ s w, Chain w (run s w).trace (run s w).world

namespace Prog

variable {σ τ ρ ω κ ε δ α β ι : Type}

instance : CoeFun (Prog σ ω κ ε α) fun _ => σ → ω → Outcome σ ω κ ε α := ⟨run⟩

/-! ## Constructors -/

def ret (a : α) : Prog σ ω κ ε α := ⟨fun s w => ⟨.ok a, s, w, []⟩, fun _ _ => rfl⟩

def fail (e : ε) : Prog σ ω κ ε α := ⟨fun s w => ⟨.error e, s, w, []⟩, fun _ _ => rfl⟩

/-- Continue an outcome; a failure ends the program there. -/
def andThen (o : Outcome σ ω κ ε α) (f : α → Prog σ ω κ ε β) : Outcome σ ω κ ε β :=
  match o.result with
  | .ok a =>
      let o' := f a o.self o.world
      { o' with trace := o.trace ++ o'.trace }
  | .error e => ⟨.error e, o.self, o.world, o.trace⟩

/-- Run `m`, then `f` on what it returned. -/
def seq (m : Prog σ ω κ ε α) (f : α → Prog σ ω κ ε β) : Prog σ ω κ ε β where
  run s w := andThen (m s w) f
  chain s w := by
    unfold andThen
    split
    · exact (m.chain s w).append ((f _).chain _ _)
    · exact m.chain s w

instance : Monad (Prog σ ω κ ε) where
  pure := ret
  bind := seq

/-- The component's own state. -/
def self : Prog σ ω κ ε σ := ⟨fun s w => ⟨.ok s, s, w, []⟩, fun _ _ => rfl⟩

/-- An in-memory update of the component. -/
def update (f : σ → σ) : Prog σ ω κ ε Unit :=
  ⟨fun s w => ⟨.ok (), f s, w, []⟩, fun _ _ => rfl⟩

/-- One external effect. What it does to the world decides its label. -/
def effect (f : ω → κ × Except ε α × ω) : Prog σ ω κ ε α where
  run s w := ⟨(f w).2.1, s, (f w).2.2, [⟨s, w, (f w).1, (f w).2.2⟩]⟩
  chain _ _ := ⟨rfl, rfl⟩

def liftExcept : Except ε α → Prog σ ω κ ε α
  | .ok a => ret a
  | .error e => fail e

/-- Run `m` and hand its result to the caller instead of failing. -/
def attempt (m : Prog σ ω κ ε α) : Prog σ ω κ δ (Except ε α) where
  run s w := ⟨.ok (m s w).result, (m s w).self, (m s w).world, (m s w).trace⟩
  chain s w := m.chain s w

def mapError (g : ε → δ) (m : Prog σ ω κ ε α) : Prog σ ω κ δ α where
  run s w := ⟨(m s w).result.mapError g, (m s w).self, (m s w).world, (m s w).trace⟩
  chain s w := m.chain s w

/-- Run a program of the subcomponent `get s`, storing its final state
with `put`. The effects are recorded with the whole component around
the subcomponent. -/
def zoom (get : σ → τ) (put : τ → σ → σ) (m : Prog τ ω κ ε α) : Prog σ ω κ ε α where
  run s w :=
    let o := m (get s) w
    ⟨o.result, put o.self s, o.world,
      o.trace.map fun e => ⟨put e.self s, e.pre, e.effect, e.post⟩⟩
  chain s w := (m.chain (get s) w).map fun t => put t s

/-- Run `m` with a local variable starting at `x`. The final value of the
variable is returned beside the result, also when `m` fails. -/
def withLocal (x : ρ) (m : Prog (σ × ρ) ω κ ε α) : Prog σ ω κ δ (ρ × Except ε α) where
  run s w :=
    let o := m (s, x) w
    ⟨.ok (o.self.2, o.result), o.self.1, o.world,
      o.trace.map fun e => ⟨e.self.1, e.pre, e.effect, e.post⟩⟩
  chain s w := (m.chain (s, x) w).map Prod.fst

/-- Run `m` and then `cleanup`, however `m` ended. The result is that of
`m`; a failure of `cleanup` is dropped. -/
def deferring (m : Prog σ ω κ ε α) (cleanup : Prog σ ω κ δ β) : Prog σ ω κ ε α :=
  m.attempt.seq fun r => (cleanup.attempt : Prog σ ω κ ε _).seq fun _ => liftExcept r

/-- A loop over a list: the first failing iteration ends it. -/
def forEach (f : ι → Prog σ ω κ ε Unit) : List ι → Prog σ ω κ ε Unit
  | [] => ret ()
  | x :: xs => (f x).seq fun _ => forEach f xs

/-- A session of calls on one component: each call runs to its result,
and the next call follows whether it failed or not. -/
def session (step : ι → Prog σ ω κ ε α) : List ι → Prog σ ω κ δ Unit
  | [] => ret ()
  | c :: cs => (step c).attempt.seq fun _ => session step cs

theorem session_result (step : ι → Prog σ ω κ ε α) : ∀ (cs : List ι) (s : σ) (w : ω),
    ((session step cs : Prog σ ω κ δ Unit) s w).result = .ok ()
  | [], _, _ => rfl
  | c :: cs, s, w => by
      rw [session]
      exact session_result step cs (step c s w).self (step c s w).world

/-- `P` holds of every call of a session, in the state it is issued in. -/
def Each (step : ι → Prog σ ω κ ε α) (P : ι → σ → ω → Prop) : List ι → σ → ω → Prop
  | [], _, _ => True
  | c :: cs, s, w => P c s w ∧ Each step P cs (step c s w).self (step c s w).world

/-- Two properties of calls that are equivalent wherever an invariant holds,
the first of which keeps the invariant, are equivalent along a session. -/
theorem each_iff {step : ι → Prog σ ω κ ε α} {P P' : ι → σ → ω → Prop} {J : σ → ω → Prop}
    (hiff : ∀ c s w, J s w → (P c s w ↔ P' c s w))
    (hkeep : ∀ c s w, J s w → P c s w → J (step c s w).self (step c s w).world) :
    ∀ {cs : List ι} {s : σ} {w : ω}, J s w → (Each step P cs s w ↔ Each step P' cs s w)
  | [], _, _, _ => Iff.rfl
  | c :: cs, s, w, hJ => by
      constructor
      · rintro ⟨hP, hrest⟩
        exact ⟨(hiff c s w hJ).mp hP, (each_iff hiff hkeep (hkeep c s w hJ hP)).mp hrest⟩
      · rintro ⟨hP', hrest⟩
        have hP := (hiff c s w hJ).mpr hP'
        exact ⟨hP, (each_iff hiff hkeep (hkeep c s w hJ hP)).mpr hrest⟩

/-! ## The program logic -/

/-- Started in `s` and `w`, every effect of `m` satisfies `I`, a normal
return satisfies `Q` and a failure satisfies `E`. -/
def Sat (m : Prog σ ω κ ε α) (I : Entry σ ω κ → Prop)
    (Q : α → σ → ω → Prop) (E : ε → σ → ω → Prop) (s : σ) (w : ω) : Prop :=
  (∀ e ∈ (m s w).trace, I e) ∧
    match (m s w).result with
    | .ok a => Q a (m s w).self (m s w).world
    | .error e => E e (m s w).self (m s w).world

section Rules

variable {I I' : Entry σ ω κ → Prop} {s : σ} {w : ω}

@[simp] theorem sat_ret {a : α} {Q : α → σ → ω → Prop} {E : ε → σ → ω → Prop} :
    (ret a : Prog σ ω κ ε α).Sat I Q E s w ↔ Q a s w := by
  simp [Sat, ret]

@[simp] theorem sat_pure {a : α} {Q : α → σ → ω → Prop} {E : ε → σ → ω → Prop} :
    (pure a : Prog σ ω κ ε α).Sat I Q E s w ↔ Q a s w :=
  sat_ret

@[simp] theorem sat_fail {e : ε} {Q : α → σ → ω → Prop} {E : ε → σ → ω → Prop} :
    (fail e : Prog σ ω κ ε α).Sat I Q E s w ↔ E e s w := by
  simp [Sat, fail]

@[simp] theorem sat_seq {m : Prog σ ω κ ε α} {f : α → Prog σ ω κ ε β}
    {Q : β → σ → ω → Prop} {E : ε → σ → ω → Prop} :
    (m.seq f).Sat I Q E s w ↔ m.Sat I (fun a s' w' => (f a).Sat I Q E s' w') E s w := by
  cases h : (m s w).result with
  | ok a =>
      simp only [Sat, seq, andThen, h, List.mem_append, or_imp, forall_and]
      tauto
  | error e => simp only [Sat, seq, andThen, h]

@[simp] theorem sat_bind {m : Prog σ ω κ ε α} {f : α → Prog σ ω κ ε β}
    {Q : β → σ → ω → Prop} {E : ε → σ → ω → Prop} :
    (m >>= f).Sat I Q E s w ↔ m.Sat I (fun a s' w' => (f a).Sat I Q E s' w') E s w :=
  sat_seq

@[simp] theorem sat_self {Q : σ → σ → ω → Prop} {E : ε → σ → ω → Prop} :
    (self : Prog σ ω κ ε σ).Sat I Q E s w ↔ Q s s w := by
  simp [Sat, self]

@[simp] theorem sat_update {f : σ → σ} {Q : Unit → σ → ω → Prop}
    {E : ε → σ → ω → Prop} :
    (update f : Prog σ ω κ ε Unit).Sat I Q E s w ↔ Q () (f s) w := by
  simp [Sat, update]

theorem sat_effect {f : ω → κ × Except ε α × ω} {Q : α → σ → ω → Prop}
    {E : ε → σ → ω → Prop} :
    (effect f : Prog σ ω κ ε α).Sat I Q E s w ↔
      I ⟨s, w, (f w).1, (f w).2.2⟩ ∧
        match (f w).2.1 with
        | .ok a => Q a s (f w).2.2
        | .error e => E e s (f w).2.2 := by
  simp [Sat, effect]

theorem sat_liftExcept {r : Except ε α} {Q : α → σ → ω → Prop}
    {E : ε → σ → ω → Prop} :
    (liftExcept r : Prog σ ω κ ε α).Sat I Q E s w ↔
      match r with
      | .ok a => Q a s w
      | .error e => E e s w := by
  cases r <;> simp [liftExcept]

@[simp] theorem sat_attempt {m : Prog σ ω κ ε α}
    {Q : Except ε α → σ → ω → Prop} {E : δ → σ → ω → Prop} :
    (m.attempt : Prog σ ω κ δ (Except ε α)).Sat I Q E s w ↔
      m.Sat I (fun a s' w' => Q (.ok a) s' w') (fun e s' w' => Q (.error e) s' w') s w := by
  cases h : (m s w).result <;> simp only [Sat, attempt, h]

@[simp] theorem sat_mapError {m : Prog σ ω κ ε α} {g : ε → δ}
    {Q : α → σ → ω → Prop} {E : δ → σ → ω → Prop} :
    (m.mapError g).Sat I Q E s w ↔ m.Sat I Q (fun e s' w' => E (g e) s' w') s w := by
  cases h : (m s w).result <;> simp only [Sat, mapError, h, Except.mapError]

@[simp] theorem sat_zoom {get : σ → τ} {put : τ → σ → σ} {m : Prog τ ω κ ε α}
    {Q : α → σ → ω → Prop} {E : ε → σ → ω → Prop} :
    (zoom get put m).Sat I Q E s w ↔
      m.Sat (fun e => I ⟨put e.self s, e.pre, e.effect, e.post⟩)
        (fun a t w' => Q a (put t s) w') (fun e t w' => E e (put t s) w') (get s) w := by
  simp only [Sat, zoom, List.forall_mem_map]

@[simp] theorem sat_withLocal {x : ρ} {m : Prog (σ × ρ) ω κ ε α}
    {Q : ρ × Except ε α → σ → ω → Prop} {E : δ → σ → ω → Prop} :
    (withLocal x m : Prog σ ω κ δ (ρ × Except ε α)).Sat I Q E s w ↔
      m.Sat (fun e => I ⟨e.self.1, e.pre, e.effect, e.post⟩)
        (fun a t w' => Q (t.2, .ok a) t.1 w') (fun e t w' => Q (t.2, .error e) t.1 w')
        (s, x) w := by
  cases h : (m (s, x) w).result <;> simp only [Sat, withLocal, h, List.forall_mem_map]

@[simp] theorem sat_deferring {m : Prog σ ω κ ε α} {cleanup : Prog σ ω κ δ β}
    {Q : α → σ → ω → Prop} {E : ε → σ → ω → Prop} :
    (m.deferring cleanup).Sat I Q E s w ↔
      m.Sat I (fun a s' w' => cleanup.Sat I (fun _ => Q a) (fun _ => Q a) s' w')
        (fun e s' w' => cleanup.Sat I (fun _ => E e) (fun _ => E e) s' w') s w := by
  simp only [deferring, sat_seq, sat_attempt, sat_liftExcept]

/-- Only the run at hand matters. -/
theorem sat_congr {m m' : Prog σ ω κ ε α} {Q : α → σ → ω → Prop} {E : ε → σ → ω → Prop}
    (h : m s w = m' s w) : m.Sat I Q E s w ↔ m'.Sat I Q E s w := by
  rw [Sat, Sat, h]

/-- Consequence: what every effect, return and failure satisfies may be
weakened. -/
theorem Sat.mono {m : Prog σ ω κ ε α} {Q Q' : α → σ → ω → Prop}
    {E E' : ε → σ → ω → Prop} (h : m.Sat I Q E s w) (hI : ∀ e, I e → I' e)
    (hQ : ∀ a s w, Q a s w → Q' a s w) (hE : ∀ e s w, E e s w → E' e s w) :
    m.Sat I' Q' E' s w := by
  obtain ⟨htrace, hres⟩ := h
  refine ⟨fun e he => hI e (htrace e he), ?_⟩
  cases hr : (m s w).result with
  | ok a => rw [hr] at hres; exact hQ _ _ _ hres
  | error e => rw [hr] at hres; exact hE _ _ _ hres

/-- How a run ended, with what holds of its end. -/
theorem Sat.result {m : Prog σ ω κ ε α} {Q : α → σ → ω → Prop} {E : ε → σ → ω → Prop}
    (h : m.Sat I Q E s w) :
    (∃ a, (m s w).result = .ok a ∧ Q a (m s w).self (m s w).world) ∨
      ∃ e, (m s w).result = .error e ∧ E e (m s w).self (m s w).world := by
  have hres := h.2
  cases hr : (m s w).result with
  | ok a => rw [hr] at hres; exact Or.inl ⟨a, rfl, hres⟩
  | error e => rw [hr] at hres; exact Or.inr ⟨e, rfl, hres⟩

theorem Sat.of_ok {m : Prog σ ω κ ε α} {Q : α → σ → ω → Prop} {E : ε → σ → ω → Prop} {a : α}
    (h : m.Sat I Q E s w) (hr : (m s w).result = .ok a) :
    Q a (m s w).self (m s w).world := by
  have hres := h.2
  rwa [hr] at hres

theorem Sat.of_error {m : Prog σ ω κ ε α} {Q : α → σ → ω → Prop} {E : ε → σ → ω → Prop} {e : ε}
    (h : m.Sat I Q E s w) (hr : (m s w).result = .error e) :
    E e (m s w).self (m s w).world := by
  have hres := h.2
  rwa [hr] at hres

/-- A run that cannot fail returned. -/
theorem Sat.returned {m : Prog σ ω κ ε α} {Q : α → σ → ω → Prop}
    (h : m.Sat I Q (fun _ _ _ => False) s w) :
    ∃ a, (m s w).result = .ok a ∧ Q a (m s w).self (m s w).world := by
  rcases h.result with hok | ⟨e, -, hfalse⟩
  · exact hok
  · exact hfalse.elim

/-- A run that cannot return failed. -/
theorem Sat.failed {m : Prog σ ω κ ε α} {E : ε → σ → ω → Prop}
    (h : m.Sat I (fun _ _ _ => False) E s w) :
    ∃ e, (m s w).result = .error e ∧ E e (m s w).self (m s w).world := by
  rcases h.result with ⟨a, -, hfalse⟩ | herror
  · exact hfalse.elim
  · exact herror

/-- Sequencing: the postcondition of the first program is the
precondition of the second, its failures are the whole's. -/
theorem Sat.bind {m : Prog σ ω κ ε α} {f : α → Prog σ ω κ ε β} {P : α → σ → ω → Prop}
    {Q : β → σ → ω → Prop} {E : ε → σ → ω → Prop} (h : m.Sat I P E s w)
    (hf : ∀ a s w, P a s w → (f a).Sat I Q E s w) : (m >>= f).Sat I Q E s w :=
  sat_bind.mpr (h.mono (fun _ h => h) hf (fun _ _ _ h => h))

/-- Two facts about one run hold together. -/
theorem Sat.and {m : Prog σ ω κ ε α} {Q Q' : α → σ → ω → Prop}
    {E E' : ε → σ → ω → Prop} (h : m.Sat I Q E s w) (h' : m.Sat I' Q' E' s w) :
    m.Sat (fun e => I e ∧ I' e) (fun a s w => Q a s w ∧ Q' a s w)
      (fun e s w => E e s w ∧ E' e s w) s w := by
  refine ⟨fun e he => ⟨h.1 e he, h'.1 e he⟩, ?_⟩
  have h1 := h.2
  have h2 := h'.2
  cases hr : (m s w).result with
  | ok a => rw [hr] at h1 h2; exact ⟨h1, h2⟩
  | error e => rw [hr] at h1 h2; exact ⟨h1, h2⟩

/-- A property of the end, however the run ended. -/
theorem sat_of_end {m : Prog σ ω κ ε α} {J : σ → ω → Prop} (htrace : ∀ e ∈ (m s w).trace, I e)
    (hend : J (m s w).self (m s w).world) : m.Sat I (fun _ => J) (fun _ => J) s w := by
  refine ⟨htrace, ?_⟩
  cases (m s w).result with
  | ok a => exact hend
  | error e => exact hend

/-- A program without effects leaves the world as it is. -/
theorem sat_of_silent {m : Prog σ ω κ ε α} (h : (m s w).trace = []) :
    m.Sat I (fun _ _ w' => w' = w) (fun _ _ w' => w' = w) s w := by
  have hchain := m.chain s w
  rw [h] at hchain
  exact sat_of_end (by rw [h]; nofun) hchain.symm

/-- The loop rule: what the body preserves, the loop preserves. -/
theorem sat_forEach {f : ι → Prog σ ω κ ε Unit} {J : σ → ω → Prop}
    {E : ε → σ → ω → Prop} : ∀ {xs : List ι},
    (∀ x ∈ xs, ∀ s w, J s w → (f x).Sat I (fun _ => J) E s w) →
    ∀ {s : σ} {w : ω}, J s w → (forEach f xs).Sat I (fun _ => J) E s w
  | [], _, s, w, hJ => by simpa [forEach] using hJ
  | x :: xs, hbody, s, w, hJ => by
      rw [forEach, sat_seq]
      exact (hbody x (List.mem_cons_self ..) s w hJ).mono (fun _ h => h)
        (fun _ s' w' h => sat_forEach (fun y hy => hbody y (List.mem_cons_of_mem _ hy)) h)
        (fun _ _ _ h => h)

/-- What every call preserves, returning or failing, holds after the whole
session, and what every call's effects satisfy, all effects satisfy. -/
theorem sat_session {step : ι → Prog σ ω κ ε α} {J : σ → ω → Prop}
    {E : δ → σ → ω → Prop} : ∀ {cs : List ι},
    (∀ c ∈ cs, ∀ s w, J s w → (step c).Sat I (fun _ => J) (fun _ => J) s w) →
    ∀ {s : σ} {w : ω}, J s w →
      (session step cs : Prog σ ω κ δ Unit).Sat I (fun _ => J) E s w
  | [], _, s, w, hJ => by simpa [session] using hJ
  | c :: cs, hstep, s, w, hJ => by
      rw [session, sat_seq, sat_attempt]
      exact (hstep c (List.mem_cons_self ..) s w hJ).mono (fun _ h => h)
        (fun _ s' w' h => sat_session (fun d hd => hstep d (List.mem_cons_of_mem _ hd)) h)
        (fun _ s' w' h => sat_session (fun d hd => hstep d (List.mem_cons_of_mem _ hd)) h)

end Rules

end Prog

end CyberiaVpn.Effects
