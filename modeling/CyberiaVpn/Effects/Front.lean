import Mathlib.Data.List.Forall2
import Mathlib.Data.List.Induction
import CyberiaVpn.Effects.Durable

/-!
# Front ends

A front end of a durable component answers some requests itself and makes
one call of each other, from whose outcome it makes the answer. It keeps
no state of its own, so its runs are runs of the component
(`Front.run_eq`): every request becomes a call or nothing, and what is
answered is what the component reports, seen through the front end
(`Serves`). What holds of all runs of the component can be carried over.

Nothing here knows what the component or the requests are.
-/

namespace CyberiaVpn.Effects

/-- Run `m` and return what `g` makes of its result. -/
def Prog.answered {σ ω κ ε δ α β : Type} (g : Except ε α → β) (m : Prog σ ω κ ε α) :
    Prog σ ω κ δ β where
  run s w := ⟨.ok (g (m s w).result), (m s w).self, (m s w).world, (m s w).trace⟩
  chain s w := m.chain s w

structure Front (ε ι α ι' α' : Type) where
  /-- An answer, or the call that the answer depends on. -/
  ask : ι' → α' ⊕ ι
  answer : ι' → Except ε α → α'

namespace Front

variable {σ ω κ ε ι α χ ι' α' : Type} (F : Front ε ι α ι' α')

/-- The call that a request becomes. -/
def call? (c : ι') : Option ι := (F.ask c).getRight?

/-- The component behind its front end. -/
def serving (D : Durable σ ω κ ε ι α χ) : Durable σ ω κ ε ι' α' χ where
  zero := D.zero
  start := D.start
  call c :=
    match F.ask c with
    | .inl a => Prog.ret a
    | .inr call => (D.call call).answered (F.answer c)
  crash := D.crash

/-- The events of the component. A crash during a request that it does not
get is a crash before anything else. -/
def events : Event ι' χ → List (Event ι χ)
  | .act .start => [.act .start]
  | .act (.call i c) => (F.call? c).toList.map fun call => .act (.call i call)
  | .crash .start k x => [.crash .start k x]
  | .crash (.call i c) k x =>
      match F.call? c with
      | none => [.crash .start 0 x]
      | some call => [.crash (.call i call) k x]

/-- What is seen in front of the component and behind it. -/
inductive Serves : List (Report ε ι' α') → List (Report ε ι α) → Prop where
  | nil : Serves [] []
  | started {h' h} (r : Except ε Unit) (before : Serves h' h) :
      Serves (h' ++ [.started r]) (h ++ [.started r])
  | own {h' h c a} (ask : F.ask c = .inl a) (before : Serves h' h) :
      Serves (h' ++ [.answered c (.ok a)]) h
  | asked {h' h c call} (r : Except ε α) (ask : F.ask c = .inr call) (before : Serves h' h) :
      Serves (h' ++ [.answered c (.ok (F.answer c r))]) (h ++ [.answered call r])
  | cut {h' h} (c : Option ι') (before : Serves h' h) :
      Serves (h' ++ [.cut c]) (h ++ [.cut (c.bind F.call?)])

variable {F} {D : Durable σ ω κ ε ι α χ}

theorem call?_of_inl {c : ι'} {a : α'} (h : F.ask c = .inl a) : F.call? c = none := by
  rw [call?, h]
  rfl

theorem call?_of_inr {c : ι'} {call : ι} (h : F.ask c = .inr call) : F.call? c = some call := by
  rw [call?, h]
  rfl

theorem serving_own {c : ι'} {a : α'} (h : F.ask c = .inl a) (s : σ) (w : ω) :
    (F.serving D).call c s w = ⟨.ok a, s, w, []⟩ := by
  simp only [serving, h]
  rfl

theorem serving_asked {c : ι'} {call : ι} (h : F.ask c = .inr call) (s : σ) (w : ω) :
    (F.serving D).call c s w = ⟨.ok (F.answer c (D.call call s w).result), (D.call call s w).self,
      (D.call call s w).world, (D.call call s w).trace⟩ := by
  simp only [serving, h]
  rfl

/-- Every request is answered. -/
theorem serving_ok (c : ι') (s : σ) (w : ω) : ∃ a, ((F.serving D).call c s w).result = .ok a := by
  cases hask : F.ask c with
  | inl a => exact ⟨a, by rw [serving_own hask]⟩
  | inr call => exact ⟨_, by rw [serving_asked hask]⟩

theorem serving_reports : ∀ (cs : List ι') (s : σ) (w : ω), ∃ as : List α', as.length = cs.length ∧
    ((F.serving D).run (cs.map fun c => .act (.call 0 c)) ⟨w, [s]⟩).2 =
      List.zipWith (fun c a => .answered c (.ok a)) cs as
  | [], _, _ => ⟨[], rfl, rfl⟩
  | c :: cs, s, w => by
      obtain ⟨a, ha⟩ := serving_ok (F := F) (D := D) c s w
      obtain ⟨as, hlength, hreports⟩ := serving_reports cs ((F.serving D).call c s w).self
        ((F.serving D).call c s w).world
      refine ⟨a :: as, congrArg Nat.succ hlength, ?_⟩
      have hstep : (F.serving D).step (.act (.call 0 c)) ⟨w, [s]⟩ =
          (⟨((F.serving D).call c s w).world, [((F.serving D).call c s w).self]⟩,
            [.answered c (.ok a)]) := by
        simp [Durable.step, ha]
      rw [List.map_cons, Durable.run, hstep]
      exact congrArg (List.cons _) hreports

theorem serving_started {w : ω} (hstart : (D.start D.zero w).result = .ok ()) (cs : List ι') :
    ∃ as : List α', as.length = cs.length ∧
      ((F.serving D).run (.act .start :: cs.map fun c => .act (.call 0 c)) ⟨w, []⟩).2 =
        .started (.ok ()) :: List.zipWith (fun c a => .answered c (.ok a)) cs as := by
  obtain ⟨as, hlength, hreports⟩ := serving_reports (F := F) (D := D) cs
    (D.start D.zero w).self (D.start D.zero w).world
  have hstep : (F.serving D).step (.act .start) ⟨w, []⟩ =
      (⟨(D.start D.zero w).world, [(D.start D.zero w).self]⟩, [.started (.ok ())]) := by
    have hserving : (F.serving D).start (F.serving D).zero w = D.start D.zero w := rfl
    simp [Durable.step, hserving, hstart]
  refine ⟨as, hlength, ?_⟩
  rw [Durable.run, hstep]
  exact congrArg (List.cons _) hreports

/-- The world a request has reached after some effects. -/
theorem reached_eq (f : Fleet σ ω) (k : Nat) (a : Action ι') (x : χ) :
    ∃ a' k', F.events (.crash a k x) = [.crash a' k' x] ∧
      Durable.inFlight a' = (Durable.inFlight a).bind F.call? ∧
      D.reached f k' a' = (F.serving D).reached f k a := by
  cases a with
  | start => exact ⟨.start, k, rfl, rfl, rfl⟩
  | call i c =>
      cases hask : F.ask c with
      | inl answer =>
          refine ⟨.start, 0, ?_, ?_, ?_⟩
          · rw [events, call?_of_inl hask]
          · exact (call?_of_inl hask).symm
          · simp only [Durable.reached]
            cases f.handles[i]? with
            | none => rfl
            | some s =>
                dsimp only
                rw [serving_own hask]
                simp [Outcome.worldAfter]
      | inr call =>
          refine ⟨.call i call, k, ?_, ?_, ?_⟩
          · rw [events, call?_of_inr hask]
          · exact (call?_of_inr hask).symm
          · simp only [Durable.reached]
            cases f.handles[i]? with
            | none => rfl
            | some s =>
                dsimp only
                rw [serving_asked hask]
                rfl

section Steps

variable {h' : List (Report ε ι' α')} {h : List (Report ε ι α)} (hh : F.Serves h' h) (f : Fleet σ ω)
include hh

theorem step_start : ((F.serving D).step (.act .start) f).1 = (D.step (.act .start) f).1 ∧
    F.Serves (h' ++ ((F.serving D).step (.act .start) f).2) (h ++ (D.step (.act .start) f).2) := by
  have hstart : (F.serving D).start (F.serving D).zero f.world = D.start D.zero f.world := rfl
  simp only [Durable.step, hstart]
  cases hr : (D.start D.zero f.world).result with
  | ok _ => exact ⟨rfl, .started _ hh⟩
  | error e => exact ⟨rfl, .started _ hh⟩

theorem step_call (i : Nat) (c : ι') :
    ((F.serving D).step (.act (.call i c)) f).1 = (D.run (F.events (.act (.call i c))) f).1 ∧
      F.Serves (h' ++ ((F.serving D).step (.act (.call i c)) f).2)
        (h ++ (D.run (F.events (.act (.call i c))) f).2) := by
  cases hask : F.ask c with
  | inl a =>
      rw [events, call?_of_inl hask]
      cases hs : f.handles[i]? with
      | none => simpa [Durable.step, Durable.run, hs] using hh
      | some s =>
          simp only [Durable.step, hs, serving_own hask, Option.toList_none, List.map_nil,
            Durable.run, List.append_nil]
          obtain ⟨hi, rfl⟩ := List.getElem?_eq_some_iff.mp hs
          rw [List.set_getElem_self]
          exact ⟨rfl, .own hask hh⟩
  | inr call =>
      rw [events, call?_of_inr hask]
      cases hs : f.handles[i]? with
      | none => simpa [Durable.step, Durable.run, hs] using hh
      | some s =>
          simp only [Durable.step, hs, serving_asked hask, Option.toList_some, List.map_cons,
            List.map_nil, Durable.run, List.append_nil]
          exact ⟨trivial, .asked _ hask hh⟩

/-- One event in front of the component is at most one behind it. -/
theorem step_eq (e : Event ι' χ) :
    ((F.serving D).step e f).1 = (D.run (F.events e) f).1 ∧
      F.Serves (h' ++ ((F.serving D).step e f).2) (h ++ (D.run (F.events e) f).2) := by
  match e with
  | .act .start => simpa [events, Durable.run] using step_start hh f
  | .act (.call i c) => exact step_call hh f i c
  | .crash a k x =>
      obtain ⟨a', k', hevents, hflight, hreached⟩ := reached_eq (F := F) (D := D) f k a x
      rw [hevents]
      simp only [Durable.run, Durable.step, List.append_nil, hreached, hflight]
      exact ⟨by trivial, .cut _ hh⟩

end Steps

theorem run_append (D : Durable σ ω κ ε ι α χ) : ∀ (es es' : List (Event ι χ)) (f : Fleet σ ω),
    D.run (es ++ es') f = ((D.run es' (D.run es f).1).1, (D.run es f).2 ++ (D.run es' (D.run es f).1).2)
  | [], es', f => rfl
  | e :: es, es', f => by
      rw [List.cons_append, Durable.run, run_append D es es', Durable.run]
      simp only [List.append_assoc]

/-- **A run in front of a component is a run of the component.** -/
theorem run_eq (F : Front ε ι α ι' α') (D : Durable σ ω κ ε ι α χ) (es : List (Event ι' χ))
    (f : Fleet σ ω) : ((F.serving D).run es f).1 = (D.run (es.flatMap F.events) f).1 ∧
      F.Serves ((F.serving D).run es f).2 (D.run (es.flatMap F.events) f).2 := by
  have hrun : ∀ (es : List (Event ι' χ)) {h' h} (f : Fleet σ ω), F.Serves h' h →
      ((F.serving D).run es f).1 = (D.run (es.flatMap F.events) f).1 ∧
        F.Serves (h' ++ ((F.serving D).run es f).2) (h ++ (D.run (es.flatMap F.events) f).2) := by
    intro es
    induction es with
    | nil => exact fun f hh => ⟨rfl, by simpa [Durable.run] using hh⟩
    | cons e es ih =>
        intro h' h f hh
        obtain ⟨hfleet, hreports⟩ := step_eq (D := D) hh f e
        obtain ⟨hfleet', hreports'⟩ := ih ((F.serving D).step e f).1 hreports
        rw [List.flatMap_cons, run_append, Durable.run, ← hfleet]
        exact ⟨hfleet', by simpa only [List.append_assoc] using hreports'⟩
  simpa using hrun es f .nil

/-! ## Answers in order -/

/-- A request that became a call, and the report of that call. -/
def AskedAs (F : Front ε ι α ι' α') (r' : Report ε ι' α') (r : Report ε ι α) : Prop :=
  ∃ c call res, r' = .answered c (.ok (F.answer c res)) ∧ F.ask c = .inr call ∧
    r = .answered call res

def IsAsked (F : Front ε ι α ι' α') (r' : Report ε ι' α') : Prop :=
  ∃ c call a, r' = .answered c a ∧ F.ask c = .inr call

theorem sublist_concat {β : Type} {l l' : List β} {x : β} (h : l.Sublist (l' ++ [x])) :
    l.Sublist l' ∨ ∃ m, l = m ++ [x] ∧ m.Sublist l' := by
  obtain ⟨m, n, rfl, hm, hn⟩ := List.sublist_append_iff.mp h
  rcases List.sublist_singleton.mp hn with rfl | rfl
  · exact .inl (by simpa using hm)
  · exact .inr ⟨m, rfl, hm⟩

/-- Requests that became calls were answered in the order of the calls. -/
theorem Serves.sublist {h' : List (Report ε ι' α')} {h : List (Report ε ι α)} (hh : F.Serves h' h) :
    ∀ {l' : List (Report ε ι' α')}, l'.Sublist h' → (∀ r ∈ l', F.IsAsked r) →
      ∃ l, l.Sublist h ∧ List.Forall₂ F.AskedAs l' l := by
  induction hh with
  | nil =>
      intro l' hl _
      obtain rfl := List.sublist_nil.mp hl
      exact ⟨[], .refl _, .nil⟩
  | @started h' h r _ ih | @cut h' h c _ ih =>
      intro l' hl hasked
      rcases sublist_concat hl with hl | ⟨m, rfl, -⟩
      · obtain ⟨l, hsub, hpairs⟩ := ih hl hasked
        exact ⟨l, hsub.trans (List.sublist_append_left _ _), hpairs⟩
      · obtain ⟨_, _, _, hr, -⟩ := hasked _ (List.mem_append_right _ (List.mem_singleton_self _))
        cases hr
  | @own h' h c a hask _ ih =>
      intro l' hl hasked
      rcases sublist_concat hl with hl | ⟨m, rfl, -⟩
      · exact ih hl hasked
      · obtain ⟨_, _, _, hr, hask'⟩ := hasked _ (List.mem_append_right _ (List.mem_singleton_self _))
        cases hr
        cases hask.symm.trans hask'
  | @asked h' h c call r hask _ ih =>
      intro l' hl hasked
      rcases sublist_concat hl with hl | ⟨m, rfl, hm⟩
      · obtain ⟨l, hsub, hpairs⟩ := ih hl hasked
        exact ⟨l, hsub.trans (List.sublist_append_left _ _), hpairs⟩
      · obtain ⟨l, hsub, hpairs⟩ := ih hm fun r hr => hasked r (List.mem_append_left _ hr)
        refine ⟨l ++ [.answered call r], hsub.append (.refl _), ?_⟩
        exact List.rel_append hpairs (.cons ⟨c, call, r, rfl, hask, rfl⟩ .nil)

/-! ## What was seen before -/

section Before

variable {h' : List (Report ε ι' α')} {h : List (Report ε ι α)}

theorem Serves.before {r' : Report ε ι' α'} (hh : F.Serves (h' ++ [r']) h) :
    ∃ g g', h = g ++ g' ∧ F.Serves h' g := by
  generalize hl : h' ++ [r'] = l at hh
  cases hh with
  | nil => exact absurd (congrArg List.length hl) (by simp)
  | @own _ _ _ _ _ hh =>
      obtain ⟨rfl, -⟩ := List.append_inj' hl rfl
      exact ⟨h, [], (List.append_nil _).symm, hh⟩
  | started _ hh | asked _ _ hh | cut _ hh =>
      obtain ⟨rfl, -⟩ := List.append_inj' hl rfl
      exact ⟨_, _, rfl, hh⟩

theorem Serves.earlier {later : List (Report ε ι' α')} (hh : F.Serves (h' ++ later) h) :
    ∃ g g', h = g ++ g' ∧ F.Serves h' g := by
  induction later using List.reverseRecOn generalizing h with
  | nil => exact ⟨h, [], (List.append_nil _).symm, by simpa using hh⟩
  | append_singleton later x ih =>
      rw [← List.append_assoc] at hh
      obtain ⟨g, g', rfl, hg⟩ := hh.before
      obtain ⟨k, k', rfl, hk⟩ := ih hg
      exact ⟨k, k' ++ g', List.append_assoc .., hk⟩

theorem Serves.last {c : ι'} {call : ι} {a : Except ε α'} (hh : F.Serves (h' ++ [.answered c a]) h)
    (hask : F.ask c = .inr call) :
    ∃ g r, h = g ++ [.answered call r] ∧ a = .ok (F.answer c r) ∧ F.Serves h' g := by
  generalize hl : h' ++ [.answered c a] = l at hh
  cases hh with
  | nil => exact absurd (congrArg List.length hl) (by simp)
  | started _ hh | cut _ hh =>
      obtain ⟨-, hlast⟩ := List.append_inj' hl rfl
      cases hlast
  | @own _ _ c' _ hown hh =>
      obtain ⟨-, hlast⟩ := List.append_inj' hl rfl
      cases hlast
      cases hask.symm.trans hown
  | @asked _ g _ _ r hask' hh =>
      obtain ⟨rfl, hlast⟩ := List.append_inj' hl rfl
      cases hlast
      obtain rfl := Sum.inr.inj (hask.symm.trans hask')
      exact ⟨g, r, rfl, rfl, hh⟩

/-- A call was a request, and was answered or cut short with it. -/
theorem Serves.requested (hh : F.Serves h' h) :
    (∀ call r, .answered call r ∈ h → ∃ c a, .answered c a ∈ h' ∧ F.ask c = .inr call) ∧
      ∀ call, .cut (some call) ∈ h → ∃ c, .cut (some c) ∈ h' ∧ F.ask c = .inr call := by
  have hkeep : ∀ {h' h'' : List (Report ε ι' α')} {call : ι}, 
      (∃ c a, .answered c a ∈ h' ∧ F.ask c = .inr call) →
        ∃ c a, .answered c a ∈ h' ++ h'' ∧ F.ask c = .inr call := by
    rintro h' h'' call ⟨c, a, hmem, hask⟩
    exact ⟨c, a, List.mem_append_left _ hmem, hask⟩
  have hkeep' : ∀ {h' h'' : List (Report ε ι' α')} {call : ι},
      (∃ c, .cut (some c) ∈ h' ∧ F.ask c = .inr call) →
        ∃ c, .cut (some c) ∈ h' ++ h'' ∧ F.ask c = .inr call := by
    rintro h' h'' call ⟨c, hmem, hask⟩
    exact ⟨c, List.mem_append_left _ hmem, hask⟩
  induction hh with
  | nil => exact ⟨fun _ _ h => absurd h List.not_mem_nil, fun _ h => absurd h List.not_mem_nil⟩
  | own _ _ ih => exact ⟨fun call r hr => hkeep (ih.1 call r hr), fun call hr => hkeep' (ih.2 call hr)⟩
  | started _ _ ih =>
      refine ⟨fun call r hr => ?_, fun call hr => ?_⟩
      · rcases List.mem_append.mp hr with hr | hr
        · exact hkeep (ih.1 call r hr)
        · cases List.mem_singleton.mp hr
      · rcases List.mem_append.mp hr with hr | hr
        · exact hkeep' (ih.2 call hr)
        · cases List.mem_singleton.mp hr
  | @asked h' h c call r hask _ ih =>
      refine ⟨fun call' r' hr => ?_, fun call' hr => ?_⟩
      · rcases List.mem_append.mp hr with hr | hr
        · exact hkeep (ih.1 call' r' hr)
        · cases List.mem_singleton.mp hr
          exact ⟨c, _, List.mem_append_right _ (List.mem_singleton_self _), hask⟩
      · rcases List.mem_append.mp hr with hr | hr
        · exact hkeep' (ih.2 call' hr)
        · cases List.mem_singleton.mp hr
  | @cut h' h c _ ih =>
      refine ⟨fun call' r' hr => ?_, fun call' hr => ?_⟩
      · rcases List.mem_append.mp hr with hr | hr
        · exact hkeep (ih.1 call' r' hr)
        · cases List.mem_singleton.mp hr
      · rcases List.mem_append.mp hr with hr | hr
        · exact hkeep' (ih.2 call' hr)
        · have hcut := Report.cut.inj (List.mem_singleton.mp hr)
          obtain ⟨c, rfl, hcall⟩ := Option.bind_eq_some_iff.mp hcut.symm
          refine ⟨c, List.mem_append_right _ (List.mem_singleton_self _), ?_⟩
          cases hask : F.ask c with
          | inl a => cases (call?_of_inl hask).symm.trans hcall
          | inr call => rw [Option.some.inj ((call?_of_inr hask).symm.trans hcall)]

end Before

end Front

end CyberiaVpn.Effects
