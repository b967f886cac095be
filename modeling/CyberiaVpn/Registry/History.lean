import CyberiaVpn.Registry.Calls

/-!
# Histories of nodes

What a run of the registry means for each node. A call changes the status
of a node when it registers it or moves it (`changes_cases`), and either
way it answers that it did. So the statuses a node goes through are those
of a path (`history_isChain`), and between two moves out of one status
there is a change back into it (`changed_between`). `Lawful` collects what
a run guarantees.
-/

namespace CyberiaVpn.Registry

open Control Data Effects

/-! ## Statuses and their changes -/

def status (id : Text) (registry : MemoryRegistry) : Option Status :=
  (registry.nodes.read.lookup id).map Node.status

/-- The node a call registers under an ID. -/
def registration (id : Text) (call : Call) : Option Node :=
  match call.op, call.answer with
  | .register node, .ok _ => if node.id = id then some node else none
  | _, _ => none

/-- A `Transition` that succeeds. -/
def Moves (id : Text) (expected : Status) (call : Call) : Prop :=
  (∃ target, call.op = .transition id expected target) ∧ ∃ a, call.answer = .ok a

def Changes (id : Text) (call : Call) : Prop := status id call.before ≠ status id call.after

instance (id : Text) (call : Call) : Decidable (Changes id call) := inferInstanceAs (Decidable (_ ≠ _))

/-- The statuses a run gives a node, one for each change. -/
def statusHistory (id : Text) (run : List Call) : List Status :=
  run.filterMap fun call => if Changes id call then status id call.after else none

/-- The node as it was first registered. -/
def registered (id : Text) (run : List Call) : Option Node := run.findSome? (registration id)

/-! ## What a run guarantees -/

/-- How a call may treat the entry of an ID: a call that is not about the
ID leaves it. -/
inductive Touched (id : Text) (call : Call) : Prop where
  | kept (h : call.after.nodes.read.lookup id = call.before.nodes.read.lookup id)
  | added {node : Node} (fresh : call.before.nodes.read.lookup id = none)
      (request : registration id call = some node)
      (h : call.after.nodes.read.lookup id = some node)
  | moved {node : Node} {target : Status} (success : Moves id node.status call)
      (present : call.before.nodes.read.lookup id = some node)
      (allowed : transitionAllowed node.status target = true)
      (h : call.after.nodes.read.lookup id = some { node with status := target })

/-- What a quarantined node lets later calls do. -/
structure Terminal (id : Text) (call : Call) : Prop where
  transition : ∀ expected, ¬Moves id expected call
  register : registration id call = none
  get : call.op = .get id →
    ∃ node, call.answer = .ok (.node node) ∧ node.status = .quarantined

structure Lawful (run : List Call) : Prop where
  path : ∀ id, (statusHistory id run).IsChain fun s s' => transitionAllowed s s' = true
  start : ∀ id, (statusHistory id run).head? = (registered id run).map (·.status)
  /-- Two successes that expected the same status have a change between
  them, apart from the ones they make. -/
  noLostUpdate : ∀ id expected pre first mid second post,
    run = pre ++ first :: (mid ++ second :: post) → Moves id expected first →
    Moves id expected second → Changes id first ∧ Changes id second ∧ ∃ call ∈ mid, Changes id call
  terminal : ∀ id pre call post, run = pre ++ call :: post →
    status id call.after = some .quarantined → ∀ later ∈ post, Terminal id later
  touched : ∀ call ∈ run, ∀ id, Touched id call
  failed : ∀ call ∈ run, ∀ e, call.answer = .error e → call.after = call.before
  list : ∀ pre call post order, run = pre ++ call :: post → call.op = .list order →
    ∃ nodes, call.answer = .ok (.nodes nodes) ∧
      nodes.Pairwise (fun left right => compare left.id right.id = .lt) ∧
      (∀ node, node ∈ nodes ↔ call.before.nodes.read.lookup node.id = some node) ∧
      ∀ id, id ∈ nodes.map Node.id ↔ (registered id pre).isSome = true

/-! ## One call -/

section

variable {id : Text} {call : Call} {expected : Status} {node : Node}

theorem ne_of_transitionAllowed {s s' : Status} (h : transitionAllowed s s' = true) : s ≠ s' := by
  rintro rfl
  cases s <;> simp [transitionAllowed] at h

theorem touched (id : Text)
    (h : step call.before call.op = some (call.answer, call.after)) :
    Touched id call := by
  obtain ⟨before, op, answer, after⟩ := call
  have heffect : Effect before op answer after := step_effect h
  cases heffect with
  | @registered node _ absent =>
      by_cases hid : id = node.id
      · subst hid
        exact Touched.added absent (if_pos rfl) (AList.lookup_insert _)
      · exact Touched.kept (AList.lookup_insert_ne hid)
  | @moved id' target node present allowed =>
      by_cases hid : id = id'
      · subst hid
        exact Touched.moved ⟨⟨target, rfl⟩, _, rfl⟩ present allowed (AList.lookup_insert _)
      · exact Touched.kept (AList.lookup_insert_ne hid)
  | got _ | listed | refused _ => exact Touched.kept rfl

/-- A registration that succeeds gives a new ID its first status. -/
theorem status_of_registration (h : step call.before call.op = some (call.answer, call.after))
    (hnode : registration id call = some node) :
    status id call.before = none ∧ status id call.after = some node.status := by
  obtain ⟨before, op, answer, after⟩ := call
  have heffect : Effect before op answer after := step_effect h
  cases heffect with
  | @registered node' _ absent =>
      simp only [registration] at hnode
      split at hnode
      next hid =>
        obtain rfl := Option.some.inj hnode
        subst hid
        exact ⟨by simp [status, absent], by simp [status]⟩
      next => cases hnode
  | moved _ _ | got _ | listed | refused _ => simp [registration] at hnode

/-- A transition that succeeds takes the node from the status it expected
along an edge. -/
theorem status_of_moves (h : step call.before call.op = some (call.answer, call.after))
    (hmoves : Moves id expected call) :
    status id call.before = some expected ∧
      ∃ target, status id call.after = some target ∧ transitionAllowed expected target = true := by
  obtain ⟨before, op, answer, after⟩ := call
  obtain ⟨⟨target, hop⟩, a, ha⟩ := hmoves
  have heffect : Effect before op answer after := step_effect h
  cases heffect with
  | @moved id' target' node present allowed =>
      obtain ⟨rfl, rfl, rfl⟩ := Op.transition.inj hop
      exact ⟨by simp [status, present], target', by simp [status], allowed⟩
  | registered _ _ | got _ | listed => cases hop
  | refused _ => cases ha

/-- There is no other way to change a status. -/
theorem changes_cases (h : step call.before call.op = some (call.answer, call.after))
    (hchanges : Changes id call) :
    (∃ node, registration id call = some node) ∨ ∃ expected, Moves id expected call := by
  cases touched id h with
  | kept hkept => exact absurd (congrArg (Option.map Node.status) hkept.symm) hchanges
  | added _ request _ => exact Or.inl ⟨_, request⟩
  | moved success _ _ _ => exact Or.inr ⟨_, success⟩

theorem changes_of_moves (h : step call.before call.op = some (call.answer, call.after))
    (hmoves : Moves id expected call) : Changes id call := by
  obtain ⟨hbefore, target, hafter, hallowed⟩ := status_of_moves h hmoves
  rw [Changes, hbefore, hafter]
  exact fun heq => ne_of_transitionAllowed hallowed (Option.some.inj heq)

theorem failed_unchanged (h : step call.before call.op = some (call.answer, call.after))
    {e : RegistryError} (hfailed : call.answer = .error e) : call.after = call.before := by
  obtain ⟨before, op, answer, after⟩ := call
  have heffect : Effect before op answer after := step_effect h
  cases heffect with
  | registered _ _ | moved _ _ => cases hfailed
  | got _ | listed | refused _ => rfl

theorem quarantined_stays (h : step call.before call.op = some (call.answer, call.after))
    (hs : status id call.before = some .quarantined) : status id call.after = some .quarantined := by
  by_contra hne
  have hchanges : Changes id call := fun heq => hne (heq ▸ hs)
  rcases changes_cases h hchanges with ⟨node, hnode⟩ | ⟨expected, hmoves⟩
  · rw [(status_of_registration h hnode).1] at hs
    cases hs
  · obtain ⟨hbefore, target, -, hallowed⟩ := status_of_moves h hmoves
    obtain rfl : expected = .quarantined := Option.some.inj (hbefore.symm.trans hs)
    cases hallowed

theorem terminal (h : step call.before call.op = some (call.answer, call.after))
    (hs : status id call.before = some .quarantined) : Terminal id call := by
  refine ⟨fun expected hmoves => ?_, ?_, fun hget => ?_⟩
  · obtain ⟨hbefore, target, -, hallowed⟩ := status_of_moves h hmoves
    obtain rfl : expected = .quarantined := Option.some.inj (hbefore.symm.trans hs)
    cases hallowed
  · cases hnode : registration id call with
    | none => rfl
    | some node =>
        rw [(status_of_registration h hnode).1] at hs
        cases hs
  · obtain ⟨node, hnode, hstatus⟩ := Option.map_eq_some_iff.mp hs
    obtain ⟨before, op, answer, after⟩ := call
    obtain rfl : op = .get id := hget
    have heffect : Effect before (.get id) answer after := step_effect h
    cases heffect with
    | got present =>
        obtain rfl := Option.some.inj (present.symm.trans hnode)
        exact ⟨_, rfl, hstatus⟩
    | refused missing =>
        rw [missing id rfl] at hnode
        cases hnode

end

/-! ## Whole runs -/

section

variable {id : Text} {registry : MemoryRegistry} {run : List Call}

theorem statusHistory_cons (call : Call) (run : List Call) :
    statusHistory id (call :: run) =
      (if Changes id call then status id call.after else none).toList ++ statusHistory id run := by
  rw [statusHistory, List.filterMap_cons]
  split <;> simp_all [statusHistory]

/-- The path continues from the status the node has. -/
theorem history_isChain (id : Text) (h : Linked step registry run) :
    ((status id registry).toList ++ statusHistory id run).IsChain
      fun s s' => transitionAllowed s s' = true := by
  induction h with
  | nil s => cases status id s <;> simp [statusHistory]
  | @cons s s' op r run hstep hrun ih =>
      have hcall : step (Turn.mk s op r s').before op = some (r, s') := hstep
      rw [statusHistory_cons]
      split
      next hchanges =>
        rcases changes_cases hcall hchanges with ⟨node, hnode⟩ | ⟨expected, hmoves⟩
        · rw [(status_of_registration hcall hnode).1]
          exact ih
        · obtain ⟨hbefore, target, hafter, hallowed⟩ := status_of_moves hcall hmoves
          rw [hbefore, hafter]
          rw [hafter] at ih
          exact List.isChain_cons_cons.mpr ⟨hallowed, ih⟩
      next hsame =>
        have hsame : status id s = status id s' := not_ne_iff.mp hsame
        rw [hsame]
        exact ih

/-- It starts at the status the node was registered with. -/
theorem history_head (h : Linked step registry run) (habsent : status id registry = none) :
    (statusHistory id run).head? = (registered id run).map (·.status) := by
  induction h with
  | nil s => rfl
  | @cons s s' op r run hstep hrun ih =>
      have hcall : step (Turn.mk s op r s').before op = some (r, s') := hstep
      rw [statusHistory_cons, registered, List.findSome?_cons]
      cases hnode : registration id ⟨s, op, r, s'⟩ with
      | some node =>
          obtain ⟨hbefore, hafter⟩ := status_of_registration hcall hnode
          have hchanges : Changes id ⟨s, op, r, s'⟩ := by
            rw [Changes, hbefore, hafter]
            nofun
          rw [if_pos hchanges, hafter]
          rfl
      | none =>
          have hsame : ¬Changes id ⟨s, op, r, s'⟩ := by
            intro hchanges
            rcases changes_cases hcall hchanges with ⟨node, hnode'⟩ | ⟨expected, hmoves⟩
            · rw [hnode] at hnode'
              cases hnode'
            · have hbefore := (status_of_moves hcall hmoves).1
              rw [habsent] at hbefore
              cases hbefore
          rw [if_neg hsame]
          exact ih ((not_ne_iff.mp hsame).symm.trans habsent)

/-- Without a change the status stays until the next call. -/
theorem status_unchanged {second : Call} {post : List Call} : ∀ {mid : List Call}
    {registry : MemoryRegistry}, Linked step registry (mid ++ second :: post) →
    (∀ call ∈ mid, ¬Changes id call) → status id second.before = status id registry
  | [], _, h, _ => congrArg (status id) h.of_cons.1
  | call :: mid, _, h, hmid => by
      obtain ⟨hbefore, -, hrest⟩ := h.of_cons
      rw [status_unchanged hrest fun c hc => hmid c (List.mem_cons_of_mem _ hc), ← hbefore]
      exact (not_ne_iff.mp (hmid call (List.mem_cons_self ..))).symm

theorem changed_between {first second : Call} {mid post : List Call} {expected : Status}
    (hfirst : step first.before first.op = some (first.answer, first.after))
    (hrest : Linked step first.after (mid ++ second :: post))
    (hsecond : step second.before second.op = some (second.answer, second.after))
    (h1 : Moves id expected first) (h2 : Moves id expected second) :
    ∃ call ∈ mid, Changes id call := by
  by_contra hnone
  have hkept : status id second.before = status id first.after :=
    status_unchanged hrest fun call hcall hchanges => hnone ⟨call, hcall, hchanges⟩
  obtain ⟨-, target, hafter, hallowed⟩ := status_of_moves hfirst h1
  rw [(status_of_moves hsecond h2).1, hafter] at hkept
  exact ne_of_transitionAllowed hallowed (Option.some.inj hkept)

/-- A node is there once it has been registered. -/
theorem present_iff (id : Text) {call : Call} {post : List Call} : ∀ {pre : List Call}
    {registry : MemoryRegistry}, Linked step registry (pre ++ call :: post) →
    ((status id call.before).isSome = true ↔
      (status id registry).isSome = true ∨ (registered id pre).isSome = true)
  | [], _, h => by simp [h.of_cons.1, registered]
  | first :: pre, registry, h => by
      obtain ⟨hbefore, hstep, hrest⟩ := h.of_cons
      rw [present_iff id hrest, registered, registered, List.findSome?_cons, ← hbefore]
      cases hnode : registration id first with
      | some node => simp [(status_of_registration hstep hnode).2]
      | none =>
          have hsame : (status id first.after).isSome = (status id first.before).isSome := by
            by_cases hchanges : Changes id first
            · rcases changes_cases hstep hchanges with ⟨node, hnode'⟩ | ⟨expected, hmoves⟩
              · rw [hnode] at hnode'
                cases hnode'
              · obtain ⟨hb, target, ha, -⟩ := status_of_moves hstep hmoves
                rw [hb, ha]
                rfl
            · rw [not_ne_iff.mp hchanges]
          rw [hsame]

theorem status_isSome {s : MemoryRegistry} :
    (status id s).isSome = true ↔ ∃ node, s.nodes.read.lookup id = some node := by
  rw [status, Option.isSome_map, Option.isSome_iff_exists]

theorem listing {pre post : List Call} {call : Call} {order : RangeOrder Text Node}
    (h : Linked step MemoryRegistry.new (pre ++ call :: post)) (hs : Sound call.before)
    (hstep : step call.before call.op = some (call.answer, call.after))
    (hop : call.op = .list order) :
    ∃ nodes, call.answer = .ok (.nodes nodes) ∧
      nodes.Pairwise (fun left right => compare left.id right.id = .lt) ∧
      (∀ node, node ∈ nodes ↔ call.before.nodes.read.lookup node.id = some node) ∧
      ∀ id, id ∈ nodes.map Node.id ↔ (registered id pre).isSome = true := by
  refine ⟨call.before.list order, ?_, list_sorted hs, fun node => mem_list hs, fun id => ?_⟩
  · rw [hop] at hstep
    exact ((Prod.mk.inj (Option.some.inj hstep)).1).symm
  · have hempty : status id MemoryRegistry.new = none := rfl
    have hpresent := present_iff id h
    simp only [hempty, Option.isSome_none, Bool.false_eq_true, false_or] at hpresent
    rw [← hpresent, status_isSome, List.mem_map]
    constructor
    · rintro ⟨node, hnode, rfl⟩
      exact ⟨node, (mem_list hs).mp hnode⟩
    · rintro ⟨node, hnode⟩
      obtain rfl := hs.keyed id node hnode
      exact ⟨node, (mem_list hs).mpr hnode, rfl⟩

end

/-- Whatever the clients call and in whatever order, the registry does not
panic and keeps the rules. -/
theorem memoryRegistry_histories (ops : List Op) :
    ∃ run, trace step MemoryRegistry.new ops = some run ∧ Lawful run := by
  obtain ⟨run, hrun⟩ := trace_total (fun _ op hs => sound_total hs op) ops sound_new
  have hlinked := linked_of_trace hrun
  have hstep : ∀ {pre call post}, run = pre ++ call :: post →
      Sound call.before ∧ step call.before call.op = some (call.answer, call.after) ∧
        Linked step call.after post :=
    hlinked.invariant (fun _ _ _ _ hs h => sound_step hs h) sound_new
  have hmem : ∀ call ∈ run, step call.before call.op = some (call.answer, call.after) := by
    intro call hcall
    obtain ⟨pre, post, hsplit⟩ := List.append_of_mem hcall
    exact (hstep hsplit).2.1
  refine ⟨run, hrun, ?_⟩
  exact {
    path := fun id => history_isChain id hlinked
    start := fun id => history_head hlinked rfl
    noLostUpdate := by
      intro id expected pre first mid second post hsplit h1 h2
      obtain ⟨-, hfirst, hrest⟩ := hstep hsplit
      have hsecond := hmem second (by simp [hsplit])
      exact ⟨changes_of_moves hfirst h1, changes_of_moves hsecond h2,
        changed_between hfirst hrest hsecond h1 h2⟩
    terminal := by
      intro id pre call post hsplit hquarantined later hlater
      obtain ⟨pre', post', hsplit'⟩ := List.append_of_mem hlater
      have hrest := (hstep hsplit).2.2
      have hstays : ∀ s op r s', status id s = some .quarantined →
          step s op = some (r, s') → status id s' = some .quarantined := by
        intro s op r s' hs h
        have hcall : step (Turn.mk s op r s').before op = some (r, s') := h
        exact quarantined_stays hcall hs
      obtain ⟨hbefore, hlaterStep, -⟩ := hrest.invariant hstays hquarantined hsplit'
      exact terminal hlaterStep hbefore
    touched := fun call hcall id => touched id (hmem call hcall)
    failed := fun call hcall e => failed_unchanged (hmem call hcall)
    list := by
      intro pre call post order hsplit hop
      obtain ⟨hs, hcall, -⟩ := hstep hsplit
      exact listing (hsplit ▸ hlinked) hs hcall hop }

end CyberiaVpn.Registry
