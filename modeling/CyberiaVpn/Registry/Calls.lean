import CyberiaVpn.Effects.Machine
import CyberiaVpn.Registry.MemoryRegistry

/-!
# Calls to the node registry

Any number of clients call `Register`, `Transition`, `Get` and `List`; a
run is the list of their calls in the order of the registry's lock.
`Effect` says once what a call can do and `step_effect` that there is
nothing else.
-/

namespace CyberiaVpn.Registry

open Control Data Effects

inductive Op where
  | register (node : Node)
  | transition (id : Text) (expected target : Status)
  | get (id : Text)
  | list (order : RangeOrder Text Node)

inductive Answer where
  | done
  | node (node : Node)
  | nodes (nodes : List Node)
  deriving DecidableEq

abbrev Reply := Except RegistryError Answer

def step (registry : MemoryRegistry) : Op → Option (Reply × MemoryRegistry)
  | .register node =>
      (registry.register node).map fun (r, registry) => (r.map fun _ => .done, registry)
  | .transition id expected target =>
      (registry.transition id expected target).map fun (r, registry) =>
        (r.map fun _ => .done, registry)
  | .get id => some ((registry.get id).map .node, registry)
  | .list order => some (.ok (.nodes (registry.list order)), registry)

/-- A call to the registry in a run. -/
abbrev Call := Turn MemoryRegistry Op Reply

/-! ## What a call does -/

inductive Effect (registry : MemoryRegistry) : Op → Reply → MemoryRegistry → Prop where
  | registered {node : Node} (valid : node.validate = .ok ())
      (absent : registry.nodes.read.lookup node.id = none) :
      Effect registry (.register node) (.ok .done)
        ⟨some (registry.nodes.read.insert node.id node)⟩
  | moved {id : Text} {target : Status} {node : Node}
      (present : registry.nodes.read.lookup id = some node)
      (allowed : transitionAllowed node.status target = true) :
      Effect registry (.transition id node.status target) (.ok .done)
        ⟨some (registry.nodes.read.insert id { node with status := target })⟩
  | got {id : Text} {node : Node} (present : registry.nodes.read.lookup id = some node) :
      Effect registry (.get id) (.ok (.node node)) registry
  | listed {order : RangeOrder Text Node} :
      Effect registry (.list order) (.ok (.nodes (registry.list order))) registry
  /-- `Get` is refused only for want of the node. -/
  | refused {op : Op} {e : RegistryError}
      (missing : ∀ id, op = .get id → registry.nodes.read.lookup id = none) :
      Effect registry op (.error e) registry

section

variable {registry registry' : MemoryRegistry} {op : Op} {r : Reply}

theorem assign_eq_some {nodes nodes' : GoMap Text Node} {id : Text} {node : Node}
    (h : nodes.assign id node = some nodes') : nodes' = some (nodes.read.insert id node) := by
  obtain ⟨t, rfl, rfl⟩ := Option.map_eq_some_iff.mp h
  rfl

theorem register_effect {node : Node} {r : Except RegistryError Unit}
    (h : registry.register node = some (r, registry')) :
    Effect registry (.register node) (r.map fun _ => .done) registry' := by
  rw [MemoryRegistry.register] at h
  split at h
  · obtain ⟨rfl, rfl⟩ := Prod.mk.inj (Option.some.inj h)
    exact Effect.refused nofun
  next hvalid =>
  split at h
  · obtain ⟨rfl, rfl⟩ := Prod.mk.inj (Option.some.inj h)
    exact Effect.refused nofun
  next habsent =>
  obtain ⟨nodes, hassign, h⟩ := Option.map_eq_some_iff.mp h
  obtain ⟨rfl, rfl⟩ := Prod.mk.inj h
  rw [assign_eq_some hassign]
  exact Effect.registered hvalid (by simpa using habsent)

theorem transition_effect {id : Text} {expected target : Status} {r : Except RegistryError Unit}
    (h : registry.transition id expected target = some (r, registry')) :
    Effect registry (.transition id expected target) (r.map fun _ => .done) registry' := by
  rw [MemoryRegistry.transition] at h
  split at h
  · obtain ⟨rfl, rfl⟩ := Prod.mk.inj (Option.some.inj h)
    exact Effect.refused nofun
  next node hpresent =>
  split at h
  · obtain ⟨rfl, rfl⟩ := Prod.mk.inj (Option.some.inj h)
    exact Effect.refused nofun
  next hstatus =>
  split at h
  · obtain ⟨rfl, rfl⟩ := Prod.mk.inj (Option.some.inj h)
    exact Effect.refused nofun
  next hallowed =>
  obtain ⟨nodes, hassign, h⟩ := Option.map_eq_some_iff.mp h
  obtain ⟨rfl, rfl⟩ := Prod.mk.inj h
  rw [assign_eq_some hassign]
  obtain rfl : node.status = expected := not_ne_iff.mp hstatus
  exact Effect.moved hpresent (by simpa using hallowed)

theorem step_effect (h : step registry op = some (r, registry')) :
    Effect registry op r registry' := by
  cases op with
  | register node =>
      obtain ⟨⟨r', registry''⟩, hcall, h⟩ := Option.map_eq_some_iff.mp h
      obtain ⟨rfl, rfl⟩ := Prod.mk.inj h
      exact register_effect hcall
  | transition id expected target =>
      obtain ⟨⟨r', registry''⟩, hcall, h⟩ := Option.map_eq_some_iff.mp h
      obtain ⟨rfl, rfl⟩ := Prod.mk.inj h
      exact transition_effect hcall
  | get id =>
      obtain ⟨rfl, rfl⟩ := Prod.mk.inj (Option.some.inj h)
      rw [MemoryRegistry.get]
      split
      next hmissing =>
        refine Effect.refused fun id' heq => ?_
        obtain rfl : id = id' := Op.get.inj heq
        exact hmissing
      next node hpresent => exact Effect.got hpresent
  | list order =>
      obtain ⟨rfl, rfl⟩ := Prod.mk.inj (Option.some.inj h)
      exact Effect.listed

/-- A call panics only if it has to write to a map that was never made. -/
theorem step_eq_none (h : step registry op = none) :
    registry.nodes = none ∧ ∃ node, op = .register node ∧ node.validate = .ok () := by
  have hassign : ∀ {id node}, registry.nodes.assign id node = none → registry.nodes = none :=
    fun h => Option.map_eq_none_iff.mp h
  cases op with
  | register node =>
      have h := Option.map_eq_none_iff.mp h
      rw [MemoryRegistry.register] at h
      split at h
      · cases h
      next hvalid =>
      split at h
      · cases h
      exact ⟨hassign (Option.map_eq_none_iff.mp h), node, rfl, hvalid⟩
  | transition id expected target =>
      have h := Option.map_eq_none_iff.mp h
      rw [MemoryRegistry.transition] at h
      split at h
      · cases h
      next node hpresent =>
      split at h
      · cases h
      split at h
      · cases h
      rw [hassign (Option.map_eq_none_iff.mp h)] at hpresent
      exact absurd hpresent (by simp)
  | get id => cases h
  | list order => cases h

end

/-! ## What is always so -/

/-- The map has been made and files each node under its own ID. -/
structure Sound (registry : MemoryRegistry) : Prop where
  made : registry.nodes ≠ none
  keyed : ∀ id node, registry.nodes.read.lookup id = some node → node.id = id

theorem sound_new : Sound MemoryRegistry.new := ⟨nofun, fun _ _ h => by cases h⟩

section

variable {registry registry' : MemoryRegistry} {op : Op} {r : Reply}

theorem Sound.insert (h : Sound registry) (node : Node) :
    Sound ⟨some (registry.nodes.read.insert node.id node)⟩ := by
  refine ⟨nofun, fun id other hother => ?_⟩
  by_cases hid : id = node.id
  · subst hid
    rw [GoMap.read_some, AList.lookup_insert] at hother
    rw [← Option.some.inj hother]
  · rw [GoMap.read_some, AList.lookup_insert_ne hid] at hother
    exact h.keyed id other hother

theorem Effect.sound (h : Effect registry op r registry') (hs : Sound registry) :
    Sound registry' := by
  cases h with
  | registered _ _ => exact hs.insert _
  | @moved id target node present _ =>
      obtain rfl := hs.keyed id node present
      exact hs.insert { node with status := target }
  | got _ | listed | refused _ => exact hs

theorem sound_step (hs : Sound registry) (h : step registry op = some (r, registry')) :
    Sound registry' :=
  (step_effect h).sound hs

theorem sound_total (hs : Sound registry) (op : Op) :
    ∃ r registry', step registry op = some (r, registry') ∧ Sound registry' := by
  cases h : step registry op with
  | none => exact absurd (step_eq_none h).1 hs.made
  | some next => exact ⟨next.1, next.2, rfl, sound_step hs h⟩

end

/-! ## Listing -/

section

variable {registry : MemoryRegistry} {order : RangeOrder Text Node}

theorem list_perm : (registry.list order).Perm (registry.nodes.read.entries.map (·.2)) :=
  (List.mergeSort_perm _ _).trans ((order.perm _).map _)

/-- What is listed is what is there. -/
theorem mem_list (hs : Sound registry) {node : Node} :
    node ∈ registry.list order ↔ registry.nodes.read.lookup node.id = some node := by
  rw [list_perm.mem_iff, ← Option.mem_def, AList.mem_lookup_iff]
  constructor
  · intro h
    obtain ⟨⟨id, other⟩, hentry, rfl⟩ := List.mem_map.mp h
    obtain rfl : other.id = id := hs.keyed id other (AList.mem_lookup_iff.mpr hentry)
    exact hentry
  · exact fun h => List.mem_map.mpr ⟨_, h, rfl⟩

theorem list_ids_nodup (hs : Sound registry) : ((registry.list order).map Node.id).Nodup := by
  have hkeys : (registry.nodes.read.entries.map (·.2)).map Node.id = registry.nodes.read.keys := by
    rw [List.map_map]
    refine List.map_congr_left fun entry hentry => ?_
    exact hs.keyed entry.1 entry.2 (AList.mem_lookup_iff.mpr hentry)
  rw [(list_perm.map Node.id).nodup_iff, hkeys]
  exact AList.keys_nodup _

/-- Strictly increasing: the sort allows equal neighbours, distinct IDs do
not. -/
theorem list_sorted (hs : Sound registry) :
    (registry.list order).Pairwise fun left right => compare left.id right.id = .lt := by
  have hle : (registry.list order).Pairwise fun left right =>
      (compare left.id right.id).isLE = true := by
    refine List.pairwise_mergeSort (fun a b c hab hbc => ?_) (fun a b => ?_) _
    · exact Std.TransCmp.isLE_trans hab hbc
    · have hswap : compare b.id a.id = (compare a.id b.id).swap := Std.OrientedCmp.eq_swap
      rw [hswap]
      cases compare a.id b.id <;> rfl
  have hne : (registry.list order).Pairwise fun left right => left.id ≠ right.id :=
    List.pairwise_map.mp (list_ids_nodup hs)
  refine (hle.and hne).imp fun {left right} h => ?_
  cases hcompare : compare left.id right.id with
  | lt => rfl
  | eq => exact absurd (Std.LawfulEqOrd.eq_of_compare hcompare) h.2
  | gt => rw [hcompare] at h; exact absurd h.1 (by decide)

end

end CyberiaVpn.Registry
