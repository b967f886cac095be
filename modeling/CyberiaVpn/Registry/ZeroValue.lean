import CyberiaVpn.Control.MemoryStore
import CyberiaVpn.Registry.Calls

/-!
# Zero values of the memory stores

A Go value can be used before any constructor has run. The zero value of
the configuration store behaves as the constructed one (`store_answers`),
because `Publish` makes the map it is about to write to. `Register` does
not, so the zero value of the registry is the constructed one only until
the first node that is valid (`registry_answers`), where it panics
(`registry_panics`).
-/

namespace CyberiaVpn.Registry

open Control Data Effects

/-! ## The configuration store -/

inductive StoreOp where
  | publish (envelope : SignedConfig)
  | latest (deviceID : Text)

/-- What a call returns; `Publish` has no value. -/
abbrev StoreReply := Except StoreError (Option SignedConfig)

def storeStep (store : MemoryStore) : StoreOp → Option (StoreReply × MemoryStore)
  | .publish envelope =>
      (store.publish envelope).map fun (r, store) => (r.map fun _ => none, store)
  | .latest deviceID => some ((store.latest deviceID).map some, store)

/-- Stores with the same entries, whether or not the map was made. -/
def SameEntries (store store' : MemoryStore) : Prop := store.devices.read = store'.devices.read

theorem publish_same {store store' : MemoryStore} (h : SameEntries store store')
    (envelope : SignedConfig) :
    ∃ r next next', store.publish envelope = some (r, next) ∧
      store'.publish envelope = some (r, next') ∧ SameEntries next next' := by
  have h : store.devices.read = store'.devices.read := h
  simp only [MemoryStore.publish, GoMap.assign_orMake, Option.map_some, h]
  split
  · exact ⟨_, store, store', rfl, rfl, h⟩
  · split
    · exact ⟨_, store, store', rfl, rfl, h⟩
    · exact ⟨_, _, _, rfl, rfl, rfl⟩

theorem storeStep_same {store store' : MemoryStore} (h : SameEntries store store') (op : StoreOp) :
    ∃ r next next', storeStep store op = some (r, next) ∧ storeStep store' op = some (r, next') ∧
      SameEntries next next' := by
  cases op with
  | publish envelope =>
      obtain ⟨r, next, next', hs, hs', hnext⟩ := publish_same h envelope
      exact ⟨_, next, next', by rw [storeStep, hs]; rfl, by rw [storeStep, hs']; rfl, hnext⟩
  | latest deviceID =>
      refine ⟨_, store, store', rfl, ?_, h⟩
      have h : store.devices.read = store'.devices.read := h
      simp only [storeStep, MemoryStore.latest, h]

theorem store_answers (ops : List StoreOp) :
    ∃ rs, answers storeStep .zero ops = some rs ∧ answers storeStep .new ops = some rs :=
  answers_eq (R := SameEntries) (P := fun _ => True) (fun _ _ op _ h => storeStep_same h op)
    (fun _ _ => trivial) rfl

/-! ## The registry -/

/-- A `Register` that gets past `Validate`. -/
def RegistersValid (op : Op) : Prop := ∃ node, op = .register node ∧ node.validate = .ok ()

/-- Without entries there is nothing to move. -/
theorem step_empty {registry : MemoryRegistry} (hempty : registry.nodes.read = ∅) {op : Op}
    (hop : ¬RegistersValid op) :
    ∃ r, step registry op = some (r, registry) ∧
      ∀ registry' : MemoryRegistry, registry'.nodes.read = ∅ →
        step registry' op = some (r, registry') := by
  cases op with
  | register node =>
      cases hvalid : node.validate with
      | ok _ => exact absurd ⟨node, rfl, hvalid⟩ hop
      | error err => simp [step, MemoryRegistry.register, hvalid]
  | transition id expected target =>
      have hmissing : ∀ registry' : MemoryRegistry, registry'.nodes.read = ∅ →
          step registry' (.transition id expected target) = some (.error .notFound, registry') := by
        intro registry' hempty'
        simp [step, MemoryRegistry.transition, hempty', Except.map]
      exact ⟨_, hmissing registry hempty, hmissing⟩
  | get id =>
      have hmissing : ∀ registry' : MemoryRegistry, registry'.nodes.read = ∅ →
          step registry' (.get id) = some (.error .notFound, registry') := by
        intro registry' hempty'
        simp [step, MemoryRegistry.get, hempty', Except.map]
      exact ⟨_, hmissing registry hempty, hmissing⟩
  | list order =>
      refine ⟨_, rfl, fun registry' hempty' => ?_⟩
      simp only [step, MemoryRegistry.list, GoMap.range, hempty, hempty']

theorem step_zero_panics {op : Op} (h : RegistersValid op) : step .zero op = none := by
  obtain ⟨node, rfl, hvalid⟩ := h
  simp [step, MemoryRegistry.register, MemoryRegistry.zero, hvalid, GoMap.assign]

theorem registry_answers {ops : List Op} (h : ∀ op ∈ ops, ¬RegistersValid op) :
    ∃ rs, answers step .zero ops = some rs ∧ answers step .new ops = some rs := by
  refine answers_eq (R := fun s t => s.nodes.read = ∅ ∧ t.nodes.read = ∅)
    (fun s t op hop hempty => ?_) h ⟨rfl, rfl⟩
  obtain ⟨r, hs, hall⟩ := step_empty hempty.1 hop
  exact ⟨r, s, t, hs, hall t hempty.2, hempty⟩

theorem registry_panics {ops : List Op} (h : ∃ op ∈ ops, RegistersValid op) :
    answers step .zero ops = none := by
  refine answers_eq_none (fun op hop => ?_) (fun op hop => step_zero_panics hop) h
  have hempty : MemoryRegistry.zero.nodes.read = ∅ := rfl
  obtain ⟨r, hr, -⟩ := step_empty hempty hop
  exact ⟨r, hr⟩

/-! ## Both stores -/

/-- The zero value answers as the constructed store does, without a
panic. -/
def Usable {σ ο ρ : Type} (step : σ → ο → Option (ρ × σ)) (zero new : σ) (ops : List ο) : Prop :=
  ∃ rs, answers step zero ops = some rs ∧ answers step new ops = some rs

theorem zeroValues_usable_iff (storeOps : List StoreOp) (registryOps : List Op) :
    (Usable storeStep .zero .new storeOps ∧ Usable step .zero .new registryOps) ↔
      ∀ node, .register node ∈ registryOps → node.validate ≠ .ok () := by
  constructor
  · rintro ⟨-, rs, hrs, -⟩ node hnode hvalid
    rw [registry_panics ⟨_, hnode, node, rfl, hvalid⟩] at hrs
    cases hrs
  · intro h
    refine ⟨store_answers storeOps, registry_answers fun op hop => ?_⟩
    rintro ⟨node, rfl, hvalid⟩
    exact h node hop hvalid

/-- The node of the package's own tests. -/
def exampleNode : Node where
  id := ascii "de-fra-1"
  region := ascii "de-fra"
  endpoint := ⟨.v4 0xc000020a, 51820⟩
  transports := [transportWireGuard]
  status := .provisioning
  registeredAt := exampleTime 21251400

theorem register_on_zero_panics :
    ¬∀ (storeOps : List StoreOp) (registryOps : List Op),
      Usable storeStep .zero .new storeOps ∧ Usable step .zero .new registryOps := by
  intro h
  obtain ⟨-, rs, hrs, -⟩ := h [] [.register exampleNode]
  have hvalid : exampleNode.validate = .ok () := by decide +kernel
  rw [registry_panics ⟨_, List.mem_cons_self .., exampleNode, rfl, hvalid⟩] at hrs
  cases hrs

end CyberiaVpn.Registry
