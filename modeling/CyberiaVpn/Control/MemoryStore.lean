import CyberiaVpn.Control.Signature
import CyberiaVpn.Data.GoMap

/-!
# The envelopes in memory

`MemoryStore` of
`services/control-api/internal/configuration/store.go`. A method runs
under the store's lock, so it is one function; `none` is a panic.
-/

namespace CyberiaVpn.Control

open Data

structure MemoryStore where
  devices : GoMap Text SignedConfig

inductive StoreError where
  | incomplete
  | staleVersion (current proposed : UInt64)
  | configNotFound
  deriving DecidableEq

def cloneEnvelope (envelope : SignedConfig) : SignedConfig :=
  { envelope with
    config := cloneConfig envelope.config
    signature := [] ++ envelope.signature }

@[simp] theorem cloneEnvelope_eq (envelope : SignedConfig) : cloneEnvelope envelope = envelope := rfl

namespace MemoryStore

/-- The Go zero value. -/
def zero : MemoryStore := ⟨none⟩

/-- `NewMemoryStore`. -/
def new : MemoryStore := ⟨GoMap.make⟩

def publish (store : MemoryStore) (envelope : SignedConfig) :
    Option (Except StoreError Unit × MemoryStore) :=
  if !validIdentifier envelope.config.deviceID || envelope.config.version == 0 ||
      !validIdentifier envelope.keyID || envelope.signature.length == 0 then
    some (.error .incomplete, store)
  else
    let current := store.devices.read.lookup envelope.config.deviceID
    if current.any fun current => envelope.config.version ≤ current.config.version then
      some (.error (.staleVersion ((current.map (·.config.version)).getD 0)
        envelope.config.version), store)
    else
      let devices := store.devices.orMake
      (devices.assign envelope.config.deviceID (cloneEnvelope envelope)).map fun devices =>
        (.ok (), { store with devices })

/-- Publish one after the other, whether they are taken or not. -/
def publishAll : MemoryStore → List SignedConfig → Option MemoryStore
  | store, [] => some store
  | store, envelope :: rest => (store.publish envelope).bind fun (_, store) => publishAll store rest

def latest (store : MemoryStore) (deviceID : Text) : Except StoreError SignedConfig :=
  match store.devices.read.lookup deviceID with
  | none => .error .configNotFound
  | some envelope => .ok (cloneEnvelope envelope)

end MemoryStore

/-! ## What a publication does -/

/-- An envelope with all its parts. -/
structure Complete (envelope : SignedConfig) : Prop where
  device : validIdentifier envelope.config.deviceID = true
  version : envelope.config.version ≠ 0
  key : validIdentifier envelope.keyID = true
  signature : envelope.signature ≠ []

/-- The table has nothing as recent for this device. -/
def Newer (devices : Table Text SignedConfig) (envelope : SignedConfig) : Prop :=
  ∀ current, devices.lookup envelope.config.deviceID = some current →
    current.config.version < envelope.config.version

theorem incomplete_eq_false {envelope : SignedConfig} :
    (!validIdentifier envelope.config.deviceID || envelope.config.version == 0 ||
      !validIdentifier envelope.keyID || envelope.signature.length == 0) = false ↔
      Complete envelope := by
  simp only [Bool.or_eq_false_iff, Bool.not_eq_false', beq_eq_false_iff_ne, ne_eq,
    List.length_eq_zero_iff]
  exact ⟨fun ⟨⟨⟨hdevice, hversion⟩, hkey⟩, hsignature⟩ => ⟨hdevice, hversion, hkey, hsignature⟩,
    fun h => ⟨⟨⟨h.device, h.version⟩, h.key⟩, h.signature⟩⟩

theorem stale_eq_false {devices : Table Text SignedConfig} {envelope : SignedConfig} :
    ((devices.lookup envelope.config.deviceID).any fun current =>
      envelope.config.version ≤ current.config.version) = false ↔ Newer devices envelope := by
  rw [Newer]
  cases devices.lookup envelope.config.deviceID with
  | none => simp
  | some current => simp [UInt64.not_le]

namespace MemoryStore

variable {store : MemoryStore} {envelope : SignedConfig}

/-- A complete and newer envelope is taken. -/
theorem publish_ok (hcomplete : Complete envelope)
    (hnewer : Newer store.devices.read envelope) :
    store.publish envelope =
      some (.ok (), ⟨some (store.devices.read.insert envelope.config.deviceID envelope)⟩) := by
  simp only [publish, incomplete_eq_false.mpr hcomplete, stale_eq_false.mpr hnewer,
    Bool.false_eq_true, if_false, GoMap.assign_orMake, Option.map_some, cloneEnvelope_eq]

/-- Any other is refused, and the store stays as it is. -/
theorem publish_cases (store : MemoryStore) (envelope : SignedConfig) :
    (Complete envelope ∧ Newer store.devices.read envelope) ∨
      ∃ e, store.publish envelope = some (.error e, store) := by
  rw [publish]
  split
  · exact Or.inr ⟨_, rfl⟩
  next hcomplete =>
  dsimp only
  split
  · exact Or.inr ⟨_, rfl⟩
  next hnewer =>
  exact Or.inl ⟨incomplete_eq_false.mp (Bool.eq_false_iff.mpr hcomplete),
    stale_eq_false.mp (Bool.eq_false_iff.mpr hnewer)⟩

/-- Either way the store goes on, and no device but the envelope's is
touched. -/
theorem publish_total (store : MemoryStore) (envelope : SignedConfig) :
    ∃ r store', store.publish envelope = some (r, store') ∧
      ∀ deviceID, store'.devices.read.lookup deviceID = store.devices.read.lookup deviceID ∨
        deviceID = envelope.config.deviceID ∧ Newer store.devices.read envelope ∧
          store'.devices.read.lookup deviceID = some envelope := by
  rcases publish_cases store envelope with ⟨hcomplete, hnewer⟩ | ⟨e, he⟩
  · refine ⟨_, _, publish_ok hcomplete hnewer, fun deviceID => ?_⟩
    by_cases hid : deviceID = envelope.config.deviceID
    · subst hid
      exact Or.inr ⟨rfl, hnewer, AList.lookup_insert _⟩
    · exact Or.inl (AList.lookup_insert_ne hid)
  · exact ⟨_, _, he, fun _ => Or.inl rfl⟩

/-- What every publication of a list keeps, the whole list keeps, and none
of it panics. -/
theorem publishAll_keeps {I : MemoryStore → Prop} : ∀ {envelopes : List SignedConfig},
    (∀ envelope ∈ envelopes, ∀ store r store', store.publish envelope = some (r, store') →
      I store → I store') → ∀ {store : MemoryStore}, I store →
    ∃ store', store.publishAll envelopes = some store' ∧ I store'
  | [], _, store, hI => ⟨store, rfl, hI⟩
  | envelope :: rest, hkeep, store, hI => by
      obtain ⟨r, next, hnext, -⟩ := publish_total store envelope
      obtain ⟨store', hstore', hI'⟩ := publishAll_keeps
        (fun other hother => hkeep other (List.mem_cons_of_mem _ hother))
        (hkeep envelope (List.mem_cons_self ..) store r next hnext hI)
      exact ⟨store', by rw [publishAll, hnext]; exact hstore', hI'⟩

theorem publishAll_append (pre post : List SignedConfig) : ∀ store : MemoryStore,
    store.publishAll (pre ++ post) = (store.publishAll pre).bind fun store =>
      store.publishAll post := by
  induction pre with
  | nil => exact fun _ => rfl
  | cons envelope pre ih =>
      intro store
      rw [List.cons_append, publishAll, publishAll]
      cases store.publish envelope with
      | none => rfl
      | some next => exact ih next.2

/-- Nothing of the device is newer before the envelope comes, and nothing
that comes later. -/
structure Highest (store : MemoryStore) (pre post : List SignedConfig) (envelope : SignedConfig) :
    Prop where
  stored : Newer store.devices.read envelope
  before : ∀ other ∈ pre, other.config.deviceID = envelope.config.deviceID →
    other.config.version < envelope.config.version
  after : ∀ other ∈ post, other.config.deviceID = envelope.config.deviceID →
    other.config.version ≤ envelope.config.version

theorem publish_keeps_newer {other : SignedConfig} {r : Except StoreError Unit}
    {store' : MemoryStore} (hpublish : store.publish other = some (r, store'))
    (hother : other.config.deviceID = envelope.config.deviceID →
      other.config.version < envelope.config.version)
    (hnewer : Newer store.devices.read envelope) : Newer store'.devices.read envelope := by
  obtain ⟨_, _, hpublish', hlookup⟩ := publish_total store other
  obtain ⟨-, rfl⟩ := Prod.mk.inj (Option.some.inj (hpublish'.symm.trans hpublish))
  intro current hcurrent
  rcases hlookup envelope.config.deviceID with hkept | ⟨hid, -, hnew⟩
  · exact hnewer current (hkept ▸ hcurrent)
  · obtain rfl := Option.some.inj (hnew.symm.trans hcurrent)
    exact hother hid.symm

theorem publish_keeps_served {other : SignedConfig} {r : Except StoreError Unit}
    {store' : MemoryStore} (hpublish : store.publish other = some (r, store'))
    (hother : other.config.deviceID = envelope.config.deviceID →
      other.config.version ≤ envelope.config.version)
    (hserved : store.devices.read.lookup envelope.config.deviceID = some envelope) :
    store'.devices.read.lookup envelope.config.deviceID = some envelope := by
  obtain ⟨_, _, hpublish', hlookup⟩ := publish_total store other
  obtain ⟨-, rfl⟩ := Prod.mk.inj (Option.some.inj (hpublish'.symm.trans hpublish))
  rcases hlookup envelope.config.deviceID with hkept | ⟨hid, hnewer, -⟩
  · rw [hkept]
    exact hserved
  · have hlt := hnewer envelope (hid ▸ hserved)
    exact absurd hlt (UInt64.not_lt.mpr (hother hid.symm))

/-- The highest version is the one that is served in the end. -/
theorem publishAll_highest {pre post : List SignedConfig} (hcomplete : Complete envelope)
    (h : Highest store pre post envelope) :
    ∃ store', store.publishAll (pre ++ envelope :: post) = some store' ∧
      store'.devices.read.lookup envelope.config.deviceID = some envelope := by
  obtain ⟨before, hbefore, hnewer⟩ := publishAll_keeps
    (I := fun store => Newer store.devices.read envelope)
    (fun other hother _ _ _ hpublish => publish_keeps_newer hpublish (h.before other hother))
    h.stored
  have hserved : (⟨some (before.devices.read.insert envelope.config.deviceID envelope)⟩ :
      MemoryStore).devices.read.lookup envelope.config.deviceID = some envelope :=
    AList.lookup_insert _
  obtain ⟨store', hstore', hlookup⟩ := publishAll_keeps
    (I := fun store => store.devices.read.lookup envelope.config.deviceID = some envelope)
    (fun other hother _ _ _ hpublish => publish_keeps_served hpublish (h.after other hother))
    hserved
  refine ⟨store', ?_, hlookup⟩
  rw [publishAll_append, hbefore]
  simp only [Option.bind_some, publishAll, publish_ok hcomplete hnewer]
  exact hstore'

end MemoryStore

end CyberiaVpn.Control
