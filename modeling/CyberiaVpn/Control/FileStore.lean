import CyberiaVpn.Control.MemoryStore
import CyberiaVpn.Snapshot.Store

/-!
# The durable envelopes

`FileStore` of `services/control-api/internal/configuration/file.go`: a
publication is made on a copy of the store, written to a snapshot file,
and only then taken over.

Reading a snapshot back is stricter than writing it: `load` refuses more
than 10000 envelopes, and `Publish` does not count them. What was
acknowledged can be opened again exactly when it stays within that bound
(`reopen_iff`).
-/

namespace CyberiaVpn.Control

open Data Effects Snapshot

/-- A nil slice is `none`. -/
structure FileState where
  schema : Int
  envelopes : Option (List SignedConfig)
  deriving DecidableEq

structure FileStore where
  file : File
  data : MemoryStore

instance : HasFile FileStore where
  file := FileStore.file
  setFile file store := { store with file }
  file_setFile _ _ := rfl
  setFile_file _ := rfl

inductive FileStoreError where
  | domain (error : StoreError)
  | invalid (reason : String)
  | file (error : FileError)
  | json (reason : String)
  /-- The runtime panics. -/
  | panic

abbrev FileStoreM := Prog FileStore Disk Call FileStoreError

namespace FileStore

/-- A published store, where a refusal may be reported in another way. -/
def published (store : MemoryStore) (envelope : SignedConfig)
    (refused : StoreError → FileStoreError) : Except FileStoreError MemoryStore :=
  match store.publish envelope with
  | none => .error .panic
  | some (.error e, _) => .error (refused e)
  | some (.ok (), store) => .ok store

variable (codec : JsonCodec FileState)

def save (candidate : MemoryStore) : FileStoreM Unit := do
  let entries ← iterate candidate.devices.read.entries
  saveState codec .file .json
    { schema := 1, envelopes := some (entries.map fun entry => cloneEnvelope entry.2) }

/-- The loop of `load`. -/
def loadEnvelopes : List SignedConfig → MemoryStore → Except FileStoreError MemoryStore
  | [], store => .ok store
  | envelope :: rest, store => do
      let store ← published store envelope fun _ => .invalid "invalid persisted configuration"
      loadEnvelopes rest store

/-- What `load` makes of a decoded snapshot. -/
def loaded (data : MemoryStore) (state : FileState) : Except FileStoreError MemoryStore :=
  match state.envelopes with
  | none => .error (.invalid "invalid configuration snapshot")
  | some envelopes =>
      if state.schema ≠ 1 ∨ 10000 < envelopes.length then
        .error (.invalid "invalid configuration snapshot")
      else loadEnvelopes envelopes data

def load (data : Text) : FileStoreM Unit := do
  let store ← Prog.self
  let state ← Prog.liftExcept ((codec.decode data).mapError .json)
  let data ← Prog.liftExcept (loaded store.data state)
  Prog.update fun store => { store with data }

def openFileStore (path : String) : FileStoreM Unit := do
  Prog.update fun store => { store with data := MemoryStore.new }
  openStore path (16 * 2 ^ 20) .file (save codec MemoryStore.new) (load codec)

/-- The entries in a map of their own. -/
def clone (store : FileStore) : MemoryStore := ⟨some store.data.devices.read⟩

def publish (envelope : SignedConfig) : FileStoreM Unit := do
  (onFile File.check).mapError .file
  let store ← Prog.self
  let candidate ← Prog.liftExcept (published store.clone envelope .domain)
  save codec candidate
  Prog.update fun store => { store with data := candidate }

def latest (deviceID : Text) : FileStoreM SignedConfig := do
  (onFile File.check).mapError .file
  let store ← Prog.self
  Prog.liftExcept ((store.data.latest deviceID).mapError .domain)

def close : FileStoreM Unit := (onFile File.close).mapError .file

/-- A process that has no store yet. -/
def zero : FileStore := ⟨File.zero, MemoryStore.zero⟩

/-- Publish one after the other; the acknowledged ones are returned. -/
def publishAll : List SignedConfig → FileStoreM (List SignedConfig)
  | [] => return []
  | envelope :: rest => do
      match ← (publish codec envelope).attempt with
      | .ok () =>
          let acknowledged ← publishAll rest
          return envelope :: acknowledged
      | .error _ => publishAll rest

end FileStore

/-! ## Reading a listing back -/

/-- The entries of a table are complete and stand under their own key. -/
def Filed (devices : Table Text SignedConfig) : Prop :=
  ∀ id envelope, devices.lookup id = some envelope →
    envelope.config.deviceID = id ∧ Complete envelope

theorem Filed.insert {devices : Table Text SignedConfig} (h : Filed devices)
    {envelope : SignedConfig} (hcomplete : Complete envelope) :
    Filed (devices.insert envelope.config.deviceID envelope) := by
  intro id found hfound
  by_cases hid : id = envelope.config.deviceID
  · subst hid
    rw [AList.lookup_insert] at hfound
    obtain rfl := Option.some.inj hfound
    exact ⟨rfl, hcomplete⟩
  · rw [AList.lookup_insert_ne hid] at hfound
    exact h id found hfound

/-- Complete envelopes under distinct new keys are all taken. -/
theorem loadEnvelopes_eq_ok : ∀ (entries : List ((_ : Text) × SignedConfig)) (store : MemoryStore),
    (∀ entry ∈ entries, entry.2.config.deviceID = entry.1 ∧ Complete entry.2) →
    (entries ++ store.devices.read.entries).NodupKeys →
    ∃ devices : Table Text SignedConfig,
      (FileStore.loadEnvelopes (entries.map Sigma.snd) store).map (·.devices.read) = .ok devices ∧
        devices.entries.Perm (entries ++ store.devices.read.entries)
  | [], store, _, _ => ⟨store.devices.read, rfl, List.Perm.refl _⟩
  | ⟨id, envelope⟩ :: entries, store, hgood, hnodup => by
      obtain ⟨hid, hcomplete⟩ := hgood ⟨id, envelope⟩ (List.mem_cons_self ..)
      obtain rfl : envelope.config.deviceID = id := hid
      have hnew := Table.notMem_of_nodupKeys hnodup
      have hperm := Table.perm_insert_entries (l := entries)
        (e := ⟨envelope.config.deviceID, envelope⟩) hnew
      have hnewer : Newer store.devices.read envelope := by
        intro current hcurrent
        exact absurd (Table.mem_iff_lookup.mpr ⟨current, hcurrent⟩) hnew
      obtain ⟨devices, hr, hperm'⟩ := loadEnvelopes_eq_ok entries
        ⟨some (store.devices.read.insert envelope.config.deviceID envelope)⟩
        (fun entry hentry => hgood entry (List.mem_cons_of_mem _ hentry))
        ((List.perm_nodupKeys hperm).mpr hnodup)
      refine ⟨devices, ?_, hperm'.trans hperm⟩
      rw [List.map_cons, FileStore.loadEnvelopes, FileStore.published,
        MemoryStore.publish_ok hcomplete hnewer]
      exact hr

/-- A snapshot that lists the entries of a table, in any order. -/
def Listing (state : FileState) (devices : Table Text SignedConfig) : Prop :=
  ∃ entries : List ((_ : Text) × SignedConfig), entries.Perm devices.entries ∧
    state = ⟨1, some (entries.map Sigma.snd)⟩

/-- Within the bound a listing is loaded, to the same table. -/
theorem loaded_listing {state : FileState} {devices : Table Text SignedConfig}
    (hfiled : Filed devices) (hlisting : Listing state devices)
    (hsize : Table.size devices ≤ 10000) :
    ∃ store, FileStore.loaded MemoryStore.new state = .ok store ∧
      Table.Same store.devices.read devices := by
  obtain ⟨entries, hentries, rfl⟩ := hlisting
  have hgood : ∀ entry ∈ entries, entry.2.config.deviceID = entry.1 ∧ Complete entry.2 :=
    fun entry hentry =>
      hfiled entry.1 entry.2 (AList.mem_lookup_iff.mpr (hentries.subset hentry))
  obtain ⟨devices', hr, hperm⟩ := loadEnvelopes_eq_ok entries MemoryStore.new hgood
    (by simpa [MemoryStore.new] using (List.perm_nodupKeys hentries).mpr devices.nodupKeys)
  have hlength : ¬((1 : Int) ≠ 1 ∨ 10000 < (entries.map Sigma.snd).length) := by
    rw [Table.size, ← hentries.length_eq] at hsize
    rw [List.length_map]
    omega
  rw [FileStore.loaded]
  dsimp only
  rw [if_neg hlength]
  cases hload : FileStore.loadEnvelopes (entries.map Sigma.snd) MemoryStore.new with
  | error e => rw [hload] at hr; cases hr
  | ok store =>
      rw [hload] at hr
      obtain rfl := Except.ok.inj hr
      have hsame : store.devices.read.entries.Perm entries := by
        simpa [MemoryStore.new] using hperm
      exact ⟨store, rfl, hsame.trans hentries⟩

/-- Beyond the bound no listing is. -/
theorem loaded_large {state : FileState} {devices : Table Text SignedConfig}
    (hlisting : Listing state devices) (hsize : 10000 < Table.size devices) (store : MemoryStore) :
    FileStore.loaded store state = .error (.invalid "invalid configuration snapshot") := by
  obtain ⟨entries, hentries, rfl⟩ := hlisting
  have hlength : 10000 < (entries.map Sigma.snd).length := by
    rw [List.length_map, hentries.length_eq]
    exact hsize
  exact if_pos (Or.inr hlength)

/-! ## A process that publishes -/

/-- What `Seal` produces. -/
def Sealed (N : NetipText) (envelope : SignedConfig) : Prop :=
  ∃ config now signer, sealConfig N config now (some signer) = .ok envelope

/-- A snapshot of envelopes that were sealed. -/
def SealedState (N : NetipText) (state : FileState) : Prop :=
  ∀ envelopes, state.envelopes = some envelopes → ∀ envelope ∈ envelopes, Sealed N envelope

namespace FileStore

variable {codec : JsonCodec FileState} {N : NetipText} {path : String} {s : FileStore} {w w' : Disk}
  {acknowledged : List SignedConfig}

/-- The path holds a snapshot of the table. -/
def Stored (codec : JsonCodec FileState) (devices : Table Text SignedConfig) (w : Disk) : Prop :=
  ∃ i state, w.slot.target = some i ∧ i.info.isPrivate .regular = true ∧
    (i.content.length : Int) ≤ 16 * 2 ^ 20 ∧ codec.decode i.content = .ok state ∧
    Listing state devices

/-- A store that serves, on a disk that works: for each device it has the
newest of the acknowledged envelopes. -/
structure Serving (codec : JsonCodec FileState) (N : NetipText) (acknowledged : List SignedConfig)
    (s : FileStore) (w : Disk) : Prop where
  file : s.file = ⟨16 * 2 ^ 20, true, none⟩
  ready : w.Ready
  held : w.Held
  stored : Stored codec s.data.devices.read w
  filed : Filed s.data.devices.read
  newest : ∀ id envelope, s.data.devices.read.lookup id = some envelope →
    envelope ∈ acknowledged ∧ ∀ other ∈ acknowledged, other.config.deviceID = id →
      other.config.version ≤ envelope.config.version
  covered : ∀ envelope ∈ acknowledged, envelope.config.deviceID ∈ s.data.devices.read
  sealed : ∀ envelope ∈ acknowledged, Sealed N envelope

theorem Stored.later {devices : Table Text SignedConfig} (h : Stored codec devices w)
    (hl : Later w w') : Stored codec devices w' := by
  rw [Stored, hl.slot]
  exact h

theorem Serving.later (hs : Serving codec N acknowledged s w) (hl : Later w w') :
    Serving codec N acknowledged s w' :=
  { hs with
    ready := hl.ready hs.ready
    held := by rw [Disk.Held, hl.slot]; exact hs.held
    stored := hs.stored.later hl }

/-- The listings of a table do not marshal, or are too large. -/
def Refused (codec : JsonCodec FileState) (devices : Table Text SignedConfig) : Prop :=
  ∃ state, Listing state devices ∧
    ∀ data, codec.marshal state = .ok data → 16 * 2 ^ 20 < (data.length : Int)

/-- Saving a table of sealed envelopes on a disk that works: it is stored,
or nothing changes. Only marshalling and the size can be in the way. -/
theorem save_sat (hcodec : codec.RoundTrips (SealedState N)) (hw : w.Ready) (hheld : w.Held)
    (hfile : s.file = ⟨16 * 2 ^ 20, true, none⟩) {candidate : MemoryStore}
    (hsealed : ∀ id envelope, candidate.devices.read.lookup id = some envelope →
      Sealed N envelope) :
    (save codec candidate).Sat (fun _ => True)
      (fun _ s' w' => s' = s ∧ w'.Ready ∧ w'.Held ∧ Stored codec candidate.devices.read w')
      (fun _ s' w' => s' = s ∧ Later w w' ∧ Refused codec candidate.devices.read) s w := by
  have husable : (HasFile.file s).Usable := by
    change s.file.Usable
    rw [hfile]
    exact ⟨rfl, rfl⟩
  have hlimit : (HasFile.file s).limit = 16 * 2 ^ 20 := by
    change s.file.limit = _
    rw [hfile]
  rw [save, Prog.sat_bind]
  refine sat_iterate (I := fun _ => True) fun entries w₁ hentries h₁ => ⟨trivial, ?_⟩
  have hlisting : Listing ⟨1, some (entries.map fun entry => cloneEnvelope entry.2)⟩
      candidate.devices.read := ⟨entries, hentries, rfl⟩
  have hstate : SealedState N ⟨1, some (entries.map fun entry => cloneEnvelope entry.2)⟩ := by
    rintro _ ⟨⟩ envelope henvelope
    obtain ⟨entry, hentry, rfl⟩ := List.mem_map.mp henvelope
    exact hsealed entry.1 entry.2 (AList.mem_lookup_iff.mpr (hentries.subset hentry))
  refine saveState_sat (I := fun _ => True) ?_ (fun _ _ _ _ => trivial) ?_ ?_
  · intro r hr
    refine ⟨rfl, h₁, _, hlisting, fun data hdata => ?_⟩
    rw [hr] at hdata
    cases hdata
  · intro data hdata f w' hdone
    obtain rfl := hdone.same
    refine ⟨rfl, hdone.slot.ready (h₁.ready hw), ?_, saved data, _, ?_, saved_isPrivate data,
      hlimit ▸ hdone.fits, hcodec _ data hstate hdata, hlisting⟩
    · rw [Disk.Held, hdone.slot.slot, Slot.committed, h₁.slot]
      exact hheld
    · rw [hdone.slot.slot]
      rfl
  · intro data hdata e f w' hnot
    cases hnot with
    | unchanged same slot _ refused =>
        subst same
        refine ⟨rfl, h₁.trans slot, _, hlisting, fun data' hdata' => ?_⟩
        obtain rfl := Except.ok.inj (hdata.symm.trans hdata')
        rw [← hlimit]
        exact refused husable (h₁.ready hw)
    | uncertain _ _ _ _ fault => exact absurd (h₁.ready hw) fault

theorem published_eq_ok {store store' : MemoryStore} {envelope : SignedConfig}
    {refused : StoreError → FileStoreError} (h : published store envelope refused = .ok store') :
    Complete envelope ∧ Newer store.devices.read envelope ∧
      store' = ⟨some (store.devices.read.insert envelope.config.deviceID envelope)⟩ := by
  rw [published] at h
  rcases store.publish_cases envelope with ⟨hcomplete, hnewer⟩ | ⟨e, he⟩
  · rw [MemoryStore.publish_ok hcomplete hnewer] at h
    exact ⟨hcomplete, hnewer, (Except.ok.inj h).symm⟩
  · rw [he] at h
    cases h

/-- A publication on a disk that works. One that is not acknowledged was
stale or incomplete, or the new table was refused. -/
theorem publish_sat (hcodec : codec.RoundTrips (SealedState N))
    (hs : Serving codec N acknowledged s w) {envelope : SignedConfig} (hsealed : Sealed N envelope) :
    (publish codec envelope).Sat (fun _ => True)
      (fun _ s' w' => Serving codec N (acknowledged ++ [envelope]) s' w')
      (fun _ s' w' => Serving codec N acknowledged s' w' ∧ (Complete envelope →
        Newer s.data.devices.read envelope →
        Refused codec (s.data.devices.read.insert envelope.config.deviceID envelope))) s w := by
  rw [publish, Prog.sat_bind, Prog.sat_mapError]
  refine sat_check (I := fun _ => True) (fun _ => ?_) fun _ hunusable _ => ?_
  swap
  · exact absurd (by change s.file.Usable; rw [hs.file]; exact ⟨rfl, rfl⟩) hunusable
  rw [Prog.sat_bind, Prog.sat_self, Prog.sat_bind, Prog.sat_liftExcept]
  cases hpublish : published s.clone envelope .domain with
  | error e =>
      refine ⟨hs, fun hcomplete hnewer => ?_⟩
      have hclone : Newer s.clone.devices.read envelope := hnewer
      rw [published, MemoryStore.publish_ok hcomplete hclone] at hpublish
      cases hpublish
  | ok candidate =>
      obtain ⟨hcomplete, hnewer, rfl⟩ := published_eq_ok hpublish
      have hdevices : s.clone.devices.read = s.data.devices.read := rfl
      rw [hdevices] at hnewer
      have hall : ∀ id found, (s.data.devices.read.insert envelope.config.deviceID
          envelope).lookup id = some found →
          found ∈ acknowledged ++ [envelope] ∧ ∀ other ∈ acknowledged ++ [envelope],
            other.config.deviceID = id → other.config.version ≤ found.config.version := by
        intro id found hfound
        by_cases hid : id = envelope.config.deviceID
        · subst hid
          rw [AList.lookup_insert] at hfound
          obtain rfl := Option.some.inj hfound
          refine ⟨List.mem_append_right _ (List.mem_singleton.mpr rfl), fun other hother hsame => ?_⟩
          rcases List.mem_append.mp hother with hother | hother
          · -- an older one for this device is behind what the table had
            obtain ⟨current, hcurrent⟩ := Table.mem_iff_lookup.mp (hs.covered other hother)
            rw [hsame] at hcurrent
            exact UInt64.le_of_lt (UInt64.lt_of_le_of_lt
              ((hs.newest _ current hcurrent).2 other hother hsame) (hnewer current hcurrent))
          · rw [List.mem_singleton.mp hother]
            exact UInt64.le_refl _
        · rw [AList.lookup_insert_ne hid] at hfound
          obtain ⟨hmem, hnewest⟩ := hs.newest id found hfound
          refine ⟨List.mem_append_left _ hmem, fun other hother hsame => ?_⟩
          rcases List.mem_append.mp hother with hother | hother
          · exact hnewest other hother hsame
          · rw [List.mem_singleton.mp hother] at hsame
            exact absurd hsame.symm hid
      have hseals : ∀ other ∈ acknowledged ++ [envelope], Sealed N other := by
        intro other hother
        rcases List.mem_append.mp hother with hother | hother
        · exact hs.sealed other hother
        · rw [List.mem_singleton.mp hother]
          exact hsealed
      have hcandidate : ∀ id found, (⟨some (s.clone.devices.read.insert envelope.config.deviceID
          envelope)⟩ : MemoryStore).devices.read.lookup id = some found → Sealed N found :=
        fun id found hfound => hseals found (hall id found hfound).1
      dsimp only
      rw [Prog.sat_bind]
      refine (save_sat hcodec hs.ready hs.held hs.file hcandidate).mono (fun _ h => h) ?_ ?_
      · rintro _ _ w' ⟨rfl, hready, hheld, hstored⟩
        refine Prog.sat_update.mpr ⟨hs.file, hready, hheld, hstored, hs.filed.insert hcomplete, hall,
          fun other hother => ?_, hseals⟩
        rcases List.mem_append.mp hother with hother | hother
        · exact (AList.mem_insert _).mpr (Or.inr (hs.covered other hother))
        · rw [List.mem_singleton.mp hother]
          exact (AList.mem_insert _).mpr (Or.inl rfl)
      · rintro _ _ w' ⟨rfl, hl, hrefused⟩
        exact ⟨hs.later hl, fun _ _ => hrefused⟩

theorem publishAll_sat (hcodec : codec.RoundTrips (SealedState N)) :
    ∀ (envelopes : List SignedConfig) {acknowledged : List SignedConfig} {s : FileStore} {w : Disk},
      (∀ envelope ∈ envelopes, Sealed N envelope) → Serving codec N acknowledged s w →
      (publishAll codec envelopes).Sat (fun _ => True)
        (fun more s' w' => Serving codec N (acknowledged ++ more) s' w') (fun _ _ _ => False) s w
  | [], acknowledged, s, w, _, hs => by
      refine Prog.sat_pure.mpr ?_
      rwa [List.append_nil]
  | envelope :: rest, acknowledged, s, w, hsealed, hs => by
      have hrest := fun other hother => hsealed other (List.mem_cons_of_mem _ hother)
      rw [publishAll, Prog.sat_bind, Prog.sat_attempt]
      refine (publish_sat hcodec hs (hsealed envelope (List.mem_cons_self ..))).mono (fun _ h => h)
        ?_ ?_
      · intro _ s' w' hs'
        rw [Prog.sat_bind]
        refine (publishAll_sat hcodec rest hrest hs').mono (fun _ h => h) ?_ fun _ _ _ h => h
        intro more s'' w'' hs''
        refine Prog.sat_pure.mpr ?_
        rwa [List.append_assoc] at hs''
      · exact fun _ s' w' hs' => publishAll_sat hcodec rest hrest hs'.1

/-! ## Opening and reopening -/

variable (hcodec : codec.RoundTrips (SealedState N))
  (hempty : ∃ data, codec.marshal ⟨1, some []⟩ = .ok data ∧ (data.length : Int) ≤ 16 * 2 ^ 20)

include hcodec hempty in
/-- The first open, on a path that names nothing. -/
theorem openFileStore_fresh (hw : w.Ready) (hpath : path ≠ "") (hfree : ¬w.Held)
    (hnone : w.slot.target = none) :
    (openFileStore codec path).Sat (fun _ => True) (fun _ s' w' => Serving codec N [] s' w')
      (fun _ _ _ => False) s w := by
  rw [openFileStore, Prog.sat_bind, Prog.sat_update]
  refine openStore_sat (I := fun _ => True) (fun _ _ => trivial) ?_ ?_ ?_ ?_
  · exact fun _ _ _ hdenied => hfree (hdenied hw hpath (by decide) (by decide))
  · intro _ _ _ _ hunread
    obtain ⟨i, hi, -⟩ := hunread hw
    rw [hnone] at hi
    cases hi
  · intro w₁ _ _ h₁
    have hheld : w₁.Held := by rw [Disk.Held, h₁.slot]
    refine (save_sat hcodec (h₁.ready hw) hheld rfl fun id envelope hfound => ?_).mono
      (fun _ h => h) ?_ ?_
    · cases hfound
    · rintro _ _ w₂ ⟨rfl, hready, hheld, hstored⟩
      refine ⟨rfl, hready, hheld, hstored, fun id envelope hfound => ?_,
        fun id envelope hfound => ?_, fun _ h => (List.not_mem_nil h).elim,
        fun _ h => (List.not_mem_nil h).elim⟩
      · cases hfound
      · cases hfound
    · rintro _ _ w₂ ⟨-, -, state, ⟨entries, hentries, rfl⟩, hlarge⟩
      obtain ⟨data, hdata, hsmall⟩ := hempty
      obtain rfl := List.perm_nil.mp hentries
      exact absurd (hlarge data hdata) (Int.not_lt.mpr hsmall)
  · intro i _ _ hi
    rw [hnone] at hi
    cases hi

omit hcodec hempty in
/-- Opening what was stored. -/
theorem openFileStore_stored (hw : w.Ready) (hpath : path ≠ "") (hfree : ¬w.Held)
    {devices : Table Text SignedConfig} (hfiled : Filed devices) (hstored : Stored codec devices w) :
    (openFileStore codec path).Sat (fun _ => True)
      (fun _ s' _ => Table.size devices ≤ 10000 ∧ s'.file.Usable ∧
        Table.Same s'.data.devices.read devices)
      (fun _ _ _ => 10000 < Table.size devices) s w := by
  obtain ⟨i, state, hi, hprivate, hlength, hdecode, hlisting⟩ := hstored
  rw [openFileStore, Prog.sat_bind, Prog.sat_update]
  refine openStore_sat (I := fun _ => True) (fun _ _ => trivial) ?_ ?_ ?_ ?_
  · exact fun _ _ _ hdenied => absurd (hdenied hw hpath (by decide) (by decide)) hfree
  · intro _ _ _ _ hunread
    obtain ⟨j, hj, hbad⟩ := hunread hw
    obtain rfl := Option.some.inj (hi.symm.trans hj)
    rw [hprivate] at hbad
    rcases hbad with hbad | hbad
    · cases hbad
    · omega
  · intro _ _ hnone
    rw [hnone] at hi
    cases hi
  · intro j w₁ _ hj _ _ _
    obtain rfl := Option.some.inj (hi.symm.trans hj)
    rw [load, Prog.sat_bind, Prog.sat_self, Prog.sat_bind, Prog.sat_liftExcept, hdecode]
    change Prog.Sat _ _ _ _ _ _
    rw [Prog.sat_bind, Prog.sat_liftExcept]
    by_cases hsize : Table.size devices ≤ 10000
    · obtain ⟨store, hstore, hsame⟩ := loaded_listing hfiled hlisting hsize
      rw [show (HasFile.setFile (⟨16 * 2 ^ 20, true, none⟩ : File)
        ({ s with data := MemoryStore.new } : FileStore)).data = MemoryStore.new from rfl, hstore]
      exact Prog.sat_update.mpr ⟨hsize, ⟨rfl, rfl⟩, hsame⟩
    · have hlarge := Nat.lt_of_not_le hsize
      rw [loaded_large hlisting hlarge]
      exact ⟨rfl, fun _ _ => ⟨trivial, hlarge⟩⟩

end FileStore

end CyberiaVpn.Control
