import CyberiaVpn.Identity.FileStoreRuns
import CyberiaVpn.Identity.SnapshotSize
import CyberiaVpn.Snapshot.Decode

/-!
# The text of a snapshot

What `restore` reads: the fields of an `enrollmentSnapshot` as
`encoding/json` stores them. A store that was persisted is read back
(`snapshotCodec_roundTrips`) if timestamps are at offsets of whole
minutes, which is all that their texts can tell.
-/

namespace CyberiaVpn.Identity

open Codec Codec.Json Control Data Effects Snapshot

/-! ## Variables -/

structure DeviceVar where
  accountID : Text
  deviceID : Text
  publicKey : Option (Slice UInt8)
  keyID : Text

structure ChallengeVar where
  digest : Option (Slice UInt8)
  accountID : Text
  deviceID : Text
  expiresAt : Time

structure SnapshotVar where
  schema : Int
  devices : Option (Slice DeviceVar)
  challenges : Option (Slice ChallengeVar)

def contents (data : Option (Slice UInt8)) : Text := (data.map Slice.items).getD []

def DeviceVar.identity (v : DeviceVar) : DeviceIdentity :=
  ⟨v.accountID, v.deviceID, contents v.publicKey, v.keyID⟩

def ChallengeVar.snapshot (v : ChallengeVar) : ChallengeSnapshot :=
  ⟨contents v.digest, v.accountID, v.deviceID, v.expiresAt⟩

def SnapshotVar.snapshot (v : SnapshotVar) : EnrollmentSnapshot where
  schema := v.schema
  devices := v.devices.map fun s => s.items.map DeviceVar.identity
  challenges := v.challenges.map fun s => s.items.map ChallengeVar.snapshot

def deviceFields : List (Target.Field DeviceVar) :=
  [.of "AccountID" DeviceVar.accountID (fun x v => { v with accountID := x }) .text,
    .of "DeviceID" DeviceVar.deviceID (fun x v => { v with deviceID := x }) .text,
    .of "PublicKey" DeviceVar.publicKey (fun x v => { v with publicKey := x }) .bytes,
    .of "KeyID" DeviceVar.keyID (fun x v => { v with keyID := x }) .text]

def deviceTarget : Target DeviceVar := .struct ⟨[], [], none, []⟩ deviceFields

section

variable (parse : Text → Option Time)

def challengeFields : List (Target.Field ChallengeVar) :=
  [.of "digest" ChallengeVar.digest (fun x v => { v with digest := x }) .bytes,
    .of "account_id" ChallengeVar.accountID (fun x v => { v with accountID := x }) .text,
    .of "device_id" ChallengeVar.deviceID (fun x v => { v with deviceID := x }) .text,
    .of "expires_at" ChallengeVar.expiresAt (fun x v => { v with expiresAt := x }) (time parse)]

def challengeTarget : Target ChallengeVar :=
  .struct ⟨none, [], [], (time parse).zero⟩ (challengeFields parse)

def snapshotFields : List (Target.Field SnapshotVar) :=
  [.of "schema" SnapshotVar.schema (fun x v => { v with schema := x }) (.integer 64),
    .of "devices" SnapshotVar.devices (fun x v => { v with devices := x }) deviceTarget.slice,
    .of "challenges" SnapshotVar.challenges (fun x v => { v with challenges := x })
      (challengeTarget parse).slice]

def snapshotTarget : Target SnapshotVar := .struct ⟨0, none, none⟩ (snapshotFields parse)

theorem deviceNamed : Named deviceFields ["AccountID", "DeviceID", "PublicKey", "KeyID"] :=
  ⟨rfl, by decide, by decide⟩

theorem challengeNamed :
    Named (challengeFields parse) ["digest", "account_id", "device_id", "expires_at"] :=
  ⟨rfl, by decide, by decide⟩

theorem snapshotNamed : Named (snapshotFields parse) ["schema", "devices", "challenges"] :=
  ⟨rfl, by decide, by decide⟩

end

def decodeSnapshot (parse : Text → Option Time) (data : Text) :
    Except Snapshot.DecodeError EnrollmentSnapshot :=
  (Snapshot.decode (snapshotTarget parse) data).map SnapshotVar.snapshot

/-- `json.Marshal` and `Decode`. A schema is an `int`, so others have no
text. -/
def snapshotCodec (zone : ChallengeSnapshot → Int) (parse : Text → Option Time) :
    JsonCodec EnrollmentSnapshot where
  marshal state :=
    if -(2 ^ 63) ≤ state.schema ∧ state.schema < 2 ^ 63 then marshalSnapshot zone state
    else .error "not an int"
  decode data := (decodeSnapshot parse data).mapError Snapshot.DecodeError.message

/-! ## Identifiers -/

theorem unescaped_identifier {id : Text} (h : ∀ b ∈ id, identifierByte b = true) : Unescaped id := by
  have hall : ∀ n < 256, identifierByte (UInt8.ofNat n) = true →
      32 ≤ UInt8.ofNat n ∧ UInt8.ofNat n ≠ 34 ∧ UInt8.ofNat n ≠ 92 := by decide +kernel
  intro b hb
  have hbyte := hall b.toNat b.toNat_lt
  rw [UInt8.ofNat_toNat] at hbyte
  exact hbyte (h b hb)

theorem reads_identifier {id : Text} (h : ∀ b ∈ id, identifierByte b = true) (depth : Nat) :
    Reads depth (Json.string id) (.string id) := by
  rw [Json.string, inside_plain fun b hb => plain_identifierByte (h b hb)]
  exact reads_string (unescaped_identifier h)

theorem text_store_identifier {id : Text} (h : ∀ b ∈ id, identifierByte b = true) (old : Text) :
    Target.text.store (.string id) old = some id :=
  congrArg some (unquote_ascii fun b hb =>
    ⟨(plain_identifierByte (h b hb)).1, (unescaped_identifier h b hb).2.2⟩)

/-! ## Devices -/

structure PlainDevice (d : DeviceIdentity) : Prop where
  account : ∀ b ∈ d.accountID, identifierByte b = true
  device : ∀ b ∈ d.deviceID, identifierByte b = true
  keyID : ∀ b ∈ d.keyID, identifierByte b = true

def deviceVar (d : DeviceIdentity) : DeviceVar :=
  ⟨d.accountID, d.deviceID, some ⟨d.publicKey, []⟩, d.keyID⟩

/-- What a device is read as. -/
def deviceValue (d : DeviceIdentity) : Value :=
  .object [(bytes "AccountID", .string d.accountID), (bytes "DeviceID", .string d.deviceID),
    (bytes "PublicKey", .string (symbols d.publicKey)), (bytes "KeyID", .string d.keyID)]

theorem restores_device {d : DeviceIdentity} (h : PlainDevice d) (depth : Nat) :
    Restores deviceTarget (depth + 1) (marshalDevice d) (deviceVar d) := by
  refine ⟨deviceValue d, reads_object ?_, ?_⟩
  · refine .cons (readsMember (by decide) (reads_identifier h.account depth)) ?_
    refine .cons (readsMember (by decide) (reads_identifier h.device depth)) ?_
    refine .cons (readsMember (by decide) (reads_slice depth d.publicKey)) ?_
    exact .cons (readsMember (by decide) (reads_identifier h.keyID depth)) .nil
  · change Target.storeMembers _ _ _ = _
    rw [deviceNamed.storeMembers (i := 0) rfl rfl (field_store (text_store_identifier h.account _)),
      deviceNamed.storeMembers (i := 1) rfl rfl (field_store (text_store_identifier h.device _)),
      deviceNamed.storeMembers (i := 2) rfl rfl (field_store (bytes_store _ _)),
      deviceNamed.storeMembers (i := 3) rfl rfl (field_store (text_store_identifier h.keyID _))]
    rfl

/-! ## Challenges -/

section

variable {zone : ChallengeSnapshot → Int} {parse : Text → Option Time}

structure PlainChallenge (c : ChallengeSnapshot) : Prop where
  account : ∀ b ∈ c.accountID, identifierByte b = true
  device : ∀ b ∈ c.deviceID, identifierByte b = true

def challengeVar (c : ChallengeSnapshot) : ChallengeVar :=
  ⟨some ⟨c.digest, []⟩, c.accountID, c.deviceID, c.expiresAt⟩

def challengeValue (c : ChallengeSnapshot) (stamp : Text) : Value :=
  .object [(bytes "digest", .string (symbols c.digest)), (bytes "account_id", .string c.accountID),
    (bytes "device_id", .string c.deviceID), (bytes "expires_at", .string stamp)]

theorem unescaped_timestamp {offset sec : Int} {nsec : Nat} {stamp : Text}
    (h : Rfc3339.timestamp offset sec nsec = .ok stamp) : Unescaped stamp := by
  intro b hb
  obtain ⟨hplus, hz⟩ := Rfc3339.printed_timestamp h hb
  refine ⟨UInt8.le_iff_toNat_le.mpr (Nat.le_trans (by decide) hplus), fun hquote => ?_,
    fun hescape => ?_⟩
  · rw [hquote] at hplus
    exact absurd hplus (by decide)
  · rw [hescape] at hz
    exact absurd hz (by decide)

theorem restores_challenge {c : ChallengeSnapshot} {text : Text} (h : PlainChallenge c)
    (hzone : 60 ∣ zone c) (htext : marshalChallenge zone c = .ok text) (depth : Nat) :
    Restores (challengeTarget parse) (depth + 1) text (challengeVar c) := by
  rw [marshalChallenge] at htext
  split at htext
  · cases htext
  · cases htext
  next stamp hstamp =>
  cases htext
  refine ⟨challengeValue c stamp, reads_object ?_, ?_⟩
  · refine .cons (readsMember (by decide) (reads_slice depth c.digest)) ?_
    refine .cons (readsMember (by decide) (reads_identifier h.account depth)) ?_
    refine .cons (readsMember (by decide) (reads_identifier h.device depth)) ?_
    exact .cons (readsMember (by decide) (reads_string (unescaped_timestamp hstamp))) .nil
  · change Target.storeMembers _ _ _ = _
    have hnamed := challengeNamed parse
    rw [hnamed.storeMembers (i := 0) rfl rfl (field_store (bytes_store _ _)),
      hnamed.storeMembers (i := 1) rfl rfl (field_store (text_store_identifier h.account _)),
      hnamed.storeMembers (i := 2) rfl rfl (field_store (text_store_identifier h.device _)),
      hnamed.storeMembers (i := 3) rfl rfl (field_store (time_store parse hstamp hzone _))]
    rfl

/-! ## Snapshots -/

theorem restores_devices {devices : Option (List DeviceIdentity)}
    (h : ∀ ds, devices = some ds → ∀ d ∈ ds, PlainDevice d) (depth : Nat) :
    Restores deviceTarget.slice (depth + 2) (marshalDevices devices)
      (devices.map fun ds => ⟨ds.map deviceVar, []⟩) := by
  cases devices with
  | none => exact ⟨.null, reads_null _, rfl⟩
  | some ds =>
      refine restores_array (List.forall₂_map_left_iff.mpr (List.forall₂_map_right_iff.mpr ?_))
      exact List.forall₂_same.mpr fun d hd => restores_device (h ds rfl d hd) depth

theorem restores_challenges {challenges : Option (List ChallengeSnapshot)} {text : Text}
    (h : ∀ cs, challenges = some cs → ∀ c ∈ cs, PlainChallenge c) (hzone : ∀ c, 60 ∣ zone c)
    (htext : marshalChallenges zone challenges = .ok text) (depth : Nat) :
    Restores (challengeTarget parse).slice (depth + 2) text
      (challenges.map fun cs => ⟨cs.map challengeVar, []⟩) := by
  cases challenges with
  | none =>
      cases htext
      exact ⟨.null, reads_null _, rfl⟩
  | some cs =>
      obtain ⟨texts, htexts, rfl⟩ := marshalChallenges_eq_ok.mp htext
      refine restores_array (List.forall₂_map_right_iff.mpr ?_)
      have hplain := h cs rfl
      clear h htext
      induction mapM_eq_ok.mp htexts with
      | nil => exact .nil
      | @cons c text cs texts hc hcs ih =>
          refine .cons (restores_challenge (hplain c (List.mem_cons_self ..)) (hzone c) hc depth) ?_
          exact ih (mapM_eq_ok.mpr hcs) fun c' hc' => hplain c' (List.mem_cons_of_mem _ hc')

theorem Plain.device {state : EnrollmentSnapshot} (h : Plain state) {ds : List DeviceIdentity}
    (hds : state.devices = some ds) {d : DeviceIdentity} (hd : d ∈ ds) : PlainDevice d := by
  have hbytes := h.devices ds hds d hd
  exact ⟨fun b hb => hbytes b (by simp [hb]), fun b hb => hbytes b (by simp [hb]),
    fun b hb => hbytes b (by simp [hb])⟩

theorem Plain.challenge {state : EnrollmentSnapshot} (h : Plain state)
    {cs : List ChallengeSnapshot} (hcs : state.challenges = some cs) {c : ChallengeSnapshot}
    (hc : c ∈ cs) : PlainChallenge c := by
  have hbytes := h.challenges cs hcs c hc
  exact ⟨fun b hb => hbytes b (by simp [hb]), fun b hb => hbytes b (by simp [hb])⟩

def snapshotVar (state : EnrollmentSnapshot) : SnapshotVar where
  schema := state.schema
  devices := state.devices.map fun ds => ⟨ds.map deviceVar, []⟩
  challenges := state.challenges.map fun cs => ⟨cs.map challengeVar, []⟩

theorem snapshotVar_snapshot (state : EnrollmentSnapshot) :
    (snapshotVar state).snapshot = state := by
  have hdevices : ∀ ds : List DeviceIdentity, (ds.map deviceVar).map DeviceVar.identity = ds :=
    fun ds => by
      rw [List.map_map]
      exact List.map_id _
  have hchallenges : ∀ cs : List ChallengeSnapshot,
      (cs.map challengeVar).map ChallengeVar.snapshot = cs := fun cs => by
    rw [List.map_map]
    exact List.map_id _
  obtain ⟨schema, devices, challenges⟩ := state
  simp only [snapshotVar, SnapshotVar.snapshot, Option.map_map, Function.comp_def, hdevices,
    hchallenges, Option.map_id']

theorem restores_snapshot {state : EnrollmentSnapshot} {data : Text} (h : Plain state)
    (hzone : ∀ c, 60 ∣ zone c) (hschema : -(2 ^ 63) ≤ state.schema ∧ state.schema < 2 ^ 63)
    (hdata : marshalSnapshot zone state = .ok data) :
    ∃ members, data = object members ∧
      Restores (snapshotTarget parse) 10000 (object members) (snapshotVar state) := by
  obtain ⟨challenges, hchallenges, hdata⟩ := bind_eq_ok.mp hdata
  cases hdata
  refine ⟨_, rfl, ?_⟩
  obtain ⟨ds, hds, hdsStore⟩ := restores_devices (fun ds hds d hd => h.device hds hd) 9997
  obtain ⟨cs, hcs, hcsStore⟩ : Restores (challengeTarget parse).slice 9999 challenges _ :=
    restores_challenges (fun cs hcs c hc => h.challenge hcs hc) hzone hchallenges 9997
  refine ⟨.object [(bytes "schema", .number (number state.schema)), (bytes "devices", ds),
    (bytes "challenges", cs)], reads_object ?_, ?_⟩
  · refine .cons (readsMember (by decide) (reads_number _ _)) ?_
    exact .cons (readsMember (by decide) hds) (.cons (readsMember (by decide) hcs) .nil)
  · change Target.storeMembers _ _ _ = _
    have hnamed := snapshotNamed parse
    rw [hnamed.storeMembers (i := 0) rfl rfl (field_store (integer_store hschema _)),
      hnamed.storeMembers (i := 1) rfl rfl (field_store hdsStore),
      hnamed.storeMembers (i := 2) rfl rfl (field_store hcsStore)]
    rfl

theorem decodeSnapshot_marshal {state : EnrollmentSnapshot} {data : Text} (h : Plain state)
    (hzone : ∀ c, 60 ∣ zone c) (hschema : -(2 ^ 63) ≤ state.schema ∧ state.schema < 2 ^ 63)
    (hdata : marshalSnapshot zone state = .ok data) : decodeSnapshot parse data = .ok state := by
  obtain ⟨members, rfl, hrestores⟩ := restores_snapshot h hzone hschema hdata
  rw [decodeSnapshot, decode_object hrestores, Except.map, snapshotVar_snapshot]

theorem snapshotCodec_roundTrips (hzone : ∀ c, 60 ∣ zone c) :
    (snapshotCodec zone parse).RoundTrips Plain := by
  intro state data hplain hdata
  simp only [snapshotCodec] at hdata ⊢
  split at hdata
  · next hschema =>
      rw [decodeSnapshot_marshal hplain hzone hschema hdata]
      rfl
  · cases hdata

end

/-- **What is persisted is restored.** After any calls on a new store,
whatever order its maps are listed in: the text of the listing is read as
the listing, and `restore` makes the same store of it. -/
theorem persisted_restores (C : Crypto) (zone : ChallengeSnapshot → Int)
    (hzone : ∀ c, 60 ∣ zone c) (parse : Text → Option Time) (ttl capacity : Int)
    (s₀ : EnrollmentStore) (hnew : EnrollmentStore.new ttl capacity = .ok s₀) (ops : List Op)
    (htimely : ∀ op ∈ ops, NonzeroExpiry ttl op) (state : EnrollmentSnapshot)
    (himage : Image state (after C s₀ ops)) (data : Text)
    (hdata : marshalSnapshot zone state = .ok data) :
    decodeSnapshot parse data = .ok state ∧
      ∃ t, FileEnrollmentStore.restored C s₀ state = .ok t ∧ Same t (after C s₀ ops) := by
  obtain ⟨hfresh, hadmissible⟩ := new_eq_ok (C := C) hnew
  have httl : s₀.ttl = ttl := by rw [hfresh]
  obtain ⟨hafter, hafterTtl, hafterCapacity⟩ :=
    admissible_after ops hadmissible fun op hop => httl ▸ htimely op hop
  have hschema : -(2 ^ 63) ≤ state.schema ∧ state.schema < 2 ^ 63 := by
    obtain ⟨_, _, -, -, rfl⟩ := id himage
    exact (by decide : -(2 ^ 63) ≤ (1 : Int) ∧ (1 : Int) < 2 ^ 63)
  refine ⟨decodeSnapshot_marshal (himage.plain hafter) hzone hschema hdata, ?_⟩
  refine restored_image hafter himage ?_
  rw [hafterTtl, hafterCapacity, hfresh]

/-! ### An instance -/

/-- One device is enrolled, and two are still to be. -/
def restoredOps : List Op :=
  [.issue (ascii "account") (ascii "device") (exampleTime 0) (some (exampleNonce 1)),
    .issue (ascii "account") (ascii "tablet") (exampleTime 5) (some (exampleNonce 2)),
    .enroll exampleRequest (exampleTime 10),
    .issue (ascii "account") (ascii "phone") (exampleTime 15) (some (exampleNonce 3))]

def pendingEntry (nonce : UInt8) (deviceID : String) (seconds : UInt32) :
    (_ : Digest) × PendingChallenge :=
  ⟨exampleCrypto.sha256 (exampleNonce nonce).value,
    ⟨ascii "account", ascii deviceID, exampleTime seconds⟩⟩

/-- The listing has the older challenge first, and the table the younger. -/
def restoredState : EnrollmentSnapshot :=
  ⟨1, some [exampleDevice],
    some ([pendingEntry 2 "tablet" 65, pendingEntry 3 "phone" 75].map
      FileEnrollmentStore.challengeSnapshot)⟩

theorem restoredState_image : Image restoredState (after exampleCrypto exampleStore restoredOps) :=
  ⟨[⟨ascii "device", exampleDevice⟩], [pendingEntry 2 "tablet" 65, pendingEntry 3 "phone" 75],
    by decide +kernel, by decide +kernel, rfl⟩

/-- Challenges that were issued in one time zone are read in another. -/
theorem persisted_restores_challenge :
    ∃ data t, marshalSnapshot (fun _ => -3600) restoredState = .ok data ∧
      decodeSnapshot (fun _ => none) data = .ok restoredState ∧
      FileEnrollmentStore.restored exampleCrypto exampleStore restoredState = .ok t ∧
      Same t (after exampleCrypto exampleStore restoredOps) := by
  obtain ⟨data, hdata⟩ : ∃ data, marshalSnapshot (fun _ => -3600) restoredState = .ok data :=
    ⟨_, rfl⟩
  have htimely : ∀ op ∈ restoredOps, NonzeroExpiry (60 * 10 ^ 9) op := by
    rintro op hop accountID deviceID now random rfl
    simp only [restoredOps, List.mem_cons, List.not_mem_nil, or_false, reduceCtorEq, false_or,
      Op.issue.injEq] at hop
    rcases hop with ⟨-, -, rfl, -⟩ | ⟨-, -, rfl, -⟩ | ⟨-, -, rfl, -⟩ <;> rfl
  obtain ⟨hread, t, ht, hsame⟩ := persisted_restores exampleCrypto (fun _ => -3600)
    (fun _ => ⟨-60, rfl⟩) (fun _ => none) (60 * 10 ^ 9) 10 exampleStore rfl restoredOps htimely
    restoredState restoredState_image data hdata
  exact ⟨data, t, hdata, hread, ht, hsame⟩

end CyberiaVpn.Identity
