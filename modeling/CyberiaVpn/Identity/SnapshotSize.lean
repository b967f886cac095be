import CyberiaVpn.Codec.Json
import CyberiaVpn.Codec.Rfc3339
import CyberiaVpn.Identity.Persistence

/-!
# The size of a snapshot

`persist` marshals the whole store and hands the text to a file that
refuses more than 16 MiB. Here the marshalling is `encoding/json`'s, with
the zone of each timestamp left open, and the text is bounded by the
store: a device takes 290 bytes at most and a challenge 265, and neither
map is larger than the capacity.
-/

namespace CyberiaVpn.Identity

open Codec Control Data Effects Snapshot

/-! ## The text -/

def marshalDevice (d : DeviceIdentity) : Text :=
  Json.object [("AccountID", Json.string d.accountID), ("DeviceID", Json.string d.deviceID),
    ("PublicKey", Json.slice d.publicKey), ("KeyID", Json.string d.keyID)]

def marshalerError (reason : String) : String :=
  "json: error calling MarshalJSON for type time.Time: Time.MarshalJSON: " ++ reason

/-- A timestamp may be at any offset from UTC. -/
def marshalChallenge (zone : ChallengeSnapshot → Int) (c : ChallengeSnapshot) :
    Except String Text :=
  match Rfc3339.timestamp (zone c) c.expiresAt.sec c.expiresAt.nsec with
  | .error .year => .error (marshalerError "year outside of range [0,9999]")
  | .error .zoneHour => .error (marshalerError "timezone hour outside of range [0,23]")
  | .ok text =>
      .ok (Json.object [("digest", Json.slice c.digest), ("account_id", Json.string c.accountID),
        ("device_id", Json.string c.deviceID), ("expires_at", 34 :: text ++ [34])])

/-! A nil slice is null. -/

def marshalDevices : Option (List DeviceIdentity) → Text
  | none => Json.null
  | some ds => Json.array (ds.map marshalDevice)

def marshalChallenges (zone : ChallengeSnapshot → Int) :
    Option (List ChallengeSnapshot) → Except String Text
  | none => .ok Json.null
  | some cs => Json.array <$> cs.mapM (marshalChallenge zone)

/-- `json.Marshal` of a snapshot. -/
def marshalSnapshot (zone : ChallengeSnapshot → Int) (state : EnrollmentSnapshot) :
    Except String Text := do
  let challenges ← marshalChallenges zone state.challenges
  return Json.object [("schema", Json.number state.schema),
    ("devices", marshalDevices state.devices), ("challenges", challenges)]

/-! ## Its length -/

theorem plain_identifierByte {b : UInt8} (h : identifierByte b = true) :
    b < 128 ∧ Json.escape b = [b] := by
  have hall : ∀ n < 256, identifierByte (UInt8.ofNat n) = true →
      UInt8.ofNat n < 128 ∧ Json.escape (UInt8.ofNat n) = [UInt8.ofNat n] := by decide +kernel
  have hb := hall b.toNat b.toNat_lt
  rw [UInt8.ofNat_toNat] at hb
  exact hb h

theorem length_identifier {id : Text} (h : validIdentifier id = true) :
    (Json.string id).length ≤ 65 := by
  have hle := validIdentifier_length h
  rw [Json.length_string fun b hb => plain_identifierByte (validIdentifier_bytes h b hb)]
  omega

theorem length_encodeToString (bytes : Text) : (encodeToString bytes).length = 2 * bytes.length := by
  simp [encodeToString, Nat.mul_comm]

variable {C : Crypto} {zone : ChallengeSnapshot → Int}

theorem length_marshalDevice {d : DeviceIdentity} (h : GoodDevice C d) :
    (marshalDevice d).length ≤ 290 := by
  have haccount := length_identifier h.account
  have hdevice := length_identifier h.device
  have hkey : (Json.slice d.publicKey).length = 46 := by rw [Json.length_slice, h.key]
  have hkeyID : (Json.string d.keyID).length = 66 := by
    rw [h.keyID, Json.length_string fun b hb => plain_identifierByte (encodeToString_bytes b hb),
      length_encodeToString, (C.sha256 d.publicKey).2]
  simp only [marshalDevice, Json.object, List.map_cons, List.map_nil, Json.commas]
  simp [hkey, hkeyID, Json.bytes]
  omega

/-- A challenge as the store has it. -/
theorem length_marshalChallenge {δ : Digest} {p : PendingChallenge} {text : Text}
    (haccount : validIdentifier p.accountID = true) (hdevice : validIdentifier p.deviceID = true)
    (h : marshalChallenge zone (FileEnrollmentStore.challengeSnapshot ⟨δ, p⟩) = .ok text) :
    text.length ≤ 265 := by
  have haccount := length_identifier haccount
  have hdevice := length_identifier hdevice
  have hdigest : (Json.slice δ.1).length = 46 := by rw [Json.length_slice, δ.2]
  rw [marshalChallenge] at h
  split at h
  · cases h
  · cases h
  next stamp hstamp =>
  have hstamp := Rfc3339.length_timestamp hstamp
  cases h
  simp only [Json.object, List.map_cons, List.map_nil, Json.commas,
    FileEnrollmentStore.challengeSnapshot]
  simp [hdigest, Json.bytes]
  omega

theorem marshalChallenge_eq_ok {c : ChallengeSnapshot}
    (h : Rfc3339.HasText (zone c) c.expiresAt.sec) : ∃ text, marshalChallenge zone c = .ok text := by
  obtain ⟨stamp, hstamp⟩ := h.timestamp_eq_ok c.expiresAt.nsec
  rw [marshalChallenge, hstamp]
  exact ⟨_, rfl⟩

example : marshalChallenge (fun _ => 3600)
      ⟨[7, 7], Json.bytes "home", Json.bytes "laptop", exampleTime 60⟩ =
    .ok (Json.bytes "\x7b\"digest\":\"Bwc=\",\"account_id\":\"home\",\"device_id\":\"laptop\"," ++
      Json.bytes "\"expires_at\":\"2026-01-02T01:01:00+01:00\"\x7d") := by
  decide +kernel

/-- What the size of a snapshot depends on. -/
structure Compact (C : Crypto) (s : EnrollmentStore) : Prop where
  devices : ∀ id d, s.devices.lookup id = some d → GoodDevice C d
  challenges : ∀ δ p, s.challenges.lookup δ = some p →
    validIdentifier p.accountID = true ∧ validIdentifier p.deviceID = true
  bounded : Bounded s

section Stores

variable {s : EnrollmentStore} {state : EnrollmentSnapshot} {data : Text}
  {ds : List ((_ : Text) × DeviceIdentity)} {cs : List ((_ : Digest) × PendingChallenge)}
  {texts : List Text}

theorem Compact.length_devices (hs : Compact C s) (hds : ds.Perm s.devices.entries) :
    ((Json.array ((ds.map Sigma.snd).map marshalDevice)).length : Int) ≤ s.capacity * 291 + 2 := by
  have hitems : ∀ item ∈ (ds.map Sigma.snd).map marshalDevice, item.length ≤ 290 := by
    intro item hitem
    obtain ⟨d, hd, rfl⟩ := List.mem_map.mp hitem
    obtain ⟨⟨id, d⟩, he, rfl⟩ := List.mem_map.mp hd
    exact length_marshalDevice (hs.devices id d (AList.mem_lookup_iff.mpr (hds.subset he)))
  have hlength := Json.length_array hitems
  have hcount : (ds.length : Int) ≤ s.capacity := hds.length_eq ▸ hs.bounded.2
  rw [List.length_map, List.length_map] at hlength
  omega

theorem Compact.length_challenges (hs : Compact C s) (hcs : cs.Perm s.challenges.entries)
    (htexts : (cs.map FileEnrollmentStore.challengeSnapshot).mapM (marshalChallenge zone) =
      .ok texts) :
    ((Json.array texts).length : Int) ≤ s.capacity * 266 + 2 := by
  have hitems : ∀ item ∈ texts, item.length ≤ 265 := by
    intro item hitem
    obtain ⟨c, hc, htext⟩ := exists_of_mem_mapM htexts hitem
    obtain ⟨⟨δ, p⟩, he, rfl⟩ := List.mem_map.mp hc
    obtain ⟨haccount, hdevice⟩ :=
      hs.challenges δ p (AList.mem_lookup_iff.mpr (hcs.subset he))
    exact length_marshalChallenge haccount hdevice htext
  have hlength := Json.length_array hitems
  have hcount : (cs.length : Int) ≤ s.capacity := hcs.length_eq ▸ hs.bounded.1
  rw [← (mapM_eq_ok.mp htexts).length_eq, List.length_map] at hlength
  omega

theorem marshalChallenges_eq_ok {cs : List ChallengeSnapshot} {text : Text} :
    marshalChallenges zone (some cs) = .ok text ↔
      ∃ texts, cs.mapM (marshalChallenge zone) = .ok texts ∧ Json.array texts = text := by
  rw [marshalChallenges]
  cases cs.mapM (marshalChallenge zone) with
  | error e => exact ⟨nofun, nofun⟩
  | ok texts => simp

theorem Compact.length_marshal (hs : Compact C s) (himage : Image state s)
    (h : marshalSnapshot zone state = .ok data) :
    (data.length : Int) ≤ s.capacity * 557 + 41 := by
  obtain ⟨ds, cs, hds, hcs, rfl⟩ := himage
  obtain ⟨_, hchallenges, h⟩ := bind_eq_ok.mp h
  obtain ⟨texts, htexts, rfl⟩ := marshalChallenges_eq_ok.mp hchallenges
  cases h
  have hdevices := hs.length_devices hds
  have hchallenges := hs.length_challenges hcs htexts
  have hschema : (Json.number 1).length = 1 := by decide
  simp only [Json.object, List.map_cons, List.map_nil, Json.commas, marshalDevices]
  simp [hschema, Json.bytes] at hdevices hchallenges ⊢
  omega

/-- With a text for each of its timestamps the store has one. -/
theorem marshal_eq_ok (himage : Image state s)
    (htimes : ∀ δ p, s.challenges.lookup δ = some p →
      Rfc3339.HasText (zone (FileEnrollmentStore.challengeSnapshot ⟨δ, p⟩)) p.expiresAt.sec) :
    ∃ data, marshalSnapshot zone state = .ok data := by
  obtain ⟨ds, cs, hds, hcs, rfl⟩ := himage
  have htotal : ∀ c ∈ cs.map FileEnrollmentStore.challengeSnapshot,
      ∃ text, marshalChallenge zone c = .ok text := by
    intro c hc
    obtain ⟨⟨δ, p⟩, he, rfl⟩ := List.mem_map.mp hc
    exact marshalChallenge_eq_ok (htimes δ p (AList.mem_lookup_iff.mpr (hcs.subset he)))
  obtain ⟨texts, htexts⟩ := mapM_total htotal
  exact ⟨_, bind_eq_ok.mpr ⟨_, marshalChallenges_eq_ok.mpr ⟨texts, htexts, rfl⟩, rfl⟩⟩

end Stores

/-! ## The stores that are persisted -/

section Kept

variable {s : EnrollmentStore}

/-- A call keeps a store compact. -/
theorem Compact.step (h : Compact C s) (op : Op) :
    Compact C (Identity.step C s op).2 ∧ (Identity.step C s op).2.capacity = s.capacity := by
  have heffect := step_effect C s op
  obtain ⟨hbounded, hcapacity⟩ := heffect.bounded h.bounded
  refine ⟨⟨fun id d hd => ?_, fun δ p hp => ?_, hbounded⟩, hcapacity⟩
  · exact (heffect.registered hd).elim (h.devices id d) And.right
  · rcases heffect.pending hp with hold | ⟨_, _, -, -, -, -, hids⟩
    · exact h.challenges δ p hold
    · exact hids

theorem compact_new {ttl capacity : Int} (h : EnrollmentStore.new ttl capacity = .ok s) :
    Compact C s ∧ s.capacity = capacity ∧ s.challenges = ∅ := by
  rw [EnrollmentStore.new] at h
  split at h
  · cases h
  next hvalid =>
  cases h
  refine ⟨⟨fun _ _ hd => ?_, fun _ _ hp => ?_, ?_, ?_⟩, rfl, rfl⟩
  · cases (AList.lookup_empty _).symm.trans hd
  · cases (AList.lookup_empty _).symm.trans hp
  · change (0 : Int) ≤ capacity
    omega
  · change (0 : Int) ≤ capacity
    omega

/-- What `restore` takes over has passed its checks. -/
theorem good_of_restoreDevices {ds : List DeviceIdentity} {devices devices' : Table Text DeviceIdentity}
    (h : restoreDevices C ds devices = .ok devices')
    (hgood : ∀ id d, devices.lookup id = some d → GoodDevice C d) :
    (∀ id d, devices'.lookup id = some d → GoodDevice C d) ∧
      Table.size devices' = Table.size devices + ds.length := by
  induction ds generalizing devices with
  | nil =>
      cases h
      exact ⟨hgood, rfl⟩
  | cons d ds ih =>
      rw [restoreDevices] at h
      split at h
      · cases h
      next hchecks =>
      split at h
      · cases h
      next hnew =>
      simp only [Bool.or_eq_true, Bool.not_eq_true', decide_eq_true_eq, not_or, Bool.not_eq_false,
        not_not] at hchecks
      obtain ⟨⟨⟨haccount, hdevice⟩, hkey⟩, hkeyID⟩ := hchecks
      obtain ⟨hall, hsize⟩ := ih h fun id d' hd' => by
        by_cases hid : id = d.deviceID
        · subst hid
          rw [AList.lookup_insert] at hd'
          obtain rfl := Option.some.inj hd'
          exact ⟨haccount, hdevice, hkey, hkeyID⟩
        · rw [AList.lookup_insert_ne hid] at hd'
          exact hgood id d' hd'
      refine ⟨hall, ?_⟩
      rw [hsize, Table.size_insert hnew, List.length_cons]
      omega

theorem valid_of_restoreChallenges {cs : List ChallengeSnapshot}
    {challenges challenges' : Table Digest PendingChallenge}
    (h : restoreChallenges cs challenges = .ok challenges')
    (hvalid : ∀ δ p, challenges.lookup δ = some p →
      validIdentifier p.accountID = true ∧ validIdentifier p.deviceID = true) :
    (∀ δ p, challenges'.lookup δ = some p →
      validIdentifier p.accountID = true ∧ validIdentifier p.deviceID = true) ∧
      Table.size challenges' = Table.size challenges + cs.length := by
  induction cs generalizing challenges with
  | nil =>
      cases h
      exact ⟨hvalid, rfl⟩
  | cons c cs ih =>
      rw [restoreChallenges] at h
      split at h
      swap
      · cases h
      split at h
      · cases h
      next hchecks =>
      split at h
      · cases h
      next hnew =>
      simp only [Bool.or_eq_true, Bool.not_eq_true', not_or, Bool.not_eq_false] at hchecks
      obtain ⟨hall, hsize⟩ := ih h fun δ p hp => by
        by_cases hδ : δ = ⟨c.digest, ‹_›⟩
        · subst hδ
          rw [AList.lookup_insert] at hp
          obtain rfl := Option.some.inj hp
          exact hchecks.1
        · rw [AList.lookup_insert_ne hδ] at hp
          exact hvalid δ p hp
      refine ⟨hall, ?_⟩
      rw [hsize, Table.size_insert hnew, List.length_cons]
      omega

/-- A store that was restored from any snapshot at all. -/
theorem Compact.restored {current s : EnrollmentStore} {state : EnrollmentSnapshot}
    (hempty : current.challenges = ∅) (h : FileEnrollmentStore.restored C current state = .ok s) :
    Compact C s ∧ s.capacity = current.capacity := by
  rw [FileEnrollmentStore.restored] at h
  split at h
  swap
  · cases h
  next ds cs _ _ =>
  simp only [bind_eq_ok, reject_eq_ok, not_or, not_lt] at h
  obtain ⟨_, ⟨-, hdevices, hchallenges⟩, devices, hds, challenges, hcs, h⟩ := h
  cases h
  rw [hempty] at hcs
  obtain ⟨hgood, hdsize⟩ := good_of_restoreDevices hds fun _ _ hd => by
    cases (AList.lookup_empty _).symm.trans hd
  obtain ⟨hvalid, hcsize⟩ := valid_of_restoreChallenges hcs fun _ _ hp => by
    cases (AList.lookup_empty _).symm.trans hp
  have hzero : Table.size (∅ : Table Text DeviceIdentity) = 0 := rfl
  have hzero' : Table.size (∅ : Table Digest PendingChallenge) = 0 := rfl
  refine ⟨⟨hgood, hvalid, ?_, ?_⟩, rfl⟩
  · change (Table.size challenges : Int) ≤ current.capacity
    omega
  · change (Table.size devices : Int) ≤ current.capacity
    omega

end Kept

/-! ## Calls -/

/-- An open store: its file is bounded as `OpenFileEnrollmentStore` bounds
it, and what it holds is small enough for that. -/
structure Provisioned (C : Crypto) (s : FileEnrollmentStore) : Prop where
  limit : s.file.limit = 16 * 2 ^ 20
  failed : s.file.failed = none ∨ s.file.failed = some .uncertain
  capacity : s.current.capacity ≤ 10000
  compact : Compact C s.current

/-- Why a call is refused that would persist `t`. -/
inductive Refusal (zone : ChallengeSnapshot → Int) (s : FileEnrollmentStore) (t : EnrollmentStore) :
    FileEnrollmentError → Prop where
  | domain (e : EnrollmentError) : Refusal zone s t (.domain e)
  | closed (h : s.file.lock = false) : Refusal zone s t (.file .closed)
  | uncertain : Refusal zone s t (.file .uncertain)
  | io (c : Call) : Refusal zone s t (.file (.io c))
  /-- A timestamp has no text. -/
  | json {state : EnrollmentSnapshot} {r : String} (image : Image state t)
      (error : marshalSnapshot zone state = .error r) : Refusal zone s t (.json r)

section Calls

variable {decode : Text → Except String EnrollmentSnapshot} {s s' : FileEnrollmentStore}
  {t : EnrollmentStore} {w : Disk}

/-- With capacities up to ten thousand every snapshot fits. -/
theorem Compact.fits (h : Compact C t) (hcapacity : t.capacity ≤ 10000)
    {state : EnrollmentSnapshot} {data : Text} (himage : Image state t)
    (hdata : marshalSnapshot zone state = .ok data) : (data.length : Int) ≤ 16 * 2 ^ 20 := by
  have hlength := h.length_marshal himage hdata
  omega

theorem Refusal.not_invalid {e : FileEnrollmentError} (h : Refusal zone s t e) (reason : String) :
    e ≠ .file (.invalid reason) := by
  cases h <;> exact fun h => by cases h

/-- The file of a snapshot with a text is refused by the disk only. -/
theorem Refusal.known {e : FileEnrollmentError} (h : Refusal zone s t e)
    (htimes : ∀ δ p, t.challenges.lookup δ = some p →
      Rfc3339.HasText (zone (FileEnrollmentStore.challengeSnapshot ⟨δ, p⟩)) p.expiresAt.sec) :
    (∃ d, e = .domain d) ∨ ∃ f, e = .file f ∧
      (f = .uncertain ∨ (∃ c, f = .io c) ∨ f = .closed ∧ s.file.lock = false) := by
  cases h with
  | domain d => exact .inl ⟨d, rfl⟩
  | closed hlock => exact .inr ⟨_, rfl, .inr (.inr ⟨rfl, hlock⟩)⟩
  | uncertain => exact .inr ⟨_, rfl, .inl rfl⟩
  | io c => exact .inr ⟨_, rfl, .inr (.inl ⟨c, rfl⟩)⟩
  | json himage herror =>
      obtain ⟨data, hdata⟩ := marshal_eq_ok himage htimes
      cases hdata.symm.trans herror

theorem Provisioned.uncertain (hs : Provisioned C s) :
    Provisioned C { s with file := { s.file with failed := some .uncertain } } :=
  ⟨hs.limit, .inr rfl, hs.capacity, hs.compact⟩

theorem persist_provisioned (hs : Provisioned C s) (husable : s.file.Usable) (ht : Compact C t)
    (hcapacity : t.capacity ≤ 10000) :
    (FileEnrollmentStore.persist ⟨marshalSnapshot zone, decode⟩ t).Sat (fun _ => True)
      (fun _ s' _ => Provisioned C s')
      (fun e s' _ => Provisioned C s' ∧ s'.file.lock = s.file.lock ∧ Refusal zone s t e) s w := by
  rw [FileEnrollmentStore.persist, Prog.sat_bind]
  refine sat_iterate (I := fun _ => True) fun ds w₁ hds _ => ⟨trivial, ?_⟩
  rw [Prog.sat_bind]
  refine sat_iterate (I := fun _ => True) fun cs w₂ hcs _ => ⟨trivial, ?_⟩
  have himage : Image ⟨1, some (ds.map Sigma.snd),
      some (cs.map FileEnrollmentStore.challengeSnapshot)⟩ t := ⟨ds, cs, hds, hcs, rfl⟩
  rw [Prog.sat_bind, saveState, Prog.sat_bind, Prog.sat_liftExcept]
  cases hdata : marshalSnapshot zone ⟨1, some (ds.map Sigma.snd),
      some (cs.map FileEnrollmentStore.challengeSnapshot)⟩ with
  | error r =>
      simp only [hdata, Except.mapError]
      exact ⟨hs, trivial, .json himage hdata⟩
  | ok data =>
      simp only [hdata, Except.mapError]
      have hfits := ht.fits hcapacity himage hdata
      rw [← hs.limit] at hfits
      refine Prog.sat_mapError.mpr (sat_onFile (I := fun _ => True) |>.mpr ?_)
      refine (File.write_sat.and (File.write_errors husable)).mono (fun _ _ => trivial) ?_ ?_
      · rintro _ file' w' ⟨hdone, -⟩
        obtain rfl := hdone.same
        exact Prog.sat_update.mpr ⟨hs.limit, hs.failed, hcapacity, ht⟩
      · rintro e file' w' ⟨haborted, herror⟩
        have hrefusal : Refusal zone s t (.file e) := by
          rcases herror with hlarge | rfl | ⟨c, rfl⟩
          · exact absurd hlarge (Int.not_lt.mpr hfits)
          · exact .uncertain
          · exact .io c
        cases haborted with
        | unchanged same =>
            subst same
            exact ⟨hs, rfl, hrefusal⟩
        | uncertain _ failed =>
            subst failed
            exact ⟨hs.uncertain, rfl, hrefusal⟩

/-- A call begins with a check. -/
theorem sat_checked {α : Type} {k : Unit → FileEnrollmentM α}
    {Q : α → FileEnrollmentStore → Disk → Prop}
    {E : FileEnrollmentError → FileEnrollmentStore → Disk → Prop} (hs : Provisioned C s)
    (hE : ∀ e, (e = .closed ∧ s.file.lock = false) ∨ e = .uncertain → E (.file e) s w)
    (hk : s.file.Usable → (k ()).Sat (fun _ => True) Q E s w) :
    ((onFile File.check).mapError .file >>= k).Sat (fun _ => True) Q E s w := by
  rw [Prog.sat_bind, Prog.sat_mapError]
  refine sat_onFile (I := fun _ => True) |>.mpr (File.check_errors.mono (fun _ _ => trivial) ?_ ?_)
  · rintro _ _ _ ⟨rfl, rfl, husable⟩
    exact hk husable
  · rintro e _ _ ⟨rfl, rfl, hclosed | hfailed⟩
    · exact hE e (.inl hclosed)
    · refine hE e (.inr ?_)
      rcases hs.failed with hnone | hsome
      · cases hnone.symm.trans hfailed
      · exact (Option.some.inj (hsome.symm.trans hfailed)).symm

/-- A call that fails leaves a provisioned store, and has its reason. -/
def Ended (C : Crypto) (zone : ChallengeSnapshot → Int) (s : FileEnrollmentStore) (c : FileCall)
    (e : FileEnrollmentError) (s' : FileEnrollmentStore) : Prop :=
  Provisioned C s' ∧ ∀ op, c.op = some op → Refusal zone s (step C s.current op).2 e

/-- The candidate is what the call makes of the store in memory. -/
theorem persist_ended {α : Type} {k : Unit → FileEnrollmentM α}
    {Q : α → FileEnrollmentStore → Disk → Prop} {c : FileCall} {op : Op} (hs : Provisioned C s)
    (husable : s.file.Usable) (hop : c.op = some op) (ht : (step C s.current op).2 = t)
    (hk : ∀ s' w', Provisioned C s' →
      (k ()).Sat (fun _ => True) Q (fun e s' _ => Ended C zone s c e s') s' w') :
    (FileEnrollmentStore.persist ⟨marshalSnapshot zone, decode⟩ t >>= k).Sat (fun _ => True) Q
      (fun e s' _ => Ended C zone s c e s') s w := by
  obtain ⟨hcompact, hcapacity⟩ := hs.compact.step op
  rw [ht] at hcompact hcapacity
  rw [Prog.sat_bind]
  refine (persist_provisioned hs husable hcompact (hcapacity ▸ hs.capacity)).mono
    (fun _ h => h) (fun _ s' w' h => hk s' w' h) ?_
  rintro e s' w' ⟨hs', -, hrefusal⟩
  refine ⟨hs', fun op' hop' => ?_⟩
  rwa [← Option.some.inj (hop.symm.trans hop'), ht]

/-- A call keeps a store provisioned, and is refused for one of the
reasons. -/
theorem answer_provisioned (hs : Provisioned C s) (c : FileCall) :
    (FileEnrollmentStore.answer C ⟨marshalSnapshot zone, decode⟩ c).Sat (fun _ => True)
      (fun _ s' _ => Provisioned C s') (fun e s' _ => Ended C zone s c e s') s w := by
  have hcheck : ∀ e, (e = .closed ∧ s.file.lock = false) ∨ e = .uncertain →
      Ended C zone s c (.file e) s := by
    rintro e (⟨rfl, hclosed⟩ | rfl)
    · exact ⟨hs, fun _ _ => .closed hclosed⟩
    · exact ⟨hs, fun _ _ => .uncertain⟩
  have hdomain : ∀ e s', Provisioned C s' → Ended C zone s c (.domain e) s' := fun e s' hs' =>
    ⟨hs', fun _ _ => .domain e⟩
  cases c with
  | close =>
      rw [FileEnrollmentStore.answer, Prog.sat_bind, FileEnrollmentStore.close, Prog.sat_mapError]
      refine (sat_close (I := fun _ => True) (Q := fun s' _ => Provisioned C s') (fun _ => hs)
        fun _ _ _ => ⟨trivial, hs.limit, hs.failed, hs.capacity, hs.compact⟩).mono
        (fun _ h => h) (fun _ _ _ h => Prog.sat_pure.mpr h) fun _ _ _ h => ⟨h, fun _ hop => by cases hop⟩
  | issue accountID deviceID now random =>
      rw [FileEnrollmentStore.answer, Prog.sat_bind]
      refine sat_checked hs hcheck fun husable => ?_
      rw [Prog.sat_bind, Prog.sat_self]
      split
      · exact Prog.sat_fail.mpr (hdomain _ s hs)
      · next challenge candidate hissue =>
          exact persist_ended hs husable rfl (congrArg Prod.snd hissue) fun _ _ hs' =>
            Prog.sat_pure.mpr (Prog.sat_pure.mpr hs')
  | enroll request now =>
      rw [FileEnrollmentStore.answer, Prog.sat_bind]
      refine sat_checked hs hcheck fun husable => ?_
      rw [Prog.sat_bind, Prog.sat_self]
      split
      · next device candidate henroll =>
          exact persist_ended hs husable rfl (congrArg Prod.snd henroll) fun _ _ hs' =>
            Prog.sat_pure.mpr (Prog.sat_pure.mpr hs')
      · next e candidate henroll =>
          split
          · exact persist_ended hs husable rfl (congrArg Prod.snd henroll) fun _ s' hs' =>
              Prog.sat_fail.mpr (hdomain e _ hs')
          · exact Prog.sat_fail.mpr (hdomain e s hs)
  | device accountID deviceID =>
      rw [FileEnrollmentStore.answer, Prog.sat_bind]
      refine sat_checked hs hcheck fun husable => ?_
      rw [Prog.sat_bind, Prog.sat_self, Prog.sat_liftExcept]
      cases s.current.device accountID deviceID with
      | error e => exact hdomain e s hs
      | ok device => exact Prog.sat_pure.mpr hs

/-- A store that opens is provisioned, whatever the disk held. -/
theorem open_provisioned {path : String} {ttl capacity : Int} :
    (FileEnrollmentStore.openFileEnrollmentStore C ⟨marshalSnapshot zone, decode⟩ path ttl
      capacity).Sat (fun _ => True) (fun _ s' _ => Provisioned C s') (fun _ _ _ => True) s w := by
  rw [FileEnrollmentStore.openFileEnrollmentStore, Prog.sat_bind, Prog.sat_liftExcept]
  cases hnew : EnrollmentStore.new ttl capacity with
  | error e => trivial
  | ok current =>
      obtain ⟨hcompact, rfl, hempty⟩ := compact_new (C := C) hnew
      simp only [Except.mapError]
      split
      · exact Prog.sat_fail.mpr trivial
      next hcapacity =>
      have hcapacity : current.capacity ≤ 10000 := Int.not_lt.mp hcapacity
      rw [Prog.sat_bind, Prog.sat_update]
      have hopen : Provisioned C { s with file := ⟨16 * 2 ^ 20, true, none⟩, current } :=
        ⟨rfl, .inl rfl, hcapacity, hcompact⟩
      refine openStore_sat (I := fun _ => True) (E := fun _ _ => True) (fun _ _ => trivial)
        (fun _ _ _ _ => trivial) (fun _ _ _ _ _ => trivial) (fun w' _ _ _ => ?_)
        fun i w' _ _ _ _ _ => ?_
      · refine (persist_provisioned hopen ⟨rfl, rfl⟩ hcompact hcapacity).mono
          (fun _ h => h) (fun _ _ _ h => h) ?_
        rintro e s' w'' ⟨-, hlock, -⟩
        exact ⟨hlock, fun _ _ => ⟨trivial, trivial⟩⟩
      · rw [FileEnrollmentStore.restore, Prog.sat_bind, Prog.sat_self, Prog.sat_bind,
          Prog.sat_liftExcept]
        split
        swap
        · exact ⟨rfl, fun _ _ => ⟨trivial, trivial⟩⟩
        next state _ =>
        rw [Prog.sat_bind, Prog.sat_liftExcept]
        split
        swap
        · exact ⟨rfl, fun _ _ => ⟨trivial, trivial⟩⟩
        next restored hrestored =>
        obtain ⟨hrestored, hsame⟩ := Compact.restored hempty hrestored
        exact Prog.sat_update.mpr ⟨rfl, .inl rfl, hsame.trans_le hcapacity, hrestored⟩

end Calls

/-! ## Every run -/

/-- The store with calls at any times, one after the other. -/
def enrollmentService (C : Crypto) (codec : JsonCodec EnrollmentSnapshot) (path : String)
    (ttl capacity : Int) :
    Durable FileEnrollmentStore Disk Call FileEnrollmentError FileCall FileAnswer
      (Option (Nat × Nat)) where
  zero := ⟨File.zero, ⟨∅, 0, 0, ∅⟩⟩
  start := FileEnrollmentStore.openFileEnrollmentStore C codec path ttl capacity
  call := FileEnrollmentStore.answer C codec
  crash := Disk.crash

/-- The stores that `persist` is given: a new one when there is no file,
and what a call makes of the store of a process. -/
inductive Persists (C : Crypto) (ttl capacity : Int) (f : Fleet FileEnrollmentStore Disk) :
    EnrollmentStore → Prop where
  | opening {t : EnrollmentStore} (new : EnrollmentStore.new ttl capacity = .ok t)
      (bound : capacity ≤ 10000) : Persists C ttl capacity f t
  | calling {s : FileEnrollmentStore} {c : FileCall} {op : Op} (handle : s ∈ f.handles)
      (request : c.op = some op) : Persists C ttl capacity f (step C s.current op).2

/-- **Capacity is never the file's.** In every run of opens, calls, closes
and crashes, from any disk and with any system call failing, what is
marshalled has at most 16 MiB. An `Issue` or `Enroll` is never refused for
its size; with timestamps that RFC 3339 can write it is refused by the
store in memory, or because the file is closed or a system call failed. -/
theorem snapshots_fit (C : Crypto) (zone : ChallengeSnapshot → Int)
    (decode : Text → Except String EnrollmentSnapshot) (path : String) (ttl capacity : Int)
    (disk : Disk) (events : List (Effects.Event FileCall (Option (Nat × Nat)))) :
    let D := enrollmentService C ⟨marshalSnapshot zone, decode⟩ path ttl capacity
    let f := (D.run events ⟨disk, []⟩).1
    (∀ t state data, Persists C ttl capacity f t → Image state t →
      marshalSnapshot zone state = .ok data → data.length ≤ 16 * 2 ^ 20) ∧
    ∀ s ∈ f.handles, ∀ (c : FileCall) (op : Op) (e : FileEnrollmentError), c.op = some op →
      (D.call c s f.world).result = .error e →
        (∀ reason, e ≠ .file (.invalid reason)) ∧
        ((∀ δ p, (step C s.current op).2.challenges.lookup δ = some p →
          Rfc3339.HasText (zone (FileEnrollmentStore.challengeSnapshot ⟨δ, p⟩)) p.expiresAt.sec) →
          (∃ d, e = .domain d) ∨ ∃ f, e = .file f ∧
            (f = .uncertain ∨ (∃ c, f = .io c) ∨ f = .closed ∧ s.file.lock = false)) := by
  intro D f
  have hhandles : ∀ s ∈ f.handles, Provisioned C s := by
    refine D.run_handles (fun w => open_provisioned) (fun c s w hs => ?_) events disk
    rcases (answer_provisioned hs c).result with ⟨_, -, hs'⟩ | ⟨_, -, hs', -⟩
    · exact hs'
    · exact hs'
  refine ⟨fun t state data ht himage hdata => ?_, fun s hs c op e hop he => ?_⟩
  · have hfits : (data.length : Int) ≤ 16 * 2 ^ 20 := by
      cases ht with
      | opening hnew hbound =>
          obtain ⟨hcompact, hcapacity, -⟩ := compact_new (C := C) hnew
          exact hcompact.fits (hcapacity.trans_le hbound) himage hdata
      | @calling s c op hs hop =>
          obtain ⟨hcompact, hcapacity⟩ := (hhandles s hs).compact.step op
          exact hcompact.fits (hcapacity.trans_le (hhandles s hs).capacity) himage hdata
    exact_mod_cast hfits
  · have hrefusal := ((answer_provisioned (hhandles s hs) c).of_error he).2 op hop
    exact ⟨hrefusal.not_invalid, hrefusal.known⟩

end CyberiaVpn.Identity
