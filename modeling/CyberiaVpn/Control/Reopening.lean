import CyberiaVpn.Codec.Decimal
import CyberiaVpn.Control.FileStore

/-!
# Opening the envelopes again

A process opens a `FileStore` on a new path, publishes sealed envelopes
and closes it. `reopen_iff` says when the next process gets them back:
exactly when the store it closes holds at most 10000 devices. With one
device more every publication is still acknowledged, and the path can no
longer be opened.
-/

namespace CyberiaVpn.Control

open Codec Data Effects Snapshot

namespace FileStore

/-! ## What is asked of a reopen -/

/-- The newest acknowledged envelope for a device, or that there is none. -/
def Newest (acknowledged : List SignedConfig) (deviceID : Text) :
    Except FileStoreError SignedConfig → Prop
  | .ok envelope => envelope ∈ acknowledged ∧ envelope.config.deviceID = deviceID ∧
      ∀ other ∈ acknowledged, other.config.deviceID = deviceID →
        other.config.version ≤ envelope.config.version
  | .error e => e = .domain .configNotFound ∧
      ∀ other ∈ acknowledged, other.config.deviceID ≠ deviceID

section

variable (codec : JsonCodec FileState) (path : String)

/-- A first process, up to its last publication. -/
def session (envelopes : List SignedConfig) : FileStoreM (List SignedConfig) := do
  openFileStore codec path
  publishAll codec envelopes

/-- The first process closes its store and a second one opens the path. -/
def reopened (envelopes : List SignedConfig) (disk : Disk) :
    Outcome FileStore Disk Call FileStoreError Unit :=
  let first := session codec path envelopes zero disk
  openFileStore codec path zero (close first.self first.world).world

/-- All that was acknowledged is there again. -/
def Reopens (envelopes : List SignedConfig) (disk : Disk) : Prop :=
  ∃ acknowledged, (session codec path envelopes zero disk).result = .ok acknowledged ∧
    (reopened codec path envelopes disk).result = .ok () ∧
    ∀ deviceID, Newest acknowledged deviceID
      (latest deviceID (reopened codec path envelopes disk).self
        (reopened codec path envelopes disk).world).result

end

variable {codec : JsonCodec FileState} {N : NetipText} {path : String} {disk : Disk}
  {envelopes acknowledged : List SignedConfig} {s : FileStore} {w : Disk}

theorem session_serving (hcodec : codec.RoundTrips (SealedState N))
    (hempty : ∃ data, codec.marshal ⟨1, some []⟩ = .ok data ∧ (data.length : Int) ≤ 16 * 2 ^ 20)
    (hpath : path ≠ "") (hdisk : disk.Ready) (hfree : ¬disk.Held) (hnone : disk.slot.target = none)
    (hsealed : ∀ envelope ∈ envelopes, Sealed N envelope) :
    ∃ acknowledged, (session codec path envelopes zero disk).result = .ok acknowledged ∧
      Serving codec N acknowledged (session codec path envelopes zero disk).self
        (session codec path envelopes zero disk).world := by
  have hsession : (session codec path envelopes).Sat (fun _ => True)
      (fun acknowledged s' w' => Serving codec N acknowledged s' w') (fun _ _ _ => False) zero
      disk := by
    rw [session, Prog.sat_bind]
    refine (openFileStore_fresh hcodec hempty hdisk hpath hfree hnone).mono (fun _ h => h) ?_
      fun _ _ _ h => h
    exact fun _ s' w' hs' => publishAll_sat hcodec envelopes hsealed hs'
  rcases hsession.result with ⟨acknowledged, hok, hs⟩ | ⟨_, -, hfalse⟩
  · exact ⟨acknowledged, hok, hs⟩
  · exact hfalse.elim

/-- Closing gives the lock back and leaves the rest. -/
theorem close_serving (hs : Serving codec N acknowledged s w) :
    (close s w).world.Ready ∧ ¬(close s w).world.Held ∧
      Stored codec s.data.devices.read (close s w).world := by
  have hclose : close.Sat (fun _ => True)
      (fun _ _ w' => Became { w.slot with locked := false } w w')
      (fun _ _ w' => Became { w.slot with locked := false } w w') s w := by
    rw [close, Prog.sat_mapError]
    refine sat_close (I := fun _ => True) (fun hidle => absurd ?_ hidle) fun w' _ hb => ⟨trivial, hb⟩
    change s.file.lock = true
    rw [hs.file]
  have hb : Became { w.slot with locked := false } w (close s w).world := by
    rcases hclose.result with ⟨_, -, h⟩ | ⟨_, -, h⟩ <;> exact h
  refine ⟨hb.ready hs.ready, ?_, ?_⟩
  · rw [Disk.Held, hb.slot]
    rintro ⟨⟩
  · rw [Stored, hb.slot]
    exact hs.stored

/-- What a reopened store answers. -/
theorem latest_newest (hs : Serving codec N acknowledged s w) {s' : FileStore} {w' : Disk}
    (husable : s'.file.Usable) (hsame : Table.Same s'.data.devices.read s.data.devices.read)
    (deviceID : Text) : Newest acknowledged deviceID (latest deviceID s' w').result := by
  have hlatest : (latest deviceID).Sat (fun _ => True)
      (fun envelope _ _ => Newest acknowledged deviceID (.ok envelope))
      (fun e _ _ => Newest acknowledged deviceID (.error e)) s' w' := by
    rw [latest, Prog.sat_bind, Prog.sat_mapError]
    refine sat_check (I := fun _ => True) (fun _ => ?_) fun _ hnot _ => absurd husable hnot
    rw [Prog.sat_bind, Prog.sat_self, Prog.sat_liftExcept, MemoryStore.latest,
      Table.same_lookup hsame]
    cases hfound : s.data.devices.read.lookup deviceID with
    | none =>
        refine ⟨rfl, fun other hother hid => ?_⟩
        rw [← hid, AList.lookup_eq_none] at hfound
        exact hfound (hs.covered other hother)
    | some envelope =>
        obtain ⟨hmem, hnewest⟩ := hs.newest deviceID envelope hfound
        exact ⟨hmem, (hs.filed deviceID envelope hfound).1, hnewest⟩
  rcases hlatest.result with ⟨_, hr, h⟩ | ⟨_, hr, h⟩ <;> rw [hr] <;> exact h

/-- The two ways a reopen can end. -/
theorem reopened_cases (hcodec : codec.RoundTrips (SealedState N))
    (hempty : ∃ data, codec.marshal ⟨1, some []⟩ = .ok data ∧ (data.length : Int) ≤ 16 * 2 ^ 20)
    (hpath : path ≠ "") (hdisk : disk.Ready) (hfree : ¬disk.Held) (hnone : disk.slot.target = none)
    (hsealed : ∀ envelope ∈ envelopes, Sealed N envelope) :
    (Table.size (session codec path envelopes zero disk).self.data.devices.read ≤ 10000 ∧
        Reopens codec path envelopes disk) ∨
      (10000 < Table.size (session codec path envelopes zero disk).self.data.devices.read ∧
        ¬Reopens codec path envelopes disk) := by
  obtain ⟨acknowledged, hok, hs⟩ :=
    session_serving hcodec hempty hpath hdisk hfree hnone hsealed
  obtain ⟨hready, hunheld, hstored⟩ := close_serving hs
  have hreopen : (openFileStore codec path).Sat _ _ _ zero _ :=
    openFileStore_stored hready hpath hunheld hs.filed hstored
  rcases hreopen.result with ⟨_, hr, hsize, husable, hsame⟩ | ⟨_, hr, hlarge⟩
  · exact Or.inl ⟨hsize, acknowledged, hok, hr, latest_newest hs husable hsame⟩
  · refine Or.inr ⟨hlarge, fun h => ?_⟩
    obtain ⟨_, -, hr', -⟩ := h
    exact absurd (hr.symm.trans hr') nofun

/-- **What was acknowledged can be opened again exactly when the store that
is closed holds at most 10000 devices.** -/
theorem reopen_iff (N : NetipText) (codec : JsonCodec FileState)
    (hcodec : codec.RoundTrips (SealedState N))
    (hempty : ∃ data, codec.marshal ⟨1, some []⟩ = .ok data ∧ (data.length : Int) ≤ 16 * 2 ^ 20)
    (path : String) (hpath : path ≠ "") (disk : Disk) (hdisk : disk.Ready) (hfree : ¬disk.Held)
    (hnone : disk.slot.target = none) (envelopes : List SignedConfig)
    (hsealed : ∀ envelope ∈ envelopes, Sealed N envelope) :
    Reopens codec path envelopes disk ↔
      Table.size (session codec path envelopes zero disk).self.data.devices.read ≤ 10000 := by
  rcases reopened_cases hcodec hempty hpath hdisk hfree hnone hsealed with
    ⟨hsize, hreopens⟩ | ⟨hlarge, hnot⟩
  · exact ⟨fun _ => hsize, fun _ => hreopens⟩
  · exact ⟨fun h => absurd h hnot, fun h => absurd hlarge (Nat.not_lt.mpr h)⟩

/-! ## One device too many -/

/-- When no table over `pool` is refused, complete envelopes of the pool for
distinct new devices are all acknowledged. -/
theorem publishAll_all (hcodec : codec.RoundTrips (SealedState N)) {pool : SignedConfig → Prop}
    (hfits : ∀ devices : Table Text SignedConfig, Filed devices →
      (∀ id envelope, devices.lookup id = some envelope → pool envelope) →
      ¬Refused codec devices) :
    ∀ (envelopes : List SignedConfig) {acknowledged : List SignedConfig} {s : FileStore} {w : Disk},
      (∀ envelope ∈ envelopes, Sealed N envelope ∧ Complete envelope ∧ pool envelope) →
      (∀ envelope ∈ acknowledged, pool envelope) →
      ((acknowledged ++ envelopes).map (·.config.deviceID)).Nodup →
      Serving codec N acknowledged s w →
      (publishAll codec envelopes).Sat (fun _ => True)
        (fun more s' w' => more = envelopes ∧ Serving codec N (acknowledged ++ envelopes) s' w')
        (fun _ _ _ => False) s w
  | [], acknowledged, s, w, _, _, _, hs => by
      refine Prog.sat_pure.mpr ⟨rfl, ?_⟩
      rwa [List.append_nil]
  | envelope :: rest, acknowledged, s, w, hgood, hold, hnodup, hs => by
      obtain ⟨hsealed, hcomplete, hpool⟩ := hgood envelope (List.mem_cons_self ..)
      have hfresh : ∀ other ∈ acknowledged,
          other.config.deviceID ≠ envelope.config.deviceID := by
        rw [List.map_append, List.nodup_append] at hnodup
        exact fun other hother => hnodup.2.2 _ (List.mem_map_of_mem hother) _
          (List.mem_map_of_mem (List.mem_cons_self ..))
      have hnewer : Newer s.data.devices.read envelope := by
        intro current hcurrent
        obtain ⟨hmem, -⟩ := hs.newest _ current hcurrent
        exact absurd (hs.filed _ current hcurrent).1 (hfresh current hmem)
      have hnext : ∀ other ∈ acknowledged ++ [envelope], pool other := by
        intro other hother
        rcases List.mem_append.mp hother with hother | hother
        · exact hold other hother
        · rw [List.mem_singleton.mp hother]
          exact hpool
      rw [publishAll, Prog.sat_bind, Prog.sat_attempt]
      refine (publish_sat hcodec hs hsealed).mono (fun _ h => h) ?_ ?_
      · intro _ s' w' hs'
        rw [Prog.sat_bind]
        have hnodup' : ((acknowledged ++ [envelope] ++ rest).map (·.config.deviceID)).Nodup := by
          rwa [List.append_assoc]
        refine (publishAll_all hcodec hfits rest (fun other hother =>
          hgood other (List.mem_cons_of_mem _ hother)) hnext hnodup' hs').mono (fun _ h => h) ?_
          fun _ _ _ h => h
        rintro _ s'' w'' ⟨rfl, hs''⟩
        rw [List.append_assoc] at hs''
        exact Prog.sat_pure.mpr ⟨rfl, hs''⟩
      · rintro _ s' w' ⟨-, hrefused⟩
        refine absurd (hrefused hcomplete hnewer) (hfits _ (hs.filed.insert hcomplete) ?_)
        intro id found hfound
        by_cases hid : id = envelope.config.deviceID
        · subst hid
          rw [AList.lookup_insert] at hfound
          obtain rfl := Option.some.inj hfound
          exact hpool
        · rw [AList.lookup_insert_ne hid] at hfound
          exact hold found (hs.newest id found hfound).1

/-- After acknowledgements for distinct devices a store has as many. -/
theorem Serving.size_eq (hs : Serving codec N acknowledged s w)
    (hnodup : (acknowledged.map (·.config.deviceID)).Nodup) :
    Table.size s.data.devices.read = acknowledged.length := by
  have hsubset : acknowledged.map (·.config.deviceID) ⊆ s.data.devices.read.keys := by
    intro id hid
    obtain ⟨envelope, henvelope, rfl⟩ := List.mem_map.mp hid
    exact AList.mem_keys.mp (hs.covered envelope henvelope)
  have hsubset' : s.data.devices.read.keys ⊆ acknowledged.map (·.config.deviceID) := by
    intro id hid
    obtain ⟨envelope, henvelope⟩ := Table.mem_iff_lookup.mp (AList.mem_keys.mpr hid)
    rw [← (hs.filed id envelope henvelope).1]
    exact List.mem_map_of_mem (hs.newest id envelope henvelope).1
  have hle := (hnodup.subperm hsubset).length_le
  have hge := (s.data.devices.read.keys_nodup.subperm hsubset').length_le
  rw [List.length_map, AList.keys, List.keys, List.length_map] at hle hge
  exact Nat.le_antisymm hge hle

end FileStore

/-! ### A fleet of devices that differ in their ID only -/

/-- Device IDs of five digits. -/
def fleetID (k : Nat) : Text := decimal (10000 + k)

def fleetEnvelope (k : Nat) : SignedConfig :=
  ⟨{ exampleConfig 1 with deviceID := fleetID k }, ascii "key", List.replicate 64 9⟩

def recordHead : Text := ascii "\x7b\"config\":\x7b\"version\":1,\"device_id\":\""

def recordTail : Text :=
  ascii "\",\"node_id\":\"node-1\"," ++ ascii "\"transport\":\"wireguard\"," ++
    ascii "\"endpoint\":\"203.0.113.9:" ++ ascii "51820\",\"dns\":[\"10.8.0.1\"]," ++
    ascii "\"wireguard\":" ++ ascii "\x7b\"peer_public_key\":" ++
    ascii "\"BwcHBwcHBwcHBwcHBwcHBwcHBwcH" ++ ascii "BwcHBwcHBwcHBwc=\"," ++
    ascii "\"tunnel_addresses\":" ++ ascii "[\"10.8.0.2/32\"],\"allowed_ips\":" ++
    ascii "[\"10.8.0.2/32\"],\"mtu\":1420," ++ ascii "\"persistent_keepalive_seconds" ++
    ascii "\":25\x7d,\"issued_at\":" ++ ascii "\"2026-01-02T00:00:00Z\"," ++
    ascii "\"expires_at\":\"2026-01-02T01:" ++ ascii "00:00Z\"\x7d,\"key_id\":\"key\"," ++
    ascii "\"signature\":" ++ ascii "\"CQkJCQkJCQkJCQkJCQkJCQkJCQkJ" ++
    ascii "CQkJCQkJCQkJCQkJCQkJCQkJCQkJC" ++ ascii "QkJCQkJCQkJCQkJCQkJCQkJCQkJCQ" ++
    ascii "==\"\x7d"

/-- The JSON of an envelope of the fleet. -/
def record (envelope : SignedConfig) : Text := recordHead ++ envelope.config.deviceID ++ recordTail

def stateHead : Text := ascii "\x7b\"schema\":1,\"envelopes\":["

def stateText : List SignedConfig → Text
  | [] => stateHead ++ ascii "]\x7d"
  | envelope :: rest =>
      stateHead ++ (record envelope ++ (rest.flatMap (fun other => 44 :: record other) ++
        ascii "]\x7d"))

/-- The envelope is one of the first 10001 of the fleet. -/
def InFleet (envelope : SignedConfig) : Prop := ∃ k ≤ 10000, envelope = fleetEnvelope k

theorem length_fleetID {k : Nat} (hk : k ≤ 10000) : (fleetID k).length = 5 :=
  length_decimal (by omega) (by omega)

theorem fleetID_inj {k l : Nat} (h : fleetID k = fleetID l) : k = l :=
  Nat.add_left_cancel (decimal_inj h)

theorem validIdentifier_fleetID {k : Nat} (hk : k ≤ 10000) : validIdentifier (fleetID k) = true := by
  have hlength := length_fleetID hk
  have hdigit : ∀ b ∈ fleetID k, 48 ≤ b.toNat ∧ b.toNat < 58 := fun b hb => decimal_digit hb
  have hdash : (45 : UInt8) ∉ fleetID k := fun h => absurd (hdigit 45 h) (by decide)
  simp only [validIdentifier, Bool.and_eq_true, decide_eq_true_eq, List.all_eq_true]
  refine ⟨⟨⟨⟨?_, ?_⟩, fun h => hdash (List.mem_of_head? h)⟩, fun h => hdash
    (List.mem_of_getLast? h)⟩, fun b hb => ?_⟩
  · intro h
    rw [h] at hlength
    cases hlength
  · omega
  · obtain ⟨hlow, hhigh⟩ := hdigit b hb
    have hlow' : (48 : UInt8) ≤ b := UInt8.le_iff_toNat_le.mpr hlow
    have hhigh' : b ≤ (57 : UInt8) := UInt8.le_iff_toNat_le.mpr (Nat.le_of_lt_succ hhigh)
    simp [identifierByte, hlow', hhigh']

theorem length_record {k : Nat} (hk : k ≤ 10000) : (record (fleetEnvelope k)).length = 515 := by
  rw [record, List.length_append, List.length_append]
  have hid : (fleetEnvelope k).config.deviceID.length = 5 := length_fleetID hk
  rw [hid, show recordHead.length = 36 by decide +kernel,
    show recordTail.length = 474 by decide +kernel]

theorem record_inj {e e' : SignedConfig} (he : InFleet e) (he' : InFleet e')
    (h : record e = record e') : e = e' := by
  obtain ⟨k, hk, rfl⟩ := he
  obtain ⟨l, hl, rfl⟩ := he'
  rw [record, record, List.append_assoc, List.append_assoc] at h
  have hid := List.append_cancel_right (List.append_cancel_left h)
  rw [fleetID_inj hid]

theorem length_record_eq {e e' : SignedConfig} (he : InFleet e) (he' : InFleet e') :
    (record e).length = (record e').length := by
  obtain ⟨k, hk, rfl⟩ := he
  obtain ⟨l, hl, rfl⟩ := he'
  rw [length_record hk, length_record hl]

theorem records_inj : ∀ {es es' : List SignedConfig}, (∀ e ∈ es, InFleet e) →
    (∀ e ∈ es', InFleet e) →
    es.flatMap (fun e => 44 :: record e) = es'.flatMap (fun e => 44 :: record e) → es = es'
  | [], [], _, _, _ => rfl
  | [], _ :: _, _, _, h => by cases h
  | _ :: _, [], _, _, h => by cases h
  | e :: es, e' :: es', he, he', h => by
      have hhead := he e (List.mem_cons_self ..)
      have hhead' := he' e' (List.mem_cons_self ..)
      rw [List.flatMap_cons, List.flatMap_cons] at h
      obtain ⟨hrecord, hrest⟩ := List.append_inj h (by simp [length_record_eq hhead hhead'])
      rw [record_inj hhead hhead' (List.cons.inj hrecord).2,
        records_inj (fun x hx => he x (List.mem_cons_of_mem _ hx))
          (fun x hx => he' x (List.mem_cons_of_mem _ hx)) hrest]

theorem stateText_inj : ∀ {es es' : List SignedConfig}, (∀ e ∈ es, InFleet e) →
    (∀ e ∈ es', InFleet e) → stateText es = stateText es' → es = es'
  | [], [], _, _, _ => rfl
  | [], e :: es, _, he', h => by
      have hlength := congrArg List.length (List.append_cancel_left h)
      obtain ⟨k, hk, rfl⟩ := he' e (List.mem_cons_self ..)
      rw [List.length_append, length_record hk, List.length_append] at hlength
      omega
  | e :: es, [], he, _, h => by
      have hlength := congrArg List.length (List.append_cancel_left h)
      obtain ⟨k, hk, rfl⟩ := he e (List.mem_cons_self ..)
      rw [List.length_append, length_record hk, List.length_append] at hlength
      omega
  | e :: es, e' :: es', he, he', h => by
      have hhead := he e (List.mem_cons_self ..)
      have hhead' := he' e' (List.mem_cons_self ..)
      obtain ⟨hrecord, hrest⟩ :=
        List.append_inj (List.append_cancel_left h) (length_record_eq hhead hhead')
      rw [record_inj hhead hhead' hrecord,
        records_inj (fun x hx => he x (List.mem_cons_of_mem _ hx))
          (fun x hx => he' x (List.mem_cons_of_mem _ hx)) (List.append_cancel_right hrest)]

theorem length_stateText : ∀ {es : List SignedConfig}, (∀ e ∈ es, InFleet e) →
    (stateText es).length ≤ 27 + 516 * es.length := by
  have hhead : stateHead.length = 25 := by decide +kernel
  have htail : (ascii "]\x7d").length = 2 := by decide +kernel
  have hrecords : ∀ {es : List SignedConfig}, (∀ e ∈ es, InFleet e) →
      (es.flatMap (fun e => 44 :: record e)).length = 516 * es.length := by
    intro es he
    induction es with
    | nil => rfl
    | cons e es ih =>
        obtain ⟨k, hk, rfl⟩ := he e (List.mem_cons_self ..)
        rw [List.flatMap_cons, List.length_append, List.length_cons, length_record hk,
          ih fun x hx => he x (List.mem_cons_of_mem _ hx), List.length_cons]
        omega
  intro es he
  cases es with
  | nil => rw [stateText, List.length_append, hhead, htail]; omega
  | cons e es =>
      obtain ⟨k, hk, rfl⟩ := he e (List.mem_cons_self ..)
      rw [stateText, List.length_append, List.length_append, List.length_append, length_record hk,
        hrecords fun x hx => he x (List.mem_cons_of_mem _ hx), hhead, htail, List.length_cons]
      omega

/-- Go's JSON on the snapshots of the fleet. -/
noncomputable def fleetCodec : JsonCodec FileState :=
  open Classical in
  { marshal := fun state =>
      match state.envelopes with
      | none => .error "no envelopes"
      | some envelopes =>
          if state.schema = 1 ∧ ∀ envelope ∈ envelopes, InFleet envelope then
            .ok (stateText envelopes)
          else .error "not the fleet"
    decode := fun data =>
      if h : ∃ envelopes, (∀ envelope ∈ envelopes, InFleet envelope) ∧ stateText envelopes = data then
        .ok ⟨1, some h.choose⟩
      else .error "not the fleet" }

theorem fleetCodec_marshal {envelopes : List SignedConfig}
    (h : ∀ envelope ∈ envelopes, InFleet envelope) :
    fleetCodec.marshal ⟨1, some envelopes⟩ = .ok (stateText envelopes) :=
  if_pos ⟨rfl, h⟩

theorem fleetCodec_roundTrips (S : FileState → Prop) : fleetCodec.RoundTrips S := by
  rintro ⟨schema, _ | envelopes⟩ data _ hdata
  · cases hdata
  simp only [fleetCodec] at hdata ⊢
  split at hdata
  swap
  · cases hdata
  next hfleet =>
  obtain ⟨hschema, hfleet⟩ := hfleet
  obtain rfl : schema = 1 := hschema
  obtain rfl := Except.ok.inj hdata
  have hex : ∃ es, (∀ e ∈ es, InFleet e) ∧ stateText es = stateText envelopes :=
    ⟨envelopes, hfleet, rfl⟩
  rw [dif_pos hex, stateText_inj hex.choose_spec.1 hfleet hex.choose_spec.2]

theorem fleetEnvelope_complete {k : Nat} (hk : k ≤ 10000) : Complete (fleetEnvelope k) :=
  ⟨validIdentifier_fleetID hk, nofun, (by decide : validIdentifier (ascii "key") = true), nofun⟩

theorem DeviceConfig.validate_deviceID {config : DeviceConfig} {deviceID : Text}
    (h : validIdentifier deviceID = true) (hconfig : validIdentifier config.deviceID = true)
    (now : Time) : ({ config with deviceID } : DeviceConfig).validate now = config.validate now := by
  simp only [validate, h, hconfig]

theorem fleetEnvelope_sealed {k : Nat} (hk : k ≤ 10000) : Sealed exampleText (fleetEnvelope k) := by
  refine ⟨(fleetEnvelope k).config, exampleTime 5, exampleSigner, ?_⟩
  have hvalid : (fleetEnvelope k).config.validate (exampleTime 5) = .ok () :=
    (DeviceConfig.validate_deviceID (validIdentifier_fleetID hk) (by decide) _).trans (by decide)
  rw [sealConfig, hvalid]
  rfl

theorem fleet_nodup (n : Nat) :
    (((List.range n).map fleetEnvelope).map (·.config.deviceID)).Nodup := by
  rw [List.map_map]
  exact List.nodup_range.map fun k l h => fleetID_inj h

/-- A table of the fleet is small enough for its snapshot. -/
theorem fleet_not_refused {devices : Table Text SignedConfig} (hfiled : Filed devices)
    (hfleet : ∀ id envelope, devices.lookup id = some envelope → InFleet envelope) :
    ¬FileStore.Refused fleetCodec devices := by
  rintro ⟨_, ⟨entries, hentries, rfl⟩, hlarge⟩
  have hentry : ∀ entry ∈ entries, entry.2.config.deviceID = entry.1 ∧ InFleet entry.2 := by
    intro entry hentry
    have hlookup := AList.mem_lookup_iff.mpr (hentries.subset hentry)
    exact ⟨(hfiled _ _ hlookup).1, hfleet _ _ hlookup⟩
  have hall : ∀ envelope ∈ entries.map Sigma.snd, InFleet envelope := by
    intro envelope henvelope
    obtain ⟨entry, hmem, rfl⟩ := List.mem_map.mp henvelope
    exact (hentry entry hmem).2
  have hcount : entries.length ≤ 10001 := by
    have hnodup : entries.NodupKeys := (List.perm_nodupKeys hentries).mpr devices.nodupKeys
    have hsubset : entries.keys ⊆ (List.range 10001).map fleetID := by
      intro id hid
      obtain ⟨entry, hmem, rfl⟩ := List.mem_map.mp hid
      obtain ⟨hown, k, hk, hentry⟩ := hentry entry hmem
      rw [← hown, hentry]
      exact List.mem_map_of_mem (List.mem_range.mpr (by omega))
    have hle := (List.Nodup.subperm hnodup hsubset).length_le
    rwa [List.keys, List.length_map, List.length_map, List.length_range] at hle
  have hlength := length_stateText hall
  have hlarge := hlarge _ (fleetCodec_marshal hall)
  rw [List.length_map] at hlength
  omega

theorem fleetCodec_empty : ∃ data, fleetCodec.marshal ⟨1, some []⟩ = .ok data ∧
    (data.length : Int) ≤ 16 * 2 ^ 20 := by
  have hnone : ∀ envelope ∈ ([] : List SignedConfig), InFleet envelope := fun _ h =>
    (List.not_mem_nil h).elim
  have hlength := length_stateText hnone
  exact ⟨_, fleetCodec_marshal hnone, by rw [List.length_nil] at hlength; omega⟩

/-- Of a fleet of up to 10001 devices every envelope is acknowledged. -/
theorem fleet_size {n : Nat} (hn : n ≤ 10001) :
    Table.size (FileStore.session fleetCodec "configs.json" ((List.range n).map fleetEnvelope)
      FileStore.zero emptyDisk).self.data.devices.read = n := by
  have hsession : (FileStore.session fleetCodec "configs.json"
      ((List.range n).map fleetEnvelope)).Sat (fun _ => True) (fun more s' w' =>
        more = (List.range n).map fleetEnvelope ∧ FileStore.Serving fleetCodec exampleText
          ([] ++ (List.range n).map fleetEnvelope) s' w')
      (fun _ _ _ => False) FileStore.zero emptyDisk := by
    rw [FileStore.session, Prog.sat_bind]
    refine (FileStore.openFileStore_fresh (fleetCodec_roundTrips (SealedState exampleText))
      fleetCodec_empty emptyDisk_ready (by decide) nofun rfl).mono (fun _ h => h) ?_ fun _ _ _ h => h
    intro _ s' w' hs'
    refine FileStore.publishAll_all (fleetCodec_roundTrips _) (fun _ => fleet_not_refused) _
      (fun envelope henvelope => ?_) (fun _ h => (List.not_mem_nil h).elim) (fleet_nodup n) hs'
    obtain ⟨k, hk, rfl⟩ := List.mem_map.mp henvelope
    have hk : k ≤ 10000 := by
      have hk := List.mem_range.mp hk
      omega
    exact ⟨fleetEnvelope_sealed hk, fleetEnvelope_complete hk, k, hk, rfl⟩
  rcases hsession.result with ⟨_, -, -, hs⟩ | ⟨_, -, hfalse⟩
  · exact (hs.size_eq (fleet_nodup n)).trans (by simp)
  · exact hfalse.elim

theorem fleet_sealed {n : Nat} (hn : n ≤ 10001) :
    ∀ envelope ∈ (List.range n).map fleetEnvelope, Sealed exampleText envelope := by
  intro envelope henvelope
  obtain ⟨k, hk, rfl⟩ := List.mem_map.mp henvelope
  have hk := List.mem_range.mp hk
  exact fleetEnvelope_sealed (by omega)

/-- Two devices come back. -/
theorem reopen_iff_two_devices :
    FileStore.Reopens fleetCodec "configs.json" ((List.range 2).map fleetEnvelope) emptyDisk :=
  (FileStore.reopen_iff exampleText fleetCodec (fleetCodec_roundTrips _) fleetCodec_empty
    "configs.json" (by decide) emptyDisk emptyDisk_ready nofun rfl _
    (fleet_sealed (by decide))).mpr (by rw [fleet_size (by decide)]; decide)

/-- 10001 devices do not. -/
theorem fleet_does_not_reopen :
    fleetCodec.RoundTrips (SealedState exampleText) ∧
      (∃ data, fleetCodec.marshal ⟨1, some []⟩ = .ok data ∧ (data.length : Int) ≤ 16 * 2 ^ 20) ∧
      emptyDisk.Ready ∧ ¬emptyDisk.Held ∧ emptyDisk.slot.target = none ∧
      (∀ envelope ∈ (List.range 10001).map fleetEnvelope, Sealed exampleText envelope) ∧
      ¬FileStore.Reopens fleetCodec "configs.json" ((List.range 10001).map fleetEnvelope)
        emptyDisk := by
  refine ⟨fleetCodec_roundTrips _, fleetCodec_empty, emptyDisk_ready, nofun, rfl,
    fleet_sealed (Nat.le_refl _), ?_⟩
  have hsealed := fleet_sealed (Nat.le_refl 10001)
  rcases FileStore.reopened_cases (fleetCodec_roundTrips _) fleetCodec_empty
    (by decide : "configs.json" ≠ "") emptyDisk_ready nofun rfl hsealed with
    ⟨hsize, -⟩ | ⟨-, hnot⟩
  · rw [fleet_size (Nat.le_refl _)] at hsize
    exact absurd hsize (by decide)
  · exact hnot

end CyberiaVpn.Control
