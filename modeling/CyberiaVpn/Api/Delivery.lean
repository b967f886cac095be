import CyberiaVpn.Api.Isolation
import CyberiaVpn.Control.Client
import CyberiaVpn.Control.Reopening

/-!
# A sealed configuration reaches its device

From `Seal` through `Publish`, the configuration handler and JSON to
`ClientState.Accept`. Each stage copies the value and two of them verify
it, at clocks of their own. A configuration that was valid when it was
sealed is valid until it expires (`validate_later`), a signature that was
made with a trusted key verifies wherever the message is the same, and the
store serves the highest version (`publishAll_highest`).

`encoding/json` is a parameter. What is assumed of it is `Transmits`.
-/

namespace CyberiaVpn.Api

open Control Data Identity Snapshot Effects

/-! ## Time passes -/

/-- Away from the ends of the range `Add` is exact. -/
theorem nanos_add {t : Time} {d : Int} (hd : 10 ^ 9 ≤ d) (h : t.nanos + d < 2 ^ 63 * 10 ^ 9) :
    (t.add d).nanos = t.nanos + d := by
  have hsec := t.sec_range
  have hnsec := t.nsec_lt
  simp only [Time.add, Time.nanos] at h ⊢
  omega

/-- The checks that read the clock stay passed until the configuration
expires. -/
theorem validate_later {config : DeviceConfig} {sealTime now : Time}
    (hvalid : config.validate sealTime = .ok ()) (hlater : sealTime.nanos ≤ now.nanos)
    (hunexpired : config.expiresAt.after now = true) (hyears : config.expiresAt.sec < 2 ^ 62) :
    config.validate now = .ok () := by
  simp only [DeviceConfig.validate, andThen_eq_ok, reject_eq_ok] at hvalid ⊢
  obtain ⟨h1, h2, h3, h4, h5, h6, h7, h8, h9, hissued, -⟩ := hvalid
  refine ⟨h1, h2, h3, h4, h5, h6, h7, h8, h9, ?_, by simp [hunexpired]⟩
  have hskew : maximumClockSkew = 300000000000 := rfl
  have hsealed := sealTime.sec_range
  have hnsec := config.expiresAt.nsec_lt
  simp only [Time.after, decide_eq_true_eq, not_lt] at hunexpired hissued ⊢
  have hbound : config.expiresAt.nanos < 2 ^ 62 * 10 ^ 9 + 10 ^ 9 := by
    simp only [Time.nanos]
    omega
  rw [nanos_add (by omega) (by omega)] at hissued ⊢
  omega

/-! ## Sealing -/

/-- What `ed25519.Sign` makes with one key, `ed25519.Verify` takes under
the other. -/
def Matching (sign : Text → Text → Text) (check : Text → Text → Text → Bool)
    (privateKey publicKey : Text) : Prop :=
  ∀ message, (sign privateKey message).length = 64 ∧
    check publicKey message (sign privateKey message) = true

section

variable {N : NetipText} {sign : Text → Text → Text} {check : Text → Text → Text → Bool}
  {publicKeys : List (Text × Text)} {keyID privateKey publicKey : Text} {config : DeviceConfig}
  {sealTime now : Time}

def sealedEnvelope (N : NetipText) (sign : Text → Text → Text) (keyID privateKey : Text)
    (config : DeviceConfig) : SignedConfig :=
  ⟨config, keyID, sign privateKey (signingMessage N config)⟩

theorem seal_eq (hvalid : config.validate sealTime = .ok ()) (hkeyID : validIdentifier keyID = true) :
    sealConfig N config sealTime (some (ed25519Signer sign keyID privateKey)) =
      .ok (sealedEnvelope N sign keyID privateKey config) := by
  simp only [sealConfig, hvalid, Except.mapError, ed25519Signer, reject, hkeyID, Bool.not_true,
    Bool.false_eq_true, if_false, cloneConfig_eq]
  rfl

theorem sealedEnvelope_verifies (htrusted : publicKeys.lookup keyID = some publicKey)
    (hkeys : Matching sign check privateKey publicKey) :
    (ed25519Verifier check publicKeys).verify keyID (signingMessage N config)
      (sealedEnvelope N sign keyID privateKey config).signature = .ok () := by
  obtain ⟨hlength, hcheck⟩ := hkeys (signingMessage N config)
  simp [ed25519Verifier, htrusted, sealedEnvelope, hlength, hcheck]

theorem sealedEnvelope_complete (hvalid : config.validate sealTime = .ok ())
    (hkeyID : validIdentifier keyID = true) (hkeys : Matching sign check privateKey publicKey) :
    Complete (sealedEnvelope N sign keyID privateKey config) := by
  simp only [DeviceConfig.validate, andThen_eq_ok, reject_eq_ok, Bool.or_eq_true,
    Bool.not_eq_true', not_or, Bool.not_eq_false] at hvalid
  refine ⟨hvalid.2.1.1, hvalid.1, hkeyID, fun hempty => ?_⟩
  have hlength := (hkeys (signingMessage N config)).1
  rw [show sign privateKey (signingMessage N config) = [] from hempty] at hlength
  cases hlength

/-- It opens for its device until it expires. -/
theorem sealedEnvelope_opens (hvalid : config.validate now = .ok ())
    (htrusted : publicKeys.lookup keyID = some publicKey)
    (hkeys : Matching sign check privateKey publicKey) {acceptedVersion : UInt64}
    (hnewer : acceptedVersion < config.version) :
    openForDevice N (sealedEnvelope N sign keyID privateKey config) config.deviceID acceptedVersion
      now (some (ed25519Verifier check publicKeys)) = .ok config := by
  have hverify : (ed25519Verifier check publicKeys).verify keyID (signingMessage N config)
      (sealedEnvelope N sign keyID privateKey config).signature = .ok () :=
    sealedEnvelope_verifies htrusted hkeys
  have hopen : openConfig N (sealedEnvelope N sign keyID privateKey config) now
      (some (ed25519Verifier check publicKeys)) = .ok config := by
    simp only [openConfig, sealedEnvelope] at hverify ⊢
    rw [hverify, hvalid]
    rfl
  refine bind_eq_ok.mpr ⟨config, hopen, bind_eq_ok.mpr ⟨(), reject_eq_ok.mpr (not_not.mpr rfl), ?_⟩⟩
  exact bind_eq_ok.mpr ⟨(), reject_eq_ok.mpr (UInt64.not_le.mpr hnewer), rfl⟩

end

/-! ## The client -/

section

variable {codec : JsonCodec ClientSnapshot} {N : NetipText} {verifier : Verifier}
  {client : ClientState} {disk : Disk} {received : SignedConfig} {config : DeviceConfig}
  {now : Time}

/-- An envelope is not rejected, nothing else is returned in its place, and
nothing but the state file can keep it from being returned. -/
structure Takes (codec : JsonCodec ClientSnapshot) (N : NetipText) (verifier : Verifier)
    (client : ClientState) (disk : Disk) (received : SignedConfig) (now : Time)
    (config : DeviceConfig) : Prop where
  notRejected : ∀ e, (ClientState.accept codec N received now (some verifier) client
    disk).result ≠ .error (.rejected e)
  unchanged : ∀ returned, (ClientState.accept codec N received now (some verifier) client
    disk).result = .ok returned → returned = config
  accepted : ∀ data, client.file.Usable → disk.Ready →
    codec.marshal ⟨1, client.deviceID, config.version⟩ = .ok data →
    data.length ≤ client.file.limit →
    (ClientState.accept codec N received now (some verifier) client disk).result = .ok config ∧
    (ClientState.accept codec N received now (some verifier) client disk).self.version =
      config.version

theorem accept_sat
    (hopen : openForDevice N received client.deviceID client.version now (some verifier) =
      .ok config) :
    (ClientState.accept codec N received now (some verifier)).Sat (fun _ => True)
      (fun returned s' _ => returned = config ∧ s'.version = config.version)
      (fun e _ _ => (∀ e', e ≠ .rejected e') ∧ (client.file.Usable → disk.Ready →
        ∀ data, codec.marshal ⟨1, client.deviceID, config.version⟩ = .ok data →
          client.file.limit < data.length))
      client disk := by
  rw [ClientState.accept, Prog.sat_bind, Prog.sat_mapError]
  refine sat_check (I := fun _ => True) (fun husable => ?_)
    fun e hunusable _ => ⟨by rintro _ ⟨⟩, fun h => absurd h hunusable⟩
  rw [Prog.sat_bind, Prog.sat_self, Prog.sat_bind, Prog.sat_liftExcept, hopen]
  change Prog.Sat _ _ _ _ _ _
  rw [Prog.sat_bind, ClientState.save, Prog.sat_bind, Prog.sat_self]
  refine saveState_sat (I := fun _ => True) ?_ (fun _ _ _ _ => trivial) ?_ ?_
  · intro r hr
    refine ⟨by rintro _ ⟨⟩, fun _ _ data hdata => ?_⟩
    rw [hr] at hdata
    cases hdata
  · intro data _ file w' hdone
    rw [Prog.sat_bind, Prog.sat_update, Prog.sat_pure]
    exact ⟨rfl, rfl⟩
  · intro data hdata e file w' hnot
    refine ⟨by rintro _ ⟨⟩, fun hfile hready data' hdata' => ?_⟩
    obtain rfl := Except.ok.inj (hdata.symm.trans hdata')
    cases hnot with
    | unchanged _ _ _ refused => exact refused hfile hready
    | uncertain _ _ _ _ fault _ => exact absurd hready fault

/-- What opens is taken. -/
theorem takes_opened
    (hopen : openForDevice N received client.deviceID client.version now (some verifier) =
      .ok config) : Takes codec N verifier client disk received now config := by
  have hsat : (ClientState.accept codec N received now (some verifier)).Sat (fun _ => True) _ _
      client disk := accept_sat hopen
  rcases hsat.result with ⟨returned, hr, rfl, hversion⟩ | ⟨e, hr, hreason, hfile⟩
  · refine ⟨fun e he => ?_, fun other hother => ?_, fun _ _ _ _ _ => ⟨hr, hversion⟩⟩
    · rw [hr] at he
      cases he
    · rw [hr] at hother
      exact (Except.ok.inj hother).symm
  · refine ⟨fun e' he' => ?_, fun other hother => ?_, fun data husable hready hdata hfits => ?_⟩
    · rw [hr] at he'
      exact hreason e' (Except.error.inj he')
    · rw [hr] at hother
      cases hother
    · exact absurd hfits (not_le.mpr (hfile husable hready data hdata))

end

/-! ## The whole way -/

/-- What is assumed of `encoding/json` at envelopes: it gives back what it
was given, with the newline the encoder adds, and refuses an instant
beyond the year 9999 of its own zone, which is less than a day away. -/
structure Transmits (N : NetipText) (codec : JsonCodec SignedConfig) : Prop where
  roundTrips : ∀ envelope data, Sealed N envelope → codec.marshal envelope = .ok data →
    codec.decode (data ++ [10]) = .ok envelope
  years : ∀ envelope data, codec.marshal envelope = .ok data →
    envelope.config.expiresAt.sec < 315537897600 + 86400

/-- After the configuration was sealed and before it expires. -/
structure InWindow (config : DeviceConfig) (sealTime now : Time) : Prop where
  later : sealTime.nanos ≤ now.nanos
  unexpired : config.expiresAt.after now = true

theorem getConfiguration_ok {json : Json} {N : NetipText} {verifier : Verifier} {server : Server}
    {accountID : Text} {device : DeviceIdentity} {envelope : SignedConfig} {config : DeviceConfig}
    {now : Time} (haccount : accountID ≠ []) (hreadable : server.Readable)
    (howns : server.Owns accountID config.deviceID device)
    (hserved : server.configurations.envelopes.lookup config.deviceID = some envelope)
    (hopen : openForDevice N envelope config.deviceID 0 now (some verifier) = .ok config) :
    server.getConfiguration json (.ok accountID) config.deviceID N verifier now =
      securityHeaders (writeJSON json.envelope 200 envelope) := by
  obtain ⟨hlookup, howner⟩ := howns
  rw [Server.getConfiguration, authenticated_eq haccount, Server.device_eq hreadable,
    Server.latest_eq hreadable, hlookup, hserved]
  simp only [howner, ne_eq, not_true, if_false, hopen]

/-- **Delivered unchanged.** A configuration that is valid when it is
sealed with a trusted key, and whose version is the highest published for
its device, is delivered to the owner while it lasts, and a client that
has not accepted its version yet takes it as it was sealed. -/
theorem delivered_unchanged (json : Json) (N : NetipText) (hjson : Transmits N json.envelope)
    (codec : JsonCodec ClientSnapshot) (sign : Text → Text → Text)
    (check : Text → Text → Text → Bool) (publicKeys : List (Text × Text))
    (keyID privateKey publicKey : Text) (hkeyID : validIdentifier keyID = true)
    (htrusted : publicKeys.lookup keyID = some publicKey)
    (hkeys : Matching sign check privateKey publicKey) (config : DeviceConfig) (sealTime : Time)
    (hvalid : config.validate sealTime = .ok ()) :
    ∃ envelope, sealConfig N config sealTime (some (ed25519Signer sign keyID privateKey)) =
        .ok envelope ∧
      ∀ data, json.envelope.marshal envelope = .ok data →
      ∀ (start : MemoryStore) (pre post : List SignedConfig), start.Highest pre post envelope →
      ∃ store, start.publishAll (pre ++ envelope :: post) = some store ∧
      ∀ server : Server, server.configurations.envelopes = store.devices.read →
        server.Readable →
      ∀ accountID device, validIdentifier accountID = true →
        server.Owns accountID config.deviceID device →
      ∀ now, InWindow config sealTime now →
        let response := server.getConfiguration json (.ok accountID) config.deviceID N
          (ed25519Verifier check publicKeys) now
        response.status = 200 ∧
        ∃ received, json.envelope.decode response.body = .ok received ∧
      ∀ (client : ClientState) (disk : Disk), client.deviceID = config.deviceID →
        client.version < config.version → ∀ later, InWindow config sealTime later →
        Takes codec N (ed25519Verifier check publicKeys) client disk received later config := by
  have hversion : 0 < config.version := by
    simp only [DeviceConfig.validate, andThen_eq_ok, reject_eq_ok] at hvalid
    exact UInt64.pos_iff_ne_zero.mpr hvalid.1
  have hsealed : sealConfig N config sealTime (some (ed25519Signer sign keyID privateKey)) =
      .ok (sealedEnvelope N sign keyID privateKey config) := seal_eq hvalid hkeyID
  refine ⟨_, hsealed, fun data hdata start pre post hhighest => ?_⟩
  have hyears : config.expiresAt.sec < 2 ^ 62 :=
    lt_trans (hjson.years _ data hdata) (by decide)
  have hopens : ∀ {v : UInt64}, v < config.version → ∀ {now : Time}, InWindow config sealTime now →
      openForDevice N (sealedEnvelope N sign keyID privateKey config) config.deviceID v now
        (some (ed25519Verifier check publicKeys)) = .ok config :=
    fun hv _ hnow => sealedEnvelope_opens
      (validate_later hvalid hnow.later hnow.unexpired hyears) htrusted hkeys hv
  obtain ⟨store, hstore, hserved⟩ := MemoryStore.publishAll_highest
    (sealedEnvelope_complete hvalid hkeyID hkeys) hhighest
  refine ⟨store, hstore, fun server hserver hreadable accountID device haccount howns now hnow => ?_⟩
  have haccount : accountID ≠ [] := by
    rintro rfl
    cases haccount
  rw [getConfiguration_ok haccount hreadable howns (hserver ▸ hserved) (hopens hversion hnow)]
  refine ⟨rfl, sealedEnvelope N sign keyID privateKey config, ?_, ?_⟩
  · simp only [securityHeaders, writeJSON, hdata]
    exact hjson.roundTrips _ data ⟨_, _, _, hsealed⟩ hdata
  · intro client disk hdevice hstale later hlater
    exact takes_opened (hdevice ▸ hopens hstale hlater)

/-! ### An instance -/

/-- One envelope and its JSON, with or without a newline. -/
def singleCodec (envelope : SignedConfig) (text : Text) : JsonCodec SignedConfig where
  marshal other := if other = envelope then .ok text else .error "unknown value"
  decode data := if data = text ∨ data = text ++ [10] then .ok envelope else .error "unknown text"

theorem singleCodec_marshal (envelope : SignedConfig) (text : Text) :
    (singleCodec envelope text).marshal envelope = .ok text :=
  if_pos rfl

theorem singleCodec_transmits {N : NetipText} {envelope : SignedConfig} {text : Text}
    (hyears : envelope.config.expiresAt.sec < 315537897600 + 86400) :
    Transmits N (singleCodec envelope text) := by
  have hmarshal : ∀ {other data}, (singleCodec envelope text).marshal other = .ok data →
      other = envelope ∧ data = text := by
    intro other data h
    simp only [singleCodec] at h
    split at h
    · next hother => exact ⟨hother, (Except.ok.inj h).symm⟩
    · cases h
  refine ⟨fun other data _ h => ?_, fun other data h => ?_⟩
  · obtain ⟨rfl, rfl⟩ := hmarshal h
    exact if_pos (Or.inr rfl)
  · obtain ⟨rfl, -⟩ := hmarshal h
    exact hyears

theorem singleCodec_decode {envelope received : SignedConfig} {text data : Text}
    (h : (singleCodec envelope text).decode data = .ok received) : received = envelope := by
  simp only [singleCodec] at h
  split at h
  · exact (Except.ok.inj h).symm
  · cases h

def laptopJson : Json :=
  ⟨exampleErrors, .ofTable [], singleCodec (exampleEnvelope 1) (record (exampleEnvelope 1))⟩

def laptopServer (store : MemoryStore) : Server :=
  { exampleServer exampleDevices with configurations := .memory store }

/-- Every message has a signature, and version 1 one of its own. -/
def laptopSign (_privateKey message : Text) : Text :=
  if message = signingMessage exampleText (exampleConfig 1) then List.replicate 64 9
  else 0 :: (message ++ List.replicate 63 0).take 63

def laptopCheck (publicKey message signature : Text) : Bool :=
  publicKey == List.replicate 32 1 && signature == laptopSign (List.replicate 64 2) message

theorem laptop_matching :
    Matching laptopSign laptopCheck (List.replicate 64 2) (List.replicate 32 1) := by
  intro message
  constructor
  · unfold laptopSign
    split
    · exact List.length_replicate ..
    · simp
  · simp [laptopCheck]

theorem laptop_sealedEnvelope :
    sealedEnvelope exampleText laptopSign (ascii "key") (List.replicate 64 2) (exampleConfig 1) =
      exampleEnvelope 1 := by
  unfold sealedEnvelope laptopSign
  rw [if_pos rfl]
  rfl

theorem laptop_inWindow {seconds : UInt32} (h5 : 5 ≤ seconds.toNat)
    (h3600 : seconds.toNat < 3600) :
    InWindow (exampleConfig 1) (exampleTime 5) (exampleTime seconds) := by
  refine ⟨?_, ?_⟩
  · simp only [Time.nanos, exampleTime, UInt32.reduceToNat]
    omega
  · refine decide_eq_true ?_
    simp only [Time.nanos, exampleConfig, exampleTime, UInt32.reduceToNat]
    omega

/-- Version 1 is sealed, published, delivered a minute later and accepted
by a client that has accepted nothing yet. -/
theorem delivered_unchanged_laptop :
    ∃ store, MemoryStore.new.publishAll [exampleEnvelope 1] = some store ∧
      ((laptopServer store).getConfiguration laptopJson (.ok (ascii "alice")) (ascii "laptop")
        exampleText (ed25519Verifier laptopCheck exampleKeys)
        (exampleTime 60)).status = 200 ∧
      (ClientState.accept exampleCodec exampleText (exampleEnvelope 1) (exampleTime 90)
        (some (ed25519Verifier laptopCheck exampleKeys))
        ⟨⟨4096, true, none⟩, ascii "laptop", 0⟩ emptyDisk).result = .ok (exampleConfig 1) := by
  obtain ⟨envelope, hseal, hrest⟩ := delivered_unchanged laptopJson exampleText
    (singleCodec_transmits (by decide)) exampleCodec laptopSign laptopCheck exampleKeys
    (ascii "key") (List.replicate 64 2) (List.replicate 32 1) (by decide) (by decide)
    laptop_matching (exampleConfig 1) (exampleTime 5) (by decide)
  rw [seal_eq (by decide) (by decide), laptop_sealedEnvelope] at hseal
  obtain rfl : exampleEnvelope 1 = envelope := Except.ok.inj hseal
  have hnewest : MemoryStore.new.Highest [] [] (exampleEnvelope 1) :=
    ⟨fun _ h => (nomatch h), fun _ h => (nomatch h), fun _ h => (nomatch h)⟩
  obtain ⟨store, hstore, hserve⟩ := hrest _ (singleCodec_marshal _ _) MemoryStore.new [] [] hnewest
  obtain ⟨hstatus, received, hreceived, hclient⟩ := hserve (laptopServer store) rfl
    (readable_memory _ _ _) (ascii "alice") (exampleDevice "alice" "laptop") (by decide)
    ⟨rfl, rfl⟩ (exampleTime 60) (laptop_inWindow (by decide) (by decide))
  obtain rfl := singleCodec_decode hreceived
  have htakes := hclient ⟨⟨4096, true, none⟩, ascii "laptop", 0⟩ emptyDisk rfl (by decide)
    (exampleTime 90) (laptop_inWindow (by decide) (by decide))
  exact ⟨store, hstore, hstatus,
    (htakes.accepted _ ⟨rfl, rfl⟩ emptyDisk_ready rfl (by decide +kernel)).1⟩

end CyberiaVpn.Api
