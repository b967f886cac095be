import CyberiaVpn.Api.Handlers

/-!
# Accounts do not see each other

Two servers that agree on the devices of an account and on the envelopes
of these devices answer its reads alike, whatever else they hold. The
device is looked up first, and a device that is not the account's ends the
request there (`device_cases`); so no later read depends on anything but
what the two servers agree on.
-/

namespace CyberiaVpn.Api

open Control Data Identity Snapshot

/-- The servers agree on what belongs to the account. -/
structure Agree (accountID : Text) (server server' : Server) : Prop where
  devices : ∀ deviceID device,
    server.Owns accountID deviceID device ↔ server'.Owns accountID deviceID device
  envelopes : ∀ deviceID device, server.Owns accountID deviceID device →
    server.configurations.envelopes.lookup deviceID =
      server'.configurations.envelopes.lookup deviceID

namespace Server

variable {server server' : Server} {accountID deviceID : Text}

/-- A device is the account's, or it is not found. -/
theorem device_cases (h : server.Readable) (accountID deviceID : Text) :
    (∃ device, server.Owns accountID deviceID device ∧
        server.device accountID deviceID = .ok device) ∨
      (∀ device, ¬server.Owns accountID deviceID device) ∧
        server.device accountID deviceID = .error .notFound := by
  rw [device_eq h]
  simp only [Owns]
  cases server.enrollments.devices.lookup deviceID with
  | none => exact Or.inr ⟨nofun, rfl⟩
  | some device =>
      by_cases howner : device.accountID = accountID
      · exact Or.inl ⟨device, ⟨rfl, howner⟩, by simp [howner]⟩
      · refine Or.inr ⟨?_, by simp [howner]⟩
        rintro other ⟨hother, hsame⟩
        obtain rfl := Option.some.inj hother
        exact howner hsame

theorem device_congr (hagree : Agree accountID server server') (h : server.Readable)
    (h' : server'.Readable) :
    server.device accountID deviceID = server'.device accountID deviceID := by
  rcases device_cases h accountID deviceID with ⟨device, howns, hread⟩ | ⟨hnone, hread⟩
  · have howns' := (hagree.devices deviceID device).mp howns
    rcases device_cases h' accountID deviceID with ⟨other, hother, hread'⟩ | ⟨hnone', -⟩
    · have hsame : some device = some other := howns'.1.symm.trans hother.1
      rw [hread, hread', Option.some.inj hsame]
    · exact absurd howns' (hnone' device)
  · rcases device_cases h' accountID deviceID with ⟨other, hother, -⟩ | ⟨-, hread'⟩
    · exact absurd ((hagree.devices deviceID other).mpr hother) (hnone other)
    · rw [hread, hread']

theorem latest_congr (hagree : Agree accountID server server') (h : server.Readable)
    (h' : server'.Readable) {device : DeviceIdentity}
    (howns : server.Owns accountID deviceID device) :
    server.latest deviceID = server'.latest deviceID := by
  rw [latest_eq h, latest_eq h', hagree.envelopes deviceID device howns]

variable {json : Json} {N : NetipText} {verifier : Verifier} {now : Time}

theorem getDevice_congr (hagree : Agree accountID server server') (h : server.Readable)
    (h' : server'.Readable) :
    server.getDevice json (.ok accountID) deviceID =
      server'.getDevice json (.ok accountID) deviceID := by
  refine congrArg securityHeaders (authenticated_congr ?_)
  rw [device_congr hagree h h']

theorem getConfiguration_congr (hagree : Agree accountID server server') (h : server.Readable)
    (h' : server'.Readable) :
    server.getConfiguration json (.ok accountID) deviceID N verifier now =
      server'.getConfiguration json (.ok accountID) deviceID N verifier now := by
  refine congrArg securityHeaders (authenticated_congr ?_)
  rcases device_cases h accountID deviceID with ⟨device, howns, -⟩ | ⟨-, hread⟩
  · rw [device_congr hagree h h', latest_congr hagree h h' howns]
  · rw [← device_congr hagree h h', hread]

/-- What is not the account's is answered without a look at the ID. -/
theorem foreign_eq (h : server.Readable) (hforeign : ∀ device, ¬server.Owns accountID deviceID device) :
    server.device accountID deviceID = .error .notFound := by
  rcases device_cases h accountID deviceID with ⟨device, howns, -⟩ | ⟨-, hread⟩
  · exact absurd howns (hforeign device)
  · exact hread

theorem getDevice_foreign (h : server.Readable) (h' : server'.Readable) {otherID : Text}
    (hforeign : ∀ device, ¬server.Owns accountID deviceID device)
    (hother : ∀ device, ¬server'.Owns accountID otherID device) :
    server.getDevice json (.ok accountID) deviceID =
      server'.getDevice json (.ok accountID) otherID := by
  refine congrArg securityHeaders (authenticated_congr ?_)
  rw [foreign_eq h hforeign, foreign_eq h' hother]

theorem getConfiguration_foreign (h : server.Readable) (h' : server'.Readable) {otherID : Text}
    (hforeign : ∀ device, ¬server.Owns accountID deviceID device)
    (hother : ∀ device, ¬server'.Owns accountID otherID device) :
    server.getConfiguration json (.ok accountID) deviceID N verifier now =
      server'.getConfiguration json (.ok accountID) otherID N verifier now := by
  refine congrArg securityHeaders (authenticated_congr ?_)
  rw [foreign_eq h hforeign, foreign_eq h' hother]

/-- A configuration is delivered only to its owner and only if it opens. -/
theorem delivered (h : server.Readable)
    (hok : (server.getConfiguration json (.ok accountID) deviceID N verifier now).status = 200) :
    ∃ device envelope config, server.Owns accountID deviceID device ∧
      server.configurations.envelopes.lookup deviceID = some envelope ∧
      openForDevice N envelope deviceID 0 now (some verifier) = .ok config := by
  by_cases haccount : accountID = []
  · subst haccount
    cases hok
  rw [getConfiguration, authenticated_eq haccount] at hok
  rcases device_cases h accountID deviceID with ⟨device, howns, hread⟩ | ⟨-, hread⟩
  swap
  · rw [hread] at hok
    cases hok
  rw [hread, latest_eq h] at hok
  dsimp only at hok
  cases henvelope : server.configurations.envelopes.lookup deviceID with
  | none =>
      rw [henvelope] at hok
      cases hok
  | some envelope =>
      rw [henvelope] at hok
      dsimp only at hok
      cases hopen : openForDevice N envelope deviceID 0 now (some verifier) with
      | error e =>
          rw [hopen] at hok
          cases hok
      | ok config => exact ⟨device, envelope, config, howns, rfl, hopen⟩

/-- **Account isolation.** What an account can read does not depend on
what belongs to others, an ID of another account reads as one that does
not exist, and a configuration that is delivered is the account's and
opens. -/
theorem reads_isolated (json : Json) (N : NetipText) (verifier : Verifier) (accountID : Text)
    (server server' : Server) (hagree : Agree accountID server server')
    (hreadable : server.Readable) (hreadable' : server'.Readable) (now : Time) (deviceID : Text) :
    server.getDevice json (.ok accountID) deviceID =
        server'.getDevice json (.ok accountID) deviceID ∧
      server.getConfiguration json (.ok accountID) deviceID N verifier now =
        server'.getConfiguration json (.ok accountID) deviceID N verifier now ∧
      ((∀ device, ¬server.Owns accountID deviceID device) →
        ∀ otherID, (∀ device, ¬server'.Owns accountID otherID device) →
          server.getDevice json (.ok accountID) deviceID =
              server'.getDevice json (.ok accountID) otherID ∧
            server.getConfiguration json (.ok accountID) deviceID N verifier now =
              server'.getConfiguration json (.ok accountID) otherID N verifier now) ∧
      ((server.getConfiguration json (.ok accountID) deviceID N verifier now).status = 200 →
        ∃ device envelope config, server.Owns accountID deviceID device ∧
          server.configurations.envelopes.lookup deviceID = some envelope ∧
          openForDevice N envelope deviceID 0 now (some verifier) = .ok config) :=
  ⟨getDevice_congr hagree hreadable hreadable',
    getConfiguration_congr hagree hreadable hreadable',
    fun hforeign _ hother => ⟨getDevice_foreign hreadable hreadable' hforeign hother,
      getConfiguration_foreign hreadable hreadable' hforeign hother⟩,
    delivered hreadable⟩

end Server

/-! ## An instance -/

/-- Stores in memory have nothing to fail at. -/
theorem readable_memory (store : EnrollmentStore) (configurations : MemoryStore) (disk : Disk) :
    Server.Readable ⟨.memory store, .memory configurations, disk⟩ := by
  refine ⟨fun accountID deviceID => ?_, fun deviceID => ?_⟩
  · simp only [Server.device, EnrollmentStore.device]
    split
    · rintro ⟨⟩
    · split <;> rintro ⟨⟩
  · simp only [Server.latest, MemoryStore.latest]
    split <;> rintro ⟨⟩

def exampleDevice (account device : String) : DeviceIdentity :=
  ⟨ascii account, ascii device, List.replicate 32 1, ascii "72cd6e84"⟩

def exampleErrors : JsonCodec ErrorResponse where
  marshal response := .ok (ascii "\x7b\"error\":\"" ++ ascii response.error ++ ascii "\"\x7d")
  decode _ := .error "not a response"

def exampleJson (devices : List (DeviceResponse × Text)) (envelopes : List (SignedConfig × Text)) :
    Json :=
  ⟨exampleErrors, JsonCodec.ofTable devices, JsonCodec.ofTable envelopes⟩

def exampleServer (devices : Table Text DeviceIdentity) : Server where
  enrollments := .memory ⟨devices, 300 * 10 ^ 9, 100, ∅⟩
  configurations := .memory MemoryStore.new
  disk := emptyDisk

def exampleDevices : Table Text DeviceIdentity :=
  AList.insert (ascii "laptop") (exampleDevice "alice" "laptop") ∅

def crowdedDevices : Table Text DeviceIdentity :=
  exampleDevices.insert (ascii "phone") (exampleDevice "bob" "phone")

theorem crowdedDevices_agree :
    Agree (ascii "alice") (exampleServer exampleDevices) (exampleServer crowdedDevices) := by
  refine ⟨fun deviceID device => ?_, fun _ _ _ => rfl⟩
  simp only [Server.Owns, exampleServer, Enrollments.devices]
  by_cases hid : deviceID = ascii "phone"
  · subst hid
    have hnone : exampleDevices.lookup (ascii "phone") = none := by decide
    rw [hnone, crowdedDevices, AList.lookup_insert]
    refine iff_of_false nofun ?_
    rintro ⟨hdevice, howner⟩
    obtain rfl := Option.some.inj hdevice
    exact absurd howner (by decide)
  · rw [crowdedDevices, AList.lookup_insert_ne hid]

/-- Another account's phone reads as no phone. -/
theorem reads_isolated_phone :
    (exampleServer exampleDevices).getDevice (exampleJson [] []) (.ok (ascii "alice"))
        (ascii "phone") =
      (exampleServer crowdedDevices).getDevice (exampleJson [] []) (.ok (ascii "alice"))
        (ascii "phone") :=
  (Server.reads_isolated (exampleJson [] []) exampleText ⟨fun _ _ _ => .ok ()⟩ (ascii "alice")
    (exampleServer exampleDevices) (exampleServer crowdedDevices) crowdedDevices_agree
    (readable_memory _ _ _) (readable_memory _ _ _) (exampleTime 0)
    (ascii "phone")).1

end CyberiaVpn.Api
