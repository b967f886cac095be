import CyberiaVpn.Codec.Decimal
import CyberiaVpn.Control.Signature
import CyberiaVpn.Snapshot.Store

/-!
# The client's accepted version

`ClientState` of
`services/control-api/internal/configuration/client.go`: a device keeps
the highest configuration version it accepted in a snapshot file and
saves it before it returns a configuration.

`clientState` is the component as its users see it over crashes and
restarts. Its invariant is that no version accepted so far exceeds what
the path holds or may hold after a crash, nor what a usable state has in
memory; a state whose commit is uncertain has no memory to compare with,
and refuses every call. What follows over whole runs is
`accepted_increasing`.
-/

namespace CyberiaVpn.Control

open Effects Snapshot

structure ClientState where
  file : File
  deviceID : Text
  version : UInt64

instance : HasFile ClientState where
  file := ClientState.file
  setFile file state := { state with file }
  file_setFile _ _ := rfl
  setFile_file _ := rfl

structure ClientSnapshot where
  schema : Int
  deviceID : Text
  version : UInt64
  deriving DecidableEq

inductive ClientError where
  | invalid (reason : String)
  | file (error : FileError)
  | json (reason : String)
  | rejected (error : OpenError)

abbrev ClientM := Prog ClientState Disk Call ClientError

namespace ClientState

variable (codec : JsonCodec ClientSnapshot) (N : NetipText)

def save (version : UInt64) : ClientM Unit := do
  let state ← Prog.self
  saveState codec .file .json { schema := 1, deviceID := state.deviceID, version }

/-- The second branch of `OpenClientState`. -/
def load (data : Text) : ClientM Unit := do
  let state ← Prog.self
  match codec.decode data with
  | .error reason => Prog.fail (.json reason)
  | .ok persisted =>
      if persisted.schema ≠ 1 ∨ persisted.deviceID ≠ state.deviceID then
        Prog.fail (.invalid "client state belongs to a different device")
      else Prog.update fun state => { state with version := persisted.version }

/-- `OpenClientState`, on a state that has its device ID and nothing else. -/
def openClientState (path : String) : ClientM Unit := do
  let state ← Prog.self
  if !validIdentifier state.deviceID then
    Prog.fail (.invalid "client device ID must be a lowercase slug")
  else openStore path 4096 .file (save codec 0) (load codec)

def accept (envelope : SignedConfig) (now : Time) (verifier : Option Verifier) :
    ClientM DeviceConfig := do
  (onFile File.check).mapError .file
  let state ← Prog.self
  let config ← Prog.liftExcept
    ((openForDevice N envelope state.deviceID state.version now verifier).mapError .rejected)
  save codec config.version
  Prog.update fun state => { state with version := config.version }
  return config

def close : ClientM Unit := (onFile File.close).mapError .file

end ClientState

/-! ## Runs -/

inductive ClientCall where
  | accept (envelope : SignedConfig) (now : Time)
  | version
  | close

inductive ClientAnswer where
  | accepted (config : DeviceConfig)
  | version (version : UInt64)
  | closed

/-- What a process can ask of a state. The verifier is the trusted one
throughout. -/
def ClientState.answer (codec : JsonCodec ClientSnapshot) (N : NetipText) (verifier : Verifier) :
    ClientCall → ClientM ClientAnswer
  | .accept envelope now => do
      let config ← ClientState.accept codec N envelope now (some verifier)
      return .accepted config
  | .version => do
      let state ← Prog.self
      return .version state.version
  | .close => do
      ClientState.close
      return .closed

def clientState (codec : JsonCodec ClientSnapshot) (N : NetipText) (verifier : Verifier)
    (path : String) (deviceID : Text) :
    Durable ClientState Disk Call ClientError ClientCall ClientAnswer (Option (Nat × Nat)) where
  zero := ⟨File.zero, deviceID, 0⟩
  start := ClientState.openClientState codec path
  call := ClientState.answer codec N verifier
  crash := Disk.crash

abbrev ClientReport := Report ClientError ClientCall ClientAnswer

/-- The configuration a report hands out, with the time it was accepted at. -/
def acceptance : ClientReport → Option (DeviceConfig × Time)
  | .answered (.accept _ now) (.ok (.accepted config)) => some (config, now)
  | _ => none

def accepted (reports : List ClientReport) : List (DeviceConfig × Time) :=
  reports.filterMap acceptance

/-! ## The invariant -/

section

variable (codec : JsonCodec ClientSnapshot) (N : NetipText) (verifier : Verifier) (path : String)
  (deviceID : Text)

/-- Nothing accepted so far exceeds `v`. -/
def AtLeast (h : List ClientReport) (v : UInt64) : Prop := ∀ x ∈ accepted h, x.1.version ≤ v

/-- What a path may hold: a snapshot for this device is not behind what was
accepted, and there is one once something was. -/
def Current (h : List ClientReport) : Option Inode → Prop
  | none => accepted h = []
  | some i => i.synced = true ∧ ∀ p, codec.decode i.content = .ok p → p.schema = 1 →
      p.deviceID = deviceID → AtLeast h p.version

/-- An accepted configuration is for this device, was valid, and carries a
signature that verifies. -/
def Authentic (x : DeviceConfig × Time) : Prop :=
  x.1.deviceID = deviceID ∧ x.1.validate x.2 = .ok () ∧
    ∃ keyID signature, verifier.verify keyID (signingMessage N x.1) signature = .ok ()

structure AtRest (h : List ClientReport) (w : Disk) : Prop where
  increasing : (accepted h).Pairwise fun x y => x.1.version < y.1.version
  authentic : ∀ x ∈ accepted h, Authentic N verifier deviceID x
  current : w.All (Current codec deviceID h)

/-- The state that holds the lock, whatever the disk. -/
structure InUse (h : List ClientReport) (s : ClientState) (_ : Disk) : Prop where
  device : s.deviceID = deviceID
  slug : validIdentifier deviceID = true
  ahead : s.file.failed = none → AtLeast h s.version

end

section

variable {codec : JsonCodec ClientSnapshot} {N : NetipText} {verifier : Verifier} {path : String}
  {deviceID : Text} {h : List ClientReport} {r : ClientReport} {w w' : Disk}

theorem accepted_append (hr : acceptance r = none) : accepted (h ++ [r]) = accepted h := by
  rw [accepted, List.filterMap_append]
  simp [accepted, hr]

theorem current_append (hr : acceptance r = none) :
    Current codec deviceID (h ++ [r]) = Current codec deviceID h := by
  funext x
  cases x <;> simp only [Current, AtLeast, accepted_append hr]

/-- A report without a configuration changes nothing but the disk. -/
theorem AtRest.append (hrest : AtRest codec N verifier deviceID h w) (hr : acceptance r = none)
    (hslot : w'.All (Current codec deviceID h)) :
    AtRest codec N verifier deviceID (h ++ [r]) w' := by
  refine ⟨?_, ?_, ?_⟩
  · rw [accepted_append hr]; exact hrest.increasing
  · rw [accepted_append hr]; exact hrest.authentic
  · rw [current_append hr]; exact hslot

theorem AtRest.survives (hrest : AtRest codec N verifier deviceID h w)
    (hslot : w'.All (Current codec deviceID h)) (c : Option ClientCall) :
    Survives (clientState codec N verifier path deviceID) (AtRest codec N verifier deviceID) h c
      w' :=
  fun x => hrest.append rfl (Slot.All.crash hslot (fun _ hi => hi.1) x)

theorem InUse.append {s : ClientState} (hs : InUse deviceID h s w) (hr : acceptance r = none) :
    InUse deviceID (h ++ [r]) s w' := by
  refine ⟨hs.device, hs.slug, fun hf => ?_⟩
  rw [AtLeast, accepted_append hr]
  exact hs.ahead hf

/-- What leaves the slot alone is not noticed. -/
theorem unmoved_of_later (hr : acceptance r = none) (hw : Later w w') :
    Unmoved Disk.Held (AtRest codec N verifier deviceID) (InUse deviceID) h (h ++ [r]) w w' := by
  refine ⟨fun hheld => ?_, fun hrest => hrest.append hr ?_, fun s hs => hs.append hr⟩
  · rw [Disk.Held, hw.slot]; exact hheld
  · exact hw.all hrest.current

/-- What a save writes, once it is read back. -/
theorem current_saved (hcodec : codec.RoundTrips fun p => validIdentifier p.deviceID = true)
    (hdevice : validIdentifier deviceID = true) {v : UInt64} {data : Text}
    (hdata : codec.marshal ⟨1, deviceID, v⟩ = .ok data) (hv : AtLeast h v) :
    Current codec deviceID h (some (saved data)) := by
  refine ⟨rfl, fun p hp _ _ => ?_⟩
  obtain rfl := Except.ok.inj ((hcodec _ data hdevice hdata).symm.trans hp)
  exact hv

/-! ## What the operations keep -/

variable (hcodec : codec.RoundTrips fun p => validIdentifier p.deviceID = true)
include hcodec

/-- A save of a version that is not behind. When it fails the state is as
it was, or its file is unusable. -/
theorem ClientState.save_sat {s : ClientState} {v : UInt64} (hs : s.deviceID = deviceID)
    (hdevice : validIdentifier deviceID = true) (hw : w.All (Current codec deviceID h))
    (hv : AtLeast h v) :
    (save codec v).Sat (fun e => e.post.All (Current codec deviceID h))
      (fun _ s' w' => s' = s ∧ w'.slot.locked = w.slot.locked ∧
        ∃ data, codec.marshal ⟨1, deviceID, v⟩ = .ok data ∧ w'.slot = w.slot.committed data)
      (fun _ s' w' => s'.deviceID = deviceID ∧ s'.file.lock = s.file.lock ∧
        (s'.file.failed = none → s' = s) ∧ w'.slot.locked = w.slot.locked ∧
        w'.All (Current codec deviceID h)) s w := by
  subst hs
  rw [save, Prog.sat_bind, Prog.sat_self]
  refine saveState_sat (fun _ _ => ⟨rfl, rfl, fun _ => rfl, rfl, hw⟩) ?_ ?_ ?_
  · intro data hdata w' hpass
    rcases hpass with hl | ⟨-, hpass⟩
    · exact hl.all hw
    · exact Slot.All.passes hw (current_saved hcodec hdevice hdata hv) hpass
  · rintro data hdata _ w' hdone
    obtain rfl := hdone.same
    exact ⟨rfl, by rw [hdone.slot.slot]; rfl, data, hdata, hdone.slot.slot⟩
  · intro data hdata e f w' hnot
    cases hnot with
    | unchanged same slot =>
        subst same
        exact ⟨rfl, rfl, fun _ => rfl, by rw [slot.slot], slot.all hw⟩
    | uncertain _ failed _ _ _ slot =>
        subst failed
        refine ⟨rfl, rfl, nofun, by rw [slot.slot]; rfl, ?_⟩
        rw [Disk.All, slot.slot]
        exact Slot.All.renamed hw (current_saved hcodec hdevice hdata hv)

omit hcodec in
/-- Opening while another state holds the lock. -/
theorem ClientState.openClientState_held {s : ClientState} (hheld : w.Held)
    (hw : w.All (Current codec deviceID h)) :
    (openClientState codec path).Sat (fun e => e.post.All (Current codec deviceID h))
      (fun _ _ _ => False) (fun _ _ w' => Later w w') s w := by
  rw [openClientState, Prog.sat_bind, Prog.sat_self]
  split
  · exact Prog.sat_fail.mpr (Later.refl w)
  · exact (openStore_held hheld).mono (fun _ hl => hl.all hw) (fun _ _ _ h => h) fun _ _ _ h => h

/-- Opening an unlocked path: the state that comes out is not behind. -/
theorem ClientState.openClientState_free {s : ClientState} (hs : s.deviceID = deviceID)
    (hs₀ : s.version = 0) (hw : w.All (Current codec deviceID h)) :
    (openClientState codec path).Sat (fun e => e.post.All (Current codec deviceID h))
      (fun _ s' w' => w'.Held ∧ InUse deviceID h s' w' ∧ w'.All (Current codec deviceID h))
      (fun _ _ w' => w'.All (Current codec deviceID h)) s w := by
  rw [openClientState, Prog.sat_bind, Prog.sat_self]
  split
  · exact Prog.sat_fail.mpr hw
  next hvalid =>
  have hvalid : validIdentifier deviceID = true := by simpa [hs] using hvalid
  refine openStore_sat ?_ (fun _ _ hl _ => hl.all hw) (fun _ _ _ hl _ => hl.all hw) ?_ ?_
  · rintro w' (hl | ⟨-, hb⟩)
    · exact hl.all hw
    · exact hb.all hw
  · intro w₁ hfree hnone h₁
    -- there was no file, so nothing was ever accepted
    have hempty : accepted h = [] := by
      have hnone' := Slot.All.target hw
      rwa [hnone] at hnone'
    have hzero : AtLeast h 0 := by
      intro x hx
      rw [hempty] at hx
      cases hx
    refine (ClientState.save_sat (s := HasFile.setFile ⟨4096, true, none⟩ s) hcodec hs hvalid
      (h₁.all hw) hzero).mono (fun _ h => h) ?_ ?_
    · rintro _ _ w₂ ⟨rfl, hlock, data, hdata, hslot⟩
      refine ⟨?_, ⟨hs, hvalid, fun _ => ?_⟩, ?_⟩
      · rw [Disk.Held, hlock, h₁.slot]
      · exact hs₀ ▸ hzero
      · rw [Disk.All, hslot]
        exact Slot.All.committed (current_saved hcodec hvalid hdata hzero)
    · rintro _ s' w₂ ⟨-, hlock, -, -, hall⟩
      exact ⟨hlock, fun w₃ h₃ => ⟨h₃.all hall, h₃.all hall⟩⟩
  · intro i w₁ hfree hi _ _ h₁
    have hall := h₁.all hw
    have hcurrent := Slot.All.target hw
    rw [hi] at hcurrent
    rw [load, Prog.sat_bind, Prog.sat_self]
    split
    · exact Prog.sat_fail.mpr ⟨rfl, fun w₂ h₂ => ⟨h₂.all hall, h₂.all hall⟩⟩
    next p hp =>
    split
    · exact Prog.sat_fail.mpr ⟨rfl, fun w₂ h₂ => ⟨h₂.all hall, h₂.all hall⟩⟩
    next hmatch =>
    obtain ⟨hschema, hid⟩ := not_or.mp hmatch
    refine Prog.sat_update.mpr ⟨?_, ⟨hs, hvalid, fun _ => ?_⟩, hall⟩
    · rw [Disk.Held, h₁.slot]
    · exact hcurrent.2 p hp (not_not.mp hschema) ((not_not.mp hid).trans hs)

omit hcodec in
/-- A closed state does nothing and hands out nothing. -/
theorem ClientState.answer_idle {s : ClientState} {I : Disk → Prop} (hs : ¬Holder s)
    (c : ClientCall) :
    (answer codec N verifier c).Sat (fun e => I e.post)
      (fun a s' w' => s' = s ∧ w' = w ∧ acceptance (.answered c (.ok a)) = none)
      (fun _ s' w' => s' = s ∧ w' = w) s w := by
  cases c with
  | accept envelope now =>
      rw [answer, Prog.sat_bind, accept, Prog.sat_bind, Prog.sat_mapError]
      exact sat_check (fun husable => absurd husable.1 hs) fun _ _ _ => ⟨rfl, rfl⟩
  | version =>
      rw [answer, Prog.sat_bind, Prog.sat_self]
      exact Prog.sat_pure.mpr ⟨rfl, rfl, rfl⟩
  | close =>
      rw [answer, Prog.sat_bind, close, Prog.sat_mapError]
      exact (sat_close (Q := fun s' w' => s' = s ∧ w' = w) (fun _ => ⟨rfl, rfl⟩)
        fun _ hlive => absurd hlive hs).mono (fun _ h => h)
        (fun _ _ _ h => Prog.sat_pure.mpr ⟨h.1, h.2, rfl⟩) fun _ _ _ h => h

/-- **Accept on the state that holds the lock.** A configuration it returns
is newer than everything accepted before, and is saved. -/
theorem ClientState.accept_sat {s : ClientState} {envelope : SignedConfig} {now : Time}
    (hs : InUse deviceID h s w) (hrest : AtRest codec N verifier deviceID h w) :
    (accept codec N envelope now (some verifier)).Sat
      (fun e => e.post.All (Current codec deviceID h))
      (fun config s' w' => s'.file = s.file ∧ w'.slot.locked = w.slot.locked ∧
        AtRest codec N verifier deviceID
          (h ++ [.answered (.accept envelope now) (.ok (.accepted config))]) w' ∧
        InUse deviceID (h ++ [.answered (.accept envelope now) (.ok (.accepted config))]) s' w')
      (fun _ s' w' => s'.file.lock = s.file.lock ∧ w'.slot.locked = w.slot.locked ∧
        InUse deviceID h s' w' ∧ w'.All (Current codec deviceID h)) s w := by
  rw [accept, Prog.sat_bind, Prog.sat_mapError]
  refine sat_check (fun husable => ?_) fun _ _ _ => ⟨rfl, rfl, hs, hrest.current⟩
  rw [Prog.sat_bind, Prog.sat_self, Prog.sat_bind, Prog.sat_liftExcept]
  cases hopen : openForDevice N envelope s.deviceID s.version now (some verifier) with
  | error e => exact ⟨rfl, rfl, hs, hrest.current⟩
  | ok config =>
      obtain ⟨-, hvalid, hdevice, hnewer, v, hv, hverify⟩ := openForDevice_eq_ok hopen
      obtain rfl := Option.some.inj hv
      have hbelow : ∀ x ∈ accepted h, x.1.version < config.version := fun x hx =>
        UInt64.lt_of_le_of_lt (hs.ahead husable.2 x hx) hnewer
      have hleast : AtLeast h config.version := fun x hx => UInt64.le_of_lt (hbelow x hx)
      have happend : accepted (h ++ [.answered (.accept envelope now) (.ok (.accepted config))]) =
          accepted h ++ [(config, now)] := by
        rw [accepted, List.filterMap_append]
        rfl
      have hleast' : AtLeast (h ++ [.answered (.accept envelope now) (.ok (.accepted config))])
          config.version := by
        intro x hx
        rw [happend, List.mem_append, List.mem_singleton] at hx
        rcases hx with hx | rfl
        · exact hleast x hx
        · exact UInt64.le_refl _
      refine Prog.Sat.bind ((ClientState.save_sat hcodec hs.device hs.slug hrest.current
        hleast).mono (fun _ h => h) (fun _ _ _ h => h) ?_) ?_
      · rintro _ s' w' ⟨hid, hlock, hsame, hlocked, hall⟩
        refine ⟨hlock, hlocked, ⟨hid, hs.slug, fun hf => ?_⟩, hall⟩
        obtain rfl := hsame hf
        exact hs.ahead hf
      · rintro _ _ w' ⟨rfl, hlocked, data, hdata, hslot⟩
        rw [Prog.sat_bind, Prog.sat_update]
        refine Prog.sat_pure.mpr ⟨rfl, hlocked, ⟨?_, ?_, ?_⟩, hs.device, hs.slug, fun _ => hleast'⟩
        · rw [happend, List.pairwise_append]
          refine ⟨hrest.increasing, List.pairwise_singleton _ _, fun x hx y hy => ?_⟩
          obtain rfl := List.mem_singleton.mp hy
          exact hbelow x hx
        · intro x hx
          rw [happend, List.mem_append, List.mem_singleton] at hx
          rcases hx with hx | rfl
          · exact hrest.authentic x hx
          · exact ⟨hdevice.trans hs.device, hvalid, _, _, hverify⟩
        · rw [Disk.All, hslot]
          exact Slot.All.committed (current_saved hcodec hs.slug hdata hleast')

/-- Any call on the state that holds the lock. -/
theorem ClientState.answer_sat {s : ClientState} (hs : InUse deviceID h s w) (hheld : w.Held)
    (hrest : AtRest codec N verifier deviceID h w) (c : ClientCall) :
    (answer codec N verifier c).Sat (fun e => e.post.All (Current codec deviceID h))
      (fun a s' w' => AtRest codec N verifier deviceID (h ++ [.answered c (.ok a)]) w' ∧
        (Holder s' → w'.Held ∧ InUse deviceID (h ++ [.answered c (.ok a)]) s' w'))
      (fun e s' w' => AtRest codec N verifier deviceID (h ++ [.answered c (.error e)]) w' ∧
        (Holder s' → w'.Held ∧ InUse deviceID (h ++ [.answered c (.error e)]) s' w')) s w := by
  have hfail : ∀ {r : ClientReport} {s' : ClientState} {w' : Disk}, acceptance r = none →
      w'.slot.locked = w.slot.locked → InUse deviceID h s' w' →
      w'.All (Current codec deviceID h) → AtRest codec N verifier deviceID (h ++ [r]) w' ∧
        (Holder s' → w'.Held ∧ InUse deviceID (h ++ [r]) s' w') :=
    fun hr hlocked hs' hall => ⟨hrest.append hr hall, fun _ =>
      ⟨by rw [Disk.Held, hlocked]; exact hheld, hs'.append hr⟩⟩
  cases c with
  | accept envelope now =>
      rw [answer, Prog.sat_bind]
      refine (ClientState.accept_sat hcodec hs hrest).mono (fun _ h => h) ?_ ?_
      · rintro config s' w' ⟨-, hlocked, hrest', hs'⟩
        exact Prog.sat_pure.mpr ⟨hrest', fun _ => ⟨by rw [Disk.Held, hlocked]; exact hheld, hs'⟩⟩
      · rintro e s' w' ⟨-, hlocked, hs', hall⟩
        exact hfail rfl hlocked hs' hall
  | version =>
      rw [answer, Prog.sat_bind, Prog.sat_self]
      exact Prog.sat_pure.mpr (hfail rfl rfl hs hrest.current)
  | close =>
      rw [answer, Prog.sat_bind, close, Prog.sat_mapError]
      refine (sat_close (Q := fun s' w' => ¬Holder s' ∧ w'.All (Current codec deviceID h))
        (fun hidle => ⟨hidle, hrest.current⟩) fun w' _ hb => ?_).mono (fun _ h => h)
        (fun _ s' w' hc => Prog.sat_pure.mpr ⟨hrest.append rfl hc.2, fun hl => absurd hl hc.1⟩)
        fun _ s' w' hc => ⟨hrest.append rfl hc.2, fun hl => absurd hl hc.1⟩
      have hall := hb.all hrest.current
      exact ⟨hall, nofun, hall⟩

/-- The component keeps its invariant. -/
theorem clientState_exclusive :
    Exclusive (clientState codec N verifier path deviceID) Holder Disk.Held
      (AtRest codec N verifier deviceID) (InUse deviceID) where
  crash _ _ c hrest := hrest.survives hrest.current c
  startHeld h w hheld hrest :=
    (ClientState.openClientState_held hheld hrest.current).mono
      (fun _ hall => hrest.survives hall none) (fun _ _ _ hfalse => hfalse)
      fun _ _ _ hlater => unmoved_of_later rfl hlater
  startFree h w _ hrest := by
    refine (ClientState.openClientState_free hcodec rfl rfl hrest.current).mono
      (fun _ hall => hrest.survives hall none) ?_ fun _ _ _ hall => hrest.append rfl hall
    rintro _ s' w' ⟨hheld, hs', hall⟩
    exact ⟨hrest.append rfl hall, fun _ => ⟨hheld, hs'.append rfl⟩⟩
  callIdle h w c s hs hrest := by
    refine (ClientState.answer_idle (I := fun _ => False) hs c).mono
      (fun _ hfalse => hfalse.elim) ?_ ?_
    · rintro a _ _ ⟨rfl, rfl, hr⟩
      exact ⟨hs, unmoved_of_later hr (Later.refl _)⟩
    · rintro e _ _ ⟨rfl, rfl⟩
      refine ⟨hs, unmoved_of_later ?_ (Later.refl _)⟩
      cases c <;> rfl
  callLive h w c s _ hheld hs hrest :=
    (ClientState.answer_sat hcodec hs hheld hrest c).mono
      (fun _ hall => hrest.survives hall (some c)) (fun _ _ _ h => h) fun _ _ _ h => h

end

/-! ## What was accepted -/

/-- Under a trusted key the signature check passes only on messages that
the holder of one signed through `Seal`. `seals` are the calls of `Seal`
under trusted keys. -/
def Unforgeable (N : NetipText) (check : Text → Text → Text → Bool)
    (publicKeys : List (Text × Text)) (seals : DeviceConfig → Time → Signer → Prop) : Prop :=
  ∀ keyID publicKey message signature, publicKeys.lookup keyID = some publicKey →
    check publicKey message signature = true → ∃ config now signer envelope,
      seals config now signer ∧ sealConfig N config now (some signer) = .ok envelope ∧
        signingMessage N config = message

theorem ed25519Verifier_eq_ok {check : Text → Text → Text → Bool}
    {publicKeys : List (Text × Text)} {keyID message signature : Text}
    (h : (ed25519Verifier check publicKeys).verify keyID message signature = .ok ()) :
    ∃ publicKey, publicKeys.lookup keyID = some publicKey ∧
      check publicKey message signature = true := by
  simp only [ed25519Verifier] at h
  split at h
  · cases h
  next publicKey hkey =>
  split at h
  · cases h
  next hcheck =>
  simp only [Bool.or_eq_true, Bool.not_eq_true', not_or, Bool.not_eq_false] at hcheck
  exact ⟨publicKey, hkey, hcheck.2⟩

theorem validate_of_sealConfig {N : NetipText} {config : DeviceConfig} {now : Time}
    {signer : Option Signer} {envelope : SignedConfig}
    (h : sealConfig N config now signer = .ok envelope) : config.validate now = .ok () := by
  simp only [sealConfig, bind_eq_ok, mapError_eq_ok] at h
  exact h.choose_spec.1

/-- A configuration whose message verifies was sealed, field by field. -/
theorem Unforgeable.sealed {N : NetipText} (hN : N.Faithful) {check : Text → Text → Text → Bool}
    {publicKeys : List (Text × Text)} {seals : DeviceConfig → Time → Signer → Prop}
    (hseals : Unforgeable N check publicKeys seals) {config : DeviceConfig} {now : Time}
    {keyID signature : Text} (hvalid : config.validate now = .ok ())
    (hverify : (ed25519Verifier check publicKeys).verify keyID (signingMessage N config) signature
      = .ok ()) : ∃ sealedAt signer, seals config sealedAt signer := by
  obtain ⟨publicKey, hkey, hcheck⟩ := ed25519Verifier_eq_ok hverify
  obtain ⟨config', sealedAt, signer, envelope, hsealed, hseal, hmessage⟩ :=
    hseals keyID publicKey _ signature hkey hcheck
  have hshaped' := DeviceConfig.shaped (validate_of_sealConfig hseal)
  obtain rfl := hshaped'.eq_of_signingMessage hN (DeviceConfig.shaped hvalid) hmessage
  exact ⟨sealedAt, signer, hsealed⟩

/-- **No rollback, and nothing forged.** Over every run of opens, calls and
crashes, from any disk whose contents are on stable storage, the versions
handed out increase strictly, and each configuration is for this device,
was valid when it was accepted and is one that was sealed. -/
theorem accepted_increasing (codec : JsonCodec ClientSnapshot)
    (hcodec : codec.RoundTrips fun p => validIdentifier p.deviceID = true) (N : NetipText)
    (hN : N.Faithful) (check : Text → Text → Text → Bool) (publicKeys : List (Text × Text))
    (seals : DeviceConfig → Time → Signer → Prop)
    (hseals : Unforgeable N check publicKeys seals) (path : String) (deviceID : Text) (disk : Disk)
    (hdisk : disk.All fun x => ∀ i, x = some i → i.synced = true)
    (events : List (Event ClientCall (Option (Nat × Nat)))) :
    let configs := accepted ((clientState codec N (ed25519Verifier check publicKeys) path
      deviceID).run events ⟨disk, []⟩).2
    configs.Pairwise (fun x y => x.1.version < y.1.version) ∧
      ∀ x ∈ configs, x.1.deviceID = deviceID ∧ x.1.validate x.2 = .ok () ∧
        ∃ sealedAt signer, seals x.1 sealedAt signer := by
  have hstart : AtRest codec N (ed25519Verifier check publicKeys) deviceID [] disk := by
    refine ⟨List.Pairwise.nil, fun x hx => (List.not_mem_nil hx).elim, fun x hx => ?_⟩
    cases x with
    | none => rfl
    | some i => exact ⟨hdisk _ hx i rfl, fun p _ _ _ x hx => (List.not_mem_nil hx).elim⟩
  have hkeep : Exclusive (clientState codec N (ed25519Verifier check publicKeys) path deviceID)
      Holder Disk.Held _ _ := clientState_exclusive hcodec
  obtain ⟨hrest, -, -⟩ := hkeep.run disk hstart events
  refine ⟨hrest.increasing, fun x hx => ?_⟩
  obtain ⟨hdevice, hvalid, keyID, signature, hverify⟩ := hrest.authentic x hx
  exact ⟨hdevice, hvalid, hseals.sealed hN hvalid hverify⟩

/-! ### An instance -/

def snapshotHead : Text := ascii "\x7b\"schema\":1,\"device_id\":\""

def snapshotMiddle : Text := ascii "\",\"version\":"

def snapshotText (deviceID digits : Text) : Text :=
  snapshotHead ++ (deviceID ++ (snapshotMiddle ++ (digits ++ [125])))

/-- The JSON of a snapshot of the current schema, and reading exactly that. -/
def exampleCodec : JsonCodec ClientSnapshot where
  marshal p :=
    if p.schema = 1 then .ok (snapshotText p.deviceID (Codec.decimal p.version.toNat))
    else .error "unknown schema"
  decode data :=
    let afterHead := data.drop snapshotHead.length
    let deviceID := afterHead.takeWhile (· ≠ 34)
    let afterMiddle := (afterHead.drop deviceID.length).drop snapshotMiddle.length
    let digits := afterMiddle.takeWhile (· ≠ 125)
    if data = snapshotText deviceID digits then
      .ok ⟨1, deviceID, UInt64.ofNat (Codec.parseDecimal digits)⟩
    else .error "not a snapshot"

theorem takeWhile_append_stop {stop : UInt8} {xs rest : Text} (h : ∀ b ∈ xs, b ≠ stop) :
    (xs ++ stop :: rest).takeWhile (· ≠ stop) = xs := by
  rw [List.takeWhile_append_of_pos (by simpa using h)]
  simp

theorem exampleCodec_roundTrips :
    exampleCodec.RoundTrips fun p => validIdentifier p.deviceID = true := by
  rintro ⟨schema, deviceID, version⟩ data hdevice hdata
  simp only [exampleCodec] at hdata
  split at hdata
  swap
  · cases hdata
  next hschema =>
  obtain rfl : schema = 1 := hschema
  obtain rfl := Except.ok.inj hdata
  have hquote : ∀ b ∈ deviceID, b ≠ 34 := by
    rintro b hb rfl
    exact absurd (validIdentifier_bytes hdevice _ hb) (by decide)
  have hdigits : ∀ b ∈ Codec.decimal version.toNat, b ≠ 125 := by
    rintro b hb rfl
    exact absurd (Codec.decimal_digit hb) (by decide)
  have hid : ((snapshotText deviceID (Codec.decimal version.toNat)).drop
      snapshotHead.length).takeWhile (· ≠ 34) = deviceID := by
    rw [snapshotText, List.drop_left]
    exact takeWhile_append_stop hquote
  have hversion : ((((snapshotText deviceID (Codec.decimal version.toNat)).drop
      snapshotHead.length).drop deviceID.length).drop snapshotMiddle.length).takeWhile (· ≠ 125) =
      Codec.decimal version.toNat := by
    rw [snapshotText, List.drop_left, List.drop_left, List.drop_left]
    exact takeWhile_append_stop hdigits
  simp only [exampleCodec, hid, hversion, if_true, Codec.parseDecimal_decimal, UInt64.ofNat_toNat]

def exampleEnvelope (version : UInt64) : SignedConfig :=
  ⟨exampleConfig version, ascii "key", List.replicate 64 9⟩

/-- The messages of versions 1 and 2 are the signed ones. -/
def exampleCheck (publicKey message signature : Text) : Bool :=
  publicKey == List.replicate 32 1 && signature == List.replicate 64 9 &&
    (message == signingMessage exampleText (exampleConfig 1) ||
      message == signingMessage exampleText (exampleConfig 2))

def exampleKeys : List (Text × Text) := [(ascii "key", List.replicate 32 1)]

def exampleSeals (config : DeviceConfig) (now : Time) (signer : Signer) : Prop :=
  (config = exampleConfig 1 ∨ config = exampleConfig 2) ∧ now = exampleTime 5 ∧
    signer = exampleSigner

theorem exampleSeals_unforgeable :
    Unforgeable exampleText exampleCheck exampleKeys exampleSeals := by
  intro keyID publicKey message signature _ hcheck
  simp only [exampleCheck, Bool.and_eq_true, Bool.or_eq_true, beq_iff_eq] at hcheck
  rcases hcheck.2 with rfl | rfl
  · exact ⟨exampleConfig 1, _, _, exampleEnvelope 1, ⟨Or.inl rfl, rfl, rfl⟩, by rfl, rfl⟩
  · exact ⟨exampleConfig 2, _, _, exampleEnvelope 2, ⟨Or.inr rfl, rfl, rfl⟩, by rfl, rfl⟩

/-- Version 1 is accepted, version 2 is cut short by a crash that undoes its
rename, version 1 is refused and version 2 accepted after a restart. -/
def exampleEvents : List (Event ClientCall (Option (Nat × Nat))) :=
  [.act .start, .act (.call 0 (.accept (exampleEnvelope 1) (exampleTime 10))),
    .crash (.call 0 (.accept (exampleEnvelope 2) (exampleTime 20))) 6 (some (1, 0)),
    .act .start, .act (.call 0 (.accept (exampleEnvelope 1) (exampleTime 30))),
    .act (.call 0 (.accept (exampleEnvelope 2) (exampleTime 40)))]

def exampleRun : List ClientReport :=
  ((clientState exampleCodec exampleText (ed25519Verifier exampleCheck exampleKeys) "state.json"
    (ascii "laptop")).run exampleEvents ⟨emptyDisk, []⟩).2

theorem accepted_increasing_after_crash :
    accepted exampleRun = [(exampleConfig 1, exampleTime 10),
        (exampleConfig 2, exampleTime 40)] ∧
      (accepted exampleRun).Pairwise (fun x y => x.1.version < y.1.version) ∧
      ∀ x ∈ accepted exampleRun, x.1.deviceID = ascii "laptop" ∧ x.1.validate x.2 = .ok () ∧
        ∃ sealedAt signer, exampleSeals x.1 sealedAt signer :=
  ⟨by decide +kernel,
    accepted_increasing exampleCodec exampleCodec_roundTrips exampleText exampleText_faithful
      exampleCheck exampleKeys exampleSeals exampleSeals_unforgeable "state.json" (ascii "laptop")
      emptyDisk (fun x hx i hi => by rw [hi] at hx; cases hx with | tail _ hx => cases hx)
      exampleEvents⟩

end CyberiaVpn.Control
