import CyberiaVpn.Codec.PrefixCode
import CyberiaVpn.Control.Config

/-!
# Signed configurations

`signingMessage`, `Seal`, `Open` and `OpenForDevice` of
`services/control-api/internal/configuration`. The message is a
concatenation of prefix codes in a fixed order, so on valid
configurations it can be read back in only one way
(`signingMessage_injective`).

The text forms of addresses come from `net/netip` and are a parameter,
`NetipText`. What the proof needs of them is `NetipText.Faithful`: on valid
addresses without a zone they tell one from another and are shorter than
4 GiB.
-/

namespace CyberiaVpn.Control

open Codec
open Effects (reject reject_eq_ok bind_eq_ok mapError_eq_ok)

/-! ## The message -/

/-- The `String` methods of `netip`. -/
structure NetipText where
  addr : Addr → Text
  addrPort : AddrPort → Text
  netPrefix : Prefix → Text

structure NetipText.Faithful (N : NetipText) : Prop where
  addr : ∀ a b : Addr, a.isValid = true ∧ a.zone = [] → b.isValid = true ∧ b.zone = [] →
    N.addr a = N.addr b → a = b
  addrPort : ∀ a b : AddrPort, a.isValid = true ∧ a.addr.zone = [] →
    b.isValid = true ∧ b.addr.zone = [] → N.addrPort a = N.addrPort b → a = b
  netPrefix : ∀ a b : Prefix, a.isValid = true → b.isValid = true →
    N.netPrefix a = N.netPrefix b → a = b
  addr_short : ∀ a : Addr, a.isValid = true ∧ a.zone = [] → (N.addr a).length < 2 ^ 32
  addrPort_short : ∀ a : AddrPort, a.isValid = true ∧ a.addr.zone = [] →
    (N.addrPort a).length < 2 ^ 32
  netPrefix_short : ∀ a : Prefix, a.isValid = true → (N.netPrefix a).length < 2 ^ 32

def configurationDomain : Text := ascii "cyberia-device-configuration:v1"

def appendField (destination bytes : Text) : Text :=
  destination ++ bigEndian 4 bytes.length ++ bytes

def appendTime (destination : Text) (value : Time) : Text :=
  destination ++ bigEndian 8 value.unix64 ++ bigEndian 4 value.nsec

/-- The count and then one field for each element. -/
def appendFields {α : Type} (text : α → Text) (destination : Text) (xs : List α) : Text :=
  xs.foldl (fun message x => appendField message (text x))
    (destination ++ bigEndian 4 xs.length)

def signingMessage (N : NetipText) (config : DeviceConfig) : Text :=
  let message := appendField [] configurationDomain
  let message := message ++ bigEndian 8 config.version.toNat
  let message := appendField message config.deviceID
  let message := appendField message config.nodeID
  let message := appendField message config.transport
  let message := appendField message (N.addrPort config.endpoint)
  let message := appendFields N.addr message config.dns
  let message := appendField message config.wireGuard.peerPublicKey
  let message := appendFields N.netPrefix message config.wireGuard.tunnelAddresses
  let message := appendFields N.netPrefix message config.wireGuard.allowedIPs
  let message := message ++ bigEndian 2 config.wireGuard.mtu.toNat
  let message := message ++ bigEndian 2 config.wireGuard.persistentKeepaliveSecond.toNat
  let message := appendTime message config.issuedAt
  appendTime message config.expiresAt

/-! ## Reading it back -/

theorem appendField_eq (destination bytes : Text) :
    appendField destination bytes = destination ++ field 4 bytes := by
  simp [appendField, field]

theorem foldl_appendField {α : Type} (text : α → Text) : ∀ (xs : List α) (destination : Text),
    xs.foldl (fun message x => appendField message (text x)) destination
      = destination ++ xs.flatMap fun x => field 4 (text x)
  | [], destination => by simp
  | x :: xs, destination => by
      rw [List.foldl_cons, foldl_appendField text xs, appendField_eq, List.flatMap_cons,
        List.append_assoc]

theorem appendFields_eq {α : Type} (text : α → Text) (destination : Text) (xs : List α) :
    appendFields text destination xs
      = destination ++ counted 4 (fun x => field 4 (text x)) xs := by
  rw [appendFields, foldl_appendField, counted, List.append_assoc]

def timeCode (value : Time) : Text := bigEndian 8 value.unix64 ++ bigEndian 4 value.nsec

theorem appendTime_eq (destination : Text) (value : Time) :
    appendTime destination value = destination ++ timeCode value := by
  simp [appendTime, timeCode]

/-- The message, piece by piece. -/
theorem signingMessage_eq (N : NetipText) (c : DeviceConfig) :
    signingMessage N c =
      field 4 configurationDomain ++ (bigEndian 8 c.version.toNat ++ (field 4 c.deviceID ++
      (field 4 c.nodeID ++ (field 4 c.transport ++ (field 4 (N.addrPort c.endpoint) ++
      (counted 4 (fun a => field 4 (N.addr a)) c.dns ++ (field 4 c.wireGuard.peerPublicKey ++
      (counted 4 (fun p => field 4 (N.netPrefix p)) c.wireGuard.tunnelAddresses ++
      (counted 4 (fun p => field 4 (N.netPrefix p)) c.wireGuard.allowedIPs ++
      (bigEndian 2 c.wireGuard.mtu.toNat ++
      (bigEndian 2 c.wireGuard.persistentKeepaliveSecond.toNat ++
      (timeCode c.issuedAt ++ timeCode c.expiresAt)))))))))))) := by
  simp only [signingMessage, appendField_eq, appendFields_eq, appendTime_eq, List.append_assoc,
    List.nil_append]

theorem prefixCode_time : PrefixCode (fun _ : Time => True) timeCode := by
  have hpair := (prefixCode_bigEndian 8).append (prefixCode_bigEndian 4)
  refine hpair.comp (g := fun t : Time => (t.unix64, t.nsec)) (fun t _ => ?_) fun t u _ _ heq => ?_
  · have hnsec := t.nsec_lt
    exact ⟨t.unix64_lt, by omega⟩
  · obtain ⟨hsec, hnsec⟩ := Prod.mk.inj heq
    exact Time.ext_unix64 hsec hnsec

/-- A field whose text is short and tells its values apart. -/
theorem prefixCode_text {α : Type} {S : α → Prop} {text : α → Text}
    (hshort : ∀ a, S a → (text a).length < 2 ^ 32)
    (hinj : ∀ a b, S a → S b → text a = text b → a = b) :
    PrefixCode S fun a => field 4 (text a) :=
  (prefixCode_field 4).comp hshort hinj

/-- The message is read from its front, and its pieces are prefix codes on
well-shaped configurations. -/
theorem DeviceConfig.Shaped.eq_of_signingMessage {N : NetipText} (hN : N.Faithful)
    {c₁ c₂ : DeviceConfig} (s₁ : c₁.Shaped) (s₂ : c₂.Shaped)
    (heq : signingMessage N c₁ = signingMessage N c₂) : c₁ = c₂ := by
  have hshort : ∀ {n : Nat}, n ≤ 64 → n < 256 ^ 4 := fun h => by omega
  have hid : ∀ {n : Nat}, n ≤ 63 → n < 256 ^ 4 := fun h => by omega
  have hkey : ∀ {c : DeviceConfig}, c.Shaped → c.wireGuard.peerPublicKey.length < 256 ^ 4 :=
    fun s => by rw [s.wireGuard.key]; decide
  rw [signingMessage_eq, signingMessage_eq] at heq
  obtain ⟨-, heq⟩ := prefixCode_field 4 (by decide) (by decide) heq
  obtain ⟨hversion, heq⟩ :=
    prefixCode_bigEndian 8 c₁.version.toNat_lt c₂.version.toNat_lt heq
  obtain ⟨hdevice, heq⟩ := prefixCode_field 4 (hid s₁.deviceID) (hid s₂.deviceID) heq
  obtain ⟨hnode, heq⟩ := prefixCode_field 4 (hid s₁.nodeID) (hid s₂.nodeID) heq
  obtain ⟨htransport, heq⟩ := prefixCode_field 4 (by rw [s₁.transport]; decide)
    (by rw [s₂.transport]; decide) heq
  obtain ⟨hendpoint, heq⟩ :=
    prefixCode_text hN.addrPort_short hN.addrPort s₁.endpoint s₂.endpoint heq
  obtain ⟨hdns, heq⟩ := prefixCode_counted 4 (prefixCode_text hN.addr_short hN.addr)
    ⟨hshort (Nat.le_trans s₁.dnsCount (by decide)), s₁.dns⟩
    ⟨hshort (Nat.le_trans s₂.dnsCount (by decide)), s₂.dns⟩ heq
  obtain ⟨hpeer, heq⟩ := prefixCode_field 4 (hkey s₁) (hkey s₂) heq
  obtain ⟨htunnel, heq⟩ := prefixCode_counted 4 (prefixCode_text hN.netPrefix_short hN.netPrefix)
    ⟨hshort (Nat.le_trans s₁.wireGuard.tunnelCount (by decide)), s₁.wireGuard.tunnel⟩
    ⟨hshort (Nat.le_trans s₂.wireGuard.tunnelCount (by decide)), s₂.wireGuard.tunnel⟩ heq
  obtain ⟨hallowed, heq⟩ := prefixCode_counted 4 (prefixCode_text hN.netPrefix_short hN.netPrefix)
    ⟨hshort s₁.wireGuard.allowedCount, s₁.wireGuard.allowed⟩
    ⟨hshort s₂.wireGuard.allowedCount, s₂.wireGuard.allowed⟩ heq
  obtain ⟨hmtu, heq⟩ :=
    prefixCode_bigEndian 2 c₁.wireGuard.mtu.toNat_lt c₂.wireGuard.mtu.toNat_lt heq
  obtain ⟨hkeepalive, heq⟩ := prefixCode_bigEndian 2
    c₁.wireGuard.persistentKeepaliveSecond.toNat_lt
    c₂.wireGuard.persistentKeepaliveSecond.toNat_lt heq
  obtain ⟨hissued, heq⟩ := prefixCode_time trivial trivial heq
  have hexpires := prefixCode_time.inj trivial trivial heq
  obtain ⟨v₁, d₁, n₁, t₁, e₁, r₁, ⟨k₁, a₁, p₁, m₁, q₁⟩, i₁, x₁⟩ := c₁
  obtain ⟨v₂, d₂, n₂, t₂, e₂, r₂, ⟨k₂, a₂, p₂, m₂, q₂⟩, i₂, x₂⟩ := c₂
  obtain rfl := UInt64.toNat_inj.mp hversion
  obtain rfl := UInt16.toNat_inj.mp hmtu
  obtain rfl := UInt16.toNat_inj.mp hkeepalive
  subst hdevice hnode htransport hendpoint hdns hpeer htunnel hallowed hissued hexpires
  rfl

/-- **The message binds every field.** Two configurations that are valid, at
whatever times, and have the same message are the same. -/
theorem signingMessage_injective (N : NetipText) (hN : N.Faithful) (c₁ c₂ : DeviceConfig)
    (now₁ now₂ : Time) (h₁ : c₁.validate now₁ = .ok ()) (h₂ : c₂.validate now₂ = .ok ())
    (heq : signingMessage N c₁ = signingMessage N c₂) : c₁ = c₂ :=
  (DeviceConfig.shaped h₁).eq_of_signingMessage hN (DeviceConfig.shaped h₂) heq

/-- A slice is copied, its elements stay. -/
def cloneConfig (config : DeviceConfig) : DeviceConfig :=
  { config with
    dns := [] ++ config.dns
    wireGuard :=
      { config.wireGuard with
        peerPublicKey := [] ++ config.wireGuard.peerPublicKey
        tunnelAddresses := [] ++ config.wireGuard.tunnelAddresses
        allowedIPs := [] ++ config.wireGuard.allowedIPs } }

@[simp] theorem cloneConfig_eq (config : DeviceConfig) : cloneConfig config = config := rfl

/-! ### An instance -/

/-- The text of one value, and a code behind a mark for all others. -/
def textOrCode {α : Type} [DecidableEq α] (a : α) (text : Text) (code : α → Text) (b : α) : Text :=
  if b = a then text else 35 :: code b

theorem textOrCode_inj {α : Type} [DecidableEq α] {S : α → Prop} {a : α} {text : Text}
    {code : α → Text} (htext : text.head? ≠ some 35)
    (hcode : ∀ b c, S b → S c → code b = code c → b = c) (b c : α) (hb : S b) (hc : S c)
    (heq : textOrCode a text code b = textOrCode a text code c) : b = c := by
  rw [textOrCode, textOrCode] at heq
  split at heq <;> split at heq
  · next h h' => rw [h, h']
  · exact absurd (by rw [heq]; rfl) htext
  · exact absurd (by rw [← heq]; rfl) htext
  · exact hcode b c hb hc (List.cons.inj heq).2

theorem textOrCode_length {α : Type} [DecidableEq α] {a : α} {text : Text} {code : α → Text}
    {n : Nat} (htext : text.length < n) (hcode : ∀ b, (code b).length + 1 < n) (b : α) :
    (textOrCode a text code b).length < n := by
  unfold textOrCode
  split
  · exact htext
  · exact hcode b

def addrCode : Addr → Text
  | .zero => [0]
  | .v4 bits => 4 :: bigEndian 4 bits.toNat
  | .v6 bits _ => 6 :: bigEndian 16 bits.toNat

theorem addrCode_inj (a b : Addr) (ha : a.isValid = true ∧ a.zone = [])
    (hb : b.isValid = true ∧ b.zone = []) (heq : addrCode a = addrCode b) : a = b := by
  cases a with
  | zero => cases ha.1
  | v4 bits =>
      cases b with
      | zero => cases hb.1
      | v4 bits' =>
          have hbits := bigEndian_inj bits.isLt bits'.isLt (List.cons.inj heq).2
          rw [BitVec.eq_of_toNat_eq hbits]
      | v6 bits' zone => exact absurd (List.cons.inj heq).1 (by decide)
  | v6 bits zone =>
      cases b with
      | zero => cases hb.1
      | v4 bits' => exact absurd (List.cons.inj heq).1 (by decide)
      | v6 bits' zone' =>
          have hbits := bigEndian_inj bits.isLt bits'.isLt (List.cons.inj heq).2
          obtain rfl : zone = [] := ha.2
          obtain rfl : zone' = [] := hb.2
          rw [BitVec.eq_of_toNat_eq hbits]

theorem addrCode_length (a : Addr) : (addrCode a).length < 18 := by
  cases a <;> simp [addrCode]

def exampleResolver : Addr := .v4 0x0a080001#32

def exampleEndpoint : AddrPort := ⟨.v4 0xcb007109#32, 51820⟩

def examplePrefix : Prefix where
  addr := .v4 0x0a080002#32
  bits := some 32
  inRange := by rintro _ ⟨⟩; decide
  unscoped := rfl

def exampleText : NetipText where
  addr := textOrCode exampleResolver (ascii "10.8.0.1") addrCode
  addrPort := textOrCode exampleEndpoint (ascii "203.0.113.9:51820")
    fun a => bigEndian 2 a.port.toNat ++ addrCode a.addr
  netPrefix := textOrCode examplePrefix (ascii "10.8.0.2/32")
    fun p => bigEndian 1 (p.bits.getD 0) ++ addrCode p.addr

theorem exampleText_faithful : exampleText.Faithful where
  addr := textOrCode_inj (by decide) addrCode_inj
  addrPort := by
    refine textOrCode_inj (by decide) ?_
    rintro ⟨a, p⟩ ⟨b, q⟩ ha hb heq
    obtain ⟨hport, hcode⟩ := prefixCode_bigEndian 2 p.toNat_lt q.toNat_lt heq
    rw [addrCode_inj a b ha hb hcode, UInt16.toNat_inj.mp hport]
  netPrefix := by
    refine textOrCode_inj (by decide) ?_
    rintro ⟨a, p, hp, hza⟩ ⟨b, q, hq, hzb⟩ hva hvb heq
    obtain ⟨m, rfl⟩ := Option.isSome_iff_exists.mp hva
    obtain ⟨n, rfl⟩ := Option.isSome_iff_exists.mp hvb
    have hlen : ∀ a : Addr, a.bitLen < 256 ^ 1 := fun a => by cases a <;> simp [Addr.bitLen]
    obtain ⟨hbits, hcode⟩ := prefixCode_bigEndian 1
      (Nat.lt_of_le_of_lt (hp m rfl).2 (hlen a)) (Nat.lt_of_le_of_lt (hq n rfl).2 (hlen b)) heq
    obtain rfl := addrCode_inj a b ⟨(hp m rfl).1, hza⟩ ⟨(hq n rfl).1, hzb⟩ hcode
    obtain rfl : m = n := hbits
    rfl
  addr_short := by
    have hshort : ∀ a, (exampleText.addr a).length < 2 ^ 32 :=
      textOrCode_length (by decide) fun b => by
        have hlen := addrCode_length b
        omega
    exact fun a _ => hshort a
  addrPort_short := by
    have hshort : ∀ a, (exampleText.addrPort a).length < 2 ^ 32 :=
      textOrCode_length (by decide) fun b => by
        have hlen := addrCode_length b.addr
        simp only [List.length_append, length_bigEndian]
        omega
    exact fun a _ => hshort a
  netPrefix_short := by
    have hshort : ∀ p, (exampleText.netPrefix p).length < 2 ^ 32 :=
      textOrCode_length (by decide) fun b => by
        have hlen := addrCode_length b.addr
        simp only [List.length_append, length_bigEndian]
        omega
    exact fun p _ => hshort p

def exampleConfig (version : UInt64) : DeviceConfig where
  version := version
  deviceID := ascii "laptop"
  nodeID := ascii "node-1"
  transport := transportWireGuard
  endpoint := exampleEndpoint
  dns := [exampleResolver]
  wireGuard := ⟨List.replicate 32 7, [examplePrefix], [examplePrefix], 1420, 25⟩
  issuedAt := exampleTime 0
  expiresAt := exampleTime 3600

/-- The same configuration seen at two times has one message, and a renewed
one has another. -/
theorem signingMessage_injective_renewal :
    cloneConfig (exampleConfig 1) = exampleConfig 1 ∧
      signingMessage exampleText (exampleConfig 1) ≠ signingMessage exampleText (exampleConfig 2) :=
  ⟨signingMessage_injective exampleText exampleText_faithful (cloneConfig (exampleConfig 1))
      (exampleConfig 1) (exampleTime 10) (exampleTime 1800) (by decide)
      (by decide) rfl,
    fun heq => absurd (signingMessage_injective exampleText exampleText_faithful (exampleConfig 1)
      (exampleConfig 2) (exampleTime 10) (exampleTime 10) (by decide)
      (by decide) heq) (by decide)⟩

/-! ## Seal and open -/

structure SignedConfig where
  config : DeviceConfig
  keyID : Text
  signature : Text
  deriving DecidableEq

/-- The `Signer` interface; a signer that fails says why. -/
structure Signer where
  keyID : Text
  sign : Text → Except Text Text

/-- `Ed25519Signer`; `sign` is `ed25519.Sign`. -/
def ed25519Signer (sign : Text → Text → Text) (keyID privateKey : Text) : Signer where
  keyID := keyID
  sign message := .ok (sign privateKey message)

inductive SealError where
  | config (error : ConfigError)
  | invalidSigner
  | sign (reason : Text)

/-- `Seal`; the signer may be nil. -/
def sealConfig (N : NetipText) (config : DeviceConfig) (now : Time) (signer : Option Signer) :
    Except SealError SignedConfig := do
  (config.validate now).mapError .config
  match signer with
  | none => throw .invalidSigner
  | some signer =>
      reject (!validIdentifier signer.keyID) .invalidSigner
      let config := cloneConfig config
      let signature ← (signer.sign (signingMessage N config)).mapError .sign
      return { config, keyID := signer.keyID, signature := [] ++ signature }

inductive VerifyError where
  | unknownSigningKey
  | invalidSignature
  deriving DecidableEq

/-- The `Verifier` interface. -/
structure Verifier where
  verify : Text → Text → Text → Except VerifyError Unit

/-- `Ed25519Verifier`: a map from key IDs to public keys over the
signature scheme's own check. -/
def ed25519Verifier (check : Text → Text → Text → Bool) (publicKeys : List (Text × Text)) :
    Verifier where
  verify keyID message signature :=
    match publicKeys.lookup keyID with
    | none => .error .unknownSigningKey
    | some publicKey =>
        if signature.length ≠ 64 || !check publicKey message signature then
          .error .invalidSignature
        else .ok ()

inductive OpenError where
  | verifierRequired
  | verify (error : VerifyError)
  | config (error : ConfigError)
  | deviceMismatch
  | staleVersion
  deriving DecidableEq

/-- `Open`; the verifier may be nil. -/
def openConfig (N : NetipText) (envelope : SignedConfig) (now : Time) (verifier : Option Verifier) :
    Except OpenError DeviceConfig := do
  match verifier with
  | none => throw .verifierRequired
  | some verifier =>
      (verifier.verify envelope.keyID (signingMessage N envelope.config)
        envelope.signature).mapError .verify
      (envelope.config.validate now).mapError .config
      return cloneConfig envelope.config

def openForDevice (N : NetipText) (envelope : SignedConfig) (deviceID : Text)
    (acceptedVersion : UInt64) (now : Time) (verifier : Option Verifier) :
    Except OpenError DeviceConfig := do
  let config ← openConfig N envelope now verifier
  reject (config.deviceID ≠ deviceID) .deviceMismatch
  reject (config.version ≤ acceptedVersion) .staleVersion
  return config

/-- What an accepted envelope is. -/
theorem openForDevice_eq_ok {N : NetipText} {envelope : SignedConfig} {deviceID : Text}
    {acceptedVersion : UInt64} {now : Time} {verifier : Option Verifier} {config : DeviceConfig}
    (h : openForDevice N envelope deviceID acceptedVersion now verifier = .ok config) :
    config = envelope.config ∧ config.validate now = .ok () ∧ config.deviceID = deviceID ∧
      acceptedVersion < config.version ∧ ∃ v, verifier = some v ∧
        v.verify envelope.keyID (signingMessage N config) envelope.signature = .ok () := by
  cases verifier with
  | none => cases h
  | some v =>
      simp only [openForDevice, openConfig, bind_eq_ok, mapError_eq_ok, reject_eq_ok] at h
      obtain ⟨_, ⟨_, hverify, _, hvalid, hclone⟩, _, hdevice, _, hversion, hconfig⟩ := h
      obtain rfl := Except.ok.inj hclone
      obtain rfl := Except.ok.inj hconfig
      exact ⟨rfl, hvalid, not_ne_iff.mp hdevice, UInt64.not_le.mp hversion, v, rfl, hverify⟩

def exampleSigner : Signer := ⟨ascii "key", fun _ => .ok (List.replicate 64 9)⟩

end CyberiaVpn.Control
