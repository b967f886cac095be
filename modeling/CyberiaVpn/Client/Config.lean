import CyberiaVpn.Effects.Arith
import CyberiaVpn.Killswitch.Connection

/-!
# The client's configuration

`ClientConfig` of `apps/linux-client/src/lib.rs`, from the value read out
of the configuration file to a managed connection. There are two ways
through it. `validateClientConfiguration` is what `--check` runs, and
`buildConnection` is what the client runs otherwise; both read the same
settings first and then check them each in their own order.

A conversion can also end in a panic: the key decoder slices its text at
byte positions, which need not be character boundaries. That outcome is
kept apart from the errors.
-/

namespace CyberiaVpn.Client

open Effects Transport Linux Killswitch

inductive ConfigError where
  | unsafeFile
  | oversized
  | io
  | json
  | invalidField (reason : String)
  | unsafeRuntimeDirectory
  deriving DecidableEq

inductive ClientValidationError where
  | config (error : ConfigError)
  | transport (error : TransportError)
  | nftables (error : NftablesError)
  deriving DecidableEq

structure ClientTools where
  ip : PathBuf
  wg : PathBuf
  nft : PathBuf
  resolvectl : PathBuf
  privateKey : PathBuf

structure ClientConfig where
  interface : String
  runtimeDirectory : PathBuf
  endpointAddress : IpAddr
  endpointPort : UInt16
  peerPublicKeyHex : String
  tunnelAddresses : List String
  allowedIps : List String
  dnsResolvers : List IpAddr
  mtu : UInt16
  persistentKeepaliveSeconds : Option UInt16
  routingMark : UInt32
  connectTimeoutSeconds : UInt64
  alwaysOn : Bool
  tools : ClientTools

/-- The name check of `acquire_interface_lease`. -/
def validInterfaceName (interface : String) : Bool :=
  interface ≠ "" && interface.utf8ByteSize ≤ 15 &&
    interface.toList.all fun c => c.isAlphanum || c == '-' || c == '_' || c == '.'

def validatePrivateDirectory (files : FileSystem) (path : PathBuf) : Except ConfigError Unit :=
  if !path.isAbsolute then .error .unsafeRuntimeDirectory
  else
    match files path with
    | none => .error .io
    | some metadata =>
        if !metadata.isDir || metadata.isSymlink || metadata.mode &&& 0o077 != 0 then
          .error .unsafeRuntimeDirectory
        else .ok ()

/-! ## Reading keys and prefixes -/

/-- The first `n` bytes of a text and the rest, if the cut falls between
two characters. -/
def splitBytes : Nat → List Char → Option (List Char × List Char)
  | 0, text => some ([], text)
  | _ + 1, [] => none
  | n + 1, c :: text =>
      if c.utf8Size ≤ n + 1 then
        (splitBytes (n + 1 - c.utf8Size) text).map fun (taken, rest) => (c :: taken, rest)
      else none

/-- `from_str_radix` of an unsigned type with so many values: an optional
plus sign and at least one digit. -/
def parseUnsigned (radix limit : Nat) (text : List Char) : Option Nat :=
  let digits := if text.head? = some '+' then text.tail else text
  if digits = [] then none
  else do
    let value ← digits.foldlM (fun n c => (digitValue radix c).map (n * radix + ·)) 0
    if value < limit then some value else none

def invalidKey : ConfigError :=
  .invalidField "peer_public_key_hex must contain 64 hexadecimal characters"

/-- The loop of `decode_key`, two bytes of the text for each of the key. -/
def decodeBytes : (n : Nat) → List Char → Except (Fault ConfigError) (Vector UInt8 n)
  | 0, _ => .ok ⟨#[], rfl⟩
  | n + 1, text =>
      match splitBytes 2 text with
      | none => .error .panic
      | some (pair, rest) =>
          match parseUnsigned 16 256 pair with
          | none => .error (.error invalidKey)
          | some byte => do
              let bytes ← decodeBytes n rest
              return ⟨#[UInt8.ofNat byte] ++ bytes.toArray, by simp [Nat.add_comm]⟩

def decodeKey (value : String) : Except (Fault ConfigError) Key :=
  if value.utf8ByteSize ≠ 64 then .error (.error invalidKey) else decodeBytes 32 value.toList

def parseCidr (value : String) : Except ConfigError (IpAddr × UInt8) := do
  let address := value.toList.takeWhile (· ≠ '/')
  match value.toList.dropWhile (· ≠ '/') with
  | [] => throw (.invalidField "invalid CIDR prefix")
  | _ :: length =>
      let some address := IpAddr.parse (String.ofList address)
        | throw (.invalidField "invalid CIDR address")
      let some prefixLength := parseUnsigned 10 256 length
        | throw (.invalidField "invalid CIDR prefix length")
      if address.width < prefixLength then
        throw (.invalidField "CIDR prefix length exceeds address family")
      return (address, UInt8.ofNat prefixLength)

example : parseCidr "10.8.0.2/+24" = .ok (.v4 0x0a080002#32, 24) := by decide
example : decodeBytes 1 "é0".toList = .error (.error invalidKey) := by decide
example : decodeBytes 1 "0é".toList = .error .panic := by decide

/-! ## The two pipelines -/

/-- `NonZero::new`, with the error of a zero. -/
def nonZero {α : Type} [OfNat α 0] [DecidableEq α] (n : α) (reason : String) :
    Except (Fault ConfigError) { m : α // m ≠ 0 } :=
  if h : n ≠ 0 then .ok ⟨n, h⟩ else .error (.error (.invalidField reason))

def ClientConfig.intoConnectionSettings (config : ClientConfig) :
    Except (Fault ConfigError) LinuxConnectionSettings := do
  let endpointPort ← nonZero config.endpointPort "endpoint_port must be nonzero"
  let routingMark ← nonZero config.routingMark "routing_mark must be nonzero"
  let peerPublicKey ← decodeKey config.peerPublicKeyHex
  let tunnelAddresses ← (config.tunnelAddresses.mapM fun value => do
    let (address, prefixLength) ← parseCidr value
    return { address, prefixLength : TunnelAddress }).mapError .error
  let allowedIps ← (config.allowedIps.mapM fun value => do
    let (network, prefixLength) ← parseCidr value
    return { network, prefixLength : AllowedIp }).mapError .error
  return {
    interface := config.interface
    profile := {
      peerPublicKey
      endpoint := { host := config.endpointAddress.display, port := endpointPort }
      tunnelAddresses
      allowedIps
      persistentKeepaliveSeconds := config.persistentKeepaliveSeconds
      mtu := config.mtu }
    dns := { resolvers := config.dnsResolvers }
    tools := { ip := config.tools.ip, wg := config.tools.wg, privateKey := config.tools.privateKey }
    dnsTools := { resolvectl := config.tools.resolvectl }
    routingMark
    connectTimeout := config.connectTimeoutSeconds.toNat * 1000000000
    alwaysOn := config.alwaysOn }

/-- What `--check` runs. -/
def validateClientConfiguration (files : FileSystem) (config : ClientConfig) :
    Except (Fault ClientValidationError) Unit := do
  (validatePrivateDirectory files config.runtimeDirectory).mapError (.error ∘ .config)
  let settings ← config.intoConnectionSettings.mapError (Fault.map .config)
  settings.profile.validate.mapError (.error ∘ .transport)
  settings.dns.validate.mapError (.error ∘ .transport)
  TransportConfig.validate
    { kind := .wireGuard, endpoint := settings.profile.endpoint,
      connectTimeout := settings.connectTimeout } |>.mapError (.error ∘ .transport)
  (settings.tools.validate files).mapError (.error ∘ .transport)
  (settings.dnsTools.validate files).mapError (.error ∘ .transport)
  (validateNftExecutable files config.tools.nft).mapError (.error ∘ .nftables)

inductive StartError where
  | config (error : ConfigError)
  | build (error : LinuxConnectionBuildError)

/-- What the client runs without `--check`, up to the connection. -/
def buildConnection (files : FileSystem) (config : ClientConfig) :
    Prog Unit Host Effect (Fault StartError) LinuxWireGuardConnection := do
  let settings ← (Prog.liftExcept config.intoConnectionSettings).mapError (Fault.map .config)
  (LinuxWireGuardConnection.system files settings config.tools.nft).mapError (.error ∘ .build)

end CyberiaVpn.Client
