import CyberiaVpn.Linux.Backend

/-!
# The managed WireGuard node

`LinuxWireGuardNode`, `LinuxWireGuardNodeGateway` and their composition
`LinuxManagedWireGuardNode` of `core/transport/src/linux.rs`. The node
owns a link and its peers, the gateway owns one nftables table with the
forwarding rules. Each keeps a flag of its own and so does the
composition: starting brings up the link before the table, stopping takes
the table down before the link.
-/

namespace CyberiaVpn.Linux

open Effects Transport Killswitch

/-! ## The node -/

def maximumNodePeers : Nat := 4096

/-- The peer set and the route map are lists without repeated keys. -/
structure LinuxWireGuardNode where
  tools : LinuxTools
  activeInterface : Option String
  peers : List Key
  assignedRoutes : List (AllowedIp × Key)
  healthFailures : UInt32

namespace LinuxWireGuardNode

abbrev NodeM := Prog LinuxWireGuardNode Host Effect TransportError

def fresh (tools : LinuxTools) : LinuxWireGuardNode :=
  { tools, activeInterface := none, peers := [], assignedRoutes := [], healthFailures := 0 }

def new (files : FileSystem) (tools : LinuxTools) : Except TransportError LinuxWireGuardNode := do
  tools.validate files
  if tools.privateKey.toStr.isNone then
    throw (.invalidConfig "WireGuard private key path is not UTF-8")
  return fresh tools

theorem new_eq_ok_iff {files : FileSystem} {tools : LinuxTools} {n : LinuxWireGuardNode} :
    new files tools = .ok n ↔
      tools.validate files = .ok () ∧ tools.privateKey.toStr ≠ none ∧ fresh tools = n :=
  LinuxTools.checked_eq_ok

/-- The node that a program starts from is a fresh one. -/
theorem new_eq_ok {files : FileSystem} {tools : LinuxTools} {n : LinuxWireGuardNode}
    (h : new files tools = .ok n) : fresh tools = n :=
  (new_eq_ok_iff.mp h).2.2

/-- The text that `configureNode` hands to `wg` names the key file. -/
theorem key_argument {files : FileSystem} {tools : LinuxTools} {n : LinuxWireGuardNode}
    (h : new files tools = .ok n) :
    PathBuf.ofString n.tools.privateKey.toStringLossy = tools.privateKey := by
  obtain ⟨-, hkey, rfl⟩ := new_eq_ok_iff.mp h
  exact PathBuf.ofString_toStringLossy hkey

def deleteInterface (interface : String) : NodeM Unit := do
  command (← Prog.self).tools.ip ["link", "delete", "dev", interface]

def configureNode (interface : String) (config : WireGuardNodeConfig) : NodeM Unit := do
  let n ← Prog.self
  check
  command n.tools.wg
    ["set", interface, "private-key", n.tools.privateKey.toStringLossy, "listen-port",
      toString config.listenPort.val]
  Prog.forEach (fun address => do
    check
    command n.tools.ip ["address", "add", TunnelAddress.display address, "dev", interface])
    config.interfaceAddresses
  check
  command n.tools.ip ["link", "set", "dev", interface, "mtu", toString config.mtu, "up"]

def start (interface : String) (config : WireGuardNodeConfig) : NodeM Unit := do
  let n ← Prog.self
  if n.activeInterface.isSome then
    Prog.fail .alreadyConnected
  else if !Transport.validInterface interface then
    Prog.fail (.invalidConfig "invalid WireGuard node interface name")
  else
    Prog.liftExcept config.validate
    check
    command n.tools.ip ["link", "add", "dev", interface, "type", "wireguard"]
    match ← (configureNode interface config).attempt with
    | .ok () => Prog.update fun n => { n with activeInterface := some interface }
    | .error setupError =>
        match ← (deleteInterface interface).attempt with
        | .ok () => Prog.fail setupError
        | .error cleanupError =>
            Prog.fail (.network ("WireGuard node setup failed: " ++ setupError.display ++
              "; cleanup failed: " ++ cleanupError.display))

/-- `HashMap::insert`. -/
def assignRoute (key : Key) (routes : List (AllowedIp × Key)) (route : AllowedIp) :
    List (AllowedIp × Key) :=
  (route, key) :: routes.filter (·.1 ≠ route)

def addPeer (peer : WireGuardNodePeer) : NodeM Unit := do
  Prog.liftExcept peer.validate
  let n ← Prog.self
  match n.activeInterface with
  | none => Prog.fail .notConnected
  | some interface =>
      if maximumNodePeers ≤ n.peers.length then
        Prog.fail (.invalidConfig "WireGuard node peer capacity reached")
      else if peer.publicKey ∈ n.peers then
        Prog.fail (.invalidConfig "WireGuard node peer is already managed")
      else if peer.allowedIps.any fun route => n.assignedRoutes.any (·.1 = route) then
        Prog.fail (.invalidConfig "WireGuard node peer route is already assigned")
      else
        command n.tools.wg
          (["set", interface, "peer", encodeKey peer.publicKey, "allowed-ips",
            joinComma (peer.allowedIps.map AllowedIp.display)] ++
          (match peer.persistentKeepaliveSeconds with
            | some seconds => ["persistent-keepalive", toString seconds]
            | none => []))
        Prog.update fun n =>
          { n with
            peers := peer.publicKey :: n.peers
            assignedRoutes := peer.allowedIps.foldl (assignRoute peer.publicKey) n.assignedRoutes }

def removePeer (publicKey : Key) : NodeM Unit := do
  let n ← Prog.self
  match n.activeInterface with
  | none => Prog.fail .notConnected
  | some interface =>
      if publicKey ∉ n.peers then
        Prog.fail (.invalidConfig "WireGuard node peer is not managed")
      else
        command n.tools.wg ["set", interface, "peer", encodeKey publicKey, "remove"]
        Prog.update fun n =>
          { n with
            peers := n.peers.filter (· ≠ publicKey)
            assignedRoutes := n.assignedRoutes.filter (·.2 ≠ publicKey) }

def stop : NodeM Unit := do
  match (← Prog.self).activeInterface with
  | none => Prog.fail .notConnected
  | some interface =>
      deleteInterface interface
      Prog.update fun n => { n with activeInterface := none, peers := [], assignedRoutes := [] }

/-- A probe that failed, or whose output could not be read. -/
def healthFailure : Prog LinuxWireGuardNode Host Effect Empty WireGuardNodeHealth := do
  Prog.update fun n => { n with healthFailures := saturatingIncrement n.healthFailures }
  let n ← Prog.self
  return ⟨.unavailable, n.peers.length, 0, 0, n.healthFailures⟩

def health (now : Nat) : Prog LinuxWireGuardNode Host Effect Empty WireGuardNodeHealth := do
  let n ← Prog.self
  match n.activeInterface with
  | none => return ⟨.unavailable, n.peers.length, 0, 0, n.healthFailures⟩
  | some interface =>
      match ← (output n.tools.wg ["show", interface, "latest-handshakes"]).attempt with
      | .error _ => healthFailure
      | .ok out =>
          match nodeHandshakes now out with
          | none => healthFailure
          | some (observedPeers, recentHandshakes) =>
              Prog.update fun n => { n with healthFailures := 0 }
              let status := if observedPeers = n.peers.length then .healthy else .degraded
              return ⟨status, n.peers.length, observedPeers, recentHandshakes, 0⟩

end LinuxWireGuardNode

/-! ## The gateway -/

structure LinuxNodeGatewayTools where
  nft : PathBuf
  sysctl : PathBuf

def LinuxNodeGatewayTools.validate (files : FileSystem) (tools : LinuxNodeGatewayTools) :
    Except TransportError Unit := do
  validateExecutable files tools.nft
  validateExecutable files tools.sysctl

def forwardingKeys (policy : WireGuardNodeGatewayPolicy) : List String :=
  (if policy.clientNetworks.any (·.network.isIpv4) then ["net.ipv4.ip_forward"] else []) ++
    if policy.clientNetworks.any (·.network.isIpv6) then ["net.ipv6.conf.all.forwarding"] else []

def nodeGatewayNetworkRules (wireguardInterface uplinkInterface : String)
    (network : AllowedIp) : String :=
  let family := if network.network.isIpv4 then "ip" else "ip6"
  "add rule inet cyberia_vpn_node forward iifname \"" ++ wireguardInterface ++ "\" oifname \"" ++
    uplinkInterface ++ "\" " ++ family ++ " saddr " ++ network.display ++ " accept\n" ++
  "add rule inet cyberia_vpn_node postrouting oifname \"" ++ uplinkInterface ++ "\" " ++
    family ++ " saddr " ++ network.display ++ " masquerade\n"

/-- The table, its two chains and the rule for replies. -/
def nodeGatewayTable : String :=
  "add table inet cyberia_vpn_node\n" ++
    "add chain inet cyberia_vpn_node forward " ++
      "\x7b type filter hook forward priority 0; policy drop; \x7d\n" ++
    "add chain inet cyberia_vpn_node postrouting " ++
      "\x7b type nat hook postrouting priority 100; policy accept; \x7d\n" ++
    "add rule inet cyberia_vpn_node forward ct state established,related accept\n"

def nodeGatewayRules (wireguardInterface uplinkInterface : String)
    (policy : WireGuardNodeGatewayPolicy) : String :=
  policy.clientNetworks.foldl
    (fun rules network => rules ++ nodeGatewayNetworkRules wireguardInterface uplinkInterface network)
    nodeGatewayTable

structure LinuxWireGuardNodeGateway where
  tools : LinuxNodeGatewayTools
  active : Bool

namespace LinuxWireGuardNodeGateway

abbrev GatewayM := Prog LinuxWireGuardNodeGateway Host Effect TransportError

def new (files : FileSystem) (tools : LinuxNodeGatewayTools) :
    Except TransportError LinuxWireGuardNodeGateway := do
  tools.validate files
  return { tools, active := false }

/-- It has no table yet, and its two tools passed their checks. -/
theorem new_eq_ok {files : FileSystem} {tools : LinuxNodeGatewayTools}
    {g : LinuxWireGuardNodeGateway} (h : new files tools = .ok g) :
    ⟨tools, false⟩ = g ∧ validateExecutable files tools.nft = .ok () ∧
      validateExecutable files tools.sysctl = .ok () := by
  simp only [new, LinuxNodeGatewayTools.validate, bind_eq_ok] at h
  obtain ⟨_, ⟨_, hnft, hsysctl⟩, hg⟩ := h
  exact ⟨Except.ok.inj hg, hnft, hsysctl⟩

/-- The outputs of `sysctl -n` that mean forwarding is on. -/
def forwardingOn (out : List UInt8) : Bool := out = [49, 10] || out = [49]

def checkForwarding (key : String) : GatewayM Unit := do
  let out ← output (← Prog.self).tools.sysctl ["-n", key]
  if forwardingOn out then return ()
  else Prog.fail (.invalidConfig "kernel IP forwarding is disabled")

def enable (wireguardInterface uplinkInterface : String) (policy : WireGuardNodeGatewayPolicy) :
    GatewayM Unit := do
  let g ← Prog.self
  if g.active then
    Prog.fail .alreadyConnected
  else if !Transport.validInterface wireguardInterface ||
      !Transport.validInterface uplinkInterface || wireguardInterface = uplinkInterface then
    Prog.fail (.invalidConfig "invalid WireGuard node gateway interface")
  else
    Prog.liftExcept policy.validate
    check
    Prog.forEach checkForwarding (forwardingKeys policy)
    check
    input g.tools.nft ["--file", "-"] (nodeGatewayRules wireguardInterface uplinkInterface policy)
    Prog.update fun g => { g with active := true }

def disable : GatewayM Unit := do
  let g ← Prog.self
  if !g.active then
    Prog.fail .notConnected
  else
    input g.tools.nft ["--file", "-"] "delete table inet cyberia_vpn_node\n"
    Prog.update fun g => { g with active := false }

end LinuxWireGuardNodeGateway

/-! ## The composition -/

structure LinuxManagedWireGuardNode where
  interface : String
  uplinkInterface : String
  node : LinuxWireGuardNode
  gateway : LinuxWireGuardNodeGateway
  active : Bool

namespace LinuxManagedWireGuardNode

abbrev ManagedM := Prog LinuxManagedWireGuardNode Host Effect

variable {ε α : Type}

def new (interface uplinkInterface : String) (node : LinuxWireGuardNode)
    (gateway : LinuxWireGuardNodeGateway) : Except TransportError LinuxManagedWireGuardNode :=
  if !Transport.validInterface interface || !Transport.validInterface uplinkInterface ||
      interface = uplinkInterface then
    .error (.invalidConfig "invalid managed WireGuard node interface")
  else .ok { interface, uplinkInterface, node, gateway, active := false }

def onNode (m : Prog LinuxWireGuardNode Host Effect ε α) : ManagedM ε α :=
  Prog.zoom (·.node) (fun n m => { m with node := n }) m

def onGateway (m : Prog LinuxWireGuardNodeGateway Host Effect ε α) : ManagedM ε α :=
  Prog.zoom (·.gateway) (fun g m => { m with gateway := g }) m

def start (config : WireGuardNodeConfig) (policy : WireGuardNodeGatewayPolicy) :
    ManagedM TransportError Unit := do
  let m ← Prog.self
  if m.active then
    Prog.fail .alreadyConnected
  else
    Prog.liftExcept (policy.validateForNode config)
    onNode (LinuxWireGuardNode.start m.interface config)
    match ← (onGateway (LinuxWireGuardNodeGateway.enable m.interface m.uplinkInterface
      policy)).attempt with
    | .ok () => Prog.update fun m => { m with active := true }
    | .error setupError =>
        match ← (onNode LinuxWireGuardNode.stop).attempt with
        | .ok () => Prog.fail setupError
        | .error cleanupError =>
            Prog.fail (.network ("node gateway setup failed: " ++ setupError.display ++
              "; cleanup failed: " ++ cleanupError.display))

def addPeer (peer : WireGuardNodePeer) : ManagedM TransportError Unit := do
  if !(← Prog.self).active then
    Prog.fail .notConnected
  else
    onNode (LinuxWireGuardNode.addPeer peer)

def removePeer (publicKey : Key) : ManagedM TransportError Unit := do
  if !(← Prog.self).active then
    Prog.fail .notConnected
  else
    onNode (LinuxWireGuardNode.removePeer publicKey)

def health (now : Nat) : ManagedM Empty WireGuardNodeHealth :=
  onNode (LinuxWireGuardNode.health now)

def stop : ManagedM TransportError Unit := do
  if !(← Prog.self).active then
    Prog.fail .notConnected
  else
    onGateway LinuxWireGuardNodeGateway.disable
    onNode LinuxWireGuardNode.stop
    Prog.update fun m => { m with active := false }

end LinuxManagedWireGuardNode

end CyberiaVpn.Linux
