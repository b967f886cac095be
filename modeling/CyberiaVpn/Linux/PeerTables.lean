import Mathlib.Algebra.GroupWithZero.Nat
import Mathlib.Data.List.Nodup
import CyberiaVpn.Linux.NodeRuns
import CyberiaVpn.Linux.Words

/-!
# The node's peer tables and the kernel's

`LinuxWireGuardNode` keeps the peers it manages and the owner of every
route it has handed out; the kernel keeps, for each peer of the link, the
set of its allowed IPs. `add_peer` and `remove_peer` change the kernel
first and their own tables when that succeeded, so between two calls the
two agree, whatever failed in between.

The kernel moves a route away from whichever peer held it. That nothing is
moved follows from the ownership check of `add_peer`: a route that is not
in the route map has no owner, and its word is nobody else's word.
-/

namespace CyberiaVpn.Linux

open Effects Transport

/-- What a validated peer asks for. -/
theorem of_validatePeer {peer : WireGuardNodePeer} (h : peer.validate = .ok ()) :
    peer.allowedIps ≠ [] ∧ peer.allowedIps.length ≤ 16 ∧ peer.allowedIps.Nodup ∧
      ∀ route ∈ peer.allowedIps, route.prefixLength.toNat = route.network.width := by
  rw [WireGuardNodePeer.validate] at h
  split at h
  · cases h
  dsimp only at h
  split at h
  · cases h
  case isFalse hcount =>
  obtain ⟨heach, -⟩ := andThen_eq_ok.mp h
  obtain ⟨hgood, hnodup⟩ := validateEach_eq_ok.mp heach
  rw [not_or, not_lt] at hcount
  refine ⟨hcount.1, hcount.2, by simpa using hnodup, fun route hroute => ?_⟩
  have hok := (hgood route hroute).1
  simp only [Bool.or_eq_false_iff, bne_eq_false_iff_eq] at hok
  exact hok.1.1

namespace LinuxWireGuardNode

/-! ## The managed table -/

/-- The routes a peer owns. -/
def routesOf (n : LinuxWireGuardNode) (key : Key) : List AllowedIp :=
  (n.assignedRoutes.filter (·.2 = key)).map Prod.fst

/-- The managed peers and their routes, in the kernel's words. -/
def managedPeers (n : LinuxWireGuardNode) (word : String) : Option (Finset String) :=
  (n.peers.find? fun key => encodeKey key = word).map fun key =>
    ((n.routesOf key).map AllowedIp.display).toFinset

section Managed

variable {n n' : LinuxWireGuardNode} {word : String} {routes : Finset String} {key : Key}

theorem mem_routesOf {route : AllowedIp} :
    route ∈ n.routesOf key ↔ (route, key) ∈ n.assignedRoutes := by
  constructor
  · intro h
    obtain ⟨⟨route', key'⟩, hmem, rfl⟩ := List.mem_map.mp h
    obtain ⟨hassigned, hkey⟩ := List.mem_filter.mp hmem
    obtain rfl : key' = key := of_decide_eq_true hkey
    exact hassigned
  · intro h
    exact List.mem_map.mpr ⟨(route, key), List.mem_filter.mpr ⟨h, decide_eq_true rfl⟩, rfl⟩

theorem managedPeers_eq_some : n.managedPeers word = some routes ↔
    ∃ key ∈ n.peers, encodeKey key = word ∧
      ((n.routesOf key).map AllowedIp.display).toFinset = routes := by
  rw [managedPeers, Option.map_eq_some_iff]
  constructor
  · rintro ⟨key, hfind, hroutes⟩
    exact ⟨key, List.mem_of_find?_eq_some hfind, by simpa using List.find?_some hfind, hroutes⟩
  · rintro ⟨key, hkey, hword, hroutes⟩
    refine ⟨key, ?_, hroutes⟩
    obtain ⟨key', hfind⟩ := Option.isSome_iff_exists.mp
      (List.find?_isSome.mpr ⟨key, hkey, decide_eq_true hword⟩ :
        (n.peers.find? fun key => encodeKey key = word).isSome = true)
    have hword' : encodeKey key' = word := by simpa using List.find?_some hfind
    rw [hfind, encodeKey_inj (hword'.trans hword.symm)]

/-- A route with no owner has a word that no peer's routes have. -/
theorem disjoint_words {fresh : List AllowedIp}
    (hfresh : ∀ route ∈ fresh, ∀ key, (route, key) ∉ n.assignedRoutes) (key : Key) :
    Disjoint ((n.routesOf key).map AllowedIp.display).toFinset
      (fresh.map AllowedIp.display).toFinset := by
  rw [Finset.disjoint_left]
  intro word hword hword'
  obtain ⟨route, hroute, rfl⟩ := List.mem_map.mp (List.mem_toFinset.mp hword)
  obtain ⟨route', hroute', heq⟩ := List.mem_map.mp (List.mem_toFinset.mp hword')
  rw [AllowedIp.display_inj heq] at hroute'
  exact hfresh route hroute' key (mem_routesOf.mp hroute)

/-- Routes without an owner are put in front of the map. -/
theorem foldl_assignRoute {key : Key} : ∀ {fresh : List AllowedIp} {table : List (AllowedIp × Key)},
    fresh.Nodup → (∀ route ∈ fresh, ∀ key, (route, key) ∉ table) →
    fresh.foldl (assignRoute key) table = (fresh.map (·, key)).reverse ++ table
  | [], _, _, _ => rfl
  | route :: fresh, table, hnodup, hfresh => by
      have hassign : assignRoute key table route = (route, key) :: table := by
        rw [assignRoute, List.filter_eq_self.mpr]
        rintro ⟨route', key'⟩ hmem
        refine decide_eq_true fun heq => hfresh route (List.mem_cons_self ..) key' ?_
        rw [← show route' = route from heq]
        exact hmem
      have hrest : ∀ route' ∈ fresh, ∀ key', (route', key') ∉ (route, key) :: table := by
        intro route' hroute' key' hmem
        rcases List.mem_cons.mp hmem with heq | hmem
        · obtain ⟨rfl, -⟩ := Prod.mk.inj heq
          exact (List.nodup_cons.mp hnodup).1 hroute'
        · exact hfresh route' (List.mem_cons_of_mem _ hroute') key' hmem
      rw [List.foldl_cons, hassign, foldl_assignRoute (List.nodup_cons.mp hnodup).2 hrest]
      simp

end Managed

/-! ## The invariant -/

/-- The tables of a node between two calls, against the kernel. -/
structure PeerTables (n : LinuxWireGuardNode) (k : Kernel) : Prop where
  idle : n.activeInterface = none → n.peers = [] ∧ n.assignedRoutes = []
  mirror : ∀ i, n.activeInterface = some i → k.peers i = n.managedPeers
  hostRoute : ∀ route key, (route, key) ∈ n.assignedRoutes →
    route.prefixLength.toNat = route.network.width
  oneOwner : (n.assignedRoutes.map Prod.fst).Nodup
  owner : ∀ route key, (route, key) ∈ n.assignedRoutes → key ∈ n.peers
  keys : n.peers.Nodup
  share : ∀ key ∈ n.peers, 1 ≤ (n.routesOf key).length ∧ (n.routesOf key).length ≤ 16
  capacity : n.peers.length ≤ maximumNodePeers

section Steps

variable {n : LinuxWireGuardNode} {w : Host} {k : Kernel} {i : String}

/-- A node that has handed out nothing agrees with a link nobody set up. -/
theorem peerTables_empty (hpeers : n.peers = []) (hroutes : n.assignedRoutes = [])
    (hlink : ∀ i, n.activeInterface = some i → k.peers i = fun _ => none) : n.PeerTables k where
  idle := fun _ => ⟨hpeers, hroutes⟩
  mirror := fun i hi => by
    rw [hlink i hi]
    funext word
    rw [managedPeers, hpeers]
    rfl
  hostRoute := fun route key h => by rw [hroutes] at h; cases h
  oneOwner := by rw [hroutes]; exact List.nodup_nil
  owner := fun route key h => by rw [hroutes] at h; cases h
  keys := by rw [hpeers]; exact List.nodup_nil
  share := fun key h => by rw [hpeers] at h; cases h
  capacity := by rw [hpeers]; exact Nat.zero_le _

/-- Only the kernel's table of the recorded link matters. -/
theorem PeerTables.kernel {k' : Kernel} (h : n.PeerTables k)
    (hk : n.activeInterface ≠ none → k' = k) : n.PeerTables k' :=
  { h with
    mirror := fun i hi => by
      rw [hk (by rw [hi]; exact Option.some_ne_none i)]
      exact h.mirror i hi }

/-- The routes of each peer after `add_peer`. -/
theorem routesOf_added {peer : WireGuardNodePeer} (h : n.PeerTables k) (hadd : n.Added peer i)
    (key : Key) :
    routesOf { n with
      peers := peer.publicKey :: n.peers
      assignedRoutes := peer.allowedIps.foldl (assignRoute peer.publicKey) n.assignedRoutes } key =
      if key = peer.publicKey then peer.allowedIps.reverse else n.routesOf key := by
  obtain ⟨-, -, hnodup, -⟩ := of_validatePeer hadd.valid
  simp only [routesOf, foldl_assignRoute hnodup hadd.routes, List.filter_append, List.map_append]
  split
  · next hkey =>
      have hold : n.assignedRoutes.filter (·.2 = key) = [] := by
        refine List.filter_eq_nil_iff.mpr fun ⟨route, key'⟩ hmem heq => hadd.key ?_
        rw [← hkey, ← show key' = key by simpa using heq]
        exact h.owner route key' hmem
      have hnew : (peer.allowedIps.map (·, peer.publicKey)).reverse.filter (·.2 = key) =
          (peer.allowedIps.map (·, peer.publicKey)).reverse := by
        refine List.filter_eq_self.mpr fun pair hmem => ?_
        obtain ⟨route, -, rfl⟩ := List.mem_map.mp (List.mem_reverse.mp hmem)
        exact decide_eq_true hkey.symm
      rw [hold, hnew, ← List.map_reverse, List.map_map, List.map_nil, List.append_nil]
      exact List.map_id _
  · next hkey =>
      have hnew : (peer.allowedIps.map (·, peer.publicKey)).reverse.filter (·.2 = key) = [] := by
        refine List.filter_eq_nil_iff.mpr fun pair hmem heq => hkey ?_
        obtain ⟨route, -, rfl⟩ := List.mem_map.mp (List.mem_reverse.mp hmem)
        exact (by simpa using heq : peer.publicKey = key).symm
      rw [hnew, List.map_nil, List.nil_append]

/-- The kernel after `wg set` of a new peer: no route had to be moved. -/
theorem setPeer_added {peer : WireGuardNodePeer} (h : n.PeerTables k) (hadd : n.Added peer i) :
    (k.setPeer i (encodeKey peer.publicKey)
      (splitComma (joinComma (peer.allowedIps.map AllowedIp.display))).toFinset).peers i =
    managedPeers { n with
      peers := peer.publicKey :: n.peers
      assignedRoutes := peer.allowedIps.foldl (assignRoute peer.publicKey) n.assignedRoutes } := by
  rw [splitComma_routes (of_validatePeer hadd.valid).1]
  funext word
  ext routes
  rw [managedPeers_eq_some]
  simp only [Kernel.setPeer, if_true, h.mirror i hadd.active, routesOf_added h hadd]
  by_cases hword : word = encodeKey peer.publicKey
  · rw [if_pos hword]
    constructor
    · intro heq
      refine ⟨peer.publicKey, List.mem_cons_self .., hword.symm, ?_⟩
      rw [if_pos rfl, ← Option.some.inj heq, List.map_reverse, List.toFinset_reverse]
    · rintro ⟨key, -, hkey, heq⟩
      rw [if_pos (encodeKey_inj (hkey.trans hword)), List.map_reverse, List.toFinset_reverse] at heq
      rw [heq]
  · rw [if_neg hword, Option.map_eq_some_iff]
    have hsame : ∀ key, ((n.routesOf key).map AllowedIp.display).toFinset \
        (peer.allowedIps.map AllowedIp.display).toFinset =
        ((n.routesOf key).map AllowedIp.display).toFinset := fun key =>
      (disjoint_words hadd.routes key).sdiff_eq_left
    constructor
    · rintro ⟨old, hold, rfl⟩
      obtain ⟨key, hkey, rfl, rfl⟩ := managedPeers_eq_some.mp hold
      refine ⟨key, List.mem_cons_of_mem _ hkey, rfl, ?_⟩
      rw [if_neg fun heq => hword (by rw [heq]), hsame]
    · rintro ⟨key, hkey, rfl, rfl⟩
      have hother : key ≠ peer.publicKey := fun heq => hword (by rw [heq])
      refine ⟨_, managedPeers_eq_some.mpr
        ⟨key, (List.mem_cons.mp hkey).resolve_left hother, rfl, rfl⟩, ?_⟩
      rw [if_neg hother, hsame]

theorem PeerTables.add {peer : WireGuardNodePeer} (h : n.PeerTables k) (hadd : n.Added peer i) :
    PeerTables { n with
      peers := peer.publicKey :: n.peers
      assignedRoutes := peer.allowedIps.foldl (assignRoute peer.publicKey) n.assignedRoutes }
      (k.setPeer i (encodeKey peer.publicKey)
        (splitComma (joinComma (peer.allowedIps.map AllowedIp.display))).toFinset) := by
  obtain ⟨hne, hcount, hnodup, hhost⟩ := of_validatePeer hadd.valid
  have hmem : ∀ route key,
      (route, key) ∈ peer.allowedIps.foldl (assignRoute peer.publicKey) n.assignedRoutes →
      (route ∈ peer.allowedIps ∧ key = peer.publicKey) ∨ (route, key) ∈ n.assignedRoutes := by
    intro route key hmem
    rw [foldl_assignRoute hnodup hadd.routes] at hmem
    rcases List.mem_append.mp hmem with hmem | hmem
    · obtain ⟨route', hroute', heq⟩ := List.mem_map.mp (List.mem_reverse.mp hmem)
      obtain ⟨rfl, rfl⟩ := Prod.mk.inj heq
      exact Or.inl ⟨hroute', rfl⟩
    · exact Or.inr hmem
  refine ⟨fun hidle => ?_, fun j hj => ?_, fun route key hroute => ?_, ?_, fun route key hroute => ?_,
    ?_, fun key hkey => ?_, ?_⟩
  · have hactive := hadd.active
    rw [show n.activeInterface = none from hidle] at hactive
    cases hactive
  · obtain rfl : i = j := Option.some.inj (hadd.active.symm.trans hj)
    exact setPeer_added h hadd
  · rcases hmem route key hroute with ⟨hroute, -⟩ | hroute
    · exact hhost route hroute
    · exact h.hostRoute route key hroute
  · rw [foldl_assignRoute hnodup hadd.routes, List.map_append, ← List.map_reverse, List.map_map]
    refine List.Nodup.append ?_ h.oneOwner ?_
    · exact (List.nodup_reverse.mpr hnodup).map fun _ _ heq => heq
    · intro route hroute hold
      obtain ⟨route', hroute', rfl⟩ := List.mem_map.mp hroute
      obtain ⟨⟨route, key⟩, hassigned, heq⟩ := List.mem_map.mp hold
      refine hadd.routes route' (List.mem_reverse.mp hroute') key ?_
      rw [← show route = route' from heq]
      exact hassigned
  · rcases hmem route key hroute with ⟨-, rfl⟩ | hroute
    · exact List.mem_cons_self ..
    · exact List.mem_cons_of_mem _ (h.owner route key hroute)
  · exact List.nodup_cons.mpr ⟨hadd.key, h.keys⟩
  · rw [routesOf_added h hadd]
    split
    · rw [List.length_reverse]
      exact ⟨List.length_pos_iff.mpr hne, hcount⟩
    · next hother =>
        exact h.share key ((List.mem_cons.mp hkey).resolve_left hother)
  · exact hadd.capacity

theorem routesOf_removed (publicKey key : Key) :
    routesOf { n with
      peers := n.peers.filter (· ≠ publicKey)
      assignedRoutes := n.assignedRoutes.filter (·.2 ≠ publicKey) } key =
      if key = publicKey then [] else n.routesOf key := by
  simp only [routesOf, List.filter_filter]
  split
  · next hkey =>
      rw [List.filter_eq_nil_iff.mpr, List.map_nil]
      rintro ⟨route, key'⟩ -
      simp [hkey]
  · next hkey =>
      refine congrArg (List.map Prod.fst) (List.filter_congr ?_)
      rintro ⟨route, key'⟩ -
      by_cases heq : key' = key
      · simp [heq, hkey]
      · simp [heq]

theorem removePeer_removed {publicKey : Key} (h : n.PeerTables k)
    (hactive : n.activeInterface = some i) :
    (k.removePeer i (encodeKey publicKey)).peers i =
    managedPeers { n with
      peers := n.peers.filter (· ≠ publicKey)
      assignedRoutes := n.assignedRoutes.filter (·.2 ≠ publicKey) } := by
  funext word
  ext routes
  rw [managedPeers_eq_some]
  simp only [Kernel.removePeer, true_and, h.mirror i hactive, routesOf_removed, List.mem_filter,
    decide_eq_true_eq]
  by_cases hword : word = encodeKey publicKey
  · rw [if_pos hword]
    constructor
    · exact nofun
    · rintro ⟨key, ⟨-, hother⟩, hkey, -⟩
      exact absurd (encodeKey_inj (hkey.trans hword)) hother
  · rw [if_neg hword, managedPeers_eq_some]
    constructor
    · rintro ⟨key, hkey, rfl, rfl⟩
      have hother : key ≠ publicKey := fun heq => hword (by rw [heq])
      exact ⟨key, ⟨hkey, hother⟩, rfl, by rw [if_neg hother]⟩
    · rintro ⟨key, ⟨hkey, hother⟩, rfl, rfl⟩
      exact ⟨key, hkey, rfl, by rw [if_neg hother]⟩

theorem PeerTables.remove {publicKey : Key} (h : n.PeerTables k)
    (hactive : n.activeInterface = some i) :
    PeerTables { n with
      peers := n.peers.filter (· ≠ publicKey)
      assignedRoutes := n.assignedRoutes.filter (·.2 ≠ publicKey) }
      (k.removePeer i (encodeKey publicKey)) := by
  refine ⟨fun hidle => ?_, fun j hj => ?_, fun route key hroute => ?_, ?_, fun route key hroute => ?_,
    ?_, fun key hkey => ?_, ?_⟩
  · rw [show n.activeInterface = none from hidle] at hactive
    cases hactive
  · obtain rfl : i = j := Option.some.inj (hactive.symm.trans hj)
    exact removePeer_removed h hactive
  · exact h.hostRoute route key (List.mem_of_mem_filter hroute)
  · exact h.oneOwner.sublist (List.filter_sublist.map Prod.fst)
  · obtain ⟨hassigned, hother⟩ := List.mem_filter.mp hroute
    exact List.mem_filter.mpr ⟨h.owner route key hassigned, hother⟩
  · exact h.keys.filter _
  · obtain ⟨hkey, hother⟩ := List.mem_filter.mp hkey
    rw [routesOf_removed, if_neg (of_decide_eq_true hother)]
    exact h.share key hkey
  · exact (List.length_filter_le _ _).trans h.capacity

end Steps

/-! ## Runs -/

inductive Call where
  | start (interface : String) (config : WireGuardNodeConfig)
  | addPeer (peer : WireGuardNodePeer)
  | removePeer (publicKey : Key)
  | stop
  | health (now : Nat)

def Call.run : Call → NodeM Unit
  | .start interface config => LinuxWireGuardNode.start interface config
  | .addPeer peer => LinuxWireGuardNode.addPeer peer
  | .removePeer publicKey => LinuxWireGuardNode.removePeer publicKey
  | .stop => LinuxWireGuardNode.stop
  | .health now => do let _ ← (LinuxWireGuardNode.health now).mapError Empty.elim

/-- Every call keeps the tables in agreement; one that fails has not
changed the node. -/
theorem sat_call {n : LinuxWireGuardNode} {w : Host} (call : Call) (h : n.PeerTables w.kernel) :
    call.run.Sat (fun _ => True) (fun _ n' w' => n'.PeerTables w'.kernel)
      (fun _ n' w' => n' = n ∧ n'.PeerTables w'.kernel) n w := by
  cases call with
  | start interface config =>
      refine (sat_start config).mono (fun _ h => h) ?_ ?_
      · rintro - n' w' ⟨hidle, rfl, hk'⟩
        obtain ⟨hpeers, hroutes⟩ := h.idle hidle
        refine peerTables_empty hpeers hroutes fun j hj => ?_
        obtain rfl := Option.some.inj hj
        rw [hk']
        exact if_pos rfl
      · rintro e n' w' ⟨rfl, -, hk'⟩
        exact ⟨rfl, h.kernel hk'⟩
  | addPeer peer =>
      refine (sat_addPeer peer).mono (fun _ _ => trivial) ?_ ?_
      · rintro - n' w' ⟨i, hadd, -, rfl, hk'⟩
        rw [hk']
        exact h.add hadd
      · rintro e n' w' ⟨rfl, hk'⟩
        exact ⟨rfl, h.kernel fun _ => hk'⟩
  | removePeer publicKey =>
      refine (sat_removePeer publicKey).mono (fun _ h => h) ?_ ?_
      · rintro - n' w' ⟨i, hactive, -, rfl, hk'⟩
        rw [hk']
        exact h.remove hactive
      · rintro e n' w' ⟨rfl, hk'⟩
        exact ⟨rfl, h.kernel fun _ => hk'⟩
  | stop =>
      refine sat_stop.mono (fun _ h => h) ?_ ?_
      · rintro - n' w' ⟨j, -, rfl, -⟩
        exact peerTables_empty rfl rfl nofun
      · rintro e n' w' ⟨rfl, hk'⟩
        exact ⟨rfl, h.kernel fun _ => hk'⟩
  | health now =>
      rw [Call.run, Prog.sat_bind, Prog.sat_mapError]
      refine (sat_health now).mono (fun _ h => h) ?_ (fun _ _ _ h => h.elim)
      rintro - n' w' ⟨⟨f, rfl⟩, hk'⟩
      rw [Prog.sat_pure, hk']
      exact ⟨h.idle, h.mirror, h.hostRoute, h.oneOwner, h.owner, h.keys, h.share, h.capacity⟩

/-- After any calls on a new node, with any failures, the tables agree with
each other and with the kernel; and whatever is called next, a failure
leaves the node as it was. -/
theorem peer_tables_mirror (tools : LinuxTools) (w : Host) (calls : List Call) :
    let run := (Prog.session (δ := Empty) Call.run calls) (fresh tools) w
    run.self.PeerTables run.world.kernel ∧
      ∀ (call : Call) (e : TransportError), (call.run run.self run.world).result = .error e →
        (call.run run.self run.world).self = run.self := by
  intro run
  have hrun : (Prog.session (δ := Empty) Call.run calls).Sat (fun _ => True)
      (fun _ n' w' => n'.PeerTables w'.kernel) (fun _ _ _ => True) (fresh tools) w :=
    Prog.sat_session
      (fun call _ _ _ h => (sat_call call h).mono (fun _ h => h) (fun _ _ _ h => h)
        fun _ _ _ h => h.2)
      (peerTables_empty rfl rfl nofun)
  have hend : run.self.PeerTables run.world.kernel := by
    have hend := hrun.2
    rw [Prog.session_result] at hend
    exact hend
  refine ⟨hend, fun call e he => ?_⟩
  exact ((sat_call call hend).of_error he).1

end LinuxWireGuardNode

end CyberiaVpn.Linux
