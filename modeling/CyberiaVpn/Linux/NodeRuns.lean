import CyberiaVpn.Linux.Node

/-!
# Stopping a managed node

A run is any sequence of calls on a new managed node with any failures.
The link and the table can outlive a failed call in four ways: a stop
that removed the table and then failed on the link, a start whose gateway
failed and whose link could not be removed, a node start that could not
clean up after itself, and a stop that could not remove the table. Only
the last leaves the flags as `stop` wants them: it begins with
`gateway.disable`, which refuses when the gateway is not active.
-/

namespace CyberiaVpn.Linux

open Effects Transport Killswitch

namespace LinuxWireGuardNode

section Specs

variable {n : LinuxWireGuardNode} {w : Host} {i : String}

/-- Configuring a link changes nothing the kernel model keeps. -/
theorem sat_configureNode (config : WireGuardNodeConfig) :
    (configureNode i config).Sat (fun _ => True)
      (fun _ n' w' => n' = n ∧ w'.kernel = w.kernel)
      (fun _ n' w' => n' = n ∧ w'.kernel = w.kernel) n w := by
  have hcheck : ∀ w₁ : Host, w₁.kernel = w.kernel →
      (check).Sat (fun _ => True) (fun _ n' w' => n' = n ∧ w'.kernel = w.kernel)
        (fun _ n' w' => n' = n ∧ w'.kernel = w.kernel) n w₁ := fun w₁ hk₁ =>
    sat_check (fun _ => ⟨trivial, rfl, hk₁⟩) (fun _ _ => ⟨trivial, rfl, hk₁⟩)
  have hcommand : ∀ (w₁ : Host) (program : PathBuf) (arguments : List String),
      w₁.kernel = w.kernel →
      (∀ k', w.kernel.exec arguments = some k' → k' = w.kernel) →
      (command program arguments).Sat (fun _ => True)
        (fun _ n' w' => n' = n ∧ w'.kernel = w.kernel)
        (fun _ n' w' => n' = n ∧ w'.kernel = w.kernel) n w₁ := by
    intro w₁ program arguments hk₁ hexec
    refine sat_command (fun k' env hk => ⟨trivial, rfl, hexec k' ?_⟩) (fun _ _ => ⟨trivial, rfl, hk₁⟩)
    rw [← hk₁]
    exact hk
  rw [configureNode, Prog.sat_bind, Prog.sat_self]
  refine (hcheck w rfl).bind ?_
  rintro - n₁ w₁ ⟨rfl, hk₁⟩
  refine (hcommand w₁ _ _ hk₁ ?_).bind ?_
  · exact fun k' hk => (Kernel.onLink_eq_some.mp hk).2
  rintro - n₂ w₂ ⟨rfl, hk₂⟩
  refine (Prog.sat_forEach (J := fun n' w' => n' = n₂ ∧ w'.kernel = w.kernel) ?_ ⟨rfl, hk₂⟩).bind ?_
  · rintro address - n₃ w₃ ⟨rfl, hk₃⟩
    refine (hcheck w₃ hk₃).bind ?_
    rintro - n₄ w₄ ⟨rfl, hk₄⟩
    exact hcommand w₄ _ _ hk₄ fun k' hk => (Kernel.onLink_eq_some.mp hk).2
  · rintro - n₅ w₅ ⟨rfl, hk₅⟩
    refine (hcheck w₅ hk₅).bind ?_
    rintro - n₆ w₆ ⟨rfl, hk₆⟩
    exact hcommand w₆ _ _ hk₆ fun k' hk => (Kernel.onLink_eq_some.mp hk).2

/-- A failed start leaves the node as it was; an active node refuses
before it touches the host. -/
theorem sat_start (config : WireGuardNodeConfig) :
    (start i config).Sat (fun _ => True)
      (fun _ n' w' => n.activeInterface = none ∧ n' = { n with activeInterface := some i } ∧
        w'.kernel = w.kernel.addLink i)
      (fun _ n' w' => n' = n ∧ w.kernel.Undisturbed w'.kernel ∧
        (n.activeInterface ≠ none → w'.kernel = w.kernel)) n w := by
  have hrefl := Kernel.Undisturbed.refl w.kernel
  rw [start, Prog.sat_bind, Prog.sat_self]
  split
  · exact Prog.sat_fail.mpr ⟨rfl, hrefl, fun _ => rfl⟩
  case isFalse hsome =>
  have hidle : n.activeInterface = none := by simpa using hsome
  have hactive : ∀ {P : Prop}, n.activeInterface ≠ none → P := fun h => absurd hidle h
  split
  · exact Prog.sat_fail.mpr ⟨rfl, hrefl, fun _ => rfl⟩
  rw [Prog.sat_bind, Prog.sat_liftExcept]
  split
  case h_2 => exact ⟨rfl, hrefl, fun _ => rfl⟩
  rw [Prog.sat_bind]
  refine sat_check (fun env => ⟨trivial, ?_⟩) (fun _ env => ⟨trivial, rfl, hrefl, fun _ => rfl⟩)
  rw [Prog.sat_bind]
  refine sat_command (fun k' env' hk => ⟨trivial, ?_⟩)
    (fun _ env' => ⟨trivial, rfl, hrefl, fun _ => rfl⟩)
  obtain ⟨-, rfl⟩ := Kernel.exec_linkAdd.mp hk
  rw [Prog.sat_bind, Prog.sat_attempt]
  refine (sat_configureNode config).mono (fun _ _ => trivial) ?_ ?_
  · rintro - n₁ w₁ ⟨rfl, hk₁⟩
    exact Prog.sat_update.mpr ⟨hidle, rfl, hk₁⟩
  · rintro e n₁ w₁ ⟨rfl, hk₁⟩
    rw [Prog.sat_bind, Prog.sat_attempt, deleteInterface, Prog.sat_bind, Prog.sat_self]
    refine sat_command (fun k' env'' hk' => ⟨trivial, ?_⟩) (fun _ env'' => ⟨trivial, ?_⟩)
    · obtain ⟨-, rfl⟩ := Kernel.exec_linkDelete.mp hk'
      refine Prog.sat_fail.mpr ⟨rfl, ?_, hactive⟩
      rw [hk₁]
      exact ⟨rfl, rfl, rfl, rfl⟩
    · refine Prog.sat_fail.mpr ⟨rfl, ?_, hactive⟩
      rw [hk₁]
      exact ⟨rfl, rfl, rfl, rfl⟩

theorem sat_stop :
    stop.Sat (fun _ => True)
      (fun _ n' w' => ∃ j, n.activeInterface = some j ∧
        n' = { n with activeInterface := none, peers := [], assignedRoutes := [] } ∧
        w'.kernel = w.kernel.deleteLink j)
      (fun _ n' w' => n' = n ∧ w'.kernel = w.kernel) n w := by
  rw [stop, Prog.sat_bind, Prog.sat_self]
  split
  · exact Prog.sat_fail.mpr ⟨rfl, rfl⟩
  case h_2 j hj =>
  rw [Prog.sat_bind, deleteInterface, Prog.sat_bind, Prog.sat_self]
  refine sat_command (fun k' env hk => ⟨trivial, ?_⟩) (fun _ env => ⟨trivial, rfl, rfl⟩)
  obtain ⟨-, rfl⟩ := Kernel.exec_linkDelete.mp hk
  exact Prog.sat_update.mpr ⟨j, hj, rfl, rfl⟩

/-- What `add_peer` has checked when it returns. -/
structure Added (n : LinuxWireGuardNode) (peer : WireGuardNodePeer) (i : String) : Prop where
  active : n.activeInterface = some i
  valid : peer.validate = .ok ()
  capacity : n.peers.length < maximumNodePeers
  key : peer.publicKey ∉ n.peers
  routes : ∀ route ∈ peer.allowedIps, ∀ key, (route, key) ∉ n.assignedRoutes

theorem sat_addPeer (peer : WireGuardNodePeer) :
    (addPeer peer).Sat
      (fun e => ∃ i rest ok, e.effect =
        .command ⟨n.tools.wg, "set" :: i :: "peer" :: encodeKey peer.publicKey :: rest⟩ ok)
      (fun _ n' w' => ∃ i, n.Added peer i ∧ i ∈ w.kernel.links ∧
        n' = { n with
          peers := peer.publicKey :: n.peers
          assignedRoutes :=
            peer.allowedIps.foldl (assignRoute peer.publicKey) n.assignedRoutes } ∧
        w'.kernel = w.kernel.setPeer i (encodeKey peer.publicKey)
          (splitComma (joinComma (peer.allowedIps.map AllowedIp.display))).toFinset)
      (fun _ n' w' => n' = n ∧ w'.kernel = w.kernel) n w := by
  rw [addPeer, Prog.sat_bind, Prog.sat_liftExcept]
  split
  case h_2 => exact ⟨rfl, rfl⟩
  case h_1 hvalid =>
  rw [Prog.sat_bind, Prog.sat_self]
  split
  · exact Prog.sat_fail.mpr ⟨rfl, rfl⟩
  case h_2 j hj =>
  split
  · exact Prog.sat_fail.mpr ⟨rfl, rfl⟩
  case isFalse hcapacity =>
  split
  · exact Prog.sat_fail.mpr ⟨rfl, rfl⟩
  case isFalse hkey =>
  split
  · exact Prog.sat_fail.mpr ⟨rfl, rfl⟩
  case isFalse hroutes =>
  have hadded : n.Added peer j := by
    refine ⟨hj, hvalid, by omega, hkey, fun route hroute key hmem => hroutes ?_⟩
    exact List.any_eq_true.mpr ⟨route, hroute,
      List.any_eq_true.mpr ⟨(route, key), hmem, decide_eq_true rfl⟩⟩
  rw [Prog.sat_bind]
  refine sat_command (fun k' env hk => ⟨⟨j, _, true, rfl⟩, ?_⟩)
    (fun _ env => ⟨⟨j, _, false, rfl⟩, rfl, rfl⟩)
  obtain ⟨hlink, rfl⟩ := Kernel.onLink_eq_some.mp hk
  exact Prog.sat_update.mpr ⟨j, hadded, hlink, rfl, rfl⟩

theorem sat_removePeer (publicKey : Key) :
    (removePeer publicKey).Sat (fun _ => True)
      (fun _ n' w' => ∃ i, n.activeInterface = some i ∧ publicKey ∈ n.peers ∧
        n' = { n with
          peers := n.peers.filter (· ≠ publicKey)
          assignedRoutes := n.assignedRoutes.filter (·.2 ≠ publicKey) } ∧
        w'.kernel = w.kernel.removePeer i (encodeKey publicKey))
      (fun _ n' w' => n' = n ∧ w'.kernel = w.kernel) n w := by
  rw [removePeer, Prog.sat_bind, Prog.sat_self]
  split
  · exact Prog.sat_fail.mpr ⟨rfl, rfl⟩
  case h_2 j hj =>
  split
  · exact Prog.sat_fail.mpr ⟨rfl, rfl⟩
  case isFalse hkey =>
  rw [Prog.sat_bind]
  refine sat_command (fun k' env hk => ⟨trivial, ?_⟩) (fun _ env => ⟨trivial, rfl, rfl⟩)
  obtain ⟨-, rfl⟩ := Kernel.onLink_eq_some.mp hk
  exact Prog.sat_update.mpr ⟨j, hj, by simpa using hkey, rfl, rfl⟩

theorem sat_healthFailure : healthFailure.Sat (fun _ => True)
    (fun _ n' w' => (∃ f, n' = { n with healthFailures := f }) ∧ w'.kernel = w.kernel)
    (fun _ _ _ => False) n w := by
  rw [healthFailure, Prog.sat_bind, Prog.sat_update, Prog.sat_bind, Prog.sat_self, Prog.sat_pure]
  exact ⟨⟨_, rfl⟩, rfl⟩

theorem sat_health (now : Nat) :
    (health now).Sat (fun _ => True)
      (fun _ n' w' => (∃ f, n' = { n with healthFailures := f }) ∧ w'.kernel = w.kernel)
      (fun _ _ _ => False) n w := by
  rw [health, Prog.sat_bind, Prog.sat_self]
  split
  · exact Prog.sat_pure.mpr ⟨⟨_, rfl⟩, rfl⟩
  rw [Prog.sat_bind, Prog.sat_attempt]
  refine sat_output (fun k' env out hk => ⟨trivial, ?_⟩) (fun _ env => ⟨trivial, ?_⟩)
  · obtain rfl := Kernel.exec_show hk
    dsimp only
    split
    · exact sat_healthFailure
    · rw [Prog.sat_bind, Prog.sat_update]
      exact Prog.sat_pure.mpr ⟨⟨_, rfl⟩, rfl⟩
  · exact sat_healthFailure

theorem sat_configureNode_calm (config : WireGuardNodeConfig) (hcalm : w.env = .calm)
    (hi : i ∈ w.kernel.links) :
    (configureNode i config).Sat (fun _ => True)
      (fun _ n' w' => n' = n ∧ w'.env = .calm ∧ w'.kernel = w.kernel)
      (fun _ _ _ => False) n w := by
  rw [configureNode, Prog.sat_bind, Prog.sat_self, Prog.sat_bind]
  refine sat_check_calm hcalm fun log₁ => ?_
  rw [Prog.sat_bind]
  refine sat_command_calm rfl (Kernel.onLink_eq_some.mpr ⟨hi, rfl⟩) fun log₂ => ?_
  refine (Prog.sat_forEach
    (J := fun n' (w' : Host) => n' = n ∧ w'.env = .calm ∧ w'.kernel = w.kernel) ?_
    ?_).bind ?_
  · rintro address - n₁ w₁ ⟨rfl, hcalm₁, hk₁⟩
    rw [Prog.sat_bind]
    refine sat_check_calm hcalm₁ fun log₃ => ?_
    have hi₁ : i ∈ w₁.kernel.links := by rw [hk₁]; exact hi
    exact sat_command_calm rfl (Kernel.onLink_eq_some.mpr ⟨hi₁, rfl⟩) fun _ => ⟨rfl, rfl, hk₁⟩
  · exact ⟨rfl, rfl, rfl⟩
  · rintro - n₁ w₁ ⟨rfl, hcalm₁, hk₁⟩
    rw [Prog.sat_bind]
    refine sat_check_calm hcalm₁ fun log₃ => ?_
    have hi₁ : i ∈ w₁.kernel.links := by rw [hk₁]; exact hi
    exact sat_command_calm rfl (Kernel.onLink_eq_some.mpr ⟨hi₁, rfl⟩) fun _ => ⟨rfl, rfl, hk₁⟩

theorem sat_start_calm {config : WireGuardNodeConfig} (hcalm : w.env = .calm)
    (hidle : n.activeInterface = none) (hname : Transport.validInterface i = true)
    (hconfig : config.validate = .ok ()) (hi : i ∉ w.kernel.links) :
    (start i config).Sat (fun _ => True)
      (fun _ _ w' => w'.env = .calm ∧
        w'.kernel = w.kernel.addLink i)
      (fun _ _ _ => False) n w := by
  rw [start, Prog.sat_bind, Prog.sat_self, if_neg (by simp [hidle]), if_neg (by simp [hname]),
    Prog.sat_bind, hconfig, Prog.sat_liftExcept]
  refine Prog.sat_bind.mpr (sat_check_calm hcalm fun log₁ => ?_)
  refine Prog.sat_bind.mpr (sat_command_calm rfl (Kernel.exec_linkAdd.mpr ⟨hi, rfl⟩) fun log₂ => ?_)
  rw [Prog.sat_bind, Prog.sat_attempt]
  refine (sat_configureNode_calm config rfl (Finset.mem_insert_self _ _)).mono (fun _ h => h) ?_
    (fun _ _ _ h => h.elim)
  rintro - n₁ w₁ ⟨rfl, hcalm₁, hk₁⟩
  exact Prog.sat_update.mpr ⟨hcalm₁, hk₁⟩

theorem sat_stop_calm (hcalm : w.env = .calm) (hactive : n.activeInterface = some i)
    (hi : i ∈ w.kernel.links) :
    stop.Sat (fun _ => True)
      (fun _ n' w' => n'.activeInterface = none ∧ w'.env = .calm ∧
        w'.kernel = w.kernel.deleteLink i)
      (fun _ _ _ => False) n w := by
  rw [stop, Prog.sat_bind, Prog.sat_self, hactive]
  refine Prog.sat_bind.mpr ?_
  rw [deleteInterface, Prog.sat_bind, Prog.sat_self]
  refine sat_command_calm hcalm (Kernel.exec_linkDelete.mpr ⟨hi, rfl⟩) fun log => ?_
  exact Prog.sat_update.mpr ⟨rfl, rfl, rfl⟩

end Specs

end LinuxWireGuardNode

namespace LinuxWireGuardNodeGateway

section Specs

variable {g : LinuxWireGuardNodeGateway} {w : Host} {i u : String}

theorem head?_append {s t : String} {c : Char} (h : s.toList.head? = some c) :
    (s ++ t).toList.head? = some c := by
  rw [String.toList_append, List.head?_append, h]
  rfl

/-- The rules of a policy are never taken for the deletion of the table. -/
theorem load_rules (k : Kernel) (policy : WireGuardNodeGatewayPolicy) :
    ∃ table, k.load (nodeGatewayRules i u policy) = some { k with gateway := some table } := by
  have hfirst : ∀ (networks : List AllowedIp) (rules : String), rules.toList.head? = some 'a' →
      (networks.foldl (fun rules network => rules ++ nodeGatewayNetworkRules i u network)
        rules).toList.head? = some 'a' := by
    intro networks
    induction networks with
    | nil => exact fun _ h => h
    | cons network rest ih =>
        intro rules h
        exact ih _ (head?_append h)
  have htable : nodeGatewayTable.toList.head? = some 'a' := by
    unfold nodeGatewayTable
    iterate 5 refine head?_append ?_
    decide
  have hne : nodeGatewayRules i u policy ≠ "delete table inet cyberia_vpn_node\n" := by
    intro heq
    have h := hfirst policy.clientNetworks nodeGatewayTable htable
    rw [← nodeGatewayRules, heq] at h
    exact absurd h (by decide)
  exact ⟨_, if_neg hne⟩

theorem sat_checkForwarding (key : String) :
    (checkForwarding key).Sat (fun _ => True) (fun _ g' w' => g' = g ∧ w'.kernel = w.kernel)
      (fun _ g' w' => g' = g ∧ w'.kernel = w.kernel) g w := by
  rw [checkForwarding, Prog.sat_bind, Prog.sat_self, Prog.sat_bind]
  refine sat_output (fun k' env out hk => ⟨trivial, ?_⟩) (fun _ env => ⟨trivial, rfl, rfl⟩)
  obtain rfl : w.kernel = k' := Option.some.inj hk
  split
  · exact Prog.sat_pure.mpr ⟨rfl, rfl⟩
  · exact Prog.sat_fail.mpr ⟨rfl, rfl⟩

theorem sat_enable (policy : WireGuardNodeGatewayPolicy) :
    (enable i u policy).Sat (fun _ => True)
      (fun _ g' w' => g'.active = true ∧
        ∃ table, w'.kernel = { w.kernel with gateway := some table })
      (fun _ g' w' => g' = g ∧ w'.kernel = w.kernel) g w := by
  rw [enable, Prog.sat_bind, Prog.sat_self]
  split
  · exact Prog.sat_fail.mpr ⟨rfl, rfl⟩
  split
  · exact Prog.sat_fail.mpr ⟨rfl, rfl⟩
  rw [Prog.sat_bind, Prog.sat_liftExcept]
  split
  case h_2 => exact ⟨rfl, rfl⟩
  rw [Prog.sat_bind]
  refine sat_check (fun env => ⟨trivial, ?_⟩) (fun _ env => ⟨trivial, rfl, rfl⟩)
  refine (Prog.sat_forEach (J := fun g' (w' : Host) => g' = g ∧ w'.kernel = w.kernel) ?_
    ?_).bind ?_
  · rintro key - g₁ w₁ ⟨rfl, hk₁⟩
    rw [← hk₁]
    exact sat_checkForwarding key
  · exact ⟨rfl, rfl⟩
  · rintro - g₁ w₁ ⟨rfl, hk₁⟩
    rw [Prog.sat_bind]
    refine sat_check (fun env => ⟨trivial, ?_⟩) (fun _ env => ⟨trivial, rfl, hk₁⟩)
    rw [Prog.sat_bind]
    refine sat_input (fun k' env' hk => ⟨trivial, ?_⟩) (fun _ env' => ⟨trivial, rfl, hk₁⟩)
    obtain ⟨table, hload⟩ := load_rules (i := i) (u := u) w₁.kernel policy
    obtain rfl := Option.some.inj (hload.symm.trans hk)
    exact Prog.sat_update.mpr ⟨rfl, table, by rw [hk₁]⟩

theorem sat_disable :
    disable.Sat (fun _ => True)
      (fun _ g' w' => g'.active = false ∧ w'.kernel = { w.kernel with gateway := none })
      (fun _ g' w' => g' = g ∧ w'.kernel = w.kernel) g w := by
  rw [disable, Prog.sat_bind, Prog.sat_self]
  split
  · exact Prog.sat_fail.mpr ⟨rfl, rfl⟩
  rw [Prog.sat_bind]
  refine sat_input (fun k' env hk => ⟨trivial, ?_⟩) (fun _ env => ⟨trivial, rfl, rfl⟩)
  rw [Kernel.load, if_pos rfl] at hk
  split at hk
  · obtain rfl := Option.some.inj hk
    exact Prog.sat_update.mpr ⟨rfl, rfl⟩
  · cases hk

theorem sat_enable_calm {policy : WireGuardNodeGatewayPolicy} (hcalm : w.env = .calm)
    (hoff : g.active = false) (hi : Transport.validInterface i = true)
    (hu : Transport.validInterface u = true) (hne : i ≠ u) (hpolicy : policy.validate = .ok ())
    (hforward : ∀ key ∈ forwardingKeys policy, forwardingOn (w.kernel.sysctl key) = true) :
    (enable i u policy).Sat (fun _ => True) (fun _ _ _ => True) (fun _ _ _ => False) g w := by
  rw [enable, Prog.sat_bind, Prog.sat_self, if_neg (by simp [hoff]), if_neg (by simp [hi, hu, hne]),
    Prog.sat_bind, hpolicy, Prog.sat_liftExcept]
  refine Prog.sat_bind.mpr (sat_check_calm hcalm fun log₁ => ?_)
  refine (Prog.sat_forEach (J := fun g' (w' : Host) => g' = g ∧ w'.env = .calm ∧
    w'.kernel = w.kernel) ?_ ?_).bind ?_
  · rintro key hkey g₁ w₁ ⟨rfl, hcalm₁, hk₁⟩
    rw [checkForwarding, Prog.sat_bind, Prog.sat_self, Prog.sat_bind]
    refine sat_output_calm hcalm₁ rfl fun log₂ => ?_
    have hon : forwardingOn (w₁.kernel.stdout ["-n", key] []) = true := by
      rw [hk₁]
      exact hforward key hkey
    rw [if_pos hon]
    exact Prog.sat_pure.mpr ⟨rfl, rfl, hk₁⟩
  · exact ⟨rfl, rfl, rfl⟩
  · rintro - g₁ w₁ ⟨rfl, hcalm₁, hk₁⟩
    refine Prog.sat_bind.mpr (sat_check_calm hcalm₁ fun log₂ => ?_)
    obtain ⟨table, hload⟩ := load_rules (i := i) (u := u) w₁.kernel policy
    refine Prog.sat_bind.mpr (sat_input_calm rfl hload fun log₃ => ?_)
    exact Prog.sat_update.mpr trivial

theorem sat_disable_calm (hcalm : w.env = .calm) (hon : g.active = true)
    (htable : w.kernel.gateway.isSome = true) :
    disable.Sat (fun _ => True)
      (fun _ g' w' => g'.active = false ∧ w'.env = .calm ∧
        w'.kernel = { w.kernel with gateway := none })
      (fun _ _ _ => False) g w := by
  rw [disable, Prog.sat_bind, Prog.sat_self, if_neg (by simp [hon])]
  have hload : w.kernel.load "delete table inet cyberia_vpn_node\n"
      = some { w.kernel with gateway := none } := by
    rw [Kernel.load, if_pos rfl, if_pos htable]
  refine Prog.sat_bind.mpr (sat_input_calm hcalm hload fun log => ?_)
  exact Prog.sat_update.mpr ⟨rfl, rfl, rfl⟩

end Specs

end LinuxWireGuardNodeGateway

namespace LinuxManagedWireGuardNode

/-! ## Runs -/

inductive Call where
  | start (config : WireGuardNodeConfig) (policy : WireGuardNodeGatewayPolicy)
  | addPeer (peer : WireGuardNodePeer)
  | removePeer (publicKey : Key)
  | stop
  | health (now : Nat)

def Call.run : Call → ManagedM TransportError Unit
  | .start config policy => LinuxManagedWireGuardNode.start config policy
  | .addPeer peer => LinuxManagedWireGuardNode.addPeer peer
  | .removePeer publicKey => LinuxManagedWireGuardNode.removePeer publicKey
  | .stop => LinuxManagedWireGuardNode.stop
  | .health now => do let _ ← (LinuxManagedWireGuardNode.health now).mapError Empty.elim

/-- The invariant between two calls: a recorded link is the configured one
and exists, and an active gateway belongs to a node that runs. -/
structure Managed (m : LinuxManagedWireGuardNode) (k : Kernel) : Prop where
  interface : Transport.validInterface m.interface = true
  uplink : Transport.validInterface m.uplinkInterface = true
  distinct : m.interface ≠ m.uplinkInterface
  link : ∀ j, m.node.activeInterface = some j → j = m.interface ∧ m.interface ∈ k.links
  gateway : m.gateway.active = true → m.active = true ∧
    m.node.activeInterface = some m.interface ∧ k.gateway.isSome = true

section Calls

variable {m : LinuxManagedWireGuardNode} {w : Host}

/-- What the peer calls leave alone. -/
def SameLink (n n' : LinuxWireGuardNode) (k k' : Kernel) : Prop :=
  n'.activeInterface = n.activeInterface ∧ k'.links = k.links ∧ k'.gateway = k.gateway

theorem Managed.sameLink {n' : LinuxWireGuardNode} {k k' : Kernel} (h : Managed m k)
    (hsame : SameLink m.node n' k k') : Managed { m with node := n' } k' where
  interface := h.interface
  uplink := h.uplink
  distinct := h.distinct
  link := fun j hj => by
    rw [hsame.2.1]
    exact h.link j (hsame.1.symm.trans hj)
  gateway := fun hg => by
    rw [hsame.2.2]
    exact ⟨(h.gateway hg).1, hsame.1.trans (h.gateway hg).2.1, (h.gateway hg).2.2⟩

/-- Deleting the recorded link of a node whose gateway is down. -/
theorem Managed.deleteLink {n' : LinuxWireGuardNode} {k : Kernel} (h : Managed m k)
    (hoff : m.gateway.active = false) (hnone : n'.activeInterface = none) (j : String) :
    Managed { m with node := n' } (k.deleteLink j) where
  interface := h.interface
  uplink := h.uplink
  distinct := h.distinct
  link := fun j' hj => by rw [show n'.activeInterface = some j' from hj] at hnone; cases hnone
  gateway := fun hg => by rw [show m.gateway.active = true from hg] at hoff; cases hoff

theorem sat_start (config : WireGuardNodeConfig) (policy : WireGuardNodeGatewayPolicy)
    (h : Managed m w.kernel) :
    (start config policy).Sat (fun _ => True) (fun _ m' w' => Managed m' w'.kernel)
      (fun _ m' w' => Managed m' w'.kernel) m w := by
  rw [start, Prog.sat_bind, Prog.sat_self]
  split
  · exact Prog.sat_fail.mpr h
  case isFalse hinactive =>
  have hoff : m.gateway.active = false := by
    cases hg : m.gateway.active with
    | false => rfl
    | true => exact absurd (h.gateway hg).1 hinactive
  have hgate : ∀ {P : Prop}, m.gateway.active = true → P := fun hg => by
    rw [hoff] at hg
    cases hg
  rw [Prog.sat_bind, Prog.sat_liftExcept]
  split
  case h_2 => exact h
  rw [Prog.sat_bind, onNode, Prog.sat_zoom]
  refine (LinuxWireGuardNode.sat_start config).mono (fun _ h => h) ?_ ?_
  · rintro - n₁ w₁ ⟨-, rfl, hk₁⟩
    have hmanaged : Managed { m with node := { m.node with activeInterface := some m.interface } }
        w₁.kernel := by
      refine ⟨h.interface, h.uplink, h.distinct, fun j hj => ⟨(Option.some.inj hj).symm, ?_⟩, hgate⟩
      rw [hk₁]
      exact Finset.mem_insert_self _ _
    rw [Prog.sat_bind, Prog.sat_attempt, onGateway, Prog.sat_zoom]
    refine (LinuxWireGuardNodeGateway.sat_enable policy).mono (fun _ h => h) ?_ ?_
    · rintro - g₂ w₂ ⟨-, table, hk₂⟩
      refine Prog.sat_update.mpr ⟨h.interface, h.uplink, h.distinct, ?_, fun _ => ⟨rfl, rfl, ?_⟩⟩
      · rw [hk₂]
        exact hmanaged.link
      · rw [hk₂]
        rfl
    · rintro e g₂ w₂ ⟨rfl, hk₂⟩
      rw [Prog.sat_bind, Prog.sat_attempt, onNode, Prog.sat_zoom]
      refine LinuxWireGuardNode.sat_stop.mono (fun _ h => h) ?_ ?_
      · rintro - n₃ w₃ ⟨j, -, rfl, hk₃⟩
        refine Prog.sat_fail.mpr ?_
        rw [hk₃, hk₂]
        exact hmanaged.deleteLink hoff rfl j
      · rintro e' n₃ w₃ ⟨rfl, hk₃⟩
        refine Prog.sat_fail.mpr ?_
        rw [hk₃, hk₂]
        exact hmanaged
  · rintro e n₁ w₁ ⟨rfl, hframe, hsame⟩
    refine ⟨h.interface, h.uplink, h.distinct, fun j hj => ?_, hgate⟩
    rw [hsame (by rw [show m.node.activeInterface = some j from hj]; exact Option.some_ne_none _)]
    exact h.link j hj

theorem sat_stop (h : Managed m w.kernel) :
    stop.Sat (fun _ => True) (fun _ m' w' => Managed m' w'.kernel)
      (fun _ m' w' => Managed m' w'.kernel) m w := by
  rw [stop, Prog.sat_bind, Prog.sat_self]
  split
  · exact Prog.sat_fail.mpr h
  rw [Prog.sat_bind, onGateway, Prog.sat_zoom]
  refine LinuxWireGuardNodeGateway.sat_disable.mono (fun _ h => h) ?_ ?_
  · rintro - g₁ w₁ ⟨hoff, hk₁⟩
    have hmanaged : Managed { m with gateway := g₁ } w₁.kernel := by
      refine ⟨h.interface, h.uplink, h.distinct, ?_, fun hg => ?_⟩
      · rw [hk₁]
        exact h.link
      · rw [show g₁.active = true from hg] at hoff
        cases hoff
    rw [Prog.sat_bind, onNode, Prog.sat_zoom]
    refine LinuxWireGuardNode.sat_stop.mono (fun _ h => h) ?_ ?_
    · rintro - n₂ w₂ ⟨j, -, hn₂, hk₂⟩
      have hnone : n₂.activeInterface = none := by rw [hn₂]
      rw [Prog.sat_update, hk₂]
      have hdeleted := hmanaged.deleteLink hoff hnone j
      exact ⟨h.interface, h.uplink, h.distinct, hdeleted.link, fun hg => by
        rw [show g₁.active = true from hg] at hoff
        cases hoff⟩
    · rintro e n₂ w₂ ⟨rfl, hk₂⟩
      rw [hk₂]
      exact hmanaged
  · rintro e g₁ w₁ ⟨rfl, hk₁⟩
    rw [hk₁]
    exact h

theorem sat_call (call : Call) (h : Managed m w.kernel) :
    call.run.Sat (fun _ => True) (fun _ m' w' => Managed m' w'.kernel)
      (fun _ m' w' => Managed m' w'.kernel) m w := by
  cases call with
  | start config policy => exact sat_start config policy h
  | addPeer peer =>
      rw [Call.run, addPeer, Prog.sat_bind, Prog.sat_self]
      split
      · exact Prog.sat_fail.mpr h
      rw [onNode, Prog.sat_zoom]
      refine (LinuxWireGuardNode.sat_addPeer peer).mono (fun _ _ => trivial) ?_ ?_
      · rintro - n' w' ⟨i, -, -, rfl, hk'⟩
        exact h.sameLink (by rw [hk']; exact ⟨rfl, rfl, rfl⟩)
      · rintro e n' w' ⟨rfl, hk'⟩
        exact h.sameLink (by rw [hk']; exact ⟨rfl, rfl, rfl⟩)
  | removePeer publicKey =>
      rw [Call.run, removePeer, Prog.sat_bind, Prog.sat_self]
      split
      · exact Prog.sat_fail.mpr h
      rw [onNode, Prog.sat_zoom]
      refine (LinuxWireGuardNode.sat_removePeer publicKey).mono (fun _ h => h) ?_ ?_
      · rintro - n' w' ⟨i, -, -, rfl, hk'⟩
        exact h.sameLink (by rw [hk']; exact ⟨rfl, rfl, rfl⟩)
      · rintro e n' w' ⟨rfl, hk'⟩
        exact h.sameLink (by rw [hk']; exact ⟨rfl, rfl, rfl⟩)
  | stop => exact sat_stop h
  | health now =>
      rw [Call.run, Prog.sat_bind, Prog.sat_mapError, health, onNode, Prog.sat_zoom]
      refine (LinuxWireGuardNode.sat_health now).mono (fun _ h => h) ?_ (fun _ _ _ h => h.elim)
      rintro - n' w' ⟨⟨f, rfl⟩, hk'⟩
      exact Prog.sat_pure.mpr (h.sameLink (by rw [hk']; exact ⟨rfl, rfl, rfl⟩))

end Calls

/-! ## Stop, and start again -/

section Stop

variable {m : LinuxManagedWireGuardNode} {w : Host}

/-- One `stop` in which nothing fails any more leaves neither the link nor
the table, and the node can be started again: with any inputs that pass
the checks, on a kernel that forwards. -/
structure TearsDown (m : LinuxManagedWireGuardNode) (w : Host) : Prop where
  returned : (stop m { w with env := .calm }).result = .ok ()
  link : m.interface ∉ (stop m { w with env := .calm }).world.kernel.links
  table : (stop m { w with env := .calm }).world.kernel.gateway = none
  restart : ∀ config policy, policy.validateForNode config = .ok () →
    (∀ key ∈ forwardingKeys policy,
      LinuxWireGuardNodeGateway.forwardingOn (w.kernel.sysctl key) = true) →
    (start config policy (stop m { w with env := .calm }).self
      (stop m { w with env := .calm }).world).result = .ok ()

theorem sat_stop_calm (hcalm : w.env = .calm) (h : Managed m w.kernel)
    (hon : m.gateway.active = true) :
    stop.Sat (fun _ => True)
      (fun _ m' w' => m'.interface = m.interface ∧ m'.uplinkInterface = m.uplinkInterface ∧
        m'.active = false ∧ m'.node.activeInterface = none ∧ m'.gateway.active = false ∧
        w'.env = .calm ∧ w'.kernel = Kernel.deleteLink { w.kernel with gateway := none } m.interface)
      (fun _ _ _ => False) m w := by
  obtain ⟨hactive, hnode, htable⟩ := h.gateway hon
  rw [stop, Prog.sat_bind, Prog.sat_self, if_neg (by simp [hactive]), Prog.sat_bind, onGateway,
    Prog.sat_zoom]
  refine (LinuxWireGuardNodeGateway.sat_disable_calm hcalm hon htable).mono (fun _ h => h) ?_
    (fun _ _ _ h => h)
  rintro - g₁ w₁ ⟨hoff, hcalm₁, hk₁⟩
  have hlink : m.interface ∈ w₁.kernel.links := by
    rw [hk₁]
    exact (h.link m.interface hnode).2
  rw [Prog.sat_bind, onNode, Prog.sat_zoom]
  refine (LinuxWireGuardNode.sat_stop_calm hcalm₁ hnode hlink).mono (fun _ h => h) ?_
    (fun _ _ _ h => h)
  rintro - n₂ w₂ ⟨hnone, hcalm₂, hk₂⟩
  exact Prog.sat_update.mpr ⟨rfl, rfl, rfl, hnone, hoff, hcalm₂, by rw [hk₂, hk₁]⟩

/-- An idle managed node starts, on a host without the link. -/
theorem sat_start_calm {config : WireGuardNodeConfig} {policy : WireGuardNodeGatewayPolicy}
    (hcalm : w.env = .calm) (hinterface : Transport.validInterface m.interface = true)
    (huplink : Transport.validInterface m.uplinkInterface = true)
    (hdistinct : m.interface ≠ m.uplinkInterface) (hoff : m.active = false)
    (hnode : m.node.activeInterface = none) (hgate : m.gateway.active = false)
    (hgone : m.interface ∉ w.kernel.links) (hvalid : policy.validateForNode config = .ok ())
    (hforward : ∀ key ∈ forwardingKeys policy,
      LinuxWireGuardNodeGateway.forwardingOn (w.kernel.sysctl key) = true) :
    (start config policy).Sat (fun _ => True) (fun _ _ _ => True) (fun _ _ _ => False) m w := by
  obtain ⟨hpolicy, hconfig⟩ := WireGuardNodeGatewayPolicy.of_validateForNode hvalid
  rw [start, Prog.sat_bind, Prog.sat_self, if_neg (by simp [hoff]), Prog.sat_bind, hvalid,
    Prog.sat_liftExcept]
  refine Prog.sat_bind.mpr ?_
  rw [onNode, Prog.sat_zoom]
  refine (LinuxWireGuardNode.sat_start_calm hcalm hnode hinterface hconfig hgone).mono
    (fun _ h => h) ?_ (fun _ _ _ h => h)
  rintro - n₁ w₁ ⟨hcalm₁, hk₁⟩
  have hforward₁ : ∀ key ∈ forwardingKeys policy,
      LinuxWireGuardNodeGateway.forwardingOn (w₁.kernel.sysctl key) = true := by
    rw [hk₁]
    exact hforward
  rw [Prog.sat_bind, Prog.sat_attempt, onGateway, Prog.sat_zoom]
  refine (LinuxWireGuardNodeGateway.sat_enable_calm hcalm₁ hgate hinterface huplink hdistinct
    hpolicy hforward₁).mono (fun _ h => h) ?_ (fun _ _ _ h => h.elim)
  rintro - g₂ w₂ -
  exact Prog.sat_update.mpr trivial

theorem tearsDown_of_gateway (h : Managed m w.kernel) (hon : m.gateway.active = true) :
    TearsDown m w := by
  obtain ⟨_, hr, hinterface, huplink, hoff, hnode, hgate, hcalm, hk⟩ :=
    (sat_stop_calm (w := { w with env := .calm }) rfl h hon).returned
  have hgone : m.interface ∉ (stop m { w with env := .calm }).world.kernel.links := by
    rw [hk]
    exact Finset.notMem_erase _ _
  refine ⟨hr, hgone, by rw [hk]; rfl, fun config policy hvalid hforward => ?_⟩
  have hsysctl : (stop m { w with env := .calm }).world.kernel.sysctl = w.kernel.sysctl := by
    rw [hk]
    rfl
  obtain ⟨_, hr', -⟩ := (sat_start_calm hcalm (by rw [hinterface]; exact h.interface)
    (by rw [huplink]; exact h.uplink) (by rw [hinterface, huplink]; exact h.distinct) hoff hnode
    hgate (by rw [hinterface]; exact hgone) hvalid (by rw [hsysctl]; exact hforward)).returned
  exact hr'

/-- Without the gateway's flag `stop` refuses. -/
theorem gateway_of_stop (hr : (stop m w).result = .ok ()) : m.gateway.active = true := by
  by_contra hoff
  have hoff : m.gateway.active = false := by simpa using hoff
  have hfail : stop.Sat (fun _ => True) (fun _ _ _ => False) (fun _ _ _ => True) m w := by
    rw [stop, Prog.sat_bind, Prog.sat_self]
    split
    · exact Prog.sat_fail.mpr trivial
    rw [Prog.sat_bind, onGateway, Prog.sat_zoom, LinuxWireGuardNodeGateway.disable, Prog.sat_bind,
      Prog.sat_self, if_pos (by simp [hoff]), Prog.sat_fail]
    trivial
  exact hfail.of_ok hr

/-- In every reachable state, an undisturbed `stop` takes the node down and
leaves it startable exactly when the gateway still holds its table. -/
theorem stop_tears_down_iff (interface uplinkInterface : String) (tools : LinuxTools)
    (gatewayTools : LinuxNodeGatewayTools) (m : LinuxManagedWireGuardNode)
    (hnew : new interface uplinkInterface (.fresh tools) ⟨gatewayTools, false⟩ = .ok m)
    (w : Host) (calls : List Call) :
    let run := (Prog.session (δ := Empty) Call.run calls) m w
    TearsDown run.self run.world ↔ run.self.gateway.active = true := by
  intro run
  have hstart : Managed m w.kernel := by
    rw [new] at hnew
    split at hnew
    · cases hnew
    case isFalse hvalid =>
    simp only [Bool.or_eq_true, Bool.not_eq_true', decide_eq_true_eq, not_or,
      Bool.not_eq_false] at hvalid
    obtain rfl := Except.ok.inj hnew
    exact ⟨hvalid.1.1, hvalid.1.2, hvalid.2, nofun, nofun⟩
  have hrun : (Prog.session (δ := Empty) Call.run calls).Sat (fun _ => True)
      (fun _ m' w' => Managed m' w'.kernel) (fun _ _ _ => True) m w :=
    Prog.sat_session (fun call _ _ _ h => sat_call call h) hstart
  have hend := hrun.2
  rw [Prog.session_result] at hend
  exact ⟨fun ht => gateway_of_stop ht.returned, fun hon => tearsDown_of_gateway hend hon⟩

/-- A node on `10.9.0.1/24` with forwarding switched on; its seventh
command removes the table, the eighth, which deletes the link, fails. -/
def exampleHost : Host where
  kernel :=
    { links := ∅, rules := 0, routes := fun _ => none, peers := fun _ _ => none,
      resolvers := fun _ => {}, policy := .disabled, gateway := none, sysctl := fun _ => [49, 10] }
  env := { commands := List.replicate 7 (.ok []) ++ [.error (.network "ip failed")] }
  log := []

def exampleNode : LinuxManagedWireGuardNode where
  interface := "cybn0"
  uplinkInterface := "eth0"
  node := .fresh ⟨"/usr/sbin/ip", "/usr/bin/wg", "/etc/wireguard/node.key"⟩
  gateway := ⟨⟨"/usr/sbin/nft", "/usr/sbin/sysctl"⟩, false⟩
  active := false

def exampleStart : Call :=
  .start ⟨examplePort, [⟨.v4 0x0a090001#32, 24⟩], 1420⟩ ⟨[⟨.v4 0x0a090000#32, 24⟩]⟩

def exampleNodeRun (calls : List Call) :
    Outcome LinuxManagedWireGuardNode Host Effect Empty Unit :=
  (Prog.session Call.run calls) exampleNode exampleHost

theorem stop_tears_down_started :
    "cybn0" ∈ (exampleNodeRun [exampleStart]).world.kernel.links ∧
      TearsDown (exampleNodeRun [exampleStart]).self (exampleNodeRun [exampleStart]).world :=
  ⟨by decide +kernel,
    (stop_tears_down_iff "cybn0" "eth0" ⟨"/usr/sbin/ip", "/usr/bin/wg", "/etc/wireguard/node.key"⟩
      ⟨"/usr/sbin/nft", "/usr/sbin/sysctl"⟩ exampleNode (by rfl) exampleHost
      [exampleStart]).mpr (by decide +kernel)⟩

/-- The link the node created is still there, and no `stop` removes it. -/
theorem stop_stuck_after_table :
    "cybn0" ∉ exampleHost.kernel.links ∧
      "cybn0" ∈ (exampleNodeRun [exampleStart, .stop]).world.kernel.links ∧
      ¬TearsDown (exampleNodeRun [exampleStart, .stop]).self
        (exampleNodeRun [exampleStart, .stop]).world := by
  refine ⟨by decide, by decide +kernel, fun ht => ?_⟩
  have hon := gateway_of_stop ht.returned
  revert hon
  decide +kernel

end Stop

end LinuxManagedWireGuardNode

end CyberiaVpn.Linux
