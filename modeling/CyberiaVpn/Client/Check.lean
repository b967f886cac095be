import CyberiaVpn.Client.Config
import CyberiaVpn.Killswitch.ConnectionRuns
import CyberiaVpn.Transport.IpRoundTrip

/-!
# What a passed check promises

`--check` is meant to find everything that can be found without touching
the network. Does a configuration that passes it always build, up to the
first transaction? The two pipelines run the same validators, and the
endpoint is an address whose text reads back. What the check leaves out
are two things that only the build comes to. The lease accepts a dot in
the interface's name and the adapter does not, and the backend asks for a
key path that is UTF-8.

`check_sound_iff` says that nothing else parts them.
-/

namespace CyberiaVpn.Client

open Effects Transport Linux Killswitch

section Names

/-- The adapter's names are the lease's without a dot. -/
theorem validInterface_iff {i : String} :
    Transport.validInterface i = true ↔ validInterfaceName i = true ∧ '.' ∉ i.toList := by
  simp only [Transport.validInterface, validInterfaceName, Bool.and_eq_true, List.all_eq_true,
    Bool.or_eq_true, beq_iff_eq, and_assoc]
  refine and_congr_right fun _ => and_congr_right fun _ => ⟨fun h => ⟨fun c hc => ?_, ?_⟩, ?_⟩
  · rcases h c hc with (halnum | rfl) | rfl
    · exact Or.inl (Or.inl (Or.inl halnum))
    · exact Or.inl (Or.inr rfl)
    · exact Or.inl (Or.inl (Or.inr rfl))
  · intro hdot
    exact absurd (h '.' hdot) (by decide)
  · rintro ⟨h, hdot⟩ c hc
    rcases h c hc with ((halnum | rfl) | rfl) | rfl
    · exact Or.inl (Or.inl halnum)
    · exact Or.inr rfl
    · exact Or.inl (Or.inr rfl)
    · exact absurd hc hdot

end Names

/-! ## What the check looks at -/

/-- The settings of a configuration, with every validator passed. -/
structure Checked (files : FileSystem) (config : ClientConfig)
    (settings : LinuxConnectionSettings) : Prop where
  read : config.intoConnectionSettings = .ok settings
  profile : settings.profile.validate = .ok ()
  dns : settings.dns.validate = .ok ()
  transport : TransportConfig.validate ⟨.wireGuard, settings.profile.endpoint,
    settings.connectTimeout⟩ = .ok ()
  tools : settings.tools.validate files = .ok ()
  dnsTools : settings.dnsTools.validate files = .ok ()
  nft : validateNftExecutable files config.tools.nft = .ok ()

variable {files : FileSystem} {config : ClientConfig} {settings : LinuxConnectionSettings}

theorem checked_of_validate (h : validateClientConfiguration files config = .ok ()) :
    ∃ settings, Checked files config settings := by
  simp only [validateClientConfiguration, bind_eq_ok, mapError_eq_ok] at h
  obtain ⟨-, -, settings, hread, ⟨⟩, hprofile, ⟨⟩, hdns, ⟨⟩, htransport, ⟨⟩, htools, ⟨⟩, hdnsTools,
    hnft⟩ := h
  exact ⟨settings, hread, hprofile, hdns, htransport, htools, hdnsTools, hnft⟩

/-- The settings keep the name, the timeout and the key's path, and their
endpoint is an address. -/
theorem of_intoConnectionSettings (h : config.intoConnectionSettings = .ok settings) :
    settings.interface = config.interface ∧
      settings.profile.endpoint.host = config.endpointAddress.display ∧
      settings.connectTimeout = config.connectTimeoutSeconds.toNat * 1000000000 ∧
      settings.tools.privateKey = config.tools.privateKey := by
  simp only [ClientConfig.intoConnectionSettings, bind_eq_ok] at h
  obtain ⟨port, -, mark, -, key, -, addresses, -, routes, -, hend⟩ := h
  cases hend
  exact ⟨rfl, rfl, rfl, rfl⟩

/-! ## What the build goes through -/

/-- The kernel refused the first transaction. -/
def Refused (w : Host) (e : Fault StartError) (w' : Host) : Prop :=
  ∃ error rules, e = .error (.build (.firewall error)) ∧
    w'.log = .transaction rules false :: w.log

/-- The blocking policy can always be rendered. -/
theorem sat_blocking {nftables : NftablesBackend} {w : Host} :
    (NftablesBackend.firewall.apply .blockNonTunnel).Sat (fun _ => True) (fun _ _ _ => True)
      (fun _ _ w' => ∃ rules, w'.log = .transaction rules false :: w.log) nftables w := by
  simp only [NftablesBackend.firewall, NftablesBackend.apply, NftablesConfig.render,
    Prog.sat_mapError, Prog.sat_bind, Prog.sat_self, Prog.sat_liftExcept]
  exact sat_transaction (fun _ => ⟨trivial, trivial⟩) (fun _ _ => ⟨trivial, _, rfl⟩)

theorem adapter_new (interface : String) {profile : WireGuardConfig}
    (backend : LinuxWireGuardBackend) (hprofile : profile.validate = .ok ()) :
    WireGuardAdapter.new interface profile backend =
      if Transport.validInterface interface then .ok ⟨interface, profile, backend, false⟩
      else .error (.invalidConfig "invalid WireGuard interface name") := by
  rw [WireGuardAdapter.new, hprofile]
  cases Transport.validInterface interface <;> rfl

/-- What the build asks for beyond the check. -/
structure Buildable (config : ClientConfig) : Prop where
  name : Transport.validInterface config.interface = true
  key : config.tools.privateKey.toStr ≠ none

/-- After a passed check the build comes to the backend's check of the
key's path and to the adapter's of the name, and then to the first
transaction. -/
theorem sat_build {Q : Host → Prop} {E : Fault StartError → Host → Prop} {w : Host}
    (h : Checked files config settings)
    (happly : Buildable config → ∀ nftables,
      (NftablesBackend.firewall.apply .blockNonTunnel).Sat (fun _ => True) (fun _ _ w' => Q w')
        (fun e _ w' => E (.error (.build (.firewall e))) w') nftables w)
    (hstop : ¬Buildable config → ∀ error, E (.error (.build (.transport error))) w) :
    (buildConnection files config).Sat (fun _ => True) (fun _ _ w' => Q w')
      (fun e _ w' => E e w') () w := by
  obtain ⟨hinterface, hhost, -, hprivate⟩ := of_intoConnectionSettings h.read
  have hparse : IpAddr.parse settings.profile.endpoint.host = some config.endpointAddress := by
    rw [hhost, IpAddr.parse_display]
  have hdns : LinuxDnsBackend.new files settings.dnsTools = .ok ⟨settings.dnsTools, none⟩ := by
    rw [LinuxDnsBackend.new, h.dnsTools]
    rfl
  simp only [buildConnection, LinuxWireGuardConnection.system,
    LinuxWireGuardConnection.withRunners, hparse, Prog.sat_bind, Prog.sat_mapError,
    Prog.sat_liftExcept, h.read, h.nft, h.transport, h.dns, hinterface]
  cases hnew : LinuxWireGuardBackend.new files settings.tools settings.routingMark with
  | error error =>
      refine hstop (fun hbuildable => ?_) error
      have hok : LinuxWireGuardBackend.new files settings.tools settings.routingMark =
          .ok (.fresh settings.tools settings.routingMark) :=
        LinuxWireGuardBackend.new_eq_ok_iff.mpr ⟨h.tools, hprivate ▸ hbuildable.key, rfl⟩
      rw [hnew] at hok
      cases hok
  | ok backend =>
      obtain ⟨-, hkey, rfl⟩ := LinuxWireGuardBackend.new_eq_ok_iff.mp hnew
      have hadapter := adapter_new config.interface
        (.fresh settings.tools settings.routingMark) h.profile
      simp only
      cases hvalid : Transport.validInterface config.interface with
      | true =>
          rw [if_pos hvalid] at hadapter
          simp only [hadapter, hdns, Prog.sat_zoom, ConnectionController.new, Prog.sat_bind]
          refine (happly ⟨hvalid, hprivate ▸ hkey⟩ _).mono (fun _ h => h)
            (fun _ nftables w' hQ => ?_) fun _ _ _ h => h
          rw [Prog.sat_self]
          exact Prog.sat_pure.mpr (Prog.sat_pure.mpr hQ)
      | false =>
          rw [if_neg (by rw [hvalid]; exact Bool.false_ne_true)] at hadapter
          simp only [hadapter]
          refine hstop (fun hbuildable => ?_) _
          rw [hbuildable.name] at hvalid
          cases hvalid

/-- So only these two and the kernel are left to object. -/
theorem sat_buildConnection (h : Checked files config settings) {w : Host} :
    (buildConnection files config).Sat (fun _ => True) (fun _ _ _ => Buildable config)
      (fun e _ w' => Buildable config ∧ Refused w e w' ∨
        ¬Buildable config ∧ ∃ error, e = .error (.build (.transport error))) () w := by
  by_cases hbuildable : Buildable config
  · refine sat_build (Q := fun _ => Buildable config) h (fun _ nftables => ?_)
      fun hstop => absurd hbuildable hstop
    refine sat_blocking.mono (fun _ h => h) (fun _ _ _ _ => hbuildable) ?_
    rintro e _ w' ⟨rules, hlog⟩
    exact Or.inl ⟨hbuildable, e, rules, rfl, hlog⟩
  · exact sat_build (Q := fun _ => Buildable config) h (fun h => absurd h hbuildable)
      fun _ error => Or.inr ⟨hbuildable, error, rfl⟩

/-- On a host that refuses nothing it is armed. -/
theorem builds_calm (h : Checked files config settings) (hbuildable : Buildable config) {w : Host}
    (hcalm : w.env = .calm) :
    ∃ c, (buildConnection files config () w).result = .ok c ∧
      (buildConnection files config () w).world.kernel.policy = .blockNonTunnel := by
  have hsat : (buildConnection files config).Sat (fun _ => True)
      (fun _ _ w' => w'.kernel.policy = .blockNonTunnel) (fun _ _ _ => False) () w := by
    refine sat_build (E := fun _ _ => False) h (fun _ nftables => ?_) fun hstop => ?_
    · exact NftablesBackend.sat_firewall_apply_calm hcalm nofun fun _ => rfl
    · exact absurd hbuildable hstop
  exact hsat.returned

/-- Whatever the host answers, the build fails only if the kernel refuses
the first transaction. -/
def BuildsAsChecked (files : FileSystem) (config : ClientConfig) : Prop :=
  ∀ w e, (buildConnection files config () w).result = .error e →
    Refused w e (buildConnection files config () w).world

/-- A build that keeps the check's promise got past the backend and the
adapter. -/
theorem buildsAsChecked_iff (h : Checked files config settings) :
    BuildsAsChecked files config ↔ Buildable config := by
  constructor
  · intro hbuilds
    -- any host will do: a build that cannot succeed stops before it acts
    rcases (sat_buildConnection h (w := ⟨LinuxWireGuardBackend.exampleKernel, .calm, []⟩)).result
      with ⟨c, -, hbuildable⟩ | ⟨e, hr, ⟨hbuildable, -⟩ | ⟨-, error, rfl⟩⟩
    · exact hbuildable
    · exact hbuildable
    · obtain ⟨error', rules, hfirewall, -⟩ := hbuilds _ _ hr
      cases hfirewall
  · intro hbuildable w e hr
    rcases (sat_buildConnection h (w := w)).result
      with ⟨c, hok, -⟩ | ⟨e', hr', ⟨-, hrefused⟩ | ⟨hstop, -⟩⟩
    · rw [hr] at hok
      cases hok
    · obtain rfl := Except.error.inj (hr.symm.trans hr')
      exact hrefused
    · exact absurd hbuildable hstop

/-- **The check and the build.** Where the lease accepts the name and the
check passes, the build keeps the check's promise exactly when the name
has no dot and the key's path is UTF-8. -/
theorem check_sound_iff (files : FileSystem) (config : ClientConfig)
    (hname : validInterfaceName config.interface = true)
    (hcheck : validateClientConfiguration files config = .ok ()) :
    BuildsAsChecked files config ↔
      '.' ∉ config.interface.toList ∧ config.tools.privateKey.toStr ≠ none := by
  obtain ⟨settings, hchecked⟩ := checked_of_validate hcheck
  rw [buildsAsChecked_iff hchecked]
  constructor
  · intro hbuildable
    exact ⟨(validInterface_iff.mp hbuildable.name).2, hbuildable.key⟩
  · rintro ⟨hdot, hkey⟩
    exact ⟨validInterface_iff.mpr ⟨hname, hdot⟩, hkey⟩

/-- Every tool is a private executable file and the runtime directory a
private directory. -/
def exampleFiles : FileSystem := fun path =>
  some ⟨path ≠ "/run/cyberia", path = "/run/cyberia", false, 0o700⟩

def exampleConfig (interface : String) : ClientConfig where
  interface
  runtimeDirectory := "/run/cyberia"
  endpointAddress := .v4 0xcb007109#32
  endpointPort := 51820
  peerPublicKeyHex := String.ofList (List.replicate 64 '7')
  tunnelAddresses := ["10.8.0.2/32"]
  allowedIps := ["0.0.0.0/0"]
  dnsResolvers := [.v4 0x0a080001#32]
  mtu := 1420
  persistentKeepaliveSeconds := some 25
  routingMark := 51820
  connectTimeoutSeconds := 30
  alwaysOn := true
  tools :=
    { ip := "/usr/sbin/ip"
      wg := "/usr/bin/wg"
      nft := "/usr/sbin/nft"
      resolvectl := "/usr/bin/resolvectl"
      privateKey := "/etc/cyberia/client.key" }

theorem exampleConfig_passes :
    validateClientConfiguration exampleFiles (exampleConfig "cyb0") = .ok () := by
  decide +kernel

theorem exampleConfig_buildable : Buildable (exampleConfig "cyb0") :=
  ⟨by decide, by simp [exampleConfig]⟩

theorem check_sound_plain :
    validateClientConfiguration exampleFiles (exampleConfig "cyb0") = .ok () ∧
      BuildsAsChecked exampleFiles (exampleConfig "cyb0") :=
  ⟨exampleConfig_passes, (check_sound_iff exampleFiles (exampleConfig "cyb0") (by decide)
    exampleConfig_passes).mpr ⟨by decide, exampleConfig_buildable.key⟩⟩

/-- A key file whose name, the byte `0xff`, is no text. -/
def binaryKeyConfig : ClientConfig :=
  { exampleConfig "cyb0" with
    tools := { (exampleConfig "cyb0").tools with privateKey := ⟨[0x2f, 0xff]⟩ } }

/-- The lease accepts the name and the check passes, for nothing. -/
def Overlooked (files : FileSystem) (config : ClientConfig) : Prop :=
  validInterfaceName config.interface = true ∧
    validateClientConfiguration files config = .ok () ∧ ¬BuildsAsChecked files config

theorem overlooked_of_check {files : FileSystem} {config : ClientConfig}
    (hname : validInterfaceName config.interface = true)
    (hcheck : validateClientConfiguration files config = .ok ()) (hstop : ¬Buildable config) :
    Overlooked files config := by
  obtain ⟨settings, hchecked⟩ := checked_of_validate hcheck
  exact ⟨hname, hcheck, fun hbuilds => hstop ((buildsAsChecked_iff hchecked).mp hbuilds)⟩

/-- With the name `cyb.0` the build ends with an error of the adapter, and
with a key path that is no text with one of the backend. -/
theorem check_passes_unbuildable :
    Overlooked exampleFiles (exampleConfig "cyb.0") ∧ Overlooked exampleFiles binaryKeyConfig := by
  constructor
  · exact overlooked_of_check (by decide) (by decide +kernel)
      fun hbuildable => absurd hbuildable.name (by decide)
  · exact overlooked_of_check (by decide) (by decide +kernel)
      fun hbuildable => hbuildable.key (by decide +kernel)

end CyberiaVpn.Client
