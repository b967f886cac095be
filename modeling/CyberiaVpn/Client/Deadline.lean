import CyberiaVpn.Client.Check
import CyberiaVpn.Effects.Clock

/-!
# The deadline of a connect

`LinuxWireGuardConnection::connect` begins with
`Instant::now() + connect_timeout`. The addition panics where the sum has
no representation, and by then the blocking policy is in force: the
process dies without a teardown and the host stays filtered.

Whether it can happen is a matter of the timeout. The validators of three
crates look at it and ask only that it is not zero, so every other number
of seconds gets to the addition (`validate_of_other_timeout`).
-/

namespace CyberiaVpn.Killswitch.LinuxWireGuardConnection

open Effects Transport Linux

/-- `connect` as a whole. What comes of the deadline is left to the host,
which answers every check of the context. -/
def connectAt (now : Instant) : ConnectionM (Fault ConnectionError) Session := do
  let c ← Prog.self
  let _deadline ← Prog.liftExcept (now.add c.transport.connectTimeout)
  connect.mapError .error

variable {now : Instant} {c : LinuxWireGuardConnection} {w : Host}

/-- The sum fits. -/
def DeadlineFits (c : LinuxWireGuardConnection) (now : Instant) : Prop :=
  now.nanos + c.transport.connectTimeout < 2 ^ 63 * 10 ^ 9

/-- With a deadline `connect` follows, and its errors are no panic. -/
theorem sat_connectAt (h : c.DeadlineFits now) :
    (connectAt now).Sat (fun _ => True) (fun _ _ _ => True) (fun e _ _ => e ≠ .panic) c w := by
  obtain ⟨deadline, hdeadline⟩ := Instant.add_eq_ok (ε := ConnectionError) h
  rw [connectAt, Prog.sat_bind, Prog.sat_self, Prog.sat_bind, Prog.sat_liftExcept, hdeadline]
  have hend : connect.Sat (fun _ => True) (fun _ _ _ => True) (fun _ _ _ => True) c w :=
    Prog.sat_of_end (fun _ _ => trivial) trivial
  exact Prog.sat_mapError.mpr (hend.mono (fun _ h => h) (fun _ _ _ h => h) fun _ _ _ _ => nofun)

/-- Without one nothing is done. -/
theorem sat_connectAt_overflow (h : ¬c.DeadlineFits now) :
    (connectAt now).Sat (fun _ => False) (fun _ _ _ => False)
      (fun e c' w' => e = .panic ∧ c' = c ∧ w' = w) c w := by
  rw [connectAt, Prog.sat_bind, Prog.sat_self, Prog.sat_bind, Prog.sat_liftExcept,
    Instant.add_eq_panic h]
  exact ⟨rfl, rfl, rfl⟩

theorem connectAt_panics_iff :
    (connectAt now c w).result = .error .panic ↔ ¬c.DeadlineFits now := by
  constructor
  · intro hpanic hfits
    exact (sat_connectAt hfits).of_error hpanic rfl
  · intro hover
    obtain ⟨_, hr, rfl, -⟩ := (sat_connectAt_overflow (w := w) hover).failed
    exact hr

end CyberiaVpn.Killswitch.LinuxWireGuardConnection

namespace CyberiaVpn.Client

open Effects Transport Linux Killswitch

variable {files : FileSystem} {config : ClientConfig}

/-! ## The timeout on its way -/

/-- A connection has the timeout of its configuration. -/
theorem connectTimeout_of_buildConnection {w : Host} {c : LinuxWireGuardConnection}
    (hbuild : (buildConnection files config () w).result = .ok c) :
    c.transport.connectTimeout = config.connectTimeoutSeconds.toNat * 10 ^ 9 := by
  have hsat : (buildConnection files config).Sat (fun _ => True)
      (fun c _ _ => c.transport.connectTimeout = config.connectTimeoutSeconds.toNat * 10 ^ 9)
      (fun _ _ _ => True) () w := by
    rw [buildConnection, Prog.sat_bind, Prog.sat_mapError, Prog.sat_liftExcept]
    split
    case h_2 => trivial
    case h_1 settings hread =>
    rw [Prog.sat_mapError, LinuxWireGuardConnection.system, Prog.sat_bind, Prog.sat_mapError,
      Prog.sat_liftExcept]
    split
    case h_2 => trivial
    refine (LinuxWireGuardConnection.sat_withRunners_fresh files settings).mono (fun _ h => h) ?_
      fun _ _ _ h => h
    rintro c - w' ⟨⟨address, rfl⟩, -⟩
    exact (of_intoConnectionSettings hread).2.2.1
  exact hsat.of_ok hbuild

/-- The check accepts any timeout but zero. -/
theorem validate_of_other_timeout (h : validateClientConfiguration files config = .ok ())
    {seconds : UInt64} (hseconds : seconds ≠ 0) :
    validateClientConfiguration files { config with connectTimeoutSeconds := seconds } =
      .ok () := by
  have hpositive : seconds.toNat * 1000000000 ≠ 0 := by
    have hne : seconds.toNat ≠ 0 := fun hzero => hseconds (UInt64.toNat_inj.mp hzero)
    omega
  simp only [validateClientConfiguration, ClientConfig.intoConnectionSettings, bind_eq_ok,
    mapError_eq_ok] at h ⊢
  obtain ⟨u, hdirectory, settings, ⟨port, hport, mark, hmark, key, hkey, addresses, haddresses,
    routes, hroutes, hsettings⟩, hrest⟩ := h
  cases hsettings
  refine ⟨u, hdirectory, _, ⟨port, hport, mark, hmark, key, hkey, addresses, haddresses, routes,
    hroutes, rfl⟩, ?_⟩
  obtain ⟨u₁, hprofile, u₂, hdns, u₃, htransport, htools⟩ := hrest
  refine ⟨u₁, hprofile, u₂, hdns, u₃, ?_, htools⟩
  rw [TransportConfig.validate] at htransport ⊢
  split at htransport
  · cases htransport
  next hhost =>
  rw [if_neg hhost, if_neg hpositive]

/-- **When a connect gets its deadline.** A configuration that passes the
check does so with any other timeout but zero. Connecting with it, at any
instant, panics exactly when the timeout and the clock's whole seconds add
up to more than the clock can show. -/
theorem deadline_fits_iff (files : FileSystem) (config : ClientConfig)
    (hcheck : validateClientConfiguration files config = .ok ()) :
    (∀ seconds ≠ 0, validateClientConfiguration files
      { config with connectTimeoutSeconds := seconds } = .ok ()) ∧
    ∀ w c, (buildConnection files config () w).result = .ok c → ∀ (now : Instant) (w' : Host),
      (LinuxWireGuardConnection.connectAt now c w').result ≠ .error .panic ↔
        now.nanos / 10 ^ 9 + config.connectTimeoutSeconds.toNat ≤ 2 ^ 63 - 1 := by
  refine ⟨fun seconds hseconds => validate_of_other_timeout hcheck hseconds, ?_⟩
  intro w c hbuild now w'
  rw [ne_eq, LinuxWireGuardConnection.connectAt_panics_iff, not_not,
    LinuxWireGuardConnection.DeadlineFits, connectTimeout_of_buildConnection hbuild]
  omega

def exampleHost : Host := ⟨LinuxWireGuardBackend.exampleKernel, .calm, []⟩

theorem deadline_fits_thirty :
    ∃ c, (buildConnection exampleFiles (exampleConfig "cyb0") () exampleHost).result = .ok c ∧
      (LinuxWireGuardConnection.connectAt .epoch c exampleHost).result ≠ .error .panic := by
  obtain ⟨settings, hchecked⟩ := checked_of_validate exampleConfig_passes
  obtain ⟨c, hbuild, -⟩ := builds_calm hchecked exampleConfig_buildable (w := exampleHost) rfl
  obtain ⟨-, hdeadline⟩ :=
    deadline_fits_iff exampleFiles (exampleConfig "cyb0") exampleConfig_passes
  exact ⟨c, hbuild, (hdeadline _ c hbuild .epoch exampleHost).mpr (by decide)⟩

/-- The check accepts the longest timeout there is, the build arms the
firewall, and the connect panics. -/
theorem deadline_overflows :
    let config := { exampleConfig "cyb0" with connectTimeoutSeconds := 18446744073709551615 }
    let build := buildConnection exampleFiles config () exampleHost
    validateClientConfiguration exampleFiles config = .ok () ∧
      build.world.kernel.policy = .blockNonTunnel ∧ ∃ c, build.result = .ok c ∧
        (LinuxWireGuardConnection.connectAt .epoch c build.world).result =
          .error .panic := by
  intro config build
  have hnonzero : (18446744073709551615 : UInt64) ≠ 0 := by decide
  have hcheck : validateClientConfiguration exampleFiles config = .ok () :=
    validate_of_other_timeout exampleConfig_passes hnonzero
  obtain ⟨settings, hchecked⟩ := checked_of_validate hcheck
  have hbuildable : Buildable config := ⟨exampleConfig_buildable.name, exampleConfig_buildable.key⟩
  obtain ⟨c, hbuild, harmed⟩ := builds_calm hchecked hbuildable (w := exampleHost) rfl
  refine ⟨hcheck, harmed, c, hbuild, ?_⟩
  rw [LinuxWireGuardConnection.connectAt_panics_iff, LinuxWireGuardConnection.DeadlineFits,
    connectTimeout_of_buildConnection hbuild]
  decide

end CyberiaVpn.Client
