import CyberiaVpn.Linux.Dns

/-!
# Resolver state over whole runs

A run is any sequence of `configure` and `revert` calls with any failures.
The host's log tells for every link whether one of the three commands of
`configure` has succeeded on it since the last `resolvectl revert` that did
(`touched`). After every call the backend has recorded the one link for
which this can be the case.

Inside `configure` that is not so: between the first command and the end
of the cleanup a link is touched and nobody is recorded. `OnlyTouched` is
what holds there.
-/

namespace CyberiaVpn.Linux

open Effects Transport Killswitch

/-- The link whose resolver state a command sets. -/
def setsResolver : List String → Option String
  | "dns" :: i :: _ => some i
  | ["domain", i, _] => some i
  | ["default-route", i, _] => some i
  | _ => none

/-- The link whose resolver state a command clears. -/
def clearsResolver : List String → Option String
  | ["revert", i] => some i
  | _ => none

/-- Some setting of `i` has succeeded since the last successful revert of
it. The log is newest first. -/
def touched (i : String) : List Effect → Bool
  | [] => false
  | .command spec true :: earlier =>
      if setsResolver spec.arguments = some i then true
      else if clearsResolver spec.arguments = some i then false
      else touched i earlier
  | _ :: earlier => touched i earlier

namespace LinuxDnsBackend

inductive Call where
  | configure (interface : String) (config : DnsConfig)
  | revert (interface : String)

def Call.run : Call → DnsM Unit
  | .configure interface config => LinuxDnsBackend.configure interface config
  | .revert interface => LinuxDnsBackend.revert interface

/-- Every touched link is the recorded one. -/
def Recorded (d : LinuxDnsBackend) (w : Host) : Prop :=
  ∀ i, touched i w.log = true → d.activeInterface = some i

/-- No link but `i` is touched. -/
def OnlyTouched (i : String) (w : Host) : Prop := ∀ j, touched j w.log = true → j = i

/-- While a link is recorded, every command is about it. -/
def AboutRecorded (e : Entry LinuxDnsBackend Host Effect) : Prop :=
  ∀ i spec ok, e.self.activeInterface = some i → e.effect = .command spec ok →
    spec.arguments[1]? = some i

section

variable {d : LinuxDnsBackend} {i : String} {w : Host} {program : PathBuf}
  {arguments : List String}

theorem Recorded.onlyTouched (h : Recorded d w) (hidle : d.activeInterface = none) (i : String) :
    OnlyTouched i w := fun j hj => by
  have hactive := h j hj
  rw [hidle] at hactive
  cases hactive

theorem aboutRecorded_of_idle {e : Entry LinuxDnsBackend Host Effect}
    (h : e.self.activeInterface = none) : AboutRecorded e := fun i spec ok hactive => by
  rw [h] at hactive
  cases hactive

/-! ## The primitives -/

theorem sat_idleCheck (hidle : d.activeInterface = none) :
    (check).Sat AboutRecorded
      (fun _ d' w' => d' = d ∧ ∀ j, touched j w'.log = touched j w.log)
      (fun _ d' w' => d' = d ∧ ∀ j, touched j w'.log = touched j w.log) d w :=
  sat_check (fun _ => ⟨aboutRecorded_of_idle hidle, rfl, fun _ => rfl⟩)
    (fun _ _ => ⟨aboutRecorded_of_idle hidle, rfl, fun _ => rfl⟩)

theorem sat_touchingCommand (hidle : d.activeInterface = none)
    (hsets : setsResolver arguments = some i) (hw : OnlyTouched i w) :
    (command program arguments).Sat AboutRecorded
      (fun _ d' w' => d' = d ∧ OnlyTouched i w') (fun _ d' w' => d' = d ∧ OnlyTouched i w') d w := by
  refine sat_command (fun k env _ => ⟨aboutRecorded_of_idle hidle, rfl, fun j hj => ?_⟩)
    (fun _ env => ⟨aboutRecorded_of_idle hidle, rfl, hw⟩)
  by_cases hij : j = i
  · exact hij
  · -- another link's state is older than this command, unless it reverts that link
    rw [touched, hsets, if_neg (fun h => hij (Option.some.inj h).symm)] at hj
    split at hj
    · cases hj
    · exact hw j hj

theorem sat_clearingCommand (hactive : ∀ j, d.activeInterface = some j → j = i)
    (hw : OnlyTouched i w) :
    (command program ["revert", i]).Sat AboutRecorded
      (fun _ d' w' => d' = d ∧ (∀ j, touched j w'.log = false) ∧
        w'.log = .command ⟨program, ["revert", i]⟩ true :: w.log)
      (fun _ d' w' => d' = d ∧ OnlyTouched i w') d w := by
  have habout : ∀ ok (w' : Host),
      AboutRecorded ⟨d, w, .command ⟨program, ["revert", i]⟩ ok, w'⟩ := by
    rintro ok w' j spec ok' hj heffect
    cases heffect
    rw [hactive j hj]
    rfl
  refine sat_command (fun k env _ => ⟨habout true _, rfl, fun j => ?_, rfl⟩)
    (fun _ env => ⟨habout false _, rfl, hw⟩)
  have hsets : setsResolver ["revert", i] = none := rfl
  have hclears : clearsResolver ["revert", i] = some i := rfl
  rw [touched, hsets, hclears, if_neg (fun h => by cases h)]
  split
  · rfl
  · next hne =>
    exact Bool.eq_false_iff.mpr fun hj => hne (by rw [hw j hj])

/-! ## The calls -/

theorem sat_touchingSetup (config : DnsConfig) (hidle : d.activeInterface = none)
    (hw : OnlyTouched i w) :
    (setup i config).Sat AboutRecorded
      (fun _ d' w' => d' = d ∧ OnlyTouched i w') (fun _ d' w' => d' = d ∧ OnlyTouched i w') d w := by
  have hcheck : ∀ {w'}, OnlyTouched i w' →
      (check).Sat AboutRecorded (fun _ d' w'' => d' = d ∧ OnlyTouched i w'')
        (fun _ d' w'' => d' = d ∧ OnlyTouched i w'') d w' := fun h =>
    (sat_idleCheck hidle).mono (fun _ h => h)
      (fun _ _ _ ⟨hd, hsame⟩ => ⟨hd, fun j hj => h j (hsame j ▸ hj)⟩)
      (fun _ _ _ ⟨hd, hsame⟩ => ⟨hd, fun j hj => h j (hsame j ▸ hj)⟩)
  rw [setup, Prog.sat_bind, Prog.sat_self]
  refine (sat_touchingCommand hidle rfl hw).bind ?_
  rintro - d₁ w₁ ⟨rfl, hw₁⟩
  refine (hcheck hw₁).bind ?_
  rintro - d₂ w₂ ⟨rfl, hw₂⟩
  refine (sat_touchingCommand hidle rfl hw₂).bind ?_
  rintro - d₃ w₃ ⟨rfl, hw₃⟩
  refine (hcheck hw₃).bind ?_
  rintro - d₄ w₄ ⟨rfl, hw₄⟩
  exact sat_touchingCommand hidle rfl hw₄

theorem sat_recordingConfigure (config : DnsConfig) (hw : Recorded d w) :
    (configure i config).Sat AboutRecorded (fun _ => Recorded) (fun _ => Recorded) d w := by
  rw [configure, Prog.sat_bind, Prog.sat_self]
  split
  · exact Prog.sat_fail.mpr hw
  case isFalse hsome =>
  have hidle : d.activeInterface = none := by simpa using hsome
  split
  · exact Prog.sat_fail.mpr hw
  rw [Prog.sat_bind, Prog.sat_liftExcept]
  split
  case h_2 => exact hw
  refine ((sat_idleCheck hidle).mono (fun _ h => h) (fun _ _ _ h => h) ?_).bind ?_
  · rintro - d₁ w₁ ⟨rfl, hsame⟩ j hj
    exact hw j (hsame j ▸ hj)
  rintro - d₁ w₁ ⟨rfl, hsame⟩
  have hw₁ : OnlyTouched i w₁ := fun j hj => hw.onlyTouched hidle i j (hsame j ▸ hj)
  rw [Prog.sat_bind, Prog.sat_attempt]
  refine (sat_touchingSetup config hidle hw₁).mono (fun _ h => h) ?_ ?_
  · rintro - d₂ w₂ ⟨rfl, hw₂⟩
    exact Prog.sat_update.mpr fun j hj => by rw [hw₂ j hj]
  · rintro e d₂ w₂ ⟨rfl, hw₂⟩
    rw [Prog.sat_bind, Prog.sat_attempt]
    refine (sat_clearingCommand (fun j hj => ?_) hw₂).mono (fun _ h => h) ?_ ?_
    · rw [hidle] at hj
      cases hj
    · rintro - d₃ w₃ ⟨rfl, hclear, -⟩
      refine Prog.sat_fail.mpr fun j hj => ?_
      rw [hclear j] at hj
      cases hj
    · rintro e' d₃ w₃ ⟨rfl, hw₃⟩
      rw [Prog.sat_bind, Prog.sat_update, Prog.sat_fail]
      exact fun j hj => by rw [hw₃ j hj]

theorem sat_recordingRevert (hw : Recorded d w) :
    (revert i).Sat AboutRecorded
      (fun _ d' w' => Recorded d' w' ∧
        w'.log = .command ⟨d.tools.resolvectl, ["revert", i]⟩ true :: w.log)
      (fun _ => Recorded) d w := by
  rw [revert, Prog.sat_bind, Prog.sat_self]
  split
  · exact Prog.sat_fail.mpr hw
  case isFalse hactive =>
  have hactive := not_ne_iff.mp hactive
  have honly : ∀ j, d.activeInterface = some j → j = i := fun j hj =>
    (Option.some.inj (hactive.symm.trans hj)).symm
  refine ((sat_clearingCommand honly fun j hj => honly j (hw j hj)).mono (fun _ h => h)
    (fun _ _ _ h => h) ?_).bind ?_
  · rintro e d₁ w₁ ⟨rfl, hw₁⟩ j hj
    rw [hactive, hw₁ j hj]
  · rintro - d₁ w₁ ⟨rfl, hclear, hlog⟩
    refine Prog.sat_update.mpr ⟨fun j hj => ?_, hlog⟩
    rw [hclear j] at hj
    cases hj

theorem sat_recordingCall (c : Call) (hw : Recorded d w) :
    c.run.Sat AboutRecorded (fun _ => Recorded) (fun _ => Recorded) d w := by
  cases c with
  | configure interface config => exact sat_recordingConfigure config hw
  | revert interface =>
      exact (sat_recordingRevert hw).mono (fun _ h => h) (fun _ _ _ h => h.1) (fun _ _ _ h => h)

end

/-- The recorded link is given up only by reverting it. -/
theorem given_up {d : LinuxDnsBackend} {w : Host} {i : String} (hw : Recorded d w) (c : Call)
    (hactive : d.activeInterface = some i) (hgone : (c.run d w).self.activeInterface ≠ some i) :
    c = .revert i ∧ (c.run d w).result = .ok () ∧
      (c.run d w).world.log = .command ⟨d.tools.resolvectl, ["revert", i]⟩ true :: w.log := by
  cases c with
  | configure interface config =>
      have hspec := sat_configure (i := interface) (d := d) (w := w) config
      rcases hspec.result with ⟨_, _, hidle, _⟩ | ⟨_, _, _, ⟨hself, _⟩ | ⟨hidle, _⟩⟩
      · rw [hactive] at hidle
        cases hidle
      · refine absurd ?_ hgone
        rw [Call.run, hself, hactive]
      · rw [hactive] at hidle
        cases hidle
  | revert interface =>
      have hspec := (sat_revert (i := interface) (d := d) (w := w)).and (sat_recordingRevert hw)
      rcases hspec.result with ⟨_, hok, ⟨hsame, _⟩, _, hlog⟩ | ⟨_, _, ⟨hself, _⟩, _⟩
      · rw [hactive] at hsame
        cases hsame
        exact ⟨rfl, hok, hlog⟩
      · refine absurd ?_ hgone
        rw [Call.run, hself, hactive]

/-- **Resolver state is recorded.** After any run of `configure` and
`revert` calls from an idle backend: every touched link is the recorded
one; every command that was issued while a link was recorded was about that
link; the next call gives a recorded link up only by a successful revert of
it; and a `configure` that fails without recording a link leaves the state
of every unmodified link as it was. -/
theorem resolver_recorded (tools : LinuxDnsTools) (kernel : Kernel) (env : Env)
    (calls : List Call) :
    let o := (Prog.session Call.run calls : Prog LinuxDnsBackend Host Effect Empty Unit)
      ⟨tools, none⟩ ⟨kernel, env, []⟩
    (∀ i, touched i o.world.log = true → o.self.activeInterface = some i) ∧
    (∀ e ∈ o.trace, ∀ i spec ok, e.self.activeInterface = some i →
      e.effect = .command spec ok → spec.arguments[1]? = some i) ∧
    (∀ (c : Call) (i : String), o.self.activeInterface = some i →
      (c.run o.self o.world).self.activeInterface ≠ some i →
      c = .revert i ∧ (c.run o.self o.world).result = .ok () ∧
        (c.run o.self o.world).world.log =
          .command ⟨o.self.tools.resolvectl, ["revert", i]⟩ true :: o.world.log) ∧
    ∀ (interface : String) (config : DnsConfig),
      let o' := configure interface config o.self o.world
      (∃ e, o'.result = .error e) → o'.self.activeInterface = none →
      ∀ j, o.world.kernel.resolvers j = {} →
        o'.world.kernel.resolvers j = o.world.kernel.resolvers j := by
  intro o
  have hrun : (Prog.session Call.run calls : Prog LinuxDnsBackend Host Effect Empty Unit).Sat
      AboutRecorded (fun _ => Recorded) (fun _ => Recorded) ⟨tools, none⟩ ⟨kernel, env, []⟩ :=
    Prog.sat_session (fun c _ d w hw => sat_recordingCall c hw) fun i hi => by cases hi
  have hrecorded : Recorded o.self o.world :=
    hrun.of_ok (Prog.session_result Call.run calls _ _)
  refine ⟨hrecorded, hrun.1, fun c i => given_up hrecorded c, fun interface config => ?_⟩
  rintro o' ⟨e, herror⟩ hidle j hj
  have hspec := sat_configure (i := interface) (d := o.self) (w := o.world) config
  obtain ⟨honly, hend⟩ := hspec.of_error herror
  by_cases hij : j = interface
  · subst hij
    rcases hend with ⟨_, hsame | hclear⟩ | ⟨_, hself⟩
    · change (configure j config o.self o.world).world.kernel.resolvers j = _
      rw [hsame]
    · exact hclear.trans hj.symm
    · change (configure j config o.self o.world).self.activeInterface = none at hidle
      rw [hself] at hidle
      cases hidle
  · exact honly.others hij

end LinuxDnsBackend

end CyberiaVpn.Linux
