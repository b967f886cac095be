import CyberiaVpn.Effects.Trace
import CyberiaVpn.Linux.BackendRuns

/-!
# What a rollback and a teardown delete

The traces of `bring_up` and `bring_down`, command by command. Setting up
stops at the first command or check that is refused, with the rules pushed
so far in the order of their `rule add` commands (`Went`, `Broke`); neither
`configure` nor `install_routes` deletes anything. Taking down runs through
a list of rules from its end and keeps what it could not delete
(`ends_removePolicyRules`).

So a rollback that goes through consists of the installed rules in reverse
order and the link, and several teardowns in a row delete what one of them
would have deleted.
-/

namespace CyberiaVpn.Linux

open Effects Transport Killswitch

def Effect.ok : Effect → Bool
  | .command _ ok => ok
  | .input _ _ ok => ok
  | .transaction _ ok => ok
  | .check ok => ok

/-- Issuing the effect here returns this error. -/
def Host.Refuses (w : Host) : Effect → TransportError → Prop
  | .command spec false, e =>
      ((output spec.program spec.arguments : Prog Unit Host Effect TransportError _) () w).result =
        .error e
  | .check false, e => ((check : Prog Unit Host Effect TransportError _) () w).result = .error e
  | _, _ => False

/-- The family flag and selector of a rule that was added. -/
def Effect.addedRule : Effect → Option (List String)
  | .command ⟨_, "-4" :: "rule" :: "add" :: selector⟩ true => some ("-4" :: selector)
  | .command ⟨_, "-6" :: "rule" :: "add" :: selector⟩ true => some ("-6" :: selector)
  | _ => none

/-- The arguments of a deletion of a link or of a rule that succeeded. -/
def Effect.deletion : Effect → Option (List String)
  | .command ⟨_, "link" :: "delete" :: rest⟩ true => some ("link" :: "delete" :: rest)
  | .command ⟨_, "-4" :: "rule" :: "delete" :: selector⟩ true =>
      some ("-4" :: "rule" :: "delete" :: selector)
  | .command ⟨_, "-6" :: "rule" :: "delete" :: selector⟩ true =>
      some ("-6" :: "rule" :: "delete" :: selector)
  | _ => none

def Effect.addsLink : Effect → Bool
  | .command ⟨_, "link" :: "add" :: _⟩ _ => true
  | _ => false

/-- Neither an addition nor a deletion, tried or done, of a link or rule. -/
structure Effect.Plain (effect : Effect) : Prop where
  addedRule : effect.addedRule = none
  deletion : effect.deletion = none
  failedDeletion : effect.failedDeletion = false
  addsLink : effect.addsLink = false

def linkAdd (interface : String) : List String :=
  ["link", "add", "dev", interface, "type", "wireguard"]

def linkDelete (interface : String) : List String := ["link", "delete", "dev", interface]

/-- The deletion of the rule with this family flag and selector. -/
def ruleDelete : List String → List String
  | family :: selector => family :: "rule" :: "delete" :: selector
  | [] => []

section Traces

variable {σ τ : Type}

/-- The rules a trace added, in order. -/
def addedRules (t : List (Entry σ Host Effect)) : List (List String) :=
  t.filterMap (·.effect.addedRule)

/-- The deletions of a trace that succeeded, in order. -/
def deletions (t : List (Entry σ Host Effect)) : List (List String) :=
  t.filterMap (·.effect.deletion)

/-- Both are read off the effects alone. -/
theorem addedRules_eq (t : List (Entry σ Host Effect)) :
    addedRules t = (t.map (·.effect)).filterMap Effect.addedRule := by
  rw [List.filterMap_map]
  rfl

theorem deletions_eq (t : List (Entry σ Host Effect)) :
    deletions t = (t.map (·.effect)).filterMap Effect.deletion := by
  rw [List.filterMap_map]
  rfl

variable {t t' : List (Entry σ Host Effect)}

theorem addedRules_append : addedRules (t ++ t') = addedRules t ++ addedRules t' :=
  List.filterMap_append

theorem deletions_append : deletions (t ++ t') = deletions t ++ deletions t' :=
  List.filterMap_append

theorem addedRules_map (f : σ → τ) :
    addedRules (t.map fun e => ⟨f e.self, e.pre, e.effect, e.post⟩) = addedRules t := by
  rw [addedRules, List.filterMap_map]
  rfl

theorem deletions_map (f : σ → τ) :
    deletions (t.map fun e => ⟨f e.self, e.pre, e.effect, e.post⟩) = deletions t := by
  rw [deletions, List.filterMap_map]
  rfl

end Traces

/-! ## The primitives -/

section Primitives

variable {σ : Type} {s : σ} {w : Host} {program : PathBuf} {arguments : List String}

theorem ends_command {Q : List (Entry σ Host Effect) → Unit → σ → Host → Prop}
    {E : List (Entry σ Host Effect) → TransportError → σ → Host → Prop}
    (hok : ∀ w', Q [⟨s, w, .command ⟨program, arguments⟩ true, w'⟩] () s w')
    (herr : ∀ e w', w.Refuses (.command ⟨program, arguments⟩ false) e →
      E [⟨s, w, .command ⟨program, arguments⟩ false, w'⟩] e s w') :
    (command program arguments).Ends Q E s w := by
  rw [command, Prog.ends_bind, output, Prog.ends_effect]
  simp only [Host.Refuses, output, Prog.effect, Host.answer] at herr ⊢
  cases hans : w.env.commands.headD (.ok []) with
  | error e =>
      rw [hans] at herr
      exact herr e _ rfl
  | ok out =>
      cases hk : w.kernel.exec arguments with
      | some k => exact Prog.ends_pure.mpr (by rw [List.append_nil]; exact hok _)
      | none =>
          rw [hans, hk] at herr
          exact herr _ _ rfl

theorem ends_check {Q : List (Entry σ Host Effect) → Unit → σ → Host → Prop}
    {E : List (Entry σ Host Effect) → TransportError → σ → Host → Prop}
    (hok : ∀ w', Q [⟨s, w, .check true, w'⟩] () s w')
    (herr : ∀ e w', w.Refuses (.check false) e → E [⟨s, w, .check false, w'⟩] e s w') :
    (check).Ends Q E s w := by
  rw [check, Prog.ends_effect]
  simp only [Host.Refuses, check, Prog.effect] at herr ⊢
  cases hans : w.env.checks.headD none with
  | none => exact hok _
  | some why =>
      rw [hans] at herr
      exact herr _ _ rfl

end Primitives

namespace LinuxWireGuardBackend

/-! ## Setting up -/

section Setup

variable {σ τ : Type} {b : LinuxWireGuardBackend} {new new' : List PolicyRule}
  {t t' : List (Entry σ Host Effect)} {e : TransportError}

/-- A trace in which these rules were added and nothing was deleted. -/
structure Adds (b : LinuxWireGuardBackend) (new : List PolicyRule)
    (t : List (Entry σ Host Effect)) : Prop where
  rules : addedRules t = new.map b.ruleArguments
  deletions : deletions t = []
  failedDeletion : ∀ e ∈ t, e.effect.failedDeletion = false
  addsLink : ∀ e ∈ t, e.effect.addsLink = false

/-- Setting up got to the end of this trace. -/
def Went (b : LinuxWireGuardBackend) (new : List PolicyRule) (t : List (Entry σ Host Effect)) :
    Prop :=
  Completed Effect.ok t ∧ Adds b new t

/-- Setting up stopped at the end of this trace. -/
def Broke (b : LinuxWireGuardBackend) (new : List PolicyRule) (t : List (Entry σ Host Effect))
    (e : TransportError) : Prop :=
  Stopped Effect.ok Host.Refuses t e ∧ Adds b new t

theorem Adds.append (h : Adds b new t) (h' : Adds b new' t') : Adds b (new ++ new') (t ++ t') := by
  refine ⟨?_, ?_, ?_, ?_⟩
  · rw [addedRules_append, h.rules, h'.rules, List.map_append]
  · rw [deletions_append, h.deletions, h'.deletions, List.append_nil]
  · exact List.forall_mem_append.mpr ⟨h.failedDeletion, h'.failedDeletion⟩
  · exact List.forall_mem_append.mpr ⟨h.addsLink, h'.addsLink⟩

theorem Adds.map (f : σ → τ) (h : Adds b new t) :
    Adds b new (t.map fun e => ⟨f e.self, e.pre, e.effect, e.post⟩) :=
  ⟨(addedRules_map f).trans h.rules, (deletions_map f).trans h.deletions,
    List.forall_mem_map.mpr h.failedDeletion, List.forall_mem_map.mpr h.addsLink⟩

theorem went_nil : Went b [] ([] : List (Entry σ Host Effect)) :=
  ⟨completed_nil, rfl, rfl, List.forall_mem_nil _, List.forall_mem_nil _⟩

theorem Went.append (h : Went b new t) (h' : Went b new' t') : Went b (new ++ new') (t ++ t') :=
  ⟨h.1.append h'.1, h.2.append h'.2⟩

theorem Went.broke (h : Went b new t) (h' : Broke b new' t' e) :
    Broke b (new ++ new') (t ++ t') e :=
  ⟨h.1.stopped h'.1, h.2.append h'.2⟩

variable {s : σ} {w : Host}

theorem adds_step {effect : Effect} {w' : Host}
    (hrules : effect.addedRule.toList = new.map b.ruleArguments)
    (hdeletion : effect.deletion = none) (hfailed : effect.failedDeletion = false)
    (hlink : effect.addsLink = false) : Adds b new [(⟨s, w, effect, w'⟩ : Entry σ Host Effect)] := by
  refine ⟨?_, ?_, List.forall_mem_singleton.mpr hfailed, List.forall_mem_singleton.mpr hlink⟩
  · rw [← hrules, addedRules, List.filterMap_cons]
    cases effect.addedRule <;> rfl
  · rw [deletions, List.filterMap_cons, hdeletion]
    rfl

theorem adds_plain {effect : Effect} (h : effect.Plain) {w' : Host} :
    Adds b [] [(⟨s, w, effect, w'⟩ : Entry σ Host Effect)] :=
  adds_step (by rw [h.addedRule]; rfl) h.deletion h.failedDeletion h.addsLink

theorem completed_step {effect : Effect} {w' : Host} (h : effect.ok = true) :
    Completed Effect.ok [(⟨s, w, effect, w'⟩ : Entry σ Host Effect)] :=
  List.forall_mem_singleton.mpr h

theorem stopped_step {effect : Effect} {w' : Host} (h : effect.ok = false)
    (hrefuses : w.Refuses effect e) :
    Stopped Effect.ok Host.Refuses [(⟨s, w, effect, w'⟩ : Entry σ Host Effect)] e :=
  ⟨[], _, rfl, completed_nil, h, hrefuses⟩

/-- From a state in which the rules `n` have been pushed, `m` pushes some
more, in step with the commands of its trace. `R` says which rules have
been pushed in a state. -/
def Grows {α : Type} (b : LinuxWireGuardBackend) (R : List PolicyRule → σ → Prop)
    (n : List PolicyRule) (m : Prog σ Host Effect TransportError α) (s : σ) (w : Host) : Prop :=
  m.Ends (fun t _ s' _ => ∃ new, R (n ++ new) s' ∧ Went b new t)
    (fun t e s' _ => ∃ new, R (n ++ new) s' ∧ Broke b new t e) s w

section Grows

variable {α β ι : Type} {R : List PolicyRule → σ → Prop} {n : List PolicyRule}

theorem Grows.bind {m : Prog σ Host Effect TransportError α}
    {f : α → Prog σ Host Effect TransportError β} (h : Grows b R n m s w)
    (hf : ∀ n' a s' w', R n' s' → Grows b R n' (f a) s' w') : Grows b R n (m >>= f) s w := by
  refine Prog.ends_bind.mpr (Prog.Ends.mono h ?_ fun _ _ _ _ h => h)
  rintro t a s' w' ⟨new, hR, hwent⟩
  refine Prog.Ends.mono (hf (n ++ new) a s' w' hR) ?_ ?_
  · rintro t' c s'' - ⟨new', hR', hwent'⟩
    exact ⟨new ++ new', List.append_assoc n new new' ▸ hR', hwent.append hwent'⟩
  · rintro t' e s'' - ⟨new', hR', hbroke⟩
    exact ⟨new ++ new', List.append_assoc n new new' ▸ hR', hwent.broke hbroke⟩

theorem grows_self_bind {f : σ → Prog σ Host Effect TransportError β} (h : Grows b R n (f s) s w) :
    Grows b R n (Prog.self >>= f) s w := Prog.ends_self_bind.mpr h

theorem grows_ret {a : α} (hR : R n s) : Grows b R n (Prog.ret a) s w :=
  ⟨[], by rwa [List.append_nil], went_nil⟩

theorem grows_forEach {f : ι → Prog σ Host Effect TransportError Unit} :
    ∀ {xs : List ι}, (∀ x ∈ xs, ∀ n s w, R n s → Grows b R n (f x) s w) →
      ∀ {n : List PolicyRule} {s : σ} {w : Host}, R n s → Grows b R n (Prog.forEach f xs) s w
  | [], _, _, _, _, hR => grows_ret hR
  | x :: _, hbody, n, s, w, hR =>
      Grows.bind (hbody x (List.mem_cons_self ..) n s w hR) fun _ _ _ _ hR' =>
        grows_forEach (fun y hy => hbody y (List.mem_cons_of_mem _ hy)) hR'

theorem grows_check (hR : R n s) : Grows b R n check s w :=
  ends_check
    (fun _ => ⟨[], by rwa [List.append_nil], completed_step rfl,
      adds_plain ⟨rfl, rfl, rfl, rfl⟩⟩)
    (fun _ _ hrefuses => ⟨[], by rwa [List.append_nil], stopped_step rfl hrefuses,
      adds_plain ⟨rfl, rfl, rfl, rfl⟩⟩)

theorem grows_command {program : PathBuf} {arguments : List String}
    (hplain : ∀ ok, (Effect.command ⟨program, arguments⟩ ok).Plain) (hR : R n s) :
    Grows b R n (command program arguments) s w :=
  ends_command
    (fun _ => ⟨[], by rwa [List.append_nil], completed_step rfl, adds_plain (hplain true)⟩)
    (fun _ _ hrefuses =>
      ⟨[], by rwa [List.append_nil], stopped_step rfl hrefuses, adds_plain (hplain false)⟩)

end Grows

end Setup

section SettingUp

variable {b : LinuxWireGuardBackend} {w : Host} {interface : String}

/-- `configure` changes nothing in memory and pushes no rule. -/
def Still (b : LinuxWireGuardBackend) (n : List PolicyRule) (b' : LinuxWireGuardBackend) : Prop :=
  n = [] ∧ b' = b

/-- `install_routes` keeps the pushed rules in its list. -/
def Pushed (b : LinuxWireGuardBackend) (n : List PolicyRule)
    (s : LinuxWireGuardBackend × List PolicyRule) : Prop :=
  s = (b, n)

theorem grows_configure (profile : WireGuardConfig) :
    Grows b (Still b) [] (configure interface profile) b w := by
  rw [configure]
  refine grows_self_bind (Grows.bind (grows_check ⟨rfl, rfl⟩) ?_)
  rintro n - b₁ w₁ hb₁
  refine Grows.bind (grows_command (fun _ => ⟨rfl, rfl, rfl, rfl⟩) hb₁) ?_
  rintro n - b₂ w₂ hb₂
  refine Grows.bind (grows_forEach ?_ hb₂) ?_
  · rintro address - n b₃ w₃ hb₃
    refine Grows.bind (grows_check hb₃) ?_
    rintro n - b₄ w₄ hb₄
    exact grows_command (fun _ => ⟨rfl, rfl, rfl, rfl⟩) hb₄
  · rintro n - b₅ w₅ hb₅
    refine Grows.bind (grows_check hb₅) ?_
    rintro n - b₆ w₆ hb₆
    exact grows_command (fun _ => ⟨rfl, rfl, rfl, rfl⟩) hb₆

theorem grows_addPolicyRule {n : List PolicyRule} {rule : PolicyRule} {family : AddressFamily}
    {selector : List String} (hrule : b.ruleArguments rule = family.argument :: selector) :
    Grows b (Pushed b) n (addPolicyRule rule family selector) (b, n) w := by
  refine grows_self_bind (Prog.ends_bind.mpr (ends_command (fun w' => ?_) ?_))
  · refine Prog.ends_update.mpr ⟨[rule], rfl, ?_⟩
    have hadded : (Effect.command ⟨b.tools.ip, family.argument :: "rule" :: "add" :: selector⟩
        true).addedRule.toList = [rule].map b.ruleArguments := by
      rw [List.map_singleton, hrule]
      cases family <;> rfl
    rw [List.append_nil]
    exact ⟨completed_step rfl, adds_step hadded (by cases family <;> rfl)
      (by cases family <;> rfl) (by cases family <;> rfl)⟩
  · intro e w' hrefuses
    refine ⟨[], ?_, stopped_step rfl hrefuses, adds_plain ?_⟩
    · rw [List.append_nil]
      rfl
    · cases family <;> exact ⟨rfl, rfl, rfl, rfl⟩

theorem grows_installRoute (allowed : AllowedIp) {n : List PolicyRule} :
    Grows b (Pushed b) n (installRoute interface allowed) (b, n) w := by
  have hroute : ∀ target rest ok, (Effect.command ⟨b.tools.ip,
      (AddressFamily.of allowed.network).argument :: "route" :: "replace" :: target :: rest⟩
        ok).Plain := by
    intro target rest ok
    cases AddressFamily.of allowed.network <;> exact ⟨rfl, rfl, rfl, rfl⟩
  rw [installRoute]
  refine Grows.bind (grows_check rfl) ?_
  rintro n - s₁ w₁ rfl
  refine grows_self_bind ?_
  dsimp only
  split
  · exact grows_command (hroute _ _) rfl
  · refine Grows.bind (grows_command (hroute _ _) rfl) ?_
    rintro n - s₂ w₂ rfl
    refine Grows.bind (grows_addPolicyRule rfl) ?_
    rintro n - s₃ w₃ rfl
    exact grows_addPolicyRule rfl

theorem grows_installRoutes (profile : WireGuardConfig) {n : List PolicyRule} :
    Grows b (Pushed b) n (installRoutes interface profile) (b, n) w := by
  refine grows_forEach ?_ rfl
  rintro allowed - n s w rfl
  exact grows_installRoute allowed

end SettingUp

/-! ## Taking down -/

section TakingDown

variable {b : LinuxWireGuardBackend} {w : Host} {interface : String} {rules : List PolicyRule}

def ruleDeletion (b : LinuxWireGuardBackend) (ok : Bool) (rule : PolicyRule) : Effect :=
  .command ⟨b.tools.ip, ruleDelete (b.ruleArguments rule)⟩ ok

def linkDeletion (b : LinuxWireGuardBackend) (ok : Bool) (interface : String) : Effect :=
  .command ⟨b.tools.ip, linkDelete interface⟩ ok

theorem ruleDeletion_addedRule (ok : Bool) (rule : PolicyRule) :
    (b.ruleDeletion ok rule).addedRule = none := by
  cases rule with
  | notFirewallMark family => cases family <;> rfl
  | suppressDefault family => cases family <;> rfl

theorem ruleDeletion_addsLink (ok : Bool) (rule : PolicyRule) :
    (b.ruleDeletion ok rule).addsLink = false := by
  cases rule with
  | notFirewallMark family => cases family <;> rfl
  | suppressDefault family => cases family <;> rfl

theorem ruleDeletion_deletion (ok : Bool) (rule : PolicyRule) :
    (b.ruleDeletion ok rule).deletion =
      if ok then some (ruleDelete (b.ruleArguments rule)) else none := by
  cases rule with
  | notFirewallMark family => cases family <;> cases ok <;> rfl
  | suppressDefault family => cases family <;> cases ok <;> rfl

theorem filterMap_ruleDeletion (b : LinuxWireGuardBackend) (rules : List PolicyRule) :
    (rules.map (b.ruleDeletion true)).filterMap Effect.deletion =
      rules.map fun rule => ruleDelete (b.ruleArguments rule) := by
  rw [List.filterMap_map, ← List.filterMap_eq_map]
  exact List.filterMap_congr fun rule _ => ruleDeletion_deletion true rule

/-- The loop from a list of rules: it deletes them from the last to the
first, or stops at one that it keeps together with those before it. -/
theorem ends_removePolicyRules (b : LinuxWireGuardBackend) (rules : List PolicyRule) (w : Host) :
    removePolicyRules.Ends
      (fun t _ s _ => s = (b, []) ∧ t.map (·.effect) = rules.reverse.map (b.ruleDeletion true))
      (fun t _ s _ => ∃ left rule gone, rules = left ++ rule :: gone ∧ s = (b, left ++ [rule]) ∧
        t.map (·.effect) = gone.reverse.map (b.ruleDeletion true) ++ [b.ruleDeletion false rule])
      (b, rules) w := by
  rw [removePolicyRules]
  refine Prog.ends_self_bind.mpr ?_
  dsimp only
  -- the induction is on the reversed list, whose head is the rule to delete next
  obtain ⟨rev, rfl⟩ : ∃ rev : List PolicyRule, rules = rev.reverse :=
    ⟨rules.reverse, (List.reverse_reverse _).symm⟩
  rw [List.reverse_reverse]
  induction rev generalizing w with
  | nil => exact ⟨rfl, rfl⟩
  | cons rule rest ih =>
      obtain ⟨family, selector, hargs, hprog⟩ :=
        removePolicyRule_eq (b, (rule :: rest).reverse) rule
      have hdeletion : ∀ ok, Effect.command ⟨b.tools.ip,
          family.argument :: "rule" :: "delete" :: selector⟩ ok = b.ruleDeletion ok rule := by
        intro ok
        rw [ruleDeletion, hargs]
        rfl
      refine Prog.ends_seq.mpr (Prog.ends_bind.mpr
        ((Prog.ends_congr (hprog w)).mpr (ends_command (fun w' => ?_) fun e w' _ => ?_)))
      · refine Prog.ends_update.mpr ?_
        rw [List.reverse_cons, List.dropLast_concat]
        refine (ih w').mono ?_ ?_
        · rintro t - s - ⟨rfl, ht⟩
          refine ⟨rfl, ?_⟩
          rw [List.append_nil, List.singleton_append, List.map_cons, List.map_cons, ht]
          exact congrArg (· :: _) (hdeletion true)
        · rintro t - s - ⟨left, kept, gone, hrest, rfl, ht⟩
          refine ⟨left, kept, gone ++ [rule], ?_, rfl, ?_⟩
          · rw [hrest, List.append_assoc, List.cons_append]
          · rw [List.append_nil, List.singleton_append, List.map_cons, ht, List.reverse_append,
              List.reverse_singleton, List.singleton_append, List.map_cons, List.cons_append]
            exact congrArg (· :: _) (hdeletion true)
      · refine ⟨rest.reverse, rule, [], ?_, ?_, ?_⟩
        · rw [List.reverse_cons]
        · rw [List.reverse_cons]
        · exact congrArg (fun effect => [effect]) (hdeletion false)

/-- The commands of the loop, however it ends. -/
theorem ends_removePolicyRules_addsLink (b : LinuxWireGuardBackend) (rules : List PolicyRule)
    (w : Host) :
    removePolicyRules.Ends (fun t _ _ _ => ∀ e ∈ t, e.effect.addsLink = false)
      (fun t _ _ _ => ∀ e ∈ t, e.effect.addsLink = false) (b, rules) w := by
  have hrules : ∀ rules : List PolicyRule,
      ∀ effect ∈ rules.map (b.ruleDeletion true), effect.addsLink = false :=
    fun rules => List.forall_mem_map.mpr fun rule _ => ruleDeletion_addsLink true rule
  refine (ends_removePolicyRules b rules w).mono ?_ ?_
  · rintro t - s - ⟨-, ht⟩ e he
    have hmem : e.effect ∈ t.map (·.effect) := List.mem_map_of_mem he
    rw [ht] at hmem
    exact hrules _ _ hmem
  · rintro t - s - ⟨left, rule, gone, -, -, ht⟩ e he
    have hmem : e.effect ∈ t.map (·.effect) := List.mem_map_of_mem he
    rw [ht] at hmem
    rcases List.mem_append.mp hmem with hmem | hmem
    · exact hrules _ _ hmem
    · rw [List.mem_singleton.mp hmem]
      exact ruleDeletion_addsLink false rule

theorem ends_deleteInterface :
    (deleteInterface interface).Ends
      (fun t _ b' _ => b' = b ∧ t.map (·.effect) = [b.linkDeletion true interface])
      (fun t _ b' _ => b' = b ∧ t.map (·.effect) = [b.linkDeletion false interface]) b w := by
  rw [deleteInterface]
  exact Prog.ends_self_bind.mpr (ends_command (fun _ => ⟨rfl, rfl⟩) fun _ _ _ => ⟨rfl, rfl⟩)

theorem not_completed {σ : Type} {t : List (Entry σ Host Effect)} (effect : Effect)
    (hmem : effect ∈ t.map (·.effect)) (hok : effect.ok = false) : ¬Completed Effect.ok t := by
  intro hcompleted
  obtain ⟨e, he, rfl⟩ := List.mem_map.mp hmem
  rw [hcompleted e he] at hok
  cases hok

/-- A rollback that goes through returns the error it was given. -/
theorem ends_rollbackSetup (setupError : TransportError) :
    (rollbackSetup interface rules setupError).Ends
      (fun t e b' _ => b' = b ∧ (∀ e ∈ t, e.effect.addsLink = false) ∧
        (Completed Effect.ok t → e = setupError ∧ t.map (·.effect) =
          rules.reverse.map (b.ruleDeletion true) ++ [b.linkDeletion true interface]))
      (fun _ _ _ _ => False) b w := by
  have hlink : ∀ {ok} {t : List (Entry (LinuxWireGuardBackend × List PolicyRule) Host Effect)}
      {t' : List (Entry LinuxWireGuardBackend Host Effect)},
      (∀ e ∈ t, e.effect.addsLink = false) → t'.map (·.effect) = [b.linkDeletion ok interface] →
      ∀ e ∈ (t.map fun e => ⟨e.self.1, e.pre, e.effect, e.post⟩) ++ (t' ++ []),
        e.effect.addsLink = false := by
    intro ok t t' ht ht' e he
    rw [List.append_nil] at he
    rcases List.mem_append.mp he with he | he
    · obtain ⟨x, hx, rfl⟩ := List.mem_map.mp he
      exact ht x hx
    · have hmem : e.effect ∈ t'.map (·.effect) := List.mem_map_of_mem he
      rw [ht'] at hmem
      rw [List.mem_singleton.mp hmem]
      rfl
  rw [rollbackSetup]
  refine Prog.ends_bind.mpr (Prog.ends_withLocal.mpr
    (((ends_removePolicyRules b rules w).and (ends_removePolicyRules_addsLink b rules w)).mono
      ?_ ?_))
  · rintro t - s w₁ ⟨⟨rfl, ht⟩, hadds⟩
    refine Prog.ends_bind.mpr (Prog.ends_attempt.mpr (ends_deleteInterface.mono ?_ ?_))
    · rintro t' - b' w₂ ⟨rfl, ht'⟩
      refine Prog.ends_pure.mpr ⟨rfl, hlink hadds ht', fun _ => ⟨rfl, ?_⟩⟩
      rw [List.append_nil, List.map_append, List.map_map, ht']
      exact congrArg (· ++ _) ht
    · rintro t' e b' w₂ ⟨rfl, ht'⟩
      refine Prog.ends_pure.mpr ⟨rfl, hlink hadds ht', fun hcompleted => absurd hcompleted
        (not_completed (b'.linkDeletion false interface) ?_ rfl)⟩
      rw [List.append_nil, List.map_append, ht']
      exact List.mem_append_right _ (List.mem_singleton_self _)
  · rintro t e s w₁ ⟨⟨left, rule, gone, -, rfl, ht⟩, hadds⟩
    -- whatever becomes of the link, a rule deletion has failed
    have hfailed : ∀ t' : List (Entry LinuxWireGuardBackend Host Effect),
        ¬Completed Effect.ok ((t.map fun e => ⟨e.self.1, e.pre, e.effect, e.post⟩) ++ t') := by
      intro t'
      refine not_completed (b.ruleDeletion false rule) ?_ rfl
      rw [List.map_append, List.map_map]
      refine List.mem_append_left _ ?_
      change _ ∈ t.map (·.effect)
      rw [ht]
      exact List.mem_append_right _ (List.mem_singleton_self _)
    refine Prog.ends_bind.mpr (Prog.ends_attempt.mpr (ends_deleteInterface.mono ?_ ?_))
    · rintro t' - b' w₂ ⟨rfl, ht'⟩
      exact Prog.ends_pure.mpr
        ⟨rfl, hlink hadds ht', fun hcompleted => absurd hcompleted (hfailed _)⟩
    · rintro t' e' b' w₂ ⟨rfl, ht'⟩
      exact Prog.ends_pure.mpr
        ⟨rfl, hlink hadds ht', fun hcompleted => absurd hcompleted (hfailed _)⟩

/-- One teardown deletes everything, or a part from the end. -/
theorem ends_bringDown (interface : String) :
    (bringDown interface).Ends
      (fun t _ _ _ => b.activeInterface = some interface ∧ deletions t =
        (b.activeRules.reverse.map fun rule => ruleDelete (b.ruleArguments rule)) ++
          [linkDelete interface])
      (fun t _ b' _ => ∃ left gone, b.activeRules = left ++ gone ∧
        b' = { b with activeRules := left } ∧
        deletions t = gone.reverse.map fun rule => ruleDelete (b.ruleArguments rule)) b w := by
  rw [bringDown]
  refine Prog.ends_self_bind.mpr ?_
  split
  · exact ⟨b.activeRules, [], (List.append_nil _).symm, rfl, rfl⟩
  case isFalse hactive =>
  refine Prog.ends_update_bind.mpr (Prog.ends_bind.mpr (Prog.ends_withLocal.mpr
    ((ends_removePolicyRules { b with activeRules := [] } b.activeRules w).mono ?_ ?_)))
  · rintro t - s w₁ ⟨rfl, ht⟩
    have hrules : deletions (t.map fun e => ⟨e.self.1, e.pre, e.effect, e.post⟩ :
        List (Entry LinuxWireGuardBackend Host Effect)) =
        b.activeRules.reverse.map fun rule => ruleDelete (b.ruleArguments rule) := by
      rw [deletions_map, deletions_eq, ht]
      exact filterMap_ruleDeletion _ _
    refine Prog.ends_bind.mpr (ends_deleteInterface.mono ?_ ?_)
    · rintro t' - b' w₂ ⟨rfl, ht'⟩
      refine Prog.ends_update.mpr ⟨not_ne_iff.mp hactive, ?_⟩
      rw [List.append_nil, deletions_append, hrules, deletions_eq t', ht']
      rfl
    · rintro t' e b' w₂ ⟨rfl, ht'⟩
      refine ⟨[], b.activeRules, rfl, rfl, ?_⟩
      rw [deletions_append, hrules, deletions_eq t', ht']
      exact List.append_nil _
  · rintro t e s w₁ ⟨left, rule, gone, hrules, rfl, ht⟩
    refine Prog.ends_update_bind.mpr (Prog.ends_fail.mpr
      ⟨left ++ [rule], gone, by rw [hrules, List.append_assoc]; rfl, rfl, ?_⟩)
    rw [List.append_nil, deletions_map, deletions_eq, ht, List.filterMap_append,
      filterMap_ruleDeletion, List.filterMap_cons, ruleDeletion_deletion]
    exact List.append_nil _

end TakingDown

/-! ## The two calls -/

section Calls

variable {b : LinuxWireGuardBackend} {w : Host} {interface : String}

/-- A setup that stopped after the link was there, and its rollback. -/
structure RolledBack (b : LinuxWireGuardBackend) (interface : String)
    (t : List (Entry LinuxWireGuardBackend Host Effect)) (e : TransportError)
    (start setup cleanup : List (Entry LinuxWireGuardBackend Host Effect))
    (new : List PolicyRule) (setupError : TransportError) : Prop where
  trace : t = start ++ setup ++ cleanup
  start : start.map (·.effect) =
    [.check true, .command ⟨b.tools.ip, linkAdd interface⟩ true]
  setup : Broke b new setup setupError
  addsLink : ∀ e ∈ cleanup, e.effect.addsLink = false
  cleanup : Completed Effect.ok cleanup → e = setupError ∧
    cleanup.map (·.effect) =
      new.reverse.map (b.ruleDeletion true) ++ [b.linkDeletion true interface]

/-- Rolling back after a setup that stopped. -/
theorem ends_rolledBack (start : List (Entry LinuxWireGuardBackend Host Effect))
    {setup : List (Entry LinuxWireGuardBackend Host Effect)} {new : List PolicyRule}
    {setupError : TransportError}
    (hstart : start.map (·.effect) =
      [.check true, .command ⟨b.tools.ip, linkAdd interface⟩ true])
    (hsetup : Broke b new setup setupError) :
    (do Prog.fail (← rollbackSetup interface new setupError) : BackendM Unit).Ends
      (fun _ _ _ _ => False)
      (fun t e b' _ => b' = b ∧ ∃ cleanup,
        RolledBack b interface (start ++ setup ++ t) e start setup cleanup new setupError) b w := by
  refine Prog.ends_bind.mpr ((ends_rollbackSetup setupError).mono ?_ fun _ _ _ _ h => h.elim)
  rintro t e b' w' ⟨rfl, hlink, hcleanup⟩
  exact Prog.ends_fail.mpr ⟨rfl, t, by rw [List.append_nil], hstart, hsetup, hlink, hcleanup⟩

/-- The traces of `bring_up`: the rules it added are the rules it records;
a failure leaves it as it was and comes before, at or after `link add`. -/
theorem ends_bringUp (profile : WireGuardConfig) :
    (bringUp interface profile).Ends
      (fun t _ b' _ => Completed Effect.ok t ∧ ∃ new, addedRules t = new.map b.ruleArguments ∧
        b' = { b with activeRules := new, activeInterface := some interface })
      (fun t e b' _ => b' = b ∧
        (t.map (·.effect) = [] ∨ t.map (·.effect) = [.check false] ∨
          t.map (·.effect) =
            [.check true, .command ⟨b.tools.ip, linkAdd interface⟩ false] ∨
          b.activeInterface = none ∧ ∃ start setup cleanup new setupError,
            RolledBack b interface t e start setup cleanup new setupError)) b w := by
  rw [bringUp]
  refine Prog.ends_self_bind.mpr ?_
  split
  · exact Prog.ends_fail.mpr ⟨rfl, Or.inl rfl⟩
  case isFalse hsome =>
  have hidle : b.activeInterface = none := by simpa using hsome
  refine Prog.ends_bind.mpr (ends_check (fun w₁ => ?_)
    fun e w' _ => ⟨rfl, Or.inr (Or.inl rfl)⟩)
  refine Prog.ends_self_bind.mpr (Prog.ends_bind.mpr (ends_command (fun w₂ => ?_)
    fun e w' _ => ⟨rfl, Or.inr (Or.inr (Or.inl rfl))⟩))
  refine Prog.ends_bind.mpr (Prog.ends_attempt.mpr ((grows_configure profile).mono ?_ ?_))
  · rintro t - b₃ w₃ ⟨new, ⟨hnew, rfl⟩, hwent⟩
    obtain rfl : new = [] := hnew
    refine Prog.ends_bind.mpr (Prog.ends_withLocal.mpr
      ((grows_installRoutes profile (n := [])).mono ?_ ?_))
    · rintro t' - s w₄ ⟨new, rfl, hroutes⟩
      refine Prog.ends_update.mpr ⟨?_, new, ?_, rfl⟩
      · exact (completed_step rfl).append ((completed_step rfl).append
          (hwent.1.append ((hroutes.1.map Prod.fst).append completed_nil)))
      · simp only [addedRules_append, addedRules_map, hwent.2.rules, hroutes.2.rules]
        exact List.append_nil _
    · rintro t' e s w₄ ⟨new, rfl, hbroke⟩
      have hsetup : Broke b₃ ([] ++ new)
          (t ++ t'.map fun e => ⟨e.self.1, e.pre, e.effect, e.post⟩) e :=
        hwent.broke ⟨hbroke.1.map Prod.fst, hbroke.2.map Prod.fst⟩
      refine (ends_rolledBack [⟨b₃, w, .check true, w₁⟩, ⟨b₃, w₁, _, w₂⟩] rfl hsetup).mono
        (fun _ _ _ _ h => h.elim) ?_
      rintro t'' e' b₅ w₅ ⟨rfl, cleanup, hrolled⟩
      refine ⟨rfl, Or.inr (Or.inr (Or.inr ⟨hidle, _, _, cleanup, _, _, ?_, hrolled.start,
        hrolled.setup, hrolled.addsLink, hrolled.cleanup⟩))⟩
      exact Eq.trans (by simp only [List.append_assoc, List.cons_append, List.nil_append, linkAdd])
        hrolled.trace
  · rintro t e b₃ w₃ ⟨new, ⟨hnew, rfl⟩, hbroke⟩
    obtain rfl : new = [] := hnew
    refine (ends_rolledBack [⟨b₃, w, .check true, w₁⟩, ⟨b₃, w₁, _, w₂⟩] rfl hbroke).mono
      (fun _ _ _ _ h => h.elim) ?_
    rintro t' e' b₅ w₅ ⟨rfl, cleanup, hrolled⟩
    refine ⟨rfl, Or.inr (Or.inr (Or.inr ⟨hidle, _, _, cleanup, _, _, ?_, hrolled.start,
      hrolled.setup, hrolled.addsLink, hrolled.cleanup⟩))⟩
    exact Eq.trans (by simp only [List.cons_append, List.nil_append, linkAdd]) hrolled.trace

/-- Teardowns that fail in a row: together they have deleted a part from
the end, and the rest is recorded. -/
theorem ends_failing : ∀ (failing : List String) (b : LinuxWireGuardBackend) (w : Host),
    Prog.Each bringDown (fun i b w => ∃ e, (bringDown i b w).result = .error e) failing b w →
    (Prog.session bringDown failing : Prog LinuxWireGuardBackend Host Effect Empty Unit).Ends
      (fun t _ b' _ => ∃ left gone, b.activeRules = left ++ gone ∧
        b' = { b with activeRules := left } ∧
        deletions t = gone.reverse.map fun rule => ruleDelete (b.ruleArguments rule))
      (fun _ _ _ _ => False) b w
  | [], b, w, _ => ⟨b.activeRules, [], (List.append_nil _).symm, rfl, rfl⟩
  | i :: failing, b, w, ⟨⟨e, herror⟩, hrest⟩ => by
      obtain ⟨left, gone, hrules, hself, ht⟩ := (ends_bringDown i).of_error herror
      have hih := ends_failing failing _ _ hrest
      rw [Prog.session]
      refine Prog.ends_seq.mpr (Prog.ends_attempt.mpr ?_)
      rw [Prog.Ends, herror]
      refine hih.mono ?_ fun _ _ _ _ h => h
      rw [hself]
      rintro t - b' - ⟨left', gone', hleft, rfl, ht'⟩
      refine ⟨left', gone' ++ gone, ?_, rfl, ?_⟩
      · rw [hrules, ← List.append_assoc]
        exact congrArg (· ++ gone) hleft
      · rw [deletions_append, ht, ht', List.reverse_append, List.map_append]
        rfl

/-- Teardowns up to the first one that succeeds delete what a single one
would have deleted. -/
theorem deletions_of_teardowns {failing : List String} {last : String}
    (hactive : b.activeInterface = some interface)
    (hfailing : Prog.Each bringDown (fun i b w => ∃ e, (bringDown i b w).result = .error e) failing
      b w) :
    let d := (Prog.session bringDown failing : Prog LinuxWireGuardBackend Host Effect Empty Unit) b w
    let d' := bringDown last d.self d.world
    d'.result = .ok () → deletions (d.trace ++ d'.trace) =
      (b.activeRules.reverse.map fun rule => ruleDelete (b.ruleArguments rule)) ++
        [linkDelete interface] := by
  intro d d' hlast
  obtain ⟨left, gone, hrules, hself, hgone⟩ := (ends_failing failing _ _ hfailing).of_ok
    (Prog.session_result bringDown failing _ _)
  obtain ⟨hsame, hdown⟩ := (ends_bringDown last).of_ok hlast
  have hd : d.self = { b with activeRules := left } := hself
  have hdtrace : deletions d.trace =
      gone.reverse.map fun rule => ruleDelete (b.ruleArguments rule) := hgone
  have hdtrace' : deletions d'.trace = _ := hdown
  rw [hd] at hsame hdtrace'
  obtain rfl : interface = last := Option.some.inj (hactive.symm.trans hsame)
  rw [deletions_append, hdtrace, hdtrace', hrules, List.reverse_append, List.map_append,
    List.append_assoc]
  rfl

section RolledBack

variable {t start setup cleanup : List (Entry LinuxWireGuardBackend Host Effect)}
  {new : List PolicyRule} {e setupError : TransportError}

theorem failedDeletion_of_ok {effect : Effect} (h : effect.ok = true) :
    effect.failedDeletion = false := by
  cases effect with
  | command spec ok =>
      obtain rfl : ok = true := h
      simp only [Effect.failedDeletion]
  | input spec text ok => rfl
  | transaction rules ok => rfl
  | check ok => rfl

theorem RolledBack.completed_start
    (h : RolledBack b interface t e start setup cleanup new setupError) :
    Completed Effect.ok start := by
  intro x hx
  have hmem := List.mem_map_of_mem (f := (·.effect)) hx
  rw [h.start] at hmem
  rcases List.mem_cons.mp hmem with heq | hmem
  · rw [heq]
    rfl
  · rw [List.mem_singleton.mp hmem]
    rfl

/-- Everything up to the refused effect went through. -/
theorem RolledBack.split (h : RolledBack b interface t e start setup cleanup new setupError) :
    ∃ done f, t = done ++ f :: cleanup ∧ Completed Effect.ok done ∧ f.effect.ok = false ∧
      f.pre.Refuses f.effect setupError := by
  obtain ⟨done, f, hsetup, hdone, hf, hrefuses⟩ := h.setup.1
  refine ⟨start ++ done, f, ?_, h.completed_start.append hdone, hf, hrefuses⟩
  rw [h.trace, hsetup, List.append_assoc, List.append_assoc, List.append_assoc]
  rfl

theorem RolledBack.no_failedDeletion
    (h : RolledBack b interface t e start setup cleanup new setupError)
    (hcleanup : Completed Effect.ok cleanup) : ∀ x ∈ t, x.effect.failedDeletion = false := by
  intro x hx
  rw [h.trace] at hx
  rcases List.mem_append.mp hx with hx | hx
  · rcases List.mem_append.mp hx with hx | hx
    · exact failedDeletion_of_ok (h.completed_start x hx)
    · exact h.setup.2.failedDeletion x hx
  · exact failedDeletion_of_ok (hcleanup x hx)

theorem map_ruleDelete (b : LinuxWireGuardBackend) (rules : List PolicyRule) :
    (rules.map b.ruleArguments).reverse.map ruleDelete =
      rules.reverse.map fun rule => ruleDelete (b.ruleArguments rule) := by
  rw [← List.map_reverse, List.map_map]
  rfl

/-- What was deleted is what was added, in reverse order, and the link. -/
theorem RolledBack.deletions (h : RolledBack b interface t e start setup cleanup new setupError)
    (hcleanup : Completed Effect.ok cleanup) :
    Linux.deletions t = (addedRules t).reverse.map ruleDelete ++ [linkDelete interface] := by
  obtain ⟨-, heffects⟩ := h.cleanup hcleanup
  have hlink : (b.linkDeletion true interface).deletion = some (linkDelete interface) := rfl
  have hdel : Linux.deletions cleanup =
      (new.reverse.map fun rule => ruleDelete (b.ruleArguments rule)) ++ [linkDelete interface] := by
    rw [deletions_eq, heffects, List.filterMap_append, filterMap_ruleDeletion,
      List.filterMap_cons, hlink]
    rfl
  have hstart : Linux.deletions start = [] ∧ addedRules start = [] := by
    rw [deletions_eq, addedRules_eq, h.start]
    exact ⟨rfl, rfl⟩
  have hadd : addedRules cleanup = [] := by
    rw [addedRules_eq, heffects, List.filterMap_eq_nil_iff]
    intro effect heffect
    rcases List.mem_append.mp heffect with hrule | hlink
    · obtain ⟨rule, -, rfl⟩ := List.mem_map.mp hrule
      exact ruleDeletion_addedRule true rule
    · rw [List.mem_singleton.mp hlink]
      rfl
  have hadded : addedRules t = new.map b.ruleArguments := by
    rw [h.trace, addedRules_append, addedRules_append, hstart.2, h.setup.2.rules, hadd]
    exact List.append_nil _
  rw [hadded, map_ruleDelete, h.trace, deletions_append, deletions_append, hstart.1,
    h.setup.2.deletions, hdel]
  rfl

/-- The rollback of a setup issues no second `link add`. -/
theorem RolledBack.not_refused (h : RolledBack b interface t e start setup cleanup new setupError)
    (hmem : .command ⟨b.tools.ip, linkAdd interface⟩ false ∈ t.map (·.effect)) : False := by
  obtain ⟨x, hx, heffect⟩ := List.mem_map.mp hmem
  have hlink : x.effect.addsLink = true := by rw [heffect]; rfl
  rw [h.trace] at hx
  rcases List.mem_append.mp hx with hx | hx
  · rcases List.mem_append.mp hx with hx | hx
    · have hok := h.completed_start x hx
      rw [heffect] at hok
      cases hok
    · rw [h.setup.2.addsLink x hx] at hlink
      cases hlink
  · rw [h.addsLink x hx] at hlink
    cases hlink

/-- A rollback in which nothing failed leaves the links and rules as they
were. -/
theorem kernel_of_no_failedDeletion {profile : WireGuardConfig}
    (herror : (bringUp interface profile b w).result = .error e)
    (hnone : ∀ x ∈ (bringUp interface profile b w).trace, x.effect.failedDeletion = false) :
    (bringUp interface profile b w).world.kernel.links = w.kernel.links ∧
      (bringUp interface profile b w).world.kernel.rules = w.kernel.rules := by
  have hspec := sat_bringUp (b := b) interface profile (laid_refl w)
  have hsame := (no_failedDeletion_iff hspec.1).mp hnone
  obtain ⟨_, hlaid | ⟨_, _, hleft⟩⟩ := hspec.of_error herror
  · exact ⟨hlaid.links, hlaid.rules⟩
  · obtain ⟨_, _, n', hlt, _, _, hlaid⟩ := hleft
    rw [hlaid.deletions] at hsame
    omega

end RolledBack

/-- A refused `link add` is the last thing a setup does. -/
theorem trace_of_link_refused {profile : WireGuardConfig}
    (hmem : .command ⟨b.tools.ip, linkAdd interface⟩ false ∈
      (bringUp interface profile b w).trace.map (·.effect)) :
    (bringUp interface profile b w).trace.map (·.effect) =
      [.check true, .command ⟨b.tools.ip, linkAdd interface⟩ false] := by
  have hends : (bringUp interface profile).Ends _ _ b w := ends_bringUp profile
  cases hresult : (bringUp interface profile b w).result with
  | ok _ => exact absurd (hends.of_ok hresult).1 (not_completed _ hmem rfl)
  | error e =>
      obtain ⟨-, hnone | hcheck | hrefused | ⟨-, _, _, _, _, _, hrolled⟩⟩ :=
        hends.of_error hresult
      · rw [hnone] at hmem
        cases hmem
      · rw [hcheck] at hmem
        cases List.mem_singleton.mp hmem
      · exact hrefused
      · exact (hrolled.not_refused hmem).elim

/-- A setup that fails behind its `link add` was rolled back. -/
theorem rolledBack_of_link_added {profile : WireGuardConfig} {e : TransportError}
    (herror : (bringUp interface profile b w).result = .error e)
    (hmem : .command ⟨b.tools.ip, linkAdd interface⟩ true ∈
      (bringUp interface profile b w).trace.map (·.effect)) :
    (bringUp interface profile b w).self = b ∧ b.activeInterface = none ∧
      ∃ start setup cleanup new setupError,
        RolledBack b interface (bringUp interface profile b w).trace e start setup cleanup new
          setupError := by
  have hends : (bringUp interface profile).Ends _ _ b w := ends_bringUp profile
  obtain ⟨hself, hnone | hcheck | hrefused | ⟨hidle, hrolled⟩⟩ := hends.of_error herror
  · rw [hnone] at hmem
    cases hmem
  · rw [hcheck] at hmem
    cases List.mem_singleton.mp hmem
  · rw [hrefused] at hmem
    simp at hmem
  · exact ⟨hself, hidle, hrolled⟩

/-- What a successful setup recorded are the rules it added. -/
theorem recorded_of_bringUp {profile : WireGuardConfig}
    (hok : (bringUp interface profile b w).result = .ok ()) :
    (bringUp interface profile b w).self.activeInterface = some interface ∧
      ((bringUp interface profile b w).self.activeRules.reverse.map fun rule =>
        ruleDelete ((bringUp interface profile b w).self.ruleArguments rule)) =
        (addedRules (bringUp interface profile b w).trace).reverse.map ruleDelete := by
  have hends : (bringUp interface profile).Ends _ _ b w := ends_bringUp profile
  obtain ⟨-, new, hadded, hself⟩ := hends.of_ok hok
  rw [hadded, map_ruleDelete, hself]
  exact ⟨rfl, rfl⟩

/-- **Rollback and teardown are exact.** A `bring_up` whose `link add` is
refused issues nothing else. One that fails later stops at the first
refused command or check; if everything after it succeeds, the error is the
one it was refused with, the successful deletions are the added rules in
reverse order and then the link, the backend is idle as before, and the
kernel has the links and rules it had. After a successful `bring_up`, any
number of failing teardowns and the first one that succeeds have together
deleted the added rules in reverse order and then the link, each once. -/
theorem rollback_and_teardown_exact (interface : String) (profile : WireGuardConfig)
    (b : LinuxWireGuardBackend) (w : Host) :
    let o := bringUp interface profile b w
    (.command ⟨b.tools.ip, linkAdd interface⟩ false ∈ o.trace.map (·.effect) →
      o.trace.map (·.effect) = [.check true, .command ⟨b.tools.ip, linkAdd interface⟩ false]) ∧
    (∀ e, o.result = .error e →
      .command ⟨b.tools.ip, linkAdd interface⟩ true ∈ o.trace.map (·.effect) →
      ∃ done f cleanup, o.trace = done ++ f :: cleanup ∧ Completed Effect.ok done ∧
        f.effect.ok = false ∧ (Completed Effect.ok cleanup →
          f.pre.Refuses f.effect e ∧
          deletions o.trace = (addedRules o.trace).reverse.map ruleDelete ++ [linkDelete interface] ∧
          o.self = b ∧ b.activeInterface = none ∧
          o.world.kernel.links = w.kernel.links ∧ o.world.kernel.rules = w.kernel.rules)) ∧
    (o.result = .ok () → ∀ (failing : List String) (last : String),
      Prog.Each bringDown (fun i b w => ∃ e, (bringDown i b w).result = .error e) failing
        o.self o.world →
      let d := (Prog.session bringDown failing : Prog LinuxWireGuardBackend Host Effect Empty Unit)
        o.self o.world
      let d' := bringDown last d.self d.world
      d'.result = .ok () →
      deletions (d.trace ++ d'.trace) =
        (addedRules o.trace).reverse.map ruleDelete ++ [linkDelete interface]) := by
  intro o
  refine ⟨fun hmem => trace_of_link_refused hmem, fun e herror hmem => ?_,
    fun hok failing last hfailing => ?_⟩
  · obtain ⟨hself, hidle, _, _, cleanup, _, _, hrolled⟩ := rolledBack_of_link_added herror hmem
    obtain ⟨done, f, htrace, hdone, hf, hrefuses⟩ := hrolled.split
    refine ⟨done, f, cleanup, htrace, hdone, hf, fun hcleanup => ?_⟩
    obtain ⟨rfl, -⟩ := hrolled.cleanup hcleanup
    exact ⟨hrefuses, hrolled.deletions hcleanup, hself, hidle,
      kernel_of_no_failedDeletion herror (hrolled.no_failedDeletion hcleanup)⟩
  · intro d d' hlast
    obtain ⟨hactive, hrules⟩ := recorded_of_bringUp hok
    rw [deletions_of_teardowns hactive hfailing hlast, hrules]

end Calls

end LinuxWireGuardBackend

end CyberiaVpn.Linux
