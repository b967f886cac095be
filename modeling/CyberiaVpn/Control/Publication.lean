import Mathlib.Data.Multiset.Lattice
import Mathlib.Order.Lattice.Nat
import Mathlib.Order.WithBot
import CyberiaVpn.Control.MemoryStore
import CyberiaVpn.Effects.Machine

/-!
# Publications in any order

Each call of `MemoryStore.Publish` holds the lock, so calls that overlap
are a run of calls in some order. To a device a publication is a number:
what is served is the highest version that came. A call replaces the
served version by the maximum of it and the envelope's, and whether it
succeeds says which of the two was higher (`publish_served`). Maxima do
not depend on the order, hence `publications_unordered`.

The served version is taken with a bottom element, for a device without
configuration.
-/

namespace CyberiaVpn.Control

open Effects

instance (envelope : SignedConfig) : Decidable (Complete envelope) :=
  decidable_of_iff _ incomplete_eq_false

namespace MemoryStore

/-- The version `Latest` returns. -/
def served (store : MemoryStore) (deviceID : Text) : WithBot ℕ :=
  match store.latest deviceID with
  | .ok envelope => WithBot.some envelope.config.version.toNat
  | .error _ => ⊥

/-- The version an envelope offers to a device, if it offers any. -/
def offered (deviceID : Text) (envelope : SignedConfig) : WithBot ℕ :=
  if Complete envelope ∧ envelope.config.deviceID = deviceID then
    WithBot.some envelope.config.version.toNat
  else ⊥

variable {store store' : MemoryStore} {envelope : SignedConfig} {r : Except StoreError Unit}
  {deviceID : Text}

/-! ## One publication -/

theorem served_of_some (h : store.devices.read.lookup deviceID = some envelope) :
    store.served deviceID = WithBot.some envelope.config.version.toNat := by
  rw [served, latest, h]
  rfl

theorem served_congr
    (h : store'.devices.read.lookup deviceID = store.devices.read.lookup deviceID) :
    store'.served deviceID = store.served deviceID := by
  rw [served, served, latest, latest, h]

theorem newer_iff : Newer store.devices.read envelope ↔
    store.served envelope.config.deviceID < WithBot.some envelope.config.version.toNat := by
  rw [Newer]
  cases h : store.devices.read.lookup envelope.config.deviceID with
  | none =>
      rw [served, latest, h]
      exact iff_of_true (fun _ hnone => absurd hnone (Option.some_ne_none _).symm)
        (WithBot.bot_lt_coe _)
  | some current =>
      rw [served_of_some h, WithBot.coe_lt_coe, ← UInt64.lt_iff_toNat_lt]
      exact ⟨fun hall => hall current rfl, fun hlt _ hsome => Option.some.inj hsome ▸ hlt⟩

/-- What a call does. It succeeds with a complete envelope above what is
served, and the served version becomes the maximum of both. -/
structure Publishes (store : MemoryStore) (envelope : SignedConfig) (r : Except StoreError Unit)
    (store' : MemoryStore) : Prop where
  succeeds : r = .ok () ↔ Complete envelope ∧
    store.served envelope.config.deviceID < WithBot.some envelope.config.version.toNat
  maximum : ∀ deviceID, store'.served deviceID = store.served deviceID ⊔ offered deviceID envelope
  unchanged : r ≠ .ok () → store' = store
  others : ∀ deviceID ≠ envelope.config.deviceID,
    store'.devices.read.lookup deviceID = store.devices.read.lookup deviceID

theorem publishes_of_accepted (hcomplete : Complete envelope)
    (hnewer : Newer store.devices.read envelope) :
    Publishes store envelope (.ok ())
      ⟨some (store.devices.read.insert envelope.config.deviceID envelope)⟩ where
  succeeds := iff_of_true rfl ⟨hcomplete, newer_iff.mp hnewer⟩
  maximum deviceID := by
    by_cases hid : deviceID = envelope.config.deviceID
    · subst hid
      rw [offered, if_pos ⟨hcomplete, rfl⟩, sup_eq_right.mpr (newer_iff.mp hnewer).le]
      exact served_of_some (AList.lookup_insert _)
    · rw [offered, if_neg fun h => hid h.2.symm, sup_bot_eq]
      exact served_congr (AList.lookup_insert_ne hid)
  unchanged hne := absurd rfl hne
  others deviceID hid := AList.lookup_insert_ne hid

theorem publishes_of_refused {e : StoreError}
    (hrefused : Complete envelope → ¬Newer store.devices.read envelope) :
    Publishes store envelope (.error e) store where
  succeeds := iff_of_false nofun fun ⟨hcomplete, hlt⟩ => hrefused hcomplete (newer_iff.mpr hlt)
  maximum deviceID := by
    rw [offered]
    split
    · next h =>
      obtain ⟨hcomplete, rfl⟩ := h
      rw [eq_comm, sup_eq_left]
      exact not_lt.mp fun hlt => hrefused hcomplete (newer_iff.mpr hlt)
    · rw [sup_bot_eq]
  unchanged _ := rfl
  others _ _ := rfl

/-- **One call.** -/
theorem publish_served (store : MemoryStore) (envelope : SignedConfig) :
    ∃ r store', store.publish envelope = some (r, store') ∧ Publishes store envelope r store' := by
  rcases publish_cases store envelope with ⟨hcomplete, hnewer⟩ | ⟨e, he⟩
  · exact ⟨_, _, publish_ok hcomplete hnewer, publishes_of_accepted hcomplete hnewer⟩
  · refine ⟨_, _, he, publishes_of_refused fun hcomplete hnewer => ?_⟩
    rw [publish_ok hcomplete hnewer] at he
    cases he

theorem publishes_of_publish (h : store.publish envelope = some (r, store')) :
    Publishes store envelope r store' := by
  obtain ⟨r₀, store₀, h₀, hpublishes⟩ := publish_served store envelope
  rw [h₀] at h
  cases h
  exact hpublishes

/-! ## Runs -/

abbrev Publication := Turn MemoryStore SignedConfig (Except StoreError Unit)

/-- The served version after a run is the maximum of the first one and all
that was offered. -/
theorem served_last {run : List Publication} (h : Linked publish store run) :
    (last store run).served deviceID =
      store.served deviceID ⊔ ((run.map Turn.op : Multiset _).map (offered deviceID)).sup := by
  induction h with
  | nil store => simp [last]
  | @cons store store' envelope r run hstep hrun ih =>
      rw [last, ih, (publishes_of_publish hstep).maximum deviceID]
      simp [sup_assoc]

/-- What was accepted bounds what is served, and nothing else does. -/
theorem served_last_lt {run : List Publication} {n : ℕ} (h : Linked publish store run) :
    (last store run).served deviceID < WithBot.some n ↔ store.served deviceID < WithBot.some n ∧
      ∀ turn ∈ run, turn.answer = .ok () → turn.op.config.deviceID = deviceID →
        turn.op.config.version.toNat < n := by
  induction h with
  | nil store => simp [last]
  | @cons store store' envelope r run hstep hrun ih =>
      have hpublishes := publishes_of_publish hstep
      rw [last, ih, List.forall_mem_cons, ← and_assoc]
      refine and_congr_left fun _ => ?_
      dsimp only
      constructor
      · intro hlt
        rw [hpublishes.maximum, sup_lt_iff] at hlt
        refine ⟨hlt.1, fun hok hid => ?_⟩
        have hoffered := hlt.2
        rw [offered, if_pos ⟨(hpublishes.succeeds.mp hok).1, hid⟩, WithBot.coe_lt_coe] at hoffered
        exact hoffered
      · rintro ⟨hlt, haccepted⟩
        by_cases hok : r = .ok ()
        · rw [hpublishes.maximum, sup_lt_iff, offered]
          refine ⟨hlt, ?_⟩
          split
          · next h => exact WithBot.coe_lt_coe.mpr (haccepted hok h.2)
          · exact WithBot.bot_lt_coe _
        · rw [hpublishes.unchanged hok]
          exact hlt

/-- A device no envelope is for keeps what it has. -/
theorem lookup_last {run : List Publication} (h : Linked publish store run)
    (hothers : ∀ turn ∈ run, turn.op.config.deviceID ≠ deviceID) :
    (last store run).devices.read.lookup deviceID = store.devices.read.lookup deviceID := by
  induction h with
  | nil store => rfl
  | @cons store store' envelope r run hstep hrun ih =>
      obtain ⟨hid, hrest⟩ := List.forall_mem_cons.mp hothers
      rw [last, ih hrest]
      exact (publishes_of_publish hstep).others deviceID (Ne.symm hid)

/-- **Publications in any order.** From every store, for every collection
of envelopes and every order of the calls: none of them panics; a call
never lowers what is served, succeeds exactly with a complete envelope
above the first version and all accepted ones, and else changes nothing.
In the end each device is served the maximum of what it had and what was
offered to it, and a device that is not mentioned keeps what it had. -/
theorem publications_unordered (store : MemoryStore) (envelopes : Multiset SignedConfig)
    (calls : List SignedConfig) (hcalls : (calls : Multiset SignedConfig) = envelopes) :
    ∃ run : List Publication, trace publish store calls = some run ∧
      (∀ pre turn post, run = pre ++ turn :: post →
        (∀ deviceID, turn.before.served deviceID ≤ turn.after.served deviceID) ∧
        (turn.answer = .ok () ↔ Complete turn.op ∧
          store.served turn.op.config.deviceID < WithBot.some turn.op.config.version.toNat ∧
          ∀ earlier ∈ pre, earlier.answer = .ok () →
            earlier.op.config.deviceID = turn.op.config.deviceID →
            earlier.op.config.version.toNat < turn.op.config.version.toNat) ∧
        (turn.answer ≠ .ok () → turn.after = turn.before)) ∧
      (∀ deviceID, (last store run).served deviceID =
        store.served deviceID ⊔ (envelopes.map (offered deviceID)).sup) ∧
      ∀ deviceID, (∀ envelope ∈ envelopes, envelope.config.deviceID ≠ deviceID) →
        (last store run).latest deviceID = store.latest deviceID := by
  obtain ⟨run, hrun⟩ : ∃ run, trace publish store calls = some run :=
    trace_total (I := fun _ => True) (fun store envelope _ => by
      obtain ⟨r, store', hpublish, -⟩ := publish_served store envelope
      exact ⟨r, store', hpublish, trivial⟩) calls trivial
  have hlinked := linked_of_trace hrun
  have hops : (run.map Turn.op : Multiset SignedConfig) = envelopes := by
    rw [trace_ops hrun, hcalls]
  refine ⟨run, hrun, ?_, fun deviceID => ?_, fun deviceID hothers => ?_⟩
  · rintro pre turn post rfl
    obtain ⟨hpre, hbefore, hturn, -⟩ := hlinked.split
    have hpublishes := publishes_of_publish hturn
    refine ⟨fun deviceID => ?_, ?_, hpublishes.unchanged⟩
    · rw [hpublishes.maximum]
      exact le_sup_left
    · rw [hpublishes.succeeds, hbefore, served_last_lt hpre]
  · rw [served_last hlinked, hops]
  · have hkept := lookup_last hlinked fun turn hturn => by
      refine hothers turn.op ?_
      rw [← hops]
      exact List.mem_map_of_mem hturn
    rw [latest, latest, hkept]

def examplePublication (version : UInt64) : SignedConfig where
  config := exampleConfig version
  keyID := ascii "key"
  signature := List.replicate 64 9

/-- The first version comes last and is refused. -/
theorem publications_unordered_late :
    ∃ run : List Publication,
      trace publish zero [examplePublication 2, examplePublication 1] = some run ∧
        run.map Turn.answer = [.ok (), .error (.staleVersion 2 1)] ∧
        (last zero run).served (ascii "laptop") = zero.served (ascii "laptop") ⊔
          ((({examplePublication 1, examplePublication 2} : Multiset SignedConfig).map
            (offered (ascii "laptop"))).sup) := by
  obtain ⟨run, hrun, -, hserved, -⟩ := publications_unordered zero
    {examplePublication 1, examplePublication 2} [examplePublication 2, examplePublication 1]
    (Multiset.coe_eq_coe.mpr (List.Perm.swap _ _ _))
  have hanswers : answers publish zero [examplePublication 2, examplePublication 1] =
      some [.ok (), .error (.staleVersion 2 1)] := by
    decide +kernel
  rw [answers, hrun] at hanswers
  exact ⟨run, hrun, Option.some.inj hanswers, hserved _⟩

end MemoryStore

end CyberiaVpn.Control
