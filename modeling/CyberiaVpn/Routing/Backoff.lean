import Mathlib.Data.Nat.Basic
import Mathlib.Tactic.Linarith
import CyberiaVpn.Effects.Arith
import CyberiaVpn.Effects.Clock
import CyberiaVpn.Effects.Validate

/-!
# Reconnect delays

`BackoffPolicy` of `core/routing/src/backoff.rs`. The delay doubles with
each attempt up to a cap, is scaled by a jitter of basis points around one,
and is capped again.

A valid policy has delays of at most an hour and at most 32 attempts. That
is what keeps every operation in range: `delay_eq` computes the delay in
exact arithmetic, and says on the way that no fallback is taken. The
bounds and the monotonicity are facts about that number.
-/

namespace CyberiaVpn.Routing

open Effects

def basisPoints : Nat := 10000

def maximumPolicyDelay : Duration := .ofSecs 3600

structure BackoffPolicy where
  initialDelay : Duration
  maximumDelay : Duration
  maximumAttempts : UInt32
  jitterBasisPoints : UInt16

inductive BackoffError where
  | invalidPolicy
  | invalidEntropySample
  deriving DecidableEq

namespace BackoffPolicy

def validate (policy : BackoffPolicy) : Except (Fault BackoffError) Unit :=
  reject (policy.initialDelay.nanos = 0 ∨ policy.maximumDelay.nanos < policy.initialDelay.nanos ∨
    maximumPolicyDelay.nanos < policy.maximumDelay.nanos ∨ policy.maximumAttempts = 0 ∨
    32 < policy.maximumAttempts ∨ 5000 < policy.jitterBasisPoints) (.error .invalidPolicy)

/-- The doubled delay, up to the cap. -/
def backedOff (policy : BackoffPolicy) (attempt : UInt32) : Duration :=
  let multiplier := (Word.checkedShl 32 1 attempt.toNat).getD (2 ^ 32 - 1)
  ((policy.initialDelay.checkedMul multiplier).getD policy.maximumDelay).min policy.maximumDelay

/-- The jitter, in 128-bit arithmetic. -/
def jitteredNanos (policy : BackoffPolicy) (base : Duration) (entropySample : UInt16) :
    Except (Fault BackoffError) Nat := do
  let jitter := policy.jitterBasisPoints.toNat
  let sample := entropySample.toNat
  let least ← Word.sub basisPoints jitter
  let spread ← Word.div (← Word.mul 128 (← Word.mul 128 2 jitter) sample) basisPoints
  let factor ← Word.add 128 least spread
  Word.div (← Word.mul 128 base.nanos factor) basisPoints

def delay (policy : BackoffPolicy) (attempt : UInt32) (entropySample : UInt16) :
    Except (Fault BackoffError) (Option Duration) := do
  policy.validate
  reject (10000 < entropySample) (.error .invalidEntropySample)
  if policy.maximumAttempts ≤ attempt then
    return none
  else
    let jitteredNanos ← policy.jitteredNanos (policy.backedOff attempt) entropySample
    let boundedNanos := min jitteredNanos policy.maximumDelay.nanos
    return some (.ofNanos (UInt64.ofNat ((Word.tryFrom 64 boundedNanos).getD (2 ^ 64 - 1))))

/-! ## The same in exact arithmetic -/

def base (policy : BackoffPolicy) (attempt : Nat) : Nat :=
  min (policy.initialDelay.nanos * 2 ^ attempt) policy.maximumDelay.nanos

def factor (policy : BackoffPolicy) (sample : Nat) : Nat :=
  basisPoints - policy.jitterBasisPoints.toNat +
    2 * policy.jitterBasisPoints.toNat * sample / basisPoints

def exactDelay (policy : BackoffPolicy) (attempt sample : Nat) : Nat :=
  min policy.maximumDelay.nanos (policy.base attempt * policy.factor sample / basisPoints)

/-- What validation establishes. -/
structure Valid (policy : BackoffPolicy) : Prop where
  initial : policy.initialDelay.nanos ≤ policy.maximumDelay.nanos
  maximum : policy.maximumDelay.nanos ≤ 3600 * 10 ^ 9
  attempts : policy.maximumAttempts.toNat ≤ 32
  jitter : policy.jitterBasisPoints.toNat ≤ 5000

variable {policy : BackoffPolicy}

theorem valid_of_validate (h : policy.validate = .ok ()) : policy.Valid := by
  rw [validate, reject_eq_ok] at h
  simp only [not_or, Nat.not_lt, UInt32.lt_iff_toNat_lt, UInt16.lt_iff_toNat_lt] at h
  obtain ⟨_, hinitial, hmaximum, _, hattempts, hjitter⟩ := h
  exact ⟨hinitial, hmaximum, hattempts, hjitter⟩

theorem base_le (policy : BackoffPolicy) (attempt : Nat) :
    policy.base attempt ≤ policy.maximumDelay.nanos := Nat.min_le_right _ _

theorem base_mono (policy : BackoffPolicy) {attempt attempt' : Nat} (h : attempt ≤ attempt') :
    policy.base attempt ≤ policy.base attempt' :=
  min_le_min_right _ (Nat.mul_le_mul_left _ (Nat.pow_le_pow_right (by decide) h))

theorem le_factor (policy : BackoffPolicy) (sample : Nat) :
    basisPoints - policy.jitterBasisPoints.toNat ≤ policy.factor sample := Nat.le_add_right _ _

theorem factor_mono (policy : BackoffPolicy) {sample sample' : Nat} (h : sample ≤ sample') :
    policy.factor sample ≤ policy.factor sample' :=
  Nat.add_le_add_left (Nat.div_le_div_right (Nat.mul_le_mul_left _ h)) _

theorem factor_le (hvalid : policy.Valid) {sample : Nat} (h : sample ≤ 10000) :
    policy.factor sample ≤ basisPoints + policy.jitterBasisPoints.toNat := by
  have hjitter := hvalid.jitter
  calc policy.factor sample
      ≤ policy.factor 10000 := factor_mono policy h
    _ = basisPoints - policy.jitterBasisPoints.toNat + 2 * policy.jitterBasisPoints.toNat := by
        rw [factor, basisPoints, Nat.mul_div_cancel _ (by decide)]
    _ = basisPoints + policy.jitterBasisPoints.toNat := by
        rw [basisPoints]
        omega

theorem exactDelay_mono (policy : BackoffPolicy) {attempt attempt' sample sample' : Nat}
    (hattempt : attempt ≤ attempt') (hsample : sample ≤ sample') :
    policy.exactDelay attempt sample ≤ policy.exactDelay attempt' sample' :=
  min_le_min_left _ (Nat.div_le_div_right
    (Nat.mul_le_mul (base_mono policy hattempt) (factor_mono policy hsample)))

/-- The lower end of the jitter never reaches the second cap. -/
theorem le_exactDelay (policy : BackoffPolicy) (attempt sample : Nat) :
    policy.base attempt * (basisPoints - policy.jitterBasisPoints.toNat) / basisPoints ≤
      policy.exactDelay attempt sample := by
  refine le_min ?_ (Nat.div_le_div_right (Nat.mul_le_mul_left _ (le_factor policy sample)))
  calc policy.base attempt * (basisPoints - policy.jitterBasisPoints.toNat) / basisPoints
      ≤ policy.base attempt * basisPoints / basisPoints :=
        Nat.div_le_div_right (Nat.mul_le_mul_left _ (Nat.sub_le _ _))
    _ = policy.base attempt := Nat.mul_div_cancel _ (by decide)
    _ ≤ policy.maximumDelay.nanos := base_le policy attempt

theorem exactDelay_le (hvalid : policy.Valid) (attempt : Nat) {sample : Nat}
    (h : sample ≤ 10000) :
    policy.exactDelay attempt sample ≤ min policy.maximumDelay.nanos
      (policy.base attempt * (basisPoints + policy.jitterBasisPoints.toNat) / basisPoints) :=
  min_le_min_left _ (Nat.div_le_div_right (Nat.mul_le_mul_left _ (factor_le hvalid h)))

/-! ## Where they meet -/

variable {attempt : UInt32} {entropySample : UInt16}

/-- The largest multiplier there is, of the longest delay. -/
theorem product_lt (hvalid : policy.Valid) {attempt : Nat} (h : attempt < 32) :
    policy.initialDelay.nanos * 2 ^ attempt < 2 ^ 64 * 10 ^ 9 := by
  have hinitial := le_trans hvalid.initial hvalid.maximum
  calc policy.initialDelay.nanos * 2 ^ attempt
      ≤ (3600 * 10 ^ 9) * 2 ^ 31 :=
        Nat.mul_le_mul hinitial (Nat.pow_le_pow_right (by decide) (by omega))
    _ < 2 ^ 64 * 10 ^ 9 := by decide

theorem backedOff_nanos (hvalid : policy.Valid) (h : attempt.toNat < 32) :
    (policy.backedOff attempt).nanos = policy.base attempt.toNat := by
  rw [backedOff, Word.one_checkedShl h]
  dsimp only [Option.getD_some]
  rw [Duration.checkedMul_eq (product_lt hvalid h), Option.getD_some, Duration.min_nanos]
  rfl

theorem jitteredNanos_eq (hvalid : policy.Valid) {base : Duration}
    (hbase : base.nanos ≤ 3600 * 10 ^ 9) (hsample : entropySample.toNat ≤ 10000) :
    policy.jitteredNanos base entropySample =
      .ok (base.nanos * policy.factor entropySample.toNat / basisPoints) := by
  have hjitter := hvalid.jitter
  have hfactor := factor_le hvalid hsample
  have hspread : 2 * policy.jitterBasisPoints.toNat * entropySample.toNat ≤ 2 * 5000 * 10000 :=
    Nat.mul_le_mul (Nat.mul_le_mul_left _ hjitter) hsample
  have hscaled : base.nanos * policy.factor entropySample.toNat ≤ (3600 * 10 ^ 9) * 15000 :=
    Nat.mul_le_mul hbase (by rw [basisPoints] at hfactor; omega)
  have hsum : basisPoints - policy.jitterBasisPoints.toNat +
      2 * policy.jitterBasisPoints.toNat * entropySample.toNat / basisPoints < 2 ^ 128 := by
    have hle : policy.factor entropySample.toNat < 2 ^ 128 := by
      rw [basisPoints] at hfactor
      omega
    exact hle
  rw [jitteredNanos, Word.sub_eq (by rw [basisPoints]; omega), ok_bind, Word.mul_eq (by omega),
    ok_bind, Word.mul_eq (by omega), ok_bind, Word.div_eq (by decide), ok_bind, Word.add_eq hsum,
    ok_bind]
  change (Word.mul 128 base.nanos (policy.factor entropySample.toNat) >>= fun product =>
    Word.div product basisPoints) = _
  rw [Word.mul_eq (by omega), ok_bind, Word.div_eq (by decide)]

theorem exactDelay_lt (hvalid : policy.Valid) (attempt sample : Nat) :
    policy.exactDelay attempt sample < 2 ^ 64 := by
  have hmaximum := hvalid.maximum
  have hle : policy.exactDelay attempt sample ≤ policy.maximumDelay.nanos := Nat.min_le_left _ _
  omega

theorem delay_none (hvalid : policy.validate = .ok ()) (hsample : entropySample ≤ 10000)
    (h : policy.maximumAttempts ≤ attempt) : policy.delay attempt entropySample = .ok none := by
  rw [delay, hvalid, ok_bind, reject, if_neg (UInt16.not_lt.mpr hsample), ok_bind, if_pos h]
  rfl

theorem delay_eq (hvalid : policy.validate = .ok ()) (hsample : entropySample ≤ 10000)
    (h : attempt < policy.maximumAttempts) :
    ∃ d, policy.delay attempt entropySample = .ok (some d) ∧
      d.nanos = policy.exactDelay attempt.toNat entropySample.toNat := by
  have hv := valid_of_validate hvalid
  have hattempt : attempt.toNat < 32 :=
    lt_of_lt_of_le (UInt32.lt_iff_toNat_lt.mp h) hv.attempts
  have hbacked := backedOff_nanos hv hattempt
  have hbound : (policy.backedOff attempt).nanos ≤ 3600 * 10 ^ 9 := by
    rw [hbacked]
    exact le_trans (base_le policy _) hv.maximum
  have hjittered := jitteredNanos_eq hv hbound (UInt16.le_iff_toNat_le.mp hsample)
  have hlt := exactDelay_lt hv attempt.toNat entropySample.toNat
  rw [delay, hvalid, ok_bind, reject, if_neg (UInt16.not_lt.mpr hsample), ok_bind,
    if_neg (UInt32.not_le.mpr h), hjittered, ok_bind]
  refine ⟨_, rfl, ?_⟩
  rw [hbacked, min_comm]
  change (UInt64.ofNat ((Word.tryFrom 64 (policy.exactDelay attempt.toNat
    entropySample.toNat)).getD _)).toNat = _
  rw [Word.tryFrom_eq hlt, Option.getD_some, UInt64.toNat_ofNat_of_lt' hlt]

/-- **Delays.** For a valid policy, the delays run out with the attempts.
Before that, no operation overflows or takes its fallback, and the delay is
the exact one, between the ends of the jitter and at most the maximum. It
never falls as the attempt or the sample grows. -/
theorem delay_exact (policy : BackoffPolicy) (hvalid : policy.validate = .ok ()) :
    (∀ attempt entropySample, entropySample ≤ 10000 →
      (policy.delay attempt entropySample = .ok none ↔ policy.maximumAttempts ≤ attempt)) ∧
    (∀ attempt entropySample, entropySample ≤ 10000 → attempt < policy.maximumAttempts →
      let j := policy.jitterBasisPoints.toNat
      let b := min (policy.initialDelay.nanos * 2 ^ attempt.toNat) policy.maximumDelay.nanos
      let f := 10000 - j + 2 * j * entropySample.toNat / 10000
      Word.checkedShl 32 1 attempt.toNat = some (2 ^ attempt.toNat) ∧
      (∃ product, policy.initialDelay.checkedMul (2 ^ attempt.toNat) = some product) ∧
      policy.jitteredNanos (policy.backedOff attempt) entropySample = .ok (b * f / 10000) ∧
      Word.tryFrom 64 (min (b * f / 10000) policy.maximumDelay.nanos) =
        some (min (b * f / 10000) policy.maximumDelay.nanos) ∧
      ∃ d, policy.delay attempt entropySample = .ok (some d) ∧
        d.nanos = min policy.maximumDelay.nanos (b * f / 10000) ∧
        b * (10000 - j) / 10000 ≤ d.nanos ∧
        d.nanos ≤ min policy.maximumDelay.nanos (b * (10000 + j) / 10000)) ∧
    ∀ attempt attempt' entropySample entropySample', attempt ≤ attempt' →
      attempt' < policy.maximumAttempts → entropySample ≤ entropySample' →
      entropySample' ≤ 10000 →
      ∃ d d', policy.delay attempt entropySample = .ok (some d) ∧
        policy.delay attempt' entropySample' = .ok (some d') ∧ d.nanos ≤ d'.nanos := by
  have hv := valid_of_validate hvalid
  refine ⟨fun attempt entropySample hsample => ⟨fun hnone => ?_, delay_none hvalid hsample⟩,
    fun attempt entropySample hsample h => ?_,
    fun attempt attempt' entropySample entropySample' hattempt h hsample hbound => ?_⟩
  · by_contra hle
    obtain ⟨d, hd, _⟩ := delay_eq hvalid hsample (UInt32.not_le.mp hle)
    rw [hd] at hnone
    cases hnone
  · have hattempt : attempt.toNat < 32 :=
      lt_of_lt_of_le (UInt32.lt_iff_toNat_lt.mp h) hv.attempts
    have hbacked := backedOff_nanos hv hattempt
    have hs := UInt16.le_iff_toNat_le.mp hsample
    obtain ⟨d, hd, hnanos⟩ := delay_eq hvalid hsample h
    refine ⟨Word.one_checkedShl hattempt, ⟨_, Duration.checkedMul_eq (product_lt hv hattempt)⟩,
      ?_, ?_, d, hd, hnanos, ?_, ?_⟩
    · rw [jitteredNanos_eq hv (by rw [hbacked]; exact le_trans (base_le policy _) hv.maximum) hs,
        hbacked]
      rfl
    · rw [min_comm]
      exact Word.tryFrom_eq (exactDelay_lt hv attempt.toNat entropySample.toNat)
    · rw [hnanos]
      exact le_exactDelay policy _ _
    · rw [hnanos]
      exact exactDelay_le hv _ hs
  · obtain ⟨d, hd, hnanos⟩ := delay_eq hvalid (UInt16.le_trans hsample hbound)
      (UInt32.lt_of_le_of_lt hattempt h)
    obtain ⟨d', hd', hnanos'⟩ := delay_eq hvalid hbound h
    refine ⟨d, d', hd, hd', ?_⟩
    rw [hnanos, hnanos']
    exact exactDelay_mono policy (UInt32.le_iff_toNat_le.mp hattempt)
      (UInt16.le_iff_toNat_le.mp hsample)

/-- The third attempt of a policy whose second cap takes effect. -/
theorem delay_exact_capped :
    let policy : BackoffPolicy := ⟨.ofNanos 3, .ofNanos 11, 4, 5000⟩
    ∃ d, policy.delay 2 9999 = .ok (some d) ∧ d.nanos = 11 := by
  obtain ⟨_, _, _, _, d, hd, hnanos, _⟩ :=
    (delay_exact ⟨.ofNanos 3, .ofNanos 11, 4, 5000⟩ (by decide)).2.1 2 9999 (by decide) (by decide)
  exact ⟨d, hd, hnanos.trans (by decide)⟩

end BackoffPolicy

end CyberiaVpn.Routing
