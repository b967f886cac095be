import Mathlib.Data.Nat.Basic
import Mathlib.Tactic.Linarith
import Mathlib.Algebra.Order.Group.Nat
import Mathlib.Tactic.GCongr
import CyberiaVpn.Effects.Arith
import CyberiaVpn.Effects.Validate

/-!
# Scoring a node

`RoutingPolicy::score` of `core/routing/src/lib.rs`. Four measurements are
each turned into a quality between 0 and 10000, and the score is their
weighted average, rounded down. Everything is unsigned machine arithmetic:
`score` is written with the operations that panic, and `quality` is the
same number in exact arithmetic.

`score_eq` is the one place where the two meet. That no operation
overflows, that the result is bounded and that better measurements never
lower it are then facts about `quality`.
-/

namespace CyberiaVpn.Routing

open Effects

def qualityMax : Nat := 10000

structure Measurements where
  available : Bool
  latencyMs : UInt32
  jitterMs : UInt32
  packetLossBasisPoints : UInt16
  availableBandwidthMbps : UInt32
  deriving DecidableEq

structure ScoreWeights where
  latency : UInt16 := 40
  jitter : UInt16 := 15
  packetLoss : UInt16 := 30
  bandwidth : UInt16 := 15

structure ScoreLimits where
  maximumLatencyMs : UInt32 := 1000
  maximumJitterMs : UInt32 := 500
  targetBandwidthMbps : UInt32 := 100

structure RoutingPolicy where
  weights : ScoreWeights := {}
  limits : ScoreLimits := {}

inductive RoutingError where
  | invalidPolicy (reason : String)
  | invalidMeasurements (reason : String)
  | noAvailableNodes
  deriving DecidableEq

/-! ## The source's functions -/

variable {ε : Type}

def inverseQuality (value maximum : UInt32) : Except (Fault ε) Nat := do
  let normalized ← Word.div (← Word.mul 64 value.toNat qualityMax) maximum.toNat
  return qualityMax - (Word.tryFrom 32 normalized).getD (2 ^ 32 - 1)

def directQuality (value target : UInt32) : Except (Fault ε) Nat := do
  let normalized ← Word.div (← Word.mul 64 value.toNat qualityMax) target.toNat
  return min ((Word.tryFrom 32 normalized).getD (2 ^ 32 - 1)) qualityMax

namespace RoutingPolicy

def totalWeight (policy : RoutingPolicy) : Except (Fault ε) Nat := do
  let sum ← Word.add 32 policy.weights.latency.toNat policy.weights.jitter.toNat
  let sum ← Word.add 32 sum policy.weights.packetLoss.toNat
  Word.add 32 sum policy.weights.bandwidth.toNat

def validate (policy : RoutingPolicy) : Except (Fault RoutingError) Unit := do
  let totalWeight ← policy.totalWeight
  reject (totalWeight = 0) (.error (.invalidPolicy "all weights are zero"))
  reject (policy.limits.maximumLatencyMs = 0 ∨ policy.limits.maximumJitterMs = 0 ∨
    policy.limits.targetBandwidthMbps = 0)
    (.error (.invalidPolicy "normalization limits must be non-zero"))

/-- The average of an available node, before it is converted back to 32
bits. -/
def weightedAverage (policy : RoutingPolicy) (m : Measurements) :
    Except (Fault RoutingError) Nat := do
  let latency ← inverseQuality m.latencyMs policy.limits.maximumLatencyMs
  let jitter ← inverseQuality m.jitterMs policy.limits.maximumJitterMs
  let loss ← Word.sub qualityMax m.packetLossBasisPoints.toNat
  let bandwidth ← directQuality m.availableBandwidthMbps policy.limits.targetBandwidthMbps
  let totalWeight ← policy.totalWeight
  let sum ← Word.mul 64 latency policy.weights.latency.toNat
  let sum ← Word.add 64 sum (← Word.mul 64 jitter policy.weights.jitter.toNat)
  let sum ← Word.add 64 sum (← Word.mul 64 loss policy.weights.packetLoss.toNat)
  let sum ← Word.add 64 sum (← Word.mul 64 bandwidth policy.weights.bandwidth.toNat)
  Word.div sum totalWeight

def score (policy : RoutingPolicy) (m : Measurements) : Except (Fault RoutingError) Nat := do
  policy.validate
  if !m.available then
    return 0
  else
    reject (10000 < m.packetLossBasisPoints)
      (.error (.invalidMeasurements "packet loss exceeds 100 percent"))
    return (Word.tryFrom 32 (← policy.weightedAverage m)).getD qualityMax

end RoutingPolicy

/-! ## The same in exact arithmetic -/

/-- A value that is better the smaller it is. -/
def inverse (value maximum : Nat) : Nat := qualityMax - value * qualityMax / maximum

/-- A value that is better the larger it is. -/
def direct (value target : Nat) : Nat := min (value * qualityMax / target) qualityMax

namespace RoutingPolicy

def weight (policy : RoutingPolicy) : Nat :=
  policy.weights.latency.toNat + policy.weights.jitter.toNat + policy.weights.packetLoss.toNat +
    policy.weights.bandwidth.toNat

def weightedSum (policy : RoutingPolicy) (m : Measurements) : Nat :=
  inverse m.latencyMs.toNat policy.limits.maximumLatencyMs.toNat * policy.weights.latency.toNat +
  inverse m.jitterMs.toNat policy.limits.maximumJitterMs.toNat * policy.weights.jitter.toNat +
  (qualityMax - m.packetLossBasisPoints.toNat) * policy.weights.packetLoss.toNat +
  direct m.availableBandwidthMbps.toNat policy.limits.targetBandwidthMbps.toNat *
    policy.weights.bandwidth.toNat

def quality (policy : RoutingPolicy) (m : Measurements) : Nat :=
  policy.weightedSum m / policy.weight

/-- Some weight is assigned and no limit is zero. -/
structure Valid (policy : RoutingPolicy) : Prop where
  weight : policy.weight ≠ 0
  latency : policy.limits.maximumLatencyMs ≠ 0
  jitter : policy.limits.maximumJitterMs ≠ 0
  bandwidth : policy.limits.targetBandwidthMbps ≠ 0

end RoutingPolicy

theorem inverse_le (value maximum : Nat) : inverse value maximum ≤ qualityMax := Nat.sub_le _ _

theorem direct_le (value target : Nat) : direct value target ≤ qualityMax := Nat.min_le_right _ _

/-! ## Where they meet -/

theorem scaled_lt (value : UInt32) : value.toNat * qualityMax < 2 ^ 64 := by
  have := value.toNat_lt
  rw [qualityMax]
  omega

theorem toNat_ne_zero {n : UInt32} (h : n ≠ 0) : n.toNat ≠ 0 := by
  intro hzero
  exact h (UInt32.toNat.inj hzero)

theorem inverseQuality_eq {value maximum : UInt32} (h : maximum ≠ 0) :
    (inverseQuality value maximum : Except (Fault ε) Nat) =
      .ok (inverse value.toNat maximum.toNat) := by
  have hfallback : qualityMax - (Word.tryFrom 32 (value.toNat * qualityMax / maximum.toNat)).getD
      (2 ^ 32 - 1) = inverse value.toNat maximum.toNat := by
    have hmin := Word.min_getD_tryFrom (w := 32) (a := value.toNat * qualityMax / maximum.toNat)
      (m := qualityMax) (by decide)
    rw [inverse]
    omega
  rw [inverseQuality, Word.mul_eq (scaled_lt value), ok_bind, Word.div_eq (toNat_ne_zero h), ok_bind,
    hfallback]
  rfl

theorem directQuality_eq {value target : UInt32} (h : target ≠ 0) :
    (directQuality value target : Except (Fault ε) Nat) =
      .ok (direct value.toNat target.toNat) := by
  have hfallback : min ((Word.tryFrom 32 (value.toNat * qualityMax / target.toNat)).getD
      (2 ^ 32 - 1)) qualityMax = direct value.toNat target.toNat := by
    rw [min_comm, Word.min_getD_tryFrom (by decide), min_comm]
    rfl
  rw [directQuality, Word.mul_eq (scaled_lt value), ok_bind, Word.div_eq (toNat_ne_zero h), ok_bind,
    hfallback]
  rfl

namespace RoutingPolicy

variable {policy : RoutingPolicy} {m m' : Measurements}

theorem totalWeight_eq (policy : RoutingPolicy) :
    (policy.totalWeight : Except (Fault ε) Nat) = .ok policy.weight := by
  have hl := policy.weights.latency.toNat_lt
  have hj := policy.weights.jitter.toNat_lt
  have hp := policy.weights.packetLoss.toNat_lt
  have hb := policy.weights.bandwidth.toNat_lt
  rw [totalWeight, Word.add_eq (by omega), ok_bind, Word.add_eq (by omega), ok_bind,
    Word.add_eq (by omega), weight]

/-- Validation never panics. -/
theorem validate_eq (policy : RoutingPolicy) :
    policy.validate =
      (reject (policy.weight = 0) (.error (.invalidPolicy "all weights are zero")) >>= fun _ =>
        reject (policy.limits.maximumLatencyMs = 0 ∨ policy.limits.maximumJitterMs = 0 ∨
          policy.limits.targetBandwidthMbps = 0)
          (.error (.invalidPolicy "normalization limits must be non-zero"))) := by
  rw [validate, totalWeight_eq, ok_bind]

theorem validate_eq_ok : policy.validate = .ok () ↔ policy.Valid := by
  rw [validate_eq, andThen_eq_ok, reject_eq_ok, reject_eq_ok]
  constructor
  · rintro ⟨hweight, hlimits⟩
    exact ⟨hweight, fun h => hlimits (Or.inl h), fun h => hlimits (Or.inr (Or.inl h)),
      fun h => hlimits (Or.inr (Or.inr h))⟩
  · rintro ⟨hweight, hlatency, hjitter, hbandwidth⟩
    exact ⟨hweight, fun h => h.elim hlatency fun h => h.elim hjitter hbandwidth⟩

/-- Each quality is at most 10000, so the sum is at most that many times
the total weight. -/
theorem weightedSum_le (policy : RoutingPolicy) (m : Measurements) :
    policy.weightedSum m ≤ qualityMax * policy.weight := by
  have hlatency := Nat.mul_le_mul_right policy.weights.latency.toNat
    (inverse_le m.latencyMs.toNat policy.limits.maximumLatencyMs.toNat)
  have hjitter := Nat.mul_le_mul_right policy.weights.jitter.toNat
    (inverse_le m.jitterMs.toNat policy.limits.maximumJitterMs.toNat)
  have hloss := Nat.mul_le_mul_right policy.weights.packetLoss.toNat
    (Nat.sub_le qualityMax m.packetLossBasisPoints.toNat)
  have hbandwidth := Nat.mul_le_mul_right policy.weights.bandwidth.toNat
    (direct_le m.availableBandwidthMbps.toNat policy.limits.targetBandwidthMbps.toNat)
  rw [weightedSum, weight, Nat.mul_add, Nat.mul_add, Nat.mul_add]
  omega

theorem quality_le (policy : RoutingPolicy) (m : Measurements) :
    policy.quality m ≤ qualityMax := by
  rcases Nat.eq_zero_or_pos policy.weight with hzero | hpos
  · rw [quality, hzero, Nat.div_zero]
    exact Nat.zero_le _
  · rw [quality]
    exact Nat.div_le_of_le_mul (by rw [Nat.mul_comm]; exact weightedSum_le policy m)

theorem part_lt {part : Nat} (h : part ≤ qualityMax) (weight : UInt16) :
    part * weight.toNat < 2 ^ 32 := by
  have hle := Nat.mul_le_mul h (Nat.le_of_lt_succ weight.toNat_lt)
  rw [qualityMax] at hle
  omega

theorem weightedAverage_eq (hvalid : policy.Valid)
    (hloss : m.packetLossBasisPoints.toNat ≤ qualityMax) :
    policy.weightedAverage m = .ok (policy.quality m) := by
  have hl := part_lt (inverse_le m.latencyMs.toNat policy.limits.maximumLatencyMs.toNat)
    policy.weights.latency
  have hj := part_lt (inverse_le m.jitterMs.toNat policy.limits.maximumJitterMs.toNat)
    policy.weights.jitter
  have hp := part_lt (Nat.sub_le qualityMax m.packetLossBasisPoints.toNat)
    policy.weights.packetLoss
  have hb := part_lt
    (direct_le m.availableBandwidthMbps.toNat policy.limits.targetBandwidthMbps.toNat)
    policy.weights.bandwidth
  simp only [weightedAverage, inverseQuality_eq hvalid.latency, inverseQuality_eq hvalid.jitter,
    Word.sub_eq hloss, directQuality_eq hvalid.bandwidth, totalWeight_eq, ok_bind]
  rw [Word.mul_eq (by omega), ok_bind, Word.mul_eq (by omega), ok_bind, Word.add_eq (by omega),
    ok_bind, Word.mul_eq (by omega), ok_bind, Word.add_eq (by omega), ok_bind,
    Word.mul_eq (by omega), ok_bind, Word.add_eq (by omega), ok_bind, Word.div_eq hvalid.weight]
  rfl

theorem loss_le (h : ¬10000 < m.packetLossBasisPoints) :
    m.packetLossBasisPoints.toNat ≤ qualityMax := by
  rw [UInt16.lt_iff_toNat_lt, Nat.not_lt] at h
  exact h

/-- What `score` computes: the checks in their order, then the exact
average. -/
theorem score_eq (policy : RoutingPolicy) (m : Measurements) :
    policy.score m = (policy.validate >>= fun _ =>
      if m.available = true then
        reject (10000 < m.packetLossBasisPoints)
          (.error (.invalidMeasurements "packet loss exceeds 100 percent")) >>= fun _ =>
        .ok (policy.quality m)
      else .ok 0) := by
  rw [score]
  cases hvalidate : policy.validate with
  | error e => rfl
  | ok _ =>
      rw [ok_bind, ok_bind]
      cases m.available with
      | false => rfl
      | true =>
          by_cases hloss : 10000 < m.packetLossBasisPoints
          · simp only [reject, if_pos hloss]
            rfl
          · have hquality := quality_le policy m
            simp only [reject, if_neg hloss, ok_bind,
              weightedAverage_eq (validate_eq_ok.mp hvalidate) (loss_le hloss),
              Word.tryFrom_eq (a := policy.quality m) (w := 32) (by rw [qualityMax] at hquality; omega)]
            rfl

/-- The score of an available node that can be scored. -/
theorem score_available (hvalid : policy.Valid) (havailable : m.available = true)
    (hloss : m.packetLossBasisPoints.toNat ≤ qualityMax) :
    policy.score m = .ok (policy.quality m) := by
  have hle : ¬10000 < m.packetLossBasisPoints := by
    rw [UInt16.lt_iff_toNat_lt, Nat.not_lt]
    exact hloss
  rw [score_eq, validate_eq_ok.mpr hvalid, ok_bind, if_pos havailable, reject, if_neg hle, ok_bind]

theorem score_le {s : Nat} (h : policy.score m = .ok s) : s ≤ qualityMax := by
  rw [score_eq] at h
  obtain ⟨-, -, h⟩ := bind_eq_ok.mp h
  split at h
  · obtain ⟨-, -, h⟩ := bind_eq_ok.mp h
    cases h
    exact quality_le policy m
  · cases h
    exact Nat.zero_le _

/-! ## Better measurements -/

/-- `m'` is at least as good as `m` in every respect. -/
structure NoWorse (m m' : Measurements) : Prop where
  latency : m'.latencyMs ≤ m.latencyMs
  jitter : m'.jitterMs ≤ m.jitterMs
  loss : m'.packetLossBasisPoints ≤ m.packetLossBasisPoints
  bandwidth : m.availableBandwidthMbps ≤ m'.availableBandwidthMbps

theorem inverse_anti {value value' : Nat} (h : value' ≤ value) (maximum : Nat) :
    inverse value maximum ≤ inverse value' maximum :=
  Nat.sub_le_sub_left (Nat.div_le_div_right (Nat.mul_le_mul_right _ h)) _

theorem direct_mono {value value' : Nat} (h : value ≤ value') (target : Nat) :
    direct value target ≤ direct value' target :=
  min_le_min_right _ (Nat.div_le_div_right (Nat.mul_le_mul_right _ h))

theorem quality_mono (h : NoWorse m m') (policy : RoutingPolicy) :
    policy.quality m ≤ policy.quality m' := by
  refine Nat.div_le_div_right ?_
  rw [weightedSum, weightedSum]
  refine Nat.add_le_add (Nat.add_le_add (Nat.add_le_add ?_ ?_) ?_) ?_ <;>
    refine Nat.mul_le_mul_right _ ?_
  · exact inverse_anti (UInt32.le_iff_toNat_le.mp h.latency) _
  · exact inverse_anti (UInt32.le_iff_toNat_le.mp h.jitter) _
  · exact Nat.sub_le_sub_left (UInt16.le_iff_toNat_le.mp h.loss) _
  · exact direct_mono (UInt32.le_iff_toNat_le.mp h.bandwidth) _

/-- **Scoring.** For a valid policy and measurements with a possible loss,
no operation panics; the average is at most 10000, so it fits into 32 bits
and is the score of a node that is available; and measurements that are no
worse never have a lower score. -/
theorem score_bounded_monotone (policy : RoutingPolicy) (hvalid : policy.validate = .ok ()) :
    (∀ m : Measurements, m.packetLossBasisPoints ≤ 10000 →
      ∃ q, policy.weightedAverage m = .ok q ∧ q ≤ 10000 ∧ Word.tryFrom 32 q = some q ∧
        policy.score m = .ok (if m.available then q else 0)) ∧
    ∀ m m' : Measurements, m.packetLossBasisPoints ≤ 10000 → m.available = true →
      m'.available = true → NoWorse m m' →
      ∃ s s', policy.score m = .ok s ∧ policy.score m' = .ok s' ∧ s ≤ s' := by
  have hv := validate_eq_ok.mp hvalid
  constructor
  · intro m hm
    have hloss : m.packetLossBasisPoints.toNat ≤ qualityMax := UInt16.le_iff_toNat_le.mp hm
    have hle : policy.quality m ≤ 10000 := quality_le policy m
    refine ⟨policy.quality m, weightedAverage_eq hv hloss, hle, Word.tryFrom_eq (by omega), ?_⟩
    by_cases havailable : m.available = true
    · rw [score_available hv havailable hloss, if_pos havailable]
    · rw [score_eq, hvalid, ok_bind, if_neg havailable, if_neg havailable]
  · intro m m' hm havailable havailable' h
    have hloss : m.packetLossBasisPoints.toNat ≤ qualityMax := UInt16.le_iff_toNat_le.mp hm
    have hloss' : m'.packetLossBasisPoints.toNat ≤ qualityMax :=
      le_trans (UInt16.le_iff_toNat_le.mp h.loss) hloss
    exact ⟨_, _, score_available hv havailable hloss, score_available hv havailable' hloss',
      quality_mono h policy⟩

/-- With limits of one millisecond and one megabit, and the slowest
measurements there are. -/
theorem score_bounded_monotone_extreme :
    let policy : RoutingPolicy := { limits := ⟨1, 1, 1⟩ }
    let slow : Measurements := ⟨true, 0xffffffff, 0xffffffff, 10000, 0⟩
    let fast : Measurements := ⟨true, 0, 0, 0, 0xffffffff⟩
    policy.score slow = .ok 0 ∧ policy.score fast = .ok 10000 ∧
      ∃ s s', policy.score slow = .ok s ∧ policy.score fast = .ok s' ∧ s ≤ s' :=
  ⟨by decide +kernel, by decide +kernel,
    (score_bounded_monotone { limits := ⟨1, 1, 1⟩ } (by decide)).2 ⟨true, 0xffffffff, 0xffffffff,
      10000, 0⟩ ⟨true, 0, 0, 0, 0xffffffff⟩ (by decide) rfl rfl
      ⟨by decide, by decide, by decide, by decide⟩⟩

end RoutingPolicy

end CyberiaVpn.Routing
