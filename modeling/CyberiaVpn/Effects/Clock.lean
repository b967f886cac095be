import Mathlib.Algebra.Group.Int.Defs
import Mathlib.Data.Int.Basic
import Mathlib.Data.Nat.Basic
import Mathlib.Order.Lattice
import CyberiaVpn.Effects.Arith

/-!
# Durations and instants

A duration is a number of nanoseconds that fits 64 bits of whole seconds,
an instant one that fits 63 bits and a sign. Both carry their bound, so
the checked operations return nothing exactly when the exact result has no
representation, and the difference of two instants is always a duration.
-/

namespace CyberiaVpn.Effects

structure Duration where
  nanos : Nat
  bound : nanos < 2 ^ 64 * 10 ^ 9
  deriving DecidableEq

namespace Duration

def ofNanos (n : UInt64) : Duration := ⟨n.toNat, lt_of_lt_of_le n.toNat_lt (by decide)⟩

def ofSecs (n : UInt64) : Duration :=
  ⟨n.toNat * 10 ^ 9, Nat.mul_lt_mul_of_pos_right n.toNat_lt (by decide)⟩

def checkedMul (d : Duration) (n : Nat) : Option Duration :=
  if h : d.nanos * n < 2 ^ 64 * 10 ^ 9 then some ⟨d.nanos * n, h⟩ else none

protected def min (d e : Duration) : Duration := if d.nanos ≤ e.nanos then d else e

theorem checkedMul_eq {d : Duration} {n : Nat} (h : d.nanos * n < 2 ^ 64 * 10 ^ 9) :
    d.checkedMul n = some ⟨d.nanos * n, h⟩ := dif_pos h

@[simp]
theorem min_nanos (d e : Duration) : (d.min e).nanos = min d.nanos e.nanos := by
  rw [Duration.min]
  split
  · next h => exact (Nat.min_eq_left h).symm
  · next h => exact (Nat.min_eq_right (Nat.le_of_not_le h)).symm

end Duration

structure Instant where
  nanos : Int
  lower : -(2 ^ 63 * 10 ^ 9) ≤ nanos
  upper : nanos < 2 ^ 63 * 10 ^ 9
  deriving DecidableEq

namespace Instant

/-- The clock of a host that has just been started. -/
def epoch : Instant := ⟨0, by decide, by decide⟩

def checkedAdd (t : Instant) (d : Duration) : Option Instant :=
  if h : t.nanos + d.nanos < 2 ^ 63 * 10 ^ 9 then
    some ⟨t.nanos + d.nanos, by have := t.lower; omega, h⟩
  else none

/-- `+` of so many nanoseconds: it panics where the checked operation
returns nothing. -/
def add {ε : Type} (t : Instant) (nanos : Nat) : Except (Fault ε) Instant :=
  if h : t.nanos + nanos < 2 ^ 63 * 10 ^ 9 then
    .ok ⟨t.nanos + nanos, by have := t.lower; omega, h⟩
  else .error .panic

/-- The time that has passed since `earlier`, none if it is in the future. -/
def saturatingDurationSince (t earlier : Instant) : Duration :=
  ⟨(t.nanos - earlier.nanos).toNat, by
    have := t.upper
    have := earlier.lower
    omega⟩

variable {t t' : Instant} {d : Duration}

theorem add_eq_ok {ε : Type} {n : Nat} (h : t.nanos + n < 2 ^ 63 * 10 ^ 9) :
    ∃ t', (t.add n : Except (Fault ε) Instant) = .ok t' := ⟨_, dif_pos h⟩

theorem add_eq_panic {ε : Type} {n : Nat} (h : ¬t.nanos + n < 2 ^ 63 * 10 ^ 9) :
    (t.add n : Except (Fault ε) Instant) = .error .panic := dif_neg h

theorem checkedAdd_eq_some :
    t.checkedAdd d = some t' ↔ t'.nanos = t.nanos + d.nanos := by
  unfold checkedAdd
  constructor
  · intro h
    split at h
    · cases h
      rfl
    · cases h
  · intro h
    have hfits : t.nanos + d.nanos < 2 ^ 63 * 10 ^ 9 := by rw [← h]; exact t'.upper
    rw [dif_pos hfits]
    obtain ⟨nanos, lower, upper⟩ := t'
    cases h
    rfl

theorem checkedAdd_eq_none :
    t.checkedAdd d = none ↔ 2 ^ 63 * 10 ^ 9 ≤ t.nanos + d.nanos := by
  unfold checkedAdd
  by_cases h : t.nanos + d.nanos < 2 ^ 63 * 10 ^ 9
  · rw [dif_pos h]
    exact iff_of_false (fun hn => by cases hn) (Int.not_le.mpr h)
  · rw [dif_neg h]
    exact iff_of_true rfl (Int.not_lt.mp h)

end Instant

end CyberiaVpn.Effects
