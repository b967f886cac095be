import Mathlib.Algebra.Group.Nat.Defs
import Mathlib.Data.Nat.Basic

/-!
# Machine arithmetic that may panic

Unsigned operations of a given width over the exact natural numbers. An
operation whose exact result does not fit, a subtraction that would go
below zero and a division by zero panic, which a caller cannot handle;
`Fault` keeps that outcome apart from the errors a function returns. The
lemmas say when nothing of the kind happens: the result is then the exact
one, and a computation turns into arithmetic.
-/

namespace CyberiaVpn.Effects

/-- How a call that may panic ends when it does not return. -/
inductive Fault (ε : Type) where
  | panic
  | error (error : ε)
  deriving DecidableEq

def Fault.map {ε δ : Type} (g : ε → δ) : Fault ε → Fault δ
  | panic => panic
  | error e => error (g e)

namespace Word

variable {ε : Type} {w a b : Nat}

/-- The exact result of an operation on words of `w` bits. -/
def fit (w n : Nat) : Except (Fault ε) Nat := if n < 2 ^ w then .ok n else .error .panic

def add (w a b : Nat) : Except (Fault ε) Nat := fit w (a + b)

def mul (w a b : Nat) : Except (Fault ε) Nat := fit w (a * b)

def sub (a b : Nat) : Except (Fault ε) Nat := if b ≤ a then .ok (a - b) else .error .panic

def div (a b : Nat) : Except (Fault ε) Nat := if b = 0 then .error .panic else .ok (a / b)

/-- `<<`: a shift by all the bits of a word or more panics. -/
def shl {w : Nat} (x : BitVec w) (n : Nat) : Except (Fault ε) (BitVec w) :=
  if n < w then .ok (x <<< n) else .error .panic

/-- `try_from` into words of `w` bits. -/
def tryFrom (w n : Nat) : Option Nat := if n < 2 ^ w then some n else none

/-- `checked_shl` of words of `w` bits: only a shift by all of them or
more is refused. -/
def checkedShl (w a n : Nat) : Option Nat := if n < w then some (a * 2 ^ n % 2 ^ w) else none

def saturatingAdd (w a b : Nat) : Nat := min (a + b) (2 ^ w - 1)

theorem add_eq (h : a + b < 2 ^ w) : (add w a b : Except (Fault ε) Nat) = .ok (a + b) := if_pos h

theorem mul_eq (h : a * b < 2 ^ w) : (mul w a b : Except (Fault ε) Nat) = .ok (a * b) := if_pos h

theorem sub_eq (h : b ≤ a) : (sub a b : Except (Fault ε) Nat) = .ok (a - b) := if_pos h

theorem div_eq (h : b ≠ 0) : (div a b : Except (Fault ε) Nat) = .ok (a / b) := if_neg h

theorem shl_eq {x : BitVec w} {n : Nat} (h : n < w) :
    (shl x n : Except (Fault ε) (BitVec w)) = .ok (x <<< n) := if_pos h

theorem tryFrom_eq (h : a < 2 ^ w) : tryFrom w a = some a := if_pos h

theorem one_checkedShl {n : Nat} (h : n < w) : checkedShl w 1 n = some (2 ^ n) := by
  rw [checkedShl, if_pos h, Nat.one_mul, Nat.mod_eq_of_lt (Nat.pow_lt_pow_right (by decide) h)]

/-- Below the limit, saturation does not show. -/
theorem saturatingAdd_le {m : Nat} (h : m < 2 ^ w - 1) : saturatingAdd w a b ≤ m ↔ a + b ≤ m := by
  rw [saturatingAdd]
  omega

/-- The fallback of a conversion lies above everything that fits. -/
theorem min_getD_tryFrom {m : Nat} (h : m < 2 ^ w) :
    min m ((tryFrom w a).getD (2 ^ w - 1)) = min m a := by
  unfold tryFrom
  split
  · rfl
  · simp only [Option.getD_none]
    omega

end Word

end CyberiaVpn.Effects
