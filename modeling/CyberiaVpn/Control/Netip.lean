import Mathlib.Algebra.Group.Int.Defs
import Mathlib.Algebra.Group.Nat.Defs
import Mathlib.Data.List.Basic

/-!
# Addresses and instants of the control plane

The parts of Go's `net/netip` and `time` that
`services/control-api/internal/configuration` uses. A Go string is its
bytes. An address is invalid, IPv4 or IPv6 with a zone; a prefix never
has a zone and its length fits its address, because the package has no
way to build one that does not.

An instant is a second count since year 1 in the range of `int64` and a
nanosecond count, without location and without a monotonic reading.
-/

namespace CyberiaVpn.Control

abbrev Text := List UInt8

/-- The bytes of a literal. -/
def ascii (s : String) : Text := s.toList.map fun c => UInt8.ofNat c.toNat

/-! ## `netip` -/

inductive Addr where
  | zero
  | v4 (bits : BitVec 32)
  | v6 (bits : BitVec 128) (zone : Text)
  deriving DecidableEq

namespace Addr

def isValid : Addr → Bool
  | zero => false
  | _ => true

def zone : Addr → Text
  | v6 _ zone => zone
  | _ => []

def is4In6 : Addr → Bool
  | v6 bits _ => bits >>> 32 == 0xffff
  | _ => false

/-- An IPv4-mapped address loses its zone with the mapping. -/
def unmap : Addr → Addr
  | v6 bits zone => if bits >>> 32 = 0xffff then v4 (bits.setWidth 32) else v6 bits zone
  | a => a

def isUnspecified (a : Addr) : Bool := a = v4 0 || a = v6 0 []

def isMulticast (a : Addr) : Bool :=
  match a.unmap with
  | zero => false
  | v4 bits => bits >>> 28 == 0xe
  | v6 bits _ => bits >>> 120 == 0xff

def bitLen : Addr → Nat
  | zero => 0
  | v4 _ => 32
  | v6 _ _ => 128

/-- The first `b` bits, without the zone. -/
def mask (b : Nat) : Addr → Addr
  | zero => zero
  | v4 bits => v4 (bits &&& (BitVec.allOnes 32 <<< (32 - b)))
  | v6 bits _ => v6 (bits &&& (BitVec.allOnes 128 <<< (128 - b))) []

theorem isValid_unmap (a : Addr) : a.unmap.isValid = a.isValid := by
  cases a with
  | zero => rfl
  | v4 _ => rfl
  | v6 bits zone =>
      rw [unmap]
      split <;> rfl

end Addr

structure AddrPort where
  addr : Addr
  port : UInt16
  deriving DecidableEq

def AddrPort.isValid (a : AddrPort) : Bool := a.addr.isValid

structure Prefix where
  addr : Addr
  bits : Option Nat
  inRange : ∀ b, bits = some b → addr.isValid = true ∧ b ≤ addr.bitLen
  unscoped : addr.zone = []
  deriving DecidableEq

namespace Prefix

def isValid (p : Prefix) : Bool := p.bits.isSome

def zero : Prefix := ⟨.zero, none, nofun, rfl⟩

def masked (p : Prefix) : Prefix :=
  match h : p.bits with
  | none => zero
  | some b =>
      { addr := p.addr.mask b
        bits := some b
        inRange := by
          rintro _ ⟨⟩
          have hrange := p.inRange b h
          cases ha : p.addr <;> rw [ha] at hrange <;> exact hrange
        unscoped := by cases p.addr <;> rfl }

end Prefix

/-! ## `time` -/

structure Time where
  sec : Int
  nsec : Nat
  sec_range : -(2 ^ 63) ≤ sec ∧ sec < 2 ^ 63
  nsec_lt : nsec < 10 ^ 9
  deriving DecidableEq

namespace Time

def nanos (t : Time) : Int := t.sec * 10 ^ 9 + t.nsec

def isZero (t : Time) : Bool := t.sec = 0 && t.nsec = 0

def after (t u : Time) : Bool := u.nanos < t.nanos

/-- `t.Sub(u)` in nanoseconds, saturating at the range of `Duration`. -/
def sub (t u : Time) : Int := max (-(2 ^ 63)) (min (2 ^ 63 - 1) (t.nanos - u.nanos))

/-- `t.Add(d)`; the seconds saturate. -/
def add (t : Time) (d : Int) : Time where
  sec := max (-(2 ^ 63 - 1)) (min (2 ^ 63 - 1) ((t.nanos + d) / 10 ^ 9))
  nsec := ((t.nanos + d) % 10 ^ 9).toNat
  sec_range := by omega
  nsec_lt := by omega

/-- `uint64(t.Unix())`. -/
def unix64 (t : Time) : Nat := ((t.sec - 62135596800) % 2 ^ 64).toNat

theorem unix64_lt (t : Time) : t.unix64 < 2 ^ 64 := by
  unfold unix64
  omega

/-- The two numbers a message carries determine the instant. -/
theorem ext_unix64 {t u : Time} (hsec : t.unix64 = u.unix64) (hnsec : t.nsec = u.nsec) :
    t = u := by
  obtain ⟨s, n, hs, hn⟩ := t
  obtain ⟨s', n', hs', hn'⟩ := u
  simp only [unix64] at hsec
  obtain rfl : s = s' := by omega
  obtain rfl : n = n' := hnsec
  rfl

end Time

/-- An instant so many seconds after 2 January 2026. -/
def exampleTime (seconds : UInt32) : Time where
  sec := 63902908800 + seconds.toNat
  nsec := 0
  sec_range := by
    have := seconds.toNat_lt
    omega
  nsec_lt := by decide

end CyberiaVpn.Control
