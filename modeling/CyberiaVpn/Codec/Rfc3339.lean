import Mathlib.Algebra.Group.Nat.Defs
import Mathlib.Data.List.Basic
import Mathlib.Data.List.DropRight

/-!
# Timestamps

Instants in the format of RFC 3339 as Go's `time.Time` writes them to JSON:
a date and a time of day at some offset from UTC, fractions of a second
without trailing zeros. An instant is a number of seconds since the
beginning of the year 1 and of nanoseconds past it. Years with more than
four digits and offsets of a day or more have no such text.
-/

namespace CyberiaVpn.Codec.Rfc3339

/-- The last `k` decimal digits of a number. -/
def padded (k n : Nat) : List UInt8 :=
  (List.range k).reverse.map fun i => UInt8.ofNat (48 + n / 10 ^ i % 10)

/-- Year, month and day of the month, from the number of days since the
first one of the year 1. Years begin in March here, so that a leap day is
the last one of its year, and eras of 400 years repeat. -/
def date (day : Int) : Int × Nat × Nat :=
  let march := day + 306
  let ofEra := (march % 146097).toNat
  let yearOfEra := (ofEra - ofEra / 1460 + ofEra / 36524 - ofEra / 146096) / 365
  let ofYear := ofEra - (365 * yearOfEra + yearOfEra / 4 - yearOfEra / 100)
  let m := (5 * ofYear + 2) / 153
  let year := march / 146097 * 400 + yearOfEra
  (if m < 10 then year else year + 1, if m < 10 then m + 3 else m - 9,
    ofYear - (153 * m + 2) / 5 + 1)

def fraction (nsec : Nat) : List UInt8 :=
  match (padded 9 nsec).rdropWhile (· = 48) with
  | [] => []
  | digits => 46 :: digits

/-- An offset in seconds, in hours and minutes. -/
def zone (offset : Int) : List UInt8 :=
  if offset = 0 then [90]
  else
    (if offset ≤ -60 then 45 else 43) :: padded 2 (offset.natAbs / 3600) ++
      58 :: padded 2 (offset.natAbs / 60 % 60)

inductive TimeError where
  | year
  | zoneHour
  deriving DecidableEq

/-- The year at the offset has four digits and the offset is less than a
day. -/
structure HasText (offset sec : Int) : Prop where
  year : 0 ≤ (date ((sec + offset) / 86400)).1 ∧ (date ((sec + offset) / 86400)).1 ≤ 9999
  zone : offset.natAbs / 3600 < 24

/-- `Time.MarshalJSON`, without the quotes. -/
def timestamp (offset sec : Int) (nsec : Nat) : Except TimeError (List UInt8) :=
  let here := sec + offset
  let (year, month, day) := date (here / 86400)
  let clock := (here % 86400).toNat
  if year < 0 ∨ 9999 < year then .error .year
  else if 24 ≤ offset.natAbs / 3600 then .error .zoneHour
  else
    .ok (padded 4 year.toNat ++ 45 :: padded 2 month ++ 45 :: padded 2 day ++
      84 :: padded 2 (clock / 3600) ++ 58 :: padded 2 (clock / 60 % 60) ++
      58 :: padded 2 (clock % 60) ++ fraction nsec ++ zone offset)

theorem length_padded (k n : Nat) : (padded k n).length = k := by
  simp [padded]

theorem length_fraction (nsec : Nat) : (fraction nsec).length ≤ 10 := by
  have hkept := (List.rdropWhile_prefix (fun b : UInt8 => decide (b = 48))
    (l := padded 9 nsec)).length_le
  rw [length_padded] at hkept
  rw [fraction]
  split
  · simp
  · exact Nat.succ_le_succ hkept

theorem length_zone (offset : Int) : (zone offset).length ≤ 6 := by
  rw [zone]
  split <;> simp [length_padded]

theorem length_timestamp {offset sec : Int} {nsec : Nat} {text : List UInt8}
    (h : timestamp offset sec nsec = .ok text) : text.length ≤ 35 := by
  have hfraction := length_fraction nsec
  have hzone := length_zone offset
  simp only [timestamp] at h
  split at h
  · cases h
  · split at h
    · cases h
    · cases h
      simp only [List.length_append, List.length_cons, length_padded]
      omega

theorem HasText.timestamp_eq_ok {offset sec : Int} (h : HasText offset sec) (nsec : Nat) :
    ∃ text, timestamp offset sec nsec = .ok text := by
  have hyear : ¬((date ((sec + offset) / 86400)).1 < 0 ∨
      9999 < (date ((sec + offset) / 86400)).1) := by
    have := h.year
    omega
  exact ⟨_, (if_neg hyear).trans (if_neg (Nat.not_le.mpr h.zone))⟩

example : timestamp 5400 63844819200 250000000 =
    .ok ("2024-02-29T17:30:00.25+01:30".toList.map fun c => UInt8.ofNat c.toNat) := by
  decide +kernel

end CyberiaVpn.Codec.Rfc3339
