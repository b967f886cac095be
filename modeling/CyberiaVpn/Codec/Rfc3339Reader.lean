import Mathlib.Tactic.IntervalCases
import CyberiaVpn.Codec.Decimal
import CyberiaVpn.Codec.Rfc3339

/-!
# Reading timestamps

`parseRFC3339` of Go's `time`, which reads the texts that are exactly in
the format. An instant that was written is read again, up to the seconds
of its offset: the text of an offset has none, so the instant is off by as
many.
-/

namespace CyberiaVpn.Codec.Rfc3339

/-! ## The calendar -/

def isLeap (year : Int) : Bool := year % 4 = 0 && (year % 100 ≠ 0 || year % 400 = 0)

/-- Apart from February the months have 31 and 30 days in turn, and again
from August on. -/
def daysIn (month : Nat) (year : Int) : Nat :=
  if month = 2 then (if isLeap year then 29 else 28) else 30 + (month + month / 8) % 2

/-- The number of days since the first one of the year 1. January and
February count as months of the year before. -/
def dayNumber (year : Int) (month day : Nat) : Int :=
  let early : Nat := if month < 3 then 1 else 0
  let y := year - early
  365 * y + y / 4 - y / 100 + y / 400 + ((153 * (month + 12 * early) - 457) / 5 + day : Nat) - 307

/-! ## Reading -/

/-- Digits that are a number within bounds. -/
def numeral (digits : List UInt8) (least greatest : Nat) : Option Nat :=
  if digits.all fun b => 48 ≤ b && b ≤ 57 then
    (some (parseDecimal digits)).filter fun n => least ≤ n && n ≤ greatest
  else none

/-- Digits past the ninth are dropped. -/
def nanoseconds (digits : List UInt8) : Nat :=
  parseDecimal (digits.take 9) * 10 ^ (9 - (digits.take 9).length)

/-- A fraction of a second and what follows it. -/
def parseFraction : List UInt8 → Nat × List UInt8
  | 46 :: b :: rest =>
      let isDigit (b : UInt8) : Bool := 48 ≤ b && b ≤ 57
      if isDigit b then
        (nanoseconds ((b :: rest).takeWhile isDigit), (b :: rest).dropWhile isDigit)
      else (0, 46 :: b :: rest)
  | text => (0, text)

/-- An offset from UTC in seconds. -/
def parseZone : List UInt8 → Option Int
  | [90] => some 0
  | [sign, h, h', colon, m, m'] => do
      let hours ← numeral [h, h'] 0 23
      let minutes ← numeral [m, m'] 0 59
      if (sign = 45 ∨ sign = 43) ∧ colon = 58 then
        let offset : Int := (hours * 60 + minutes) * 60
        return if sign = 45 then -offset else offset
      else none
  | _ => none

/-- The seconds since the beginning of the year 1, and the nanoseconds. -/
def parse : List UInt8 → Option (Int × Nat)
  | y₁ :: y₂ :: y₃ :: y₄ :: dash :: m₁ :: m₂ :: dash' :: d₁ :: d₂ :: t ::
      h₁ :: h₂ :: colon :: n₁ :: n₂ :: colon' :: s₁ :: s₂ :: rest => do
      let year ← numeral [y₁, y₂, y₃, y₄] 0 9999
      let month ← numeral [m₁, m₂] 1 12
      let day ← numeral [d₁, d₂] 1 (daysIn month year)
      let hour ← numeral [h₁, h₂] 0 23
      let minute ← numeral [n₁, n₂] 0 59
      let second ← numeral [s₁, s₂] 0 59
      if dash = 45 ∧ dash' = 45 ∧ t = 84 ∧ colon = 58 ∧ colon' = 58 then
        let (nsec, rest) := parseFraction rest
        let offset ← parseZone rest
        let clock : Int := (hour * 3600 + minute * 60 + second : Nat)
        return (dayNumber year month day * 86400 + clock - offset, nsec)
      else none
  | _ => none

example : parse ("2024-02-29T17:30:00.25+01:30".toList.map fun c => UInt8.ofNat c.toNat) =
    some (63844819200, 250000000) := by
  decide +kernel

/-! ## Days and dates -/

/-- A day of an era by centuries, leap periods and years. -/
structure Era (n c q r d : Nat) : Prop where
  sum : n = 36524 * c + 1461 * q + 365 * r + d
  century : c < 4
  period : q < 25
  year : r < 4
  day : d < 365 ∨ d = 365 ∧ r = 3 ∧ (q < 24 ∨ c = 3)

theorem era_exists {n : Nat} (hn : n < 146097) : ∃ c q r d, Era n c q r d := by
  obtain ⟨c, hc, hlow, hhigh⟩ : ∃ c, c < 4 ∧ 36524 * c ≤ n ∧ (n < 36524 * (c + 1) ∨ c = 3) :=
    ⟨min (n / 36524) 3, by omega, by omega, by omega⟩
  obtain ⟨m, rfl⟩ := Nat.exists_eq_add_of_le hlow
  have hm : m < 36524 ∨ c = 3 ∧ m < 36525 := by omega
  obtain ⟨q, k, rfl, hk⟩ : ∃ q k, m = 1461 * q + k ∧ k < 1461 :=
    ⟨m / 1461, m % 1461, (Nat.div_add_mod m 1461).symm, Nat.mod_lt _ (by decide)⟩
  obtain ⟨r, hr, hlow, hhigh⟩ : ∃ r, r < 4 ∧ 365 * r ≤ k ∧ (k < 365 * (r + 1) ∨ r = 3) :=
    ⟨min (k / 365) 3, by omega, by omega, by omega⟩
  obtain ⟨d, rfl⟩ := Nat.exists_eq_add_of_le hlow
  exact ⟨c, q, r, d, by omega, hc, by omega, hr, by omega⟩

theorem Era.yearOfEra {n c q r d : Nat} (h : Era n c q r d) :
    (n - n / 1460 + n / 36524 - n / 146096) / 365 = 100 * c + 4 * q + r := by
  obtain ⟨hn, hc, hq, hr, hd⟩ := h
  by_cases hlast : n = 146096
  · rw [hlast]
    omega
  have hera : n / 146096 = 0 := by omega
  have hcentury : n / 36524 = c := by omega
  -- a leap period is a day longer than four times 365
  obtain ⟨e, hperiods, he, he'⟩ : ∃ e, n / 1460 = 25 * c + q + e ∧ e ≤ d ∧ d - e < 365 := by
    by_cases hcarry : 1460 ≤ 24 * c + q + 365 * r + d
    · exact ⟨1, by omega, by omega, by omega⟩
    · exact ⟨0, by omega, by omega, by omega⟩
  rw [hera, hcentury, hperiods]
  omega

/-- The days of an era before its year `y`. -/
def daysBefore (y : Nat) : Nat := 365 * y + y / 4 - y / 100

theorem yearOfEra_spec {n y : Nat} (hn : n < 146097)
    (hy : (n - n / 1460 + n / 36524 - n / 146096) / 365 = y) :
    y < 400 ∧ ∃ d, n = daysBefore y + d ∧
      (d < 365 ∨ d = 365 ∧ (y + 1) % 4 = 0 ∧ ((y + 1) % 100 ≠ 0 ∨ y = 399)) := by
  obtain ⟨c, q, r, d, h⟩ := era_exists hn
  obtain ⟨hsum, hc, hq, hr, hd⟩ := id h
  rw [h.yearOfEra] at hy
  have hperiods : y / 4 = 25 * c + q := by omega
  have hcenturies : y / 100 = c := by omega
  have hdays : n = daysBefore y + d := by
    rw [daysBefore]
    omega
  exact ⟨by omega, d, hdays, by omega⟩

/-- The month that is the `m`th from March. -/
def monthFromMarch (m : Nat) : Nat := if m < 10 then m + 3 else m - 9

theorem month_spec {d m : Nat} {year : Int} (hm : (5 * d + 2) / 153 = m)
    (hd : d < 365 ∨ d = 365 ∧ isLeap year = true) :
    m < 12 ∧ (153 * m + 2) / 5 ≤ d ∧
      d - (153 * m + 2) / 5 + 1 ≤ daysIn (monthFromMarch m) year := by
  have hlt : m < 12 := by omega
  refine ⟨hlt, by omega, ?_⟩
  by_cases hfebruary : m = 11
  · rw [hfebruary, monthFromMarch, if_neg (by decide), daysIn, if_pos rfl]
    rcases hd with hd | ⟨hd, hleap⟩
    · split <;> omega
    · rw [if_pos hleap]
      omega
  · have hdays : daysIn (monthFromMarch m) year =
        30 + (monthFromMarch m + monthFromMarch m / 8) % 2 := if_neg (by
      rw [monthFromMarch]
      split <;> omega)
    rw [hdays, monthFromMarch]
    interval_cases m <;> simp <;> omega

/-- What `date` returns is a day of the calendar, and the one that was
asked for. -/
structure Dated (n : Int) (date : Int × Nat × Nat) : Prop where
  month : 1 ≤ date.2.1 ∧ date.2.1 ≤ 12
  day : 1 ≤ date.2.2 ∧ date.2.2 ≤ daysIn date.2.1 date.1
  number : dayNumber date.1 date.2.1 date.2.2 = n

theorem dayNumber_march (era : Int) {y m : Nat} (hy : y < 400) (hm : m < 12) (k : Nat) :
    dayNumber (if m < 10 then era * 400 + y else era * 400 + y + 1) (monthFromMarch m) (k + 1) =
      era * 146097 + (daysBefore y + ((153 * m + 2) / 5 + k) : Nat) - 306 := by
  have hleap : (era * 400 + y) / 4 = era * 100 + y / 4 := by omega
  have hcentury : (era * 400 + y) / 100 = era * 4 + y / 100 := by omega
  have hera : (era * 400 + y) / 400 = era := by omega
  have hdays : daysBefore y + y / 100 = 365 * y + y / 4 := by
    rw [daysBefore]
    omega
  rw [dayNumber, monthFromMarch]
  by_cases hlate : m < 10
  · simp only [if_pos hlate, if_neg (show ¬m + 3 < 3 by omega), Nat.mul_zero, Nat.add_zero,
      Nat.cast_zero, Int.sub_zero, hleap, hcentury, hera]
    omega
  · simp only [if_neg hlate, if_pos (show m - 9 < 3 by omega), Nat.mul_one, Nat.cast_one,
      Int.add_sub_cancel, hleap, hcentury, hera]
    omega

theorem date_spec (day : Int) : Dated day (date day) := by
  rw [date]
  have hn : ((day + 306) % 146097).toNat < 146097 := by omega
  generalize hofEra : ((day + 306) % 146097).toNat = n at hn
  generalize hyear : (n - n / 1460 + n / 36524 - n / 146096) / 365 = y
  obtain ⟨hy, d, hsum, hd⟩ := yearOfEra_spec hn hyear
  have hofYear : n - (365 * y + y / 4 - y / 100) = d := by
    rw [hsum, daysBefore]
    exact Nat.add_sub_cancel_left _ _
  generalize hm : (5 * d + 2) / 153 = m
  have hleap : d < 365 ∨ d = 365 ∧ isLeap
      (if m < 10 then (day + 306) / 146097 * 400 + y else (day + 306) / 146097 * 400 + y + 1) := by
    refine hd.imp_right fun ⟨hlast, hfour, hhundred⟩ => ⟨hlast, ?_⟩
    rw [if_neg (by omega), isLeap, Bool.and_eq_true, Bool.or_eq_true, decide_eq_true_eq,
      decide_eq_true_eq, decide_eq_true_eq]
    omega
  obtain ⟨hlt, hle, hlength⟩ := month_spec hm hleap
  have hnumber := dayNumber_march ((day + 306) / 146097) hy hlt (d - (153 * m + 2) / 5)
  simp only [hofYear, hm]
  refine ⟨?_, ⟨Nat.le_add_left 1 _, hlength⟩, hnumber.trans ?_⟩
  · dsimp only
    split <;> omega
  · rw [Nat.add_sub_cancel' hle, ← hsum]
    omega

/-! ## What is written is read -/

theorem toNat_padded (n i : Nat) : (UInt8.ofNat (48 + n / 10 ^ i % 10)).toNat = 48 + n / 10 ^ i % 10 := by
  rw [UInt8.toNat_ofNat']
  exact Nat.mod_eq_of_lt (by omega)

theorem padded_digit {k n : Nat} {b : UInt8} (h : b ∈ padded k n) :
    48 ≤ b.toNat ∧ b.toNat < 58 := by
  obtain ⟨i, -, rfl⟩ := List.mem_map.mp h
  rw [toNat_padded]
  omega

theorem parseDecimal_padded (k n : Nat) : parseDecimal (padded k n) = n % 10 ^ k := by
  have hdigits : ∀ k, Nat.ofDigits 10 ((List.range k).map fun i => n / 10 ^ i % 10) = n % 10 ^ k := by
    intro k
    induction k with
    | zero => simp [Nat.mod_one]
    | succ k ih =>
        rw [List.range_succ, List.map_append, Nat.ofDigits_append, ih, List.length_map,
          List.length_range, Nat.mod_pow_succ, List.map_singleton, Nat.ofDigits_singleton]
  rw [← hdigits k, parseDecimal, padded, List.map_map, ← List.map_reverse, List.reverse_reverse]
  refine congrArg _ (List.map_congr_left fun i _ => ?_)
  rw [Function.comp_apply, toNat_padded]
  exact Nat.add_sub_cancel_left 48 _

theorem numeral_padded {k n l g : Nat} (hk : n < 10 ^ k) (hleast : l ≤ n) (hgreatest : n ≤ g) :
    numeral (padded k n) l g = some n := by
  have hall : ((padded k n).all fun b => 48 ≤ b && b ≤ 57) = true :=
    List.all_eq_true.mpr fun b hb => digit_le (padded_digit hb)
  rw [numeral, if_pos hall, parseDecimal_padded, Nat.mod_eq_of_lt hk, Option.filter_some, if_pos]
  rw [Bool.and_eq_true, decide_eq_true_eq, decide_eq_true_eq]
  exact ⟨hleast, hgreatest⟩

theorem tdiv_natAbs (offset : Int) : offset.tdiv 60 * 60 =
    if offset ≤ -60 then -((offset.natAbs / 60 * 60 : Nat) : Int)
    else ((offset.natAbs / 60 * 60 : Nat) : Int) := by
  have hnat : ∀ n : Nat, (n : Int).tdiv 60 = (n / 60 : Nat) := fun _ => rfl
  rcases Int.natAbs_eq offset with hsign | hsign
  · rw [if_neg (by omega), hsign, hnat, Int.natAbs_natCast]
    omega
  · generalize offset.natAbs = n at hsign
    rw [hsign, Int.neg_tdiv, hnat]
    split <;> omega

/-- The text of an offset tells its whole minutes. -/
theorem parseZone_zone {offset : Int} (h : offset.natAbs / 3600 < 24) :
    parseZone (zone offset) = some (offset.tdiv 60 * 60) := by
  rw [zone]
  split
  · next hzero => rw [hzero]; rfl
  have hhours := numeral_padded (k := 2) (l := 0) (n := offset.natAbs / 3600) (g := 23)
    (by omega) (by omega) (by omega)
  have hminutes := numeral_padded (k := 2) (l := 0) (n := offset.natAbs / 60 % 60)
    (g := 59) (by omega) (by omega) (by omega)
  have hsum : (offset.natAbs / 3600 * 60 + offset.natAbs / 60 % 60) * 60 =
      offset.natAbs / 60 * 60 := by
    omega
  rw [tdiv_natAbs, ← hsum]
  split
  all_goals
    change (numeral (padded 2 _) 0 23).bind (fun hours => (numeral (padded 2 _) 0 59).bind _) = _
    rw [hhours, hminutes]
    rfl

/-! ### Fractions -/

theorem parseDecimal_zeros (digits : List UInt8) (k : Nat) :
    parseDecimal (digits ++ List.replicate k 48) = parseDecimal digits * 10 ^ k := by
  have hzeros : (List.replicate k (48 : UInt8)).map (fun b => b.toNat - 48) = List.replicate k 0 := by
    rw [List.map_replicate]
    rfl
  have hzero : ∀ k, Nat.ofDigits 10 (List.replicate k 0) = 0 := fun k => by
    induction k with
    | zero => rfl
    | succ k ih => rw [List.replicate_succ, Nat.ofDigits_cons, ih]
  rw [parseDecimal, List.map_append, hzeros, List.reverse_append, List.reverse_replicate,
    Nat.ofDigits_append, hzero, List.length_replicate, Nat.zero_add, Nat.mul_comm, parseDecimal]

/-- Without its trailing zeros a fraction has the same value. -/
theorem nanoseconds_padded {nsec : Nat} (h : nsec < 10 ^ 9) :
    nanoseconds ((padded 9 nsec).rdropWhile (· = 48)) = nsec := by
  have hsplit : (padded 9 nsec).rdropWhile (· = 48) ++ (padded 9 nsec).rtakeWhile (· = 48) =
      padded 9 nsec := List.rdropWhile_append_rtakeWhile
  have hzeros : (padded 9 nsec).rtakeWhile (· = 48) =
      List.replicate ((padded 9 nsec).rtakeWhile (· = 48)).length 48 :=
    List.eq_replicate_iff.mpr ⟨rfl, fun b hb => by simpa using List.mem_rtakeWhile_imp hb⟩
  have hlength := congrArg List.length hsplit
  rw [List.length_append, length_padded] at hlength
  rw [nanoseconds, List.take_of_length_le (by omega), ← parseDecimal_zeros,
    show 9 - ((padded 9 nsec).rdropWhile (· = 48)).length =
      ((padded 9 nsec).rtakeWhile (· = 48)).length by omega, ← hzeros, hsplit,
    parseDecimal_padded, Nat.mod_eq_of_lt h]

theorem zone_head (offset : Int) : ∃ b rest, zone offset = b :: rest ∧ (48 ≤ b && b ≤ 57) = false ∧
    b ≠ 46 := by
  rw [zone]
  split
  · exact ⟨90, [], rfl, by decide, by decide⟩
  · split
    · exact ⟨45, _, rfl, by decide, by decide⟩
    · exact ⟨43, _, rfl, by decide, by decide⟩

theorem parseFraction_fraction {nsec : Nat} (h : nsec < 10 ^ 9) (offset : Int) :
    parseFraction (fraction nsec ++ zone offset) = (nsec, zone offset) := by
  obtain ⟨b, rest, hzone, hdigit, hpoint⟩ := zone_head offset
  have hvalue := nanoseconds_padded h
  rw [fraction]
  split
  · next hnone =>
      rw [hnone] at hvalue
      obtain rfl : 0 = nsec := hvalue
      rw [hzone, List.nil_append, parseFraction]
      rintro _ _ ⟨⟩
      exact hpoint rfl
  · next hdigits =>
      have hall : ∀ c ∈ (padded 9 nsec).rdropWhile (· = 48), (48 ≤ c && c ≤ 57) = true := fun c hc =>
        digit_le (padded_digit ((List.rdropWhile_prefix _ _).subset hc))
      generalize (padded 9 nsec).rdropWhile (· = 48) = digits at hvalue hall hdigits
      obtain ⟨d, more, rfl⟩ := List.exists_cons_of_ne_nil hdigits
      have htake := @List.takeWhile_append_of_pos _ _ _ (zone offset) hall
      have hdrop := @List.dropWhile_append_of_pos _ _ _ (zone offset) hall
      rw [hzone, List.takeWhile_cons_of_neg (by simp [hdigit]), List.append_nil] at htake
      rw [hzone, List.dropWhile_cons_of_neg (by simp [hdigit])] at hdrop
      rw [hzone, List.cons_append, List.cons_append, parseFraction,
        if_pos (hall d (List.mem_cons_self ..))]
      exact Prod.ext ((congrArg nanoseconds htake).trans hvalue) hdrop

theorem parse_padded (y m d h n s : Nat) (rest : List UInt8) :
    parse (padded 4 y ++ 45 :: padded 2 m ++ 45 :: padded 2 d ++ 84 :: padded 2 h ++
      58 :: padded 2 n ++ 58 :: padded 2 s ++ rest) = (do
        let year ← numeral (padded 4 y) 0 9999
        let month ← numeral (padded 2 m) 1 12
        let day ← numeral (padded 2 d) 1 (daysIn month year)
        let hour ← numeral (padded 2 h) 0 23
        let minute ← numeral (padded 2 n) 0 59
        let second ← numeral (padded 2 s) 0 59
        let offset ← parseZone (parseFraction rest).2
        return (dayNumber year month day * 86400 +
          (hour * 3600 + minute * 60 + second : Nat) - offset, (parseFraction rest).1)) := rfl

/-- What `timestamp` writes is the instant, off by the seconds of its
offset. -/
theorem parse_timestamp {offset sec : Int} {nsec : Nat} {text : List UInt8}
    (h : timestamp offset sec nsec = .ok text) (hnsec : nsec < 10 ^ 9) :
    parse text = some (sec + (offset - offset.tdiv 60 * 60), nsec) := by
  rw [timestamp] at h
  have hdated := date_spec ((sec + offset) / 86400)
  generalize date ((sec + offset) / 86400) = date at h hdated
  obtain ⟨year, month, day⟩ := date
  obtain ⟨hmonth, hday, hnumber⟩ := hdated
  generalize hclock : ((sec + offset) % 86400).toNat = clock at h
  dsimp only at h hmonth hday hnumber
  split at h
  · cases h
  split at h
  · cases h
  next hyear hzone =>
  cases h
  obtain ⟨y, rfl⟩ := Int.eq_ofNat_of_zero_le (show 0 ≤ year by omega)
  have hdays : daysIn month y ≤ 31 := by
    rw [daysIn]
    split
    · split <;> decide
    · omega
  have hyear := numeral_padded (k := 4) (l := 0) (n := y) (g := 9999) (by omega)
    (by omega) (by omega)
  have hmonth := numeral_padded (k := 2) (by omega) hmonth.1 hmonth.2
  have hday := numeral_padded (k := 2) (by omega) hday.1 hday.2
  have hhour := numeral_padded (k := 2) (l := 0) (n := clock / 3600) (g := 23) (by omega)
    (by omega) (by omega)
  have hminute := numeral_padded (k := 2) (l := 0) (n := clock / 60 % 60) (g := 59)
    (by omega) (by omega) (by omega)
  have hsecond := numeral_padded (k := 2) (l := 0) (n := clock % 60) (g := 59) (by omega)
    (by omega) (by omega)
  rw [List.append_assoc _ (fraction nsec), Int.toNat_natCast, parse_padded,
    parseFraction_fraction hnsec]
  simp only [Option.bind_eq_bind, hyear, hmonth, hday, hhour, hminute, hsecond,
    parseZone_zone (Nat.not_le.mp hzone), hnumber, Option.bind_some, Option.pure_def]
  refine congrArg some (Prod.ext ?_ rfl)
  dsimp only
  omega

/-! ## The characters of a timestamp -/

/-- From plus to Z. -/
def Printed (b : UInt8) : Prop := 43 ≤ b.toNat ∧ b.toNat ≤ 90

theorem printed_padded {k n : Nat} {b : UInt8} (h : b ∈ padded k n) : Printed b := by
  have hdigit := padded_digit h
  exact ⟨by omega, by omega⟩

theorem printed_fraction {nsec : Nat} {b : UInt8} (h : b ∈ fraction nsec) : Printed b := by
  rw [fraction] at h
  split at h
  · exact absurd h List.not_mem_nil
  · rcases List.mem_cons.mp h with rfl | h
    · exact ⟨by decide, by decide⟩
    · exact printed_padded ((List.rdropWhile_prefix _ _).subset h)

theorem printed_zone {offset : Int} {b : UInt8} (h : b ∈ zone offset) : Printed b := by
  rw [zone] at h
  split at h
  · rw [List.mem_singleton.mp h]
    exact ⟨by decide, by decide⟩
  · simp only [List.cons_append, List.mem_cons, List.mem_append] at h
    rcases h with rfl | h | rfl | h
    · split <;> exact ⟨by decide, by decide⟩
    · exact printed_padded h
    · exact ⟨by decide, by decide⟩
    · exact printed_padded h

theorem printed_timestamp {offset sec : Int} {nsec : Nat} {text : List UInt8}
    (h : timestamp offset sec nsec = .ok text) {b : UInt8} (hb : b ∈ text) : Printed b := by
  simp only [timestamp] at h
  split at h
  · cases h
  split at h
  · cases h
  cases h
  simp only [List.mem_append, List.mem_cons] at hb
  rcases hb with ((((((h | rfl | h) | rfl | h) | rfl | h) | rfl | h) | rfl | h) | h) | h
  all_goals first
    | exact printed_padded h
    | exact printed_fraction h
    | exact printed_zone h
    | exact ⟨by decide, by decide⟩

end CyberiaVpn.Codec.Rfc3339
