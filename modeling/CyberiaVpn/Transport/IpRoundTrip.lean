import CyberiaVpn.Transport.IpText

/-!
# Displayed addresses are read back

`parse` undoes `display`, so the text of an address identifies it: what
the backends hand to `ip` and `wg` as words names one address and no
other.

The argument follows the readers. A number reader takes the digits it was
meant to take, because what follows a number is never a digit. A group
reader tries a quad first and gives up on it, because a hexadecimal group
is never followed by a dot. The compressed form is cut at its one double
colon, and the groups left out are zeros because `longestZeroRun` only
ever points at zeros.
-/

namespace CyberiaVpn.Transport

/-! ## Digits -/

section Digits

variable {b n : Nat}

theorem digitValue_digitChar (hb : b = 10 ∨ b = 16) {d : Nat} (hd : d < b) :
    digitValue b (Nat.digitChar d) = some d := by
  rcases hb with rfl | rfl
  · exact (by decide : ∀ d < 10, digitValue 10 (Nat.digitChar d) = some d) d hd
  · exact (by decide : ∀ d < 16, digitValue 16 (Nat.digitChar d) = some d) d hd

theorem mem_toDigits (hb : b = 10 ∨ b = 16) {c : Char} (hc : c ∈ Nat.toDigits b n) :
    ∃ d < b, c = Nat.digitChar d := by
  have hb' : 1 < b := by omega
  induction n using Nat.strongRecOn with
  | ind n ih =>
      by_cases hn : n < b
      · rw [Nat.toDigits_of_lt_base hn] at hc
        exact ⟨n, hn, List.mem_singleton.mp hc⟩
      · rw [Nat.toDigits_of_base_le hb' (by omega)] at hc
        rcases List.mem_append.mp hc with hc | hc
        · exact ih (n / b) (Nat.div_lt_self (by omega) hb') hc
        · exact ⟨n % b, Nat.mod_lt _ (by omega), List.mem_singleton.mp hc⟩

/-- The digits spell the number. -/
theorem foldl_toDigits (hb : b = 10 ∨ b = 16) :
    (Nat.toDigits b n).foldl (fun m c => m * b + (digitValue b c).getD 0) 0 = n := by
  have hb' : 1 < b := by omega
  induction n using Nat.strongRecOn with
  | ind n ih =>
      by_cases hn : n < b
      · simp [Nat.toDigits_of_lt_base hn, digitValue_digitChar hb hn]
      · have hmod : n % b < b := Nat.mod_lt _ (by omega)
        rw [Nat.toDigits_of_base_le hb' (by omega), List.foldl_append,
          ih (n / b) (Nat.div_lt_self (by omega) hb')]
        simp [digitValue_digitChar hb hmod, Nat.div_add_mod']

/-- There are no leading zeros. -/
theorem head?_toDigits (hb : b = 10 ∨ b = 16) (hn : n ≠ 0) :
    (Nat.toDigits b n).head? ≠ some '0' := by
  have hb' : 1 < b := by omega
  induction n using Nat.strongRecOn with
  | ind n ih =>
      by_cases hlt : n < b
      · simp [Nat.toDigits_of_lt_base hlt, hn]
      · rw [Nat.toDigits_of_base_le hb' (by omega),
          List.head?_append_of_ne_nil _ Nat.toDigits_ne_nil]
        have hpos : 0 < n / b := Nat.div_pos (by omega) (by omega)
        exact ih (n / b) (Nat.div_lt_self (by omega) hb') (by omega)

end Digits

namespace IpAddr

/-- What follows a number in a displayed address: nothing, or a separator. -/
def Delimited (rest : List Char) : Prop := ∀ c ∈ rest.head?, c = '.' ∨ c = ':' ∨ c = '/'

theorem Delimited.takeWhile {b : Nat} (hb : b = 10 ∨ b = 16) {rest : List Char}
    (h : Delimited rest) : rest.takeWhile (fun c => (digitValue b c).isSome) = [] := by
  cases rest with
  | nil => rfl
  | cons c rest =>
      rcases h c rfl with rfl | rfl | rfl <;> rcases hb with rfl | rfl <;> rfl

theorem readNumber_toDigits {b maxDigits limit n : Nat} {zeros : Bool} {rest : List Char}
    (hb : b = 10 ∨ b = 16) (hrest : Delimited rest) (hmax : 0 < maxDigits)
    (hdigits : n < b ^ maxDigits) (hlimit : n < limit) :
    readNumber b maxDigits limit zeros (Nat.toDigits b n ++ rest) = some (n, rest) := by
  have hall : ∀ c ∈ Nat.toDigits b n, (digitValue b c).isSome = true := fun c hc => by
    obtain ⟨d, hd, rfl⟩ := mem_toDigits hb hc
    rw [digitValue_digitChar hb hd]
    rfl
  have htake : (Nat.toDigits b n ++ rest).takeWhile (fun c => (digitValue b c).isSome)
      = Nat.toDigits b n := by
    rw [List.takeWhile_append_of_pos hall, hrest.takeWhile hb, List.append_nil]
  have hlen : (Nat.toDigits b n).length ≤ maxDigits :=
    (Nat.length_toDigits_le_iff (by omega) hmax).mpr hdigits
  have hzero : (!zeros && (Nat.toDigits b n).head? == some '0' &&
      decide (1 < (Nat.toDigits b n).length)) = false := by
    by_cases hn : n = 0
    · simp [hn]
    · simp [head?_toDigits hb hn]
  rw [readNumber, htake, if_neg (by simp [hlen]), if_neg (by simp [hzero]),
    foldl_toDigits hb, if_pos hlimit, List.drop_left]

/-! ## Quads -/

theorem toList_dotted (bits : BitVec 32) : (dotted bits).toList =
    Nat.toDigits 10 (bits.toNat / 2 ^ 24 % 256) ++ '.' ::
      (Nat.toDigits 10 (bits.toNat / 2 ^ 16 % 256) ++ '.' ::
        (Nat.toDigits 10 (bits.toNat / 2 ^ 8 % 256) ++ '.' ::
          Nat.toDigits 10 (bits.toNat % 256))) := by
  simp [dotted, Nat.shiftRight_eq_div_pow]

theorem readIpv4Addr_dotted (bits : BitVec 32) (rest : List Char) (hrest : Delimited rest) :
    readIpv4Addr ((dotted bits).toList ++ rest) = some (bits, rest) := by
  have hdot : ∀ text, Delimited ('.' :: text) := fun text c hc => by
    obtain rfl := Option.some.inj hc
    exact Or.inl rfl
  have hoctet : ∀ (n : Nat) {rest : List Char}, Delimited rest →
      readNumber 10 3 256 false (Nat.toDigits 10 (n % 256) ++ rest) = some (n % 256, rest) :=
    fun n rest h => readNumber_toDigits (Or.inl rfl) h (by omega) (by omega) (by omega)
  have hbits : BitVec.ofNat 32 (((bits.toNat / 2 ^ 24 % 256 * 256 + bits.toNat / 2 ^ 16 % 256) * 256 +
      bits.toNat / 2 ^ 8 % 256) * 256 + bits.toNat % 256) = bits := by
    apply BitVec.eq_of_toNat_eq
    rw [BitVec.toNat_ofNat]
    have hlt := bits.isLt
    omega
  rw [toList_dotted]
  simp only [readIpv4Addr, readSeparator, List.append_assoc, List.cons_append, if_true,
    Bool.false_eq_true, if_false, hoctet _ (hdot _), hoctet _ hrest, Option.bind_eq_bind,
    Option.bind_some, hbits, Option.pure_def]

/-- A quad starts with an octet and a dot. -/
theorem dot_of_readIpv4Addr {text : List Char} {r : BitVec 32 × List Char}
    (h : readIpv4Addr text = some r) :
    (text.dropWhile fun c => (digitValue 10 c).isSome).head? = some '.' := by
  rw [readIpv4Addr] at h
  obtain ⟨⟨a, text₁⟩, ha, h⟩ := Option.bind_eq_some_iff.mp h
  obtain ⟨⟨b, text₂⟩, hb, -⟩ := Option.bind_eq_some_iff.mp h
  have hdrop : text₁ = text.dropWhile fun c => (digitValue 10 c).isSome := by
    simp only [readSeparator, if_true, readNumber] at ha
    split at ha
    · cases ha
    split at ha
    · cases ha
    split at ha
    · obtain ⟨-, rfl⟩ := Prod.mk.inj (Option.some.inj ha)
      calc text.drop (text.takeWhile fun c => (digitValue 10 c).isSome).length
        _ = ((text.takeWhile fun c => (digitValue 10 c).isSome) ++
              (text.dropWhile fun c => (digitValue 10 c).isSome)).drop
            (text.takeWhile fun c => (digitValue 10 c).isSome).length := by
          rw [List.takeWhile_append_dropWhile]
        _ = text.dropWhile fun c => (digitValue 10 c).isSome := List.drop_left
    · cases ha
  rw [← hdrop]
  cases text₁ with
  | nil => simp [readSeparator] at hb
  | cons c rest =>
      simp only [readSeparator, Bool.false_eq_true, if_false] at hb
      split at hb
      · next hc => rw [hc]; rfl
      · cases hb

/-! ## Groups -/

/-- The text after a hexadecimal group is nothing or starts with a colon. -/
def AfterGroup (rest : List Char) : Prop := ∀ c ∈ rest.head?, c = ':'

theorem AfterGroup.delimited {rest : List Char} (h : AfterGroup rest) : Delimited rest :=
  fun c hc => Or.inr (Or.inl (h c hc))

/-- No quad starts with a hexadecimal group. -/
theorem readIpv4Addr_group {n : Nat} {rest : List Char} (h : AfterGroup rest) :
    readIpv4Addr (Nat.toDigits 16 n ++ rest) = none := by
  by_contra hne
  obtain ⟨r, hr⟩ := Option.ne_none_iff_exists'.mp hne
  have hdot := dot_of_readIpv4Addr hr
  rw [List.dropWhile_append] at hdot
  split at hdot
  · cases rest with
    | nil => cases hdot
    | cons c rest =>
        obtain rfl := h c rfl
        exact absurd hdot (by simp [digitValue])
  · next hne' =>
      rw [List.head?_append_of_ne_nil _ (by simpa using hne')] at hdot
      have hmem : '.' ∈ Nat.toDigits 16 n :=
        List.dropWhile_subset _ (List.mem_of_mem_head? hdot)
      obtain ⟨d, hd, heq⟩ := mem_toDigits (Or.inr rfl) hmem
      exact Nat.digitChar_ne '.' (by decide) heq.symm

/-- Groups with a colon before each, but for a first one. -/
def groupText : Bool → List Nat → List Char
  | _, [] => []
  | first, g :: gs => (if first then [] else [':']) ++ Nat.toDigits 16 g ++ groupText false gs

theorem toList_hexGroups : ∀ segs : List Nat, (hexGroups segs).toList = groupText true segs
  | [] => rfl
  | [g] => by simp [hexGroups, groupText]
  | g :: g' :: gs => by
      have ih := toList_hexGroups (g' :: gs)
      simp only [hexGroups, List.map_cons] at ih
      rw [hexGroups, List.map_cons, List.map_cons, String.intercalate_cons_cons,
        String.toList_append, String.toList_append, ih]
      simp [groupText]

/-- The text after a list of groups is nothing or a double colon. -/
inductive AfterGroups : List Char → Prop where
  | nil : AfterGroups []
  | gap (rest : List Char) : AfterGroups (':' :: ':' :: rest)

theorem AfterGroups.afterGroup {rest : List Char} (h : AfterGroups rest) (gs : List Nat) :
    AfterGroup (groupText false gs ++ rest) := by
  intro c hc
  cases gs with
  | cons g gs => simpa [groupText, eq_comm] using hc
  | nil =>
      cases h with
      | nil => cases hc
      | gap rest => exact (Option.some.inj hc).symm

theorem AfterGroups.stop {rest : List Char} (h : AfterGroups rest) (first : Bool) :
    readSeparator ':' first readIpv4Addr rest = none ∧
      readSeparator ':' first (readNumber 16 4 65536 true) rest = none := by
  cases h <;> cases first <;> exact ⟨rfl, rfl⟩

/-- The group reader takes the groups it is shown and stops there. -/
theorem readGroups_groupText {rest : List Char} (hrest : AfterGroups rest) :
    ∀ (gs : List Nat) (left : Nat) (first : Bool), gs.length ≤ left → (∀ g ∈ gs, g < 65536) →
      readGroups left first (groupText first gs ++ rest) = (gs, false, rest)
  | [], 0, _, _, _ => rfl
  | [], left + 1, first, _, _ => by
      obtain ⟨hquad, hgroup⟩ := hrest.stop first
      rw [groupText, List.nil_append, readGroups, hquad, hgroup, ite_self]
  | g :: gs, left + 1, first, hlen, hgs => by
      have hafter := hrest.afterGroup gs
      have hseparator : ∀ {α : Type} (inner : List Char → Option (α × List Char)),
          readSeparator ':' first inner (groupText first (g :: gs) ++ rest) =
            inner (Nat.toDigits 16 g ++ (groupText false gs ++ rest)) := by
        intro α inner
        cases first <;> simp [readSeparator, groupText]
      have hnumber : readNumber 16 4 65536 true (Nat.toDigits 16 g ++ (groupText false gs ++ rest)) =
          some (g, groupText false gs ++ rest) := by
        have hg := hgs g (List.mem_cons_self ..)
        exact readNumber_toDigits (Or.inr rfl) hafter.delimited (by decide) hg hg
      have ih := readGroups_groupText hrest gs left false
        (Nat.le_of_succ_le_succ hlen) fun g' hg' => hgs g' (List.mem_cons_of_mem _ hg')
      rw [readGroups, hseparator, hseparator, readIpv4Addr_group hafter, ite_self, hnumber]
      simp only [ih]

/-! ## The longest run of zeros -/

/-- So many segments from `start` on are zero. -/
def ZeroRun (segs : List Nat) (run : Nat × Nat) : Prop :=
  run.1 + run.2 ≤ segs.length ∧ ∀ i, run.1 ≤ i → i < run.1 + run.2 → segs[i]? = some 0

theorem ZeroRun.split {segs : List Nat} {run : Nat × Nat} (h : ZeroRun segs run) :
    segs.take run.1 ++ List.replicate run.2 0 ++ segs.drop (run.1 + run.2) = segs := by
  obtain ⟨hle, hzero⟩ := h
  have hmid : List.replicate run.2 0 = (segs.drop run.1).take run.2 := by
    apply List.ext_getElem?
    intro i
    by_cases hi : i < run.2
    · rw [List.getElem?_replicate, if_pos hi, List.getElem?_take_of_lt hi, List.getElem?_drop,
        hzero (run.1 + i) (by omega) (by omega)]
    · rw [List.getElem?_replicate, if_neg hi, List.getElem?_take, if_neg hi]
  rw [hmid, List.append_assoc, ← List.drop_drop, List.take_append_drop, List.take_append_drop]

/-- The scan after `n` segments: the best run lies behind, the current one
ends here. -/
structure Scanned (segs : List Nat) (n : Nat) (best current : Nat × Nat) : Prop where
  behind : best.1 + best.2 ≤ n
  best : ∀ i, best.1 ≤ i → i < best.1 + best.2 → segs[i]? = some 0
  here : current.2 ≠ 0 → current.1 + current.2 = n
  current : ∀ i, current.1 ≤ i → i < current.1 + current.2 → segs[i]? = some 0

theorem Scanned.nonzero {segs : List Nat} {n : Nat} {best current : Nat × Nat}
    (h : Scanned segs n best current) : Scanned segs (n + 1) best (0, 0) :=
  ⟨Nat.le_succ_of_le h.behind, h.best, fun hne => absurd rfl hne, fun i _ hi => by
    simp only [Nat.add_zero, Nat.not_lt_zero] at hi⟩

theorem Scanned.zero {segs : List Nat} {n : Nat} {best current current' : Nat × Nat}
    (h : Scanned segs n best current) (hn : segs[n]? = some 0)
    (hcurrent' : current' = if current.2 = 0 then (n, 1) else (current.1, current.2 + 1)) :
    Scanned segs (n + 1) (if best.2 < current'.2 then current' else best) current' := by
  have hend : current'.1 + current'.2 = n + 1 := by
    rw [hcurrent']
    split
    · rfl
    · next hne => exact congrArg (· + 1) (h.here hne)
  have hzero : ∀ i, current'.1 ≤ i → i < current'.1 + current'.2 → segs[i]? = some 0 := by
    intro i hle hlt
    by_cases hi : i = n
    · rw [hi, hn]
    · rw [hend] at hlt
      rw [hcurrent'] at hle
      split at hle
      · omega
      · next hne =>
          have hhere := h.here hne
          exact h.current i hle (by omega)
  refine ⟨?_, ?_, fun _ => hend, hzero⟩
  · split
    · exact Nat.le_of_eq hend
    · exact Nat.le_succ_of_le h.behind
  · split
    · exact hzero
    · exact h.best

theorem zeroRun_longestZeroRun (segs : List Nat) : ZeroRun segs (longestZeroRun segs) := by
  unfold longestZeroRun
  extract_lets step
  have hscan : ∀ (post : List Nat) (n : Nat) (best current : Nat × Nat), segs.drop n = post →
      Scanned segs n best current →
      ∃ current', Scanned segs (n + post.length)
        ((post.zipIdx n).foldl step (best, current)).1 current' := by
    intro post
    induction post with
    | nil => exact fun n best current _ h => ⟨current, h⟩
    | cons v post ih =>
        intro n best current hpost h
        have hn : segs[n]? = some v := by
          rw [← List.head?_drop, hpost]
          rfl
        have hrest : segs.drop (n + 1) = post := by
          rw [← List.drop_drop, hpost]
          rfl
        rw [List.zipIdx_cons, List.foldl_cons, List.length_cons, ← Nat.add_assoc,
          Nat.add_right_comm]
        by_cases hv : v = 0
        · have hstep : step (best, current) (v, n) = _ := if_pos hv
          rw [hstep]
          exact ih (n + 1) _ _ hrest (h.zero (hv ▸ hn) rfl)
        · have hstep : step (best, current) (v, n) = _ := if_neg hv
          rw [hstep]
          exact ih (n + 1) _ _ hrest h.nonzero
  obtain ⟨current, h⟩ := hscan segs 0 (0, 0) (0, 0) rfl
    ⟨Nat.le_refl 0, fun i _ hi => absurd hi (Nat.not_lt_zero i), fun hne => absurd rfl hne,
      fun i _ hi => absurd hi (Nat.not_lt_zero i)⟩
  rw [Nat.zero_add] at h
  exact ⟨h.behind, h.best⟩

/-! ## The round trip -/

theorem length_segments (bits : BitVec 128) : (segments bits).length = 8 := rfl

theorem lt_of_mem_segments {bits : BitVec 128} {g : Nat} (h : g ∈ segments bits) : g < 65536 := by
  obtain ⟨i, -, rfl⟩ := List.mem_map.mp h
  exact Nat.mod_lt _ (by decide)

/-- Joining the lower groups to what lies above them gives the number. -/
theorem foldl_groups (n : Nat) : ∀ k : Nat,
    (List.range k).reverse.foldl (fun m i => m * 65536 + n / 2 ^ (16 * i) % 65536)
      (n / 2 ^ (16 * k)) = n
  | 0 => by simp
  | k + 1 => by
      have hjoin : n / 2 ^ (16 * (k + 1)) * 65536 + n / 2 ^ (16 * k) % 65536 =
          n / 2 ^ (16 * k) := by
        rw [Nat.mul_add_one 16 k, Nat.pow_add, ← Nat.div_div_eq_div_mul]
        exact Nat.div_add_mod' _ _
      rw [List.range_succ, List.reverse_append, List.reverse_singleton, List.singleton_append,
        List.foldl_cons, hjoin]
      exact foldl_groups n k

theorem ofSegments_segments (bits : BitVec 128) : ofSegments (segments bits) = bits := by
  have hsegments : segments bits =
      (List.range 8).reverse.map fun i => bits.toNat / 2 ^ (16 * i) % 65536 := by
    simp only [segments, BitVec.toNat_ushiftRight, Nat.shiftRight_eq_div_pow]
    rfl
  have htop : bits.toNat / 2 ^ (16 * 8) = 0 := Nat.div_eq_of_lt bits.isLt
  have hfold := foldl_groups bits.toNat 8
  rw [htop] at hfold
  rw [ofSegments, hsegments, List.foldl_map, hfold, BitVec.ofNat_toNat, BitVec.setWidth_eq]

/-- Two lists of groups around a gap, which stands for zeros. -/
theorem readIpv6Addr_gap (head tail : List Nat) {quad : Bool} {rest : List Char}
    (hlen : head.length + tail.length < 8) (hhead : ∀ g ∈ head, g < 65536)
    (htail : readGroups (8 - (head.length + 1)) true rest = (tail, quad, [])) :
    readIpv6Addr (groupText true head ++ ':' :: ':' :: rest) =
      some (ofSegments (head ++ List.replicate (8 - head.length - tail.length) 0 ++ tail), []) := by
  have hgroups := readGroups_groupText (AfterGroups.gap rest) head 8 true
    (by omega) hhead
  simp only [readIpv6Addr, hgroups, htail, if_neg (show ¬head.length = 8 by omega),
    Bool.false_eq_true, if_false]

theorem readIpv6Addr_groups {segs : List Nat} (hlen : segs.length = 8)
    (hsegs : ∀ g ∈ segs, g < 65536) :
    readIpv6Addr (groupText true segs) = some (ofSegments segs, []) := by
  have hgroups := readGroups_groupText AfterGroups.nil segs 8 true
    (by omega) hsegs
  rw [List.append_nil] at hgroups
  simp only [readIpv6Addr, hgroups, if_pos hlen]

theorem readIpv4Addr_colon (rest : List Char) : readIpv4Addr (':' :: rest) = none := rfl

theorem readIpv4Addr_groupText {segs : List Nat} {rest : List Char} (hne : segs ≠ [])
    (hrest : AfterGroups rest) : readIpv4Addr (groupText true segs ++ rest) = none := by
  cases segs with
  | nil => exact absurd rfl hne
  | cons g gs =>
      rw [groupText, if_pos rfl, List.nil_append, List.append_assoc]
      exact readIpv4Addr_group (hrest.afterGroup gs)

theorem parse_of_readIpv6Addr {text : String} {bits : BitVec 128}
    (h4 : readIpv4Addr text.toList = none) (h6 : readIpv6Addr text.toList = some (bits, [])) :
    parse text = some (v6 bits) := by
  rw [parse, h4, h6]

/-- A mapped address: one group and a quad behind the gap. -/
theorem parse_mapped {bits : BitVec 128} (h : bits >>> 32 = 0xffff) :
    parse ("::ffff:" ++ dotted (bits.setWidth 32)) = some (v6 bits) := by
  let quad := bits.setWidth 32
  have htext : ("::ffff:" ++ dotted quad).toList =
      ':' :: ':' :: (Nat.toDigits 16 65535 ++ ':' :: (dotted quad).toList) := by
    rw [String.toList_append]
    rfl
  have hcolon : AfterGroup (':' :: (dotted quad).toList) := fun c hc => (Option.some.inj hc).symm
  have hquad : readIpv4Addr (dotted quad).toList = some (quad, []) := by
    have hread := readIpv4Addr_dotted quad [] nofun
    rwa [List.append_nil] at hread
  have hnumber : readNumber 16 4 65536 true (Nat.toDigits 16 65535 ++ ':' :: (dotted quad).toList) =
      some (65535, ':' :: (dotted quad).toList) :=
    readNumber_toDigits (Or.inr rfl) hcolon.delimited (by decide) (by decide) (by decide)
  have htail : readGroups 7 true (Nat.toDigits 16 65535 ++ ':' :: (dotted quad).toList) =
      ([65535, quad.toNat / 65536, quad.toNat % 65536], true, []) := by
    rw [readGroups]
    simp only [readSeparator, if_true, readIpv4Addr_group hcolon, ite_self, hnumber]
    rw [readGroups]
    simp only [readSeparator, Bool.false_eq_true, if_false, if_true, hquad,
      if_neg (show ¬5 = 0 by decide)]
  have hbits : ofSegments (List.replicate 5 0 ++ [65535, quad.toNat / 65536, quad.toNat % 65536])
      = bits := by
    apply BitVec.eq_of_toNat_eq
    have hlt := bits.isLt
    have hhigh : bits.toNat / 2 ^ 32 = 65535 := by
      have := congrArg BitVec.toNat h
      simpa [Nat.shiftRight_eq_div_pow] using this
    have hlow : quad.toNat = bits.toNat % 2 ^ 32 := BitVec.toNat_setWidth ..
    simp only [ofSegments, List.replicate_succ, List.replicate_zero, List.cons_append,
      List.nil_append, List.foldl_cons, List.foldl_nil, BitVec.toNat_ofNat, hlow]
    omega
  refine parse_of_readIpv6Addr ?_ ?_
  · rw [htext]
    exact readIpv4Addr_colon _
  · rw [htext, ← hbits]
    exact readIpv6Addr_gap [] _ (by simp) nofun htail

/-- The compressed form: the groups on either side of a run of zeros. -/
theorem parse_compressed {bits : BitVec 128} {start length : Nat}
    (hrun : ZeroRun (segments bits) (start, length)) (hlong : 0 < length) :
    parse (hexGroups ((segments bits).take start) ++ "::" ++
      hexGroups ((segments bits).drop (start + length))) = some (v6 bits) := by
  let head := (segments bits).take start
  let tail := (segments bits).drop (start + length)
  have hle : start + length ≤ 8 := hrun.1
  have hhead : head.length = start := by
    rw [List.length_take, length_segments]
    omega
  have htail : tail.length = 8 - (start + length) := by
    rw [List.length_drop, length_segments]
  have htext : (hexGroups head ++ "::" ++ hexGroups tail).toList =
      groupText true head ++ ':' :: ':' :: groupText true tail := by
    rw [String.toList_append, String.toList_append, toList_hexGroups, toList_hexGroups,
      List.append_assoc]
    rfl
  have hgroups := readGroups_groupText AfterGroups.nil tail (8 - (head.length + 1)) true (by omega)
    fun g hg => lt_of_mem_segments (List.mem_of_mem_drop hg)
  rw [List.append_nil] at hgroups
  have hread := readIpv6Addr_gap head tail (by omega)
    (fun g hg => lt_of_mem_segments (List.mem_of_mem_take hg)) hgroups
  have hsplit : head ++ List.replicate length 0 ++ tail = segments bits := hrun.split
  rw [show 8 - head.length - tail.length = length by omega, hsplit, ofSegments_segments] at hread
  refine parse_of_readIpv6Addr ?_ (by rw [htext]; exact hread)
  rw [htext]
  by_cases hnil : head = []
  · rw [hnil]
    exact readIpv4Addr_colon _
  · exact readIpv4Addr_groupText hnil (AfterGroups.gap _)

/-- All eight groups. -/
theorem parse_full (bits : BitVec 128) : parse (hexGroups (segments bits)) = some (v6 bits) := by
  have hread := readIpv6Addr_groups (length_segments bits) fun g => lt_of_mem_segments
  rw [ofSegments_segments] at hread
  refine parse_of_readIpv6Addr ?_ (by rw [toList_hexGroups]; exact hread)
  rw [toList_hexGroups, ← List.append_nil (groupText true _)]
  exact readIpv4Addr_groupText (List.cons_ne_nil _ _) AfterGroups.nil

theorem parse_display (a : IpAddr) : parse a.display = some a := by
  cases a with
  | v4 bits =>
      have hread := readIpv4Addr_dotted bits [] nofun
      rw [List.append_nil] at hread
      rw [display, parse, hread]
      rfl
  | v6 bits =>
      rw [display, toIpv4Mapped]
      split
      · next mapped hmapped =>
          split at hmapped
          · next hhigh =>
              obtain rfl := Option.some.inj hmapped
              exact parse_mapped hhigh
          · cases hmapped
      · dsimp only
        split
        · next hlong =>
            exact parse_compressed (zeroRun_longestZeroRun (segments bits)) (Nat.lt_of_succ_lt hlong)
        · exact parse_full bits

theorem display_inj {a b : IpAddr} (h : a.display = b.display) : a = b :=
  Option.some.inj ((parse_display a).symm.trans ((congrArg parse h).trans (parse_display b)))

/-! ## Prefixes -/

/-- The characters of numbers and their separators. -/
def IpChar (c : Char) : Prop := c = '.' ∨ c = ':' ∨ ∃ d, c = Nat.digitChar d

theorem IpChar.ne {c c' : Char} (h : IpChar c) (hc' : c' = ',' ∨ c' = '/') : c ≠ c' := by
  rcases h with rfl | rfl | ⟨d, rfl⟩ <;> rcases hc' with rfl | rfl
  · decide
  · decide
  · decide
  · decide
  · exact Nat.digitChar_ne ',' (by decide)
  · exact Nat.digitChar_ne '/' (by decide)

section Characters

variable {P : Char → Prop} (hdot : P '.') (hcolon : P ':') (hdigit : ∀ d < 16, P (Nat.digitChar d))
include hdigit

theorem forall_mem_toDigits {b n : Nat} (hb : b = 10 ∨ b = 16) {c : Char}
    (hc : c ∈ Nat.toDigits b n) : P c := by
  obtain ⟨d, hd, rfl⟩ := mem_toDigits hb hc
  exact hdigit d (by omega)

include hdot

theorem forall_mem_dotted {bits : BitVec 32} {c : Char} (hc : c ∈ (dotted bits).toList) :
    P c := by
  simp only [toList_dotted, List.mem_append, List.mem_cons] at hc
  rcases hc with hc | rfl | hc | rfl | hc | rfl | hc
  · exact forall_mem_toDigits hdigit (Or.inl rfl) hc
  · exact hdot
  · exact forall_mem_toDigits hdigit (Or.inl rfl) hc
  · exact hdot
  · exact forall_mem_toDigits hdigit (Or.inl rfl) hc
  · exact hdot
  · exact forall_mem_toDigits hdigit (Or.inl rfl) hc

include hcolon
omit hdot

theorem forall_mem_groupText {c : Char} : ∀ {gs : List Nat} {first : Bool},
    c ∈ groupText first gs → P c
  | [], _, hc => by cases hc
  | g :: gs, first, hc => by
      simp only [groupText, List.mem_append] at hc
      rcases hc with (hc | hc) | hc
      · cases first
        · rw [List.mem_singleton.mp hc]
          exact hcolon
        · cases hc
      · exact forall_mem_toDigits hdigit (Or.inr rfl) hc
      · exact forall_mem_groupText hc

include hdot

/-- A displayed address consists of digits, dots and colons. -/
theorem forall_mem_display {a : IpAddr} {c : Char} (hc : c ∈ a.display.toList) : P c := by
  have hgroups : ∀ segs, c ∈ (hexGroups segs).toList → P c := fun segs hc => by
    rw [toList_hexGroups] at hc
    exact forall_mem_groupText hcolon hdigit hc
  cases a with
  | v4 bits => exact forall_mem_dotted hdot hdigit hc
  | v6 bits =>
      rw [display] at hc
      split at hc
      · rw [String.toList_append, List.mem_append] at hc
        rcases hc with hc | hc
        · rw [show "::ffff:".toList = [':', ':', 'f', 'f', 'f', 'f', ':'] from rfl] at hc
          have hmapped : c = ':' ∨ c = Nat.digitChar 15 := by
            simp only [List.mem_cons, List.not_mem_nil] at hc
            tauto
          rcases hmapped with rfl | rfl
          · exact hcolon
          · exact hdigit 15 (by decide)
        · exact forall_mem_dotted hdot hdigit hc
      · dsimp only at hc
        split at hc
        · simp only [String.toList_append, List.mem_append] at hc
          rcases hc with (hc | hc) | hc
          · exact hgroups _ hc
          · rw [show "::".toList = List.replicate 2 ':' from rfl] at hc
            rw [List.eq_of_mem_replicate hc]
            exact hcolon
          · exact hgroups _ hc
        · exact hgroups _ hc

end Characters

theorem ipChar_toDigits {b n : Nat} (hb : b = 10 ∨ b = 16) {c : Char}
    (hc : c ∈ Nat.toDigits b n) : IpChar c :=
  forall_mem_toDigits (fun d _ => Or.inr (Or.inr ⟨d, rfl⟩)) hb hc

theorem ipChar_display {a : IpAddr} {c : Char} (hc : c ∈ a.display.toList) : IpChar c :=
  forall_mem_display (Or.inl rfl) (Or.inr (Or.inl rfl)) (fun d _ => Or.inr (Or.inr ⟨d, rfl⟩)) hc

end IpAddr

namespace AllowedIp

open IpAddr

theorem toList_display (a : AllowedIp) :
    a.display.toList = a.network.display.toList ++ '/' :: Nat.toDigits 10 a.prefixLength.toNat := by
  have hlength : (toString a.prefixLength).toList = Nat.toDigits 10 a.prefixLength.toNat :=
    Nat.toList_repr
  rw [display, String.toList_append, String.toList_append, List.append_assoc, hlength]
  rfl

theorem display_inj {a b : AllowedIp} (h : a.display = b.display) : a = b := by
  have htext := congrArg String.toList h
  rw [toList_display, toList_display] at htext
  have hslash : '/' ∉ a.network.display.toList := fun hmem =>
    (ipChar_display hmem).ne (Or.inr rfl) rfl
  have hslash' : '/' ∉ Nat.toDigits 10 a.prefixLength.toNat := fun hmem =>
    (ipChar_toDigits (Or.inl rfl) hmem).ne (Or.inr rfl) rfl
  obtain ⟨hnetwork, -, hlength⟩ := (List.append_cons_inj_of_notMem hslash hslash').mp htext
  have hnat : a.prefixLength.toNat = b.prefixLength.toNat := by
    rw [← foldl_toDigits (Or.inl rfl) (n := a.prefixLength.toNat), hlength,
      foldl_toDigits (Or.inl rfl)]
  cases a
  cases b
  rw [AllowedIp.mk.injEq]
  exact ⟨IpAddr.display_inj (String.toList_inj.mp hnetwork), UInt8.toNat_inj.mp hnat⟩

theorem comma_notMem_display (a : AllowedIp) : ',' ∉ a.display.toList := by
  rw [toList_display, List.mem_append, List.mem_cons]
  rintro (hc | hc | hc)
  · exact (ipChar_display hc).ne (Or.inl rfl) rfl
  · exact absurd hc (by decide)
  · exact (ipChar_toDigits (Or.inl rfl) hc).ne (Or.inl rfl) rfl

end AllowedIp

end CyberiaVpn.Transport
