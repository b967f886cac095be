import Mathlib.Data.List.AList

/-!
# Tables

A map with a size, as an association list without repeated keys. On top of
what `AList` has: dropping entries by a predicate, counting entries, and
`Same`, equality up to the order of entries.
-/

namespace CyberiaVpn.Data

abbrev Table (κ ν : Type) := AList fun _ : κ => ν

namespace Table

section

variable {κ ν : Type} {t t' : Table κ ν}

def size (t : Table κ ν) : Nat := t.entries.length

/-- The entries that satisfy `p`. -/
def keep (p : κ → ν → Bool) (t : Table κ ν) : Table κ ν :=
  ⟨t.entries.filter fun e => p e.1 e.2, t.nodupKeys.sublist List.filter_sublist⟩

/-- The same entries in some order. -/
def Same (t t' : Table κ ν) : Prop := t.entries.Perm t'.entries

theorem size_keep_le (p : κ → ν → Bool) (t : Table κ ν) : size (keep p t) ≤ size t :=
  List.length_filter_le _ _

theorem same_refl (t : Table κ ν) : Same t t := List.Perm.refl _

theorem same_size (h : Same t t') : size t = size t' := List.Perm.length_eq h

theorem same_mem (h : Same t t') {k : κ} : k ∈ t ↔ k ∈ t' := AList.mem_of_perm h

theorem same_keep (h : Same t t') (p : κ → ν → Bool) : Same (keep p t) (keep p t') :=
  List.Perm.filter _ h

end

section

variable {κ ν : Type} [DecidableEq κ] {p : κ → ν → Bool} {t t' : Table κ ν} {k : κ} {v : ν}

theorem lookup_keep_eq_some :
    (keep p t).lookup k = some v ↔ t.lookup k = some v ∧ p k v = true := by
  rw [← Option.mem_def, ← Option.mem_def, AList.mem_lookup_iff, AList.mem_lookup_iff]
  exact List.mem_filter

theorem mem_iff_lookup : k ∈ t ↔ ∃ v, t.lookup k = some v := by
  rw [← AList.lookup_isSome, Option.isSome_iff_exists]

theorem size_insert (h : k ∉ t) (v : ν) : size (t.insert k v) = size t + 1 := by
  rw [size, AList.entries_insert_of_notMem h]
  rfl

theorem size_erase (h : k ∈ t) : size (t.erase k) + 1 = size t := by
  have hlen : ∀ t : Table κ ν, t.keys.length = size t := fun t => List.length_map _
  have hkeys : (t.erase k).keys.length = t.keys.length - 1 := by
    rw [AList.keys_erase]
    exact List.length_erase_of_mem h
  have hpos : 0 < t.keys.length := List.length_pos_of_mem h
  rw [hlen, hlen] at hkeys
  rw [hlen] at hpos
  omega

theorem size_erase_le (k : κ) (t : Table κ ν) : size (t.erase k) ≤ size t :=
  (List.kerase_sublist k t.entries).length_le

/-- The first of a list of entries with distinct new keys is new. -/
theorem notMem_of_nodupKeys {e : (_ : κ) × ν} {l : List ((_ : κ) × ν)}
    (h : (e :: l ++ t.entries).NodupKeys) : e.1 ∉ t := by
  intro hmem
  obtain ⟨v, hv⟩ := mem_iff_lookup.mp hmem
  have hin : (⟨e.1, v⟩ : (_ : κ) × ν) ∈ l ++ t.entries :=
    List.mem_append_right _ (AList.mem_lookup_iff.mp hv)
  have hkey : e.1 ∈ (l ++ t.entries).keys := List.mem_map.mpr ⟨_, hin, rfl⟩
  exact (List.nodupKeys_cons.mp h).1 hkey

/-- Inserting it moves it from the list to the table. -/
theorem perm_insert_entries {e : (_ : κ) × ν} {l : List ((_ : κ) × ν)} (h : e.1 ∉ t) :
    (l ++ (t.insert e.1 e.2).entries).Perm (e :: l ++ t.entries) := by
  rw [AList.entries_insert_of_notMem h]
  exact List.perm_middle

theorem same_lookup (h : Same t t') (k : κ) : t.lookup k = t'.lookup k := AList.perm_lookup h

theorem same_insert (h : Same t t') (k : κ) (v : ν) : Same (t.insert k v) (t'.insert k v) :=
  AList.perm_insert h

theorem same_erase (h : Same t t') (k : κ) : Same (t.erase k) (t'.erase k) := AList.perm_erase h

end

end Table

end CyberiaVpn.Data
