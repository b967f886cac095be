import CyberiaVpn.Data.Table

/-!
# Maps that may be nil

A Go map is nil or made. A nil map reads as an empty one, and an
assignment to it panics, which is `none`.
-/

namespace CyberiaVpn.Data

abbrev GoMap (κ ν : Type) := Option (Table κ ν)

/-- A loop over a map visits its entries in any order, chosen anew each
time. -/
structure RangeOrder (κ ν : Type) where
  arrange : List ((_ : κ) × ν) → List ((_ : κ) × ν)
  perm : ∀ entries, (arrange entries).Perm entries

namespace GoMap

variable {κ ν : Type} [DecidableEq κ]

def make : GoMap κ ν := some ∅

/-- The entries, as every read sees them. -/
def read (m : GoMap κ ν) : Table κ ν := m.getD ∅

/-- `if m == nil { m = make(..) }`. -/
def orMake (m : GoMap κ ν) : GoMap κ ν := some m.read

def assign (m : GoMap κ ν) (k : κ) (v : ν) : Option (GoMap κ ν) :=
  m.map fun t => some (t.insert k v)

/-- `range m` with the order one loop happens to take. -/
def range (m : GoMap κ ν) (order : RangeOrder κ ν) : List ((_ : κ) × ν) :=
  order.arrange m.read.entries

omit [DecidableEq κ] in
@[simp] theorem read_make : read (make : GoMap κ ν) = ∅ := rfl

omit [DecidableEq κ] in
@[simp] theorem read_nil : read (none : GoMap κ ν) = ∅ := rfl

omit [DecidableEq κ] in
@[simp] theorem read_some (t : Table κ ν) : read (some t) = t := rfl

/-- A map that was just made if need be takes every assignment. -/
@[simp] theorem assign_orMake (m : GoMap κ ν) (k : κ) (v : ν) :
    m.orMake.assign k v = some (some (m.read.insert k v)) := rfl

end GoMap

end CyberiaVpn.Data
