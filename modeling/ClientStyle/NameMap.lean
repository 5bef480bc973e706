/-
Finite maps from names, as lists of entries sorted by name with every name once.

Names are ordered by code point. `insert` keeps the order, and every map of this library is built by
it or listed in order to begin with, so two maps with the same entries are equal as lists.
-/
set_option autoImplicit false

namespace ClientStyle

/-- Entries by name. -/
abbrev NameMap (α : Type) := List (String × α)

namespace NameMap

variable {α : Type}

/-- The value under a name. -/
def find? (m : NameMap α) (name : String) : Option α := List.lookup name m

/-- Whether there is an entry under a name. -/
def contains (m : NameMap α) (name : String) : Bool := (m.find? name).isSome

/-- Adds an entry in its place, or replaces the value under its name. -/
def insert (m : NameMap α) (name : String) (value : α) : NameMap α :=
  match m with
  | [] => [(name, value)]
  | (other, old) :: rest =>
    if name < other then (name, value) :: (other, old) :: rest
    else if name = other then (name, value) :: rest
    else (other, old) :: insert rest name value

/-- Adds the entries of the second map to the first; of equal names the second map wins. -/
def union (m added : NameMap α) : NameMap α := added.foldl (fun done e => done.insert e.1 e.2) m

/-- The map of entries in any order; of equal names the last one wins. -/
def ofEntries (entries : List (String × α)) : NameMap α := union [] entries

end NameMap

end ClientStyle
