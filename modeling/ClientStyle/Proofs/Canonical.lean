/-
Values whose objects are sorted.

Two texts of one JSON value differ in the order of the members of their objects. A value is canonical
if the members of each object in it are sorted, every name once; then it is the only one with its
content. The parts of a canonical value are canonical, and so is what is read from a text.
-/
import ClientStyle.Proofs.ReadValues

set_option autoImplicit false

namespace ClientStyle.Json

/-- The members of an object are sorted. -/
def IsSorted : Json → Prop
  | .object members => NameMap.Sorted members
  | _ => True

instance : DecidablePred IsSorted
  | .object members => inferInstanceAs (Decidable (NameMap.Sorted members))
  | .null | .bool _ | .number _ | .string _ | .array _ => isTrue trivial

/-- All objects in a value are sorted. -/
def Canonical (value : Json) : Prop := ∀ inner, Part inner value → IsSorted inner

instance : DecidablePred Canonical := fun value =>
  inferInstanceAs (Decidable (∀ inner, Part inner value → IsSorted inner))

theorem Canonical.of_part {inner value : Json} (h : Canonical value) (hpart : Part inner value) :
    Canonical inner := fun _ hinner => h _ (hinner.trans hpart)

theorem canonical_of_nesting_eq_zero {value : Json} (h : nesting value = 0) : Canonical value := by
  intro inner hpart
  rw [hpart.eq_of_nesting_eq_zero h]
  cases value with
  | object => cases h
  | _ => trivial

theorem canonical_array_iff {items : List Json} :
    Canonical (.array items) ↔ ∀ item ∈ items, Canonical item := by
  constructor
  · exact fun h item hitem => h.of_part (.item (.self item) hitem)
  · intro h inner hpart
    cases hpart with
    | self => trivial
    | item hpart hmem => exact h _ hmem inner hpart

/-- An object is canonical if its own members are sorted and their values are canonical. -/
theorem canonical_object_iff {members : Members} :
    Canonical (.object members) ↔ NameMap.Sorted members ∧ ∀ m ∈ members, Canonical m.2 := by
  constructor
  · exact fun h => ⟨h _ (.self _), fun m hm => h.of_part (.member (.self m.2) hm)⟩
  · intro h inner hpart
    cases hpart with
    | self => exact h.1
    | member hpart hmem => exact h.2 _ hmem inner hpart

/-! ## Reading -/

/-- What is read from a text is canonical: the members of an object may come in any order there, but
the object sorts them. -/
theorem canonical_of_read? {text : String} {value : Json} (h : read? text = some value) :
    Canonical value := by
  refine of_read? (gives_value? (P := fun _ => Canonical) ?_ ?_ ?_ _) h
  · exact fun _ value hscalar => canonical_of_nesting_eq_zero hscalar
  · exact fun _ items hitems => canonical_array_iff.2 hitems
  · intro _ members hmembers
    exact canonical_object_iff.2 ⟨NameMap.sorted_ofEntries members,
      fun m hm => hmembers m (NameMap.mem_of_mem_ofEntries hm)⟩

end ClientStyle.Json
