/-
What is read from a text.

A reader takes a value apart into what it reads with one level less, so what holds of all that is read
is shown level by level: for scalars, for arrays and for objects, whatever the characters were. That a
text that is read nests no deeper than the limit is the first use of this.
-/
import ClientStyle.Json.Reader
import ClientStyle.Proofs.Parts
import ClientStyle.Proofs.SortedMaps

set_option autoImplicit false

namespace ClientStyle.Json

/-- Whatever a reader reads has a property. -/
def Gives (P : Json → Prop) (item : Reader Json) : Prop :=
  ∀ cs value rest, item cs = some (value, rest) → P value

theorem nesting_of_scalar? {cs rest : List Char} {value : Json}
    (h : scalar? cs = some (value, rest)) : nesting value = 0 := by
  unfold scalar? at h
  split at h
  -- All readers of scalars map what they read into a constructor.
  all_goals
    obtain ⟨found, -, hvalue⟩ := Option.map_eq_some_iff.1 h
    cases hvalue
    rfl

/-! ## Containers -/

variable {P : Json → Prop} {item : Reader Json}

/-- The items of an array were read by the reader of items, whatever stands between them. The
induction is on the bound, which the reader takes for termination only. -/
theorem forall_of_items? (hitem : Gives P item) {bound : Nat} {cs rest : List Char}
    {items : List Json} (h : items? item bound cs = some (items, rest)) :
    ∀ value ∈ items, P value := by
  induction bound generalizing cs items rest with
  | zero => cases h
  | succ bound ih =>
    obtain ⟨⟨value, cs'⟩, hvalue, h⟩ := Option.bind_eq_some_iff.1 h
    obtain ⟨⟨more, cs''⟩, -, h⟩ := Option.bind_eq_some_iff.1 h
    have hfirst := hitem cs value cs' hvalue
    cases more with
    | true =>
      obtain ⟨⟨values, _⟩, hvalues, h⟩ := Option.bind_eq_some_iff.1 h
      cases h
      exact List.forall_mem_cons.2 ⟨hfirst, ih hvalues⟩
    | false =>
      cases h
      exact List.forall_mem_singleton.2 hfirst

/-- A member is a name and a value that the reader read. -/
theorem of_member? (hitem : Gives P item) {cs rest : List Char} {m : String × Json}
    (h : member? item cs = some (m, rest)) : P m.2 := by
  unfold member? at h
  split at h
  · obtain ⟨⟨name, cs'⟩, -, h⟩ := Option.bind_eq_some_iff.1 h
    simp only at h
    split at h
    · obtain ⟨⟨value, cs''⟩, hvalue, h⟩ := Option.bind_eq_some_iff.1 h
      cases h
      exact hitem _ value cs'' hvalue
    · cases h
  · cases h

theorem forall_of_members? (hitem : Gives P item) {bound : Nat} {cs rest : List Char}
    {members : Members} (h : members? item bound cs = some (members, rest)) :
    ∀ m ∈ members, P m.2 := by
  induction bound generalizing cs members rest with
  | zero => cases h
  | succ bound ih =>
    obtain ⟨⟨m, cs'⟩, hm, h⟩ := Option.bind_eq_some_iff.1 h
    obtain ⟨⟨more, cs''⟩, -, h⟩ := Option.bind_eq_some_iff.1 h
    have hfirst := of_member? hitem hm
    cases more with
    | true =>
      obtain ⟨⟨values, _⟩, hvalues, h⟩ := Option.bind_eq_some_iff.1 h
      cases h
      exact List.forall_mem_cons.2 ⟨hfirst, ih hvalues⟩
    | false =>
      cases h
      exact List.forall_mem_singleton.2 hfirst

/-! ## Values -/

/-- **What is read with some levels** has a property of that many levels if scalars have it, arrays
of what has it of one level less, and objects with such members. -/
theorem gives_value? {P : Nat → Json → Prop}
    (scalar : ∀ limit value, nesting value = 0 → P limit value)
    (array : ∀ limit items, (∀ item ∈ items, P limit item) → P (limit + 1) (.array items))
    (object : ∀ limit members, (∀ m ∈ members, P limit m.2) → P (limit + 1) (ofMembers members))
    (limit : Nat) : Gives (P limit) (value? limit) := by
  induction limit with
  | zero => exact fun cs value rest h => scalar 0 value (nesting_of_scalar? h)
  | succ limit ih =>
    intro cs value rest h
    rw [value?] at h
    split at h
    · unfold arrayBody? at h
      split at h
      · cases h
        exact array limit [] nofun
      · obtain ⟨⟨items, cs'⟩, hitems, hvalue⟩ := Option.map_eq_some_iff.1 h
        cases hvalue
        exact array limit items (forall_of_items? ih hitems)
    · unfold objectBody? at h
      split at h
      · cases h
        exact object limit [] nofun
      · obtain ⟨⟨members, cs'⟩, hmembers, hvalue⟩ := Option.map_eq_some_iff.1 h
        cases hvalue
        exact object limit members (forall_of_members? ih hmembers)
    · exact scalar _ value (nesting_of_scalar? h)

/-- The value of a whole text is one that is read with all levels. -/
theorem of_read? (h : Gives P (value? nestingLimit)) {text : String} {value : Json}
    (hread : read? text = some value) : P value := by
  rw [read?, readWithin?] at hread
  split at hread
  · next found rest hfound =>
    split at hread
    · cases hread
      exact h _ _ _ hfound
    · cases hread
  · cases hread

/-- What is read from a text nests no deeper than the limit. -/
theorem nesting_le_of_read? {text : String} {value : Json} (h : read? text = some value) :
    nesting value ≤ nestingLimit := by
  refine of_read? (gives_value? (P := fun limit value => nesting value ≤ limit) ?_ ?_ ?_ _) h
  · exact fun limit value hscalar => hscalar ▸ Nat.zero_le limit
  · exact fun limit items hitems => nesting_array_le_iff.2 hitems
  · intro limit members hmembers
    exact nesting_object_le_iff.2 fun m hm => hmembers m (NameMap.mem_of_mem_ofEntries hm)

end ClientStyle.Json
