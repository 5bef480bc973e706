/-
The parts of a JSON value.

A part of a value is the value itself or a part of one of its items or members. A property of a value
"everywhere inside" is one of all its parts, and how deep a value nests bounds how deep its parts do.
Whatever is looked up in a value, by a name or by a pointer, is a part of it.
-/
import ClientStyle.Document
import ClientStyle.Proofs.NameMaps

set_option autoImplicit false

namespace ClientStyle.Json

/-- A value is a part of another one. -/
inductive Part : Json → Json → Prop
  | self (value : Json) : Part value value
  | item {value item : Json} {items : List Json} (h : Part value item) (hmem : item ∈ items) :
      Part value (.array items)
  | member {value : Json} {m : String × Json} {members : List (String × Json)}
      (h : Part value m.2) (hmem : m ∈ members) : Part value (.object members)

/-- A part of a part is a part. -/
theorem Part.trans {inner value outer : Json} (h : Part inner value) (h' : Part value outer) :
    Part inner outer := by
  induction h' with
  | self => exact h
  | item _ hmem ih => exact .item ih hmem
  | member _ hmem ih => exact .member ih hmem

/-- A scalar has no part but itself. -/
theorem Part.eq_of_nesting_eq_zero {inner value : Json} (h : Part inner value)
    (hscalar : nesting value = 0) : inner = value := by
  cases h with
  | self => rfl
  | item => cases hscalar
  | member => cases hscalar

/-! ## Nesting -/

theorem nestingOfItems_le_iff {items : List Json} {depth : Nat} :
    nestingOfItems items ≤ depth ↔ ∀ item ∈ items, nesting item ≤ depth := by
  induction items with
  | nil => simp [nestingOfItems]
  | cons item items ih => rw [nestingOfItems, Nat.max_le, ih, List.forall_mem_cons]

theorem nestingOfMembers_le_iff {members : List (String × Json)} {depth : Nat} :
    nestingOfMembers members ≤ depth ↔ ∀ m ∈ members, nesting m.2 ≤ depth := by
  induction members with
  | nil => simp [nestingOfMembers]
  | cons m members ih =>
    obtain ⟨name, value⟩ := m
    rw [nestingOfMembers, Nat.max_le, ih, List.forall_mem_cons]

/-- The items of an array that nests to some depth nest to one less. -/
theorem nesting_array_le_iff {items : List Json} {depth : Nat} :
    nesting (.array items) ≤ depth + 1 ↔ ∀ item ∈ items, nesting item ≤ depth := by
  rw [nesting, Nat.add_le_add_iff_right, nestingOfItems_le_iff]

/-- The members of an object that nests to some depth nest to one less. -/
theorem nesting_object_le_iff {members : List (String × Json)} {depth : Nat} :
    nesting (.object members) ≤ depth + 1 ↔ ∀ m ∈ members, nesting m.2 ≤ depth := by
  rw [nesting, Nat.add_le_add_iff_right, nestingOfMembers_le_iff]

/-- A part nests no deeper than the whole. -/
theorem nesting_le_of_part {inner value : Json} (h : Part inner value) :
    nesting inner ≤ nesting value := by
  induction h with
  | self => exact Nat.le_refl _
  | item _ hmem ih =>
    have hitem := nestingOfItems_le_iff.1 (Nat.le_refl _) _ hmem
    rw [nesting]
    omega
  | member _ hmem ih =>
    have hmember := nestingOfMembers_le_iff.1 (Nat.le_refl _) _ hmem
    rw [nesting]
    omega

/-- What holds of scalars, of an array if it holds of its items and of an object if it holds of its
members, holds of every value. -/
@[elab_as_elim]
theorem induction {P : Json → Prop} (scalar : ∀ value, nesting value = 0 → P value)
    (array : ∀ items, (∀ item ∈ items, P item) → P (.array items))
    (object : ∀ members : List (String × Json), (∀ m ∈ members, P m.2) → P (.object members))
    (value : Json) : P value := by
  -- The recursor of the type has a case for each kind of list inside it. Bounded by depth, one
  -- property is enough.
  have hbounded : ∀ depth value, nesting value ≤ depth → P value := by
    intro depth
    induction depth with
    | zero => exact fun value h => scalar value (Nat.le_zero.1 h)
    | succ depth ih =>
      intro value h
      cases value with
      | array items =>
        exact array items fun item hitem => ih item (nesting_array_le_iff.1 h item hitem)
      | object members => exact object members fun m hm => ih m.2 (nesting_object_le_iff.1 h m hm)
      | _ => exact scalar _ rfl
  exact hbounded _ value (Nat.le_refl _)

/-! ## All parts -/

mutual

/-- All parts of a value, the value first. -/
def parts : Json → List Json
  | .array items => .array items :: partsOfItems items
  | .object members => .object members :: partsOfMembers members
  | value => [value]

/-- All parts of the items of an array. -/
def partsOfItems : List Json → List Json
  | [] => []
  | item :: rest => parts item ++ partsOfItems rest

/-- All parts of the members of an object. -/
def partsOfMembers : List (String × Json) → List Json
  | [] => []
  | (_, value) :: rest => parts value ++ partsOfMembers rest

end

theorem mem_partsOfItems {value : Json} {items : List Json} :
    value ∈ partsOfItems items ↔ ∃ item ∈ items, value ∈ parts item := by
  induction items with
  | nil => simp [partsOfItems]
  | cons item items ih => simp [partsOfItems, ih]

theorem mem_partsOfMembers {value : Json} {members : List (String × Json)} :
    value ∈ partsOfMembers members ↔ ∃ m ∈ members, value ∈ parts m.2 := by
  induction members with
  | nil => simp [partsOfMembers]
  | cons m members ih => simp [partsOfMembers, ih]

theorem mem_parts_self (value : Json) : value ∈ parts value := by
  cases value <;> exact List.mem_cons_self ..

/-- The list of parts holds the parts and nothing else. -/
theorem mem_parts_iff {value inner : Json} : inner ∈ parts value ↔ Part inner value := by
  constructor
  · induction value using Json.induction with
    -- The only part of a scalar is the scalar.
    | scalar value hscalar =>
      intro h
      cases value with
      | array => cases hscalar
      | object => cases hscalar
      | _ => exact List.mem_singleton.1 h ▸ .self inner
    | array items ih =>
      intro h
      rw [parts, List.mem_cons] at h
      rcases h with rfl | h
      · exact .self _
      · obtain ⟨item, hitem, hpart⟩ := mem_partsOfItems.1 h
        exact .item (ih item hitem hpart) hitem
    | object members ih =>
      intro h
      rw [parts, List.mem_cons] at h
      rcases h with rfl | h
      · exact .self _
      · obtain ⟨m, hm, hpart⟩ := mem_partsOfMembers.1 h
        exact .member (ih m hm hpart) hm
  · intro h
    induction h with
    | self => exact mem_parts_self inner
    | item _ hmem ih =>
      rw [parts]
      exact List.mem_cons_of_mem _ (mem_partsOfItems.2 ⟨_, hmem, ih⟩)
    | member _ hmem ih =>
      rw [parts]
      exact List.mem_cons_of_mem _ (mem_partsOfMembers.2 ⟨_, hmem, ih⟩)

/-- What holds of all parts of a value can be checked part by part. -/
instance (p : Json → Prop) [DecidablePred p] (value : Json) :
    Decidable (∀ inner, Part inner value → p inner) :=
  decidable_of_iff (∀ inner ∈ parts value, p inner) (by simp only [mem_parts_iff])

/-! ## Looking up -/

theorem part_of_find? {members : Members} {name : String} {value : Json}
    (h : members.find? name = some value) : Part value (.object members) :=
  .member (.self value) (NameMap.mem_of_find?_eq_some h)

/-- Only an object has members. -/
theorem get?_eq_some_iff {value inner : Json} {name : String} : value.get? name = some inner ↔
    ∃ members, value = .object members ∧ NameMap.find? members name = some inner := by
  constructor
  · intro h
    cases value with
    | object members => exact ⟨members, rfl, h⟩
    | _ => cases h
  · rintro ⟨members, rfl, h⟩
    exact h

theorem part_of_get? {value inner : Json} {name : String} (h : value.get? name = some inner) :
    Part inner value := by
  obtain ⟨members, rfl, hfind⟩ := get?_eq_some_iff.1 h
  exact part_of_find? hfind

/-- A step of a pointer is a name in an object, or a number that counts the items of an array. -/
theorem part_of_step? {value inner : Json} {step : List Char} (h : value.step? step = some inner) :
    Part inner value := by
  cases value with
  | object members => exact part_of_find? h
  | array items =>
    obtain ⟨i, -, hi⟩ := Option.bind_eq_some_iff.1 h
    exact .item (.self inner) (List.mem_of_getElem? hi)
  | _ => cases h

/-- A pointer names a part of a value. -/
theorem part_of_pointer? {value inner : Json} {pointer : List Char}
    (h : value.pointer? pointer = some inner) : Part inner value := by
  have hsteps : ∀ (steps : List (List Char)) (value : Json),
      steps.foldlM step? value = some inner → Part inner value := by
    intro steps
    induction steps with
    | nil =>
      intro value hnil
      cases hnil
      exact .self _
    -- The steps behind the first lead on inside the value that it names.
    | cons step steps ih =>
      intro value hcons
      rw [List.foldlM_cons] at hcons
      obtain ⟨next, hnext, hrest⟩ := Option.bind_eq_some_iff.1 hcons
      exact (ih next hrest).trans (part_of_step? hnext)
  unfold pointer? at h
  split at h
  · cases h
    exact .self _
  · exact hsteps _ value h
  · cases h

/-- A reference names a part of the document. -/
theorem part_of_resolve? {document : Document} {inner : Json} {reference : String}
    (h : document.resolve? reference = some inner) : Part inner document := by
  unfold Document.resolve? at h
  split at h
  · exact part_of_pointer? h
  · cases h

end ClientStyle.Json
