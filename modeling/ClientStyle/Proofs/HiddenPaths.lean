/-
Hiding paths.

A path leaves an operation open if it is hidden and the operation does not say whether it is. Hiding
leaves none open, and what normalizing does to a path afterwards opens none again. So the only open
path that a normalized document can have is one that normalizing took from a list: the first of the
`examples` among its paths.
-/
import ClientStyle.Proofs.NormalForm

set_option autoImplicit false

namespace ClientStyle.Normal

/-! ## Operations -/

/-- An operation that does not say whether it is hidden. -/
def IsOpen (operation : Json) : Prop :=
  ∃ members, operation = .object members ∧ NameMap.contains members hiddenKey = false

/-- An operation that says whether it is hidden keeps what it says, and so does anything that is no
object. -/
theorem hideOperation_of_not_isOpen {operation : Json} (h : ¬ IsOpen operation) :
    hideOperation operation = ⟨operation, .none⟩ := by
  cases operation with
  | object members =>
    refine if_pos (Bool.not_eq_false _ ▸ fun hopen => ?_)
    exact h ⟨members, rfl, hopen⟩
  | _ => rfl

/-- An open operation is hidden, and this is one change in the report. -/
theorem hideOperation_of_isOpen {members : Json.Members}
    (h : NameMap.contains members hiddenKey = false) : hideOperation (.object members)
      = ⟨.object (NameMap.insert members hiddenKey (.bool true)), ⟨0, 0, 1, 0⟩⟩ := by
  simp only [hideOperation, h, Bool.false_eq_true, if_false]

/-- Hiding twice changes nothing more, since no operation is left open. -/
theorem not_isOpen_hideOperation (operation : Json) : ¬ IsOpen (hideOperation operation).value := by
  by_cases h : IsOpen operation
  · obtain ⟨members, rfl, hopen⟩ := h
    rw [hideOperation_of_isOpen hopen]
    rintro ⟨hidden, heq, hnone⟩
    rw [← Json.object.inj heq, NameMap.contains, NameMap.find?_insert_self] at hnone
    cases hnone
  · rw [hideOperation_of_not_isOpen h]
    exact h

/-- A member of a hidden path with its operation hidden. -/
def hideMember (name : String) (value : Json) : Reported Json :=
  if name ∈ methods then hideOperation value else ⟨value, .none⟩

/-- Under the name of a method stands an operation. -/
theorem hideMember_of_mem {name : String} (h : name ∈ methods) (value : Json) :
    hideMember name value = hideOperation value := if_pos h

/-- Under any other name, such as that of shared parameters, nothing is hidden. -/
theorem hideMember_of_not_mem {name : String} (h : name ∉ methods) (value : Json) :
    hideMember name value = ⟨value, .none⟩ := if_neg h

/-- A member stays as it is, or it is an open operation that is hidden. -/
theorem hideMember_cases (name : String) (value : Json) :
    hideMember name value = ⟨value, .none⟩ ∨
      name ∈ methods ∧ ∃ members, value = .object members ∧
        (hideMember name value).value
          = .object (NameMap.insert members hiddenKey (.bool true)) := by
  by_cases hmethod : name ∈ methods
  · rw [hideMember_of_mem hmethod]
    by_cases hopen : IsOpen value
    · obtain ⟨members, rfl, hnone⟩ := hopen
      exact .inr ⟨hmethod, members, rfl, by rw [hideOperation_of_isOpen hnone]⟩
    · exact .inl (hideOperation_of_not_isOpen hopen)
  · exact .inl (hideMember_of_not_mem hmethod value)

/-- Hiding keeps what a value is, an object or not; that is all that later steps depend on. -/
theorem alike_hideMember (name : String) (value : Json) :
    Alike value (hideMember name value).value := by
  rcases hideMember_cases name value with hsame | ⟨-, members, rfl, hhidden⟩
  · rw [hsame]
    exact .same value
  · rw [hhidden]
    exact .object _ _

/-- Hiding adds a truth value to an object and never makes a wrapper, so wrappers have objects in them
as before. -/
theorem wrapsObjects_hideMember {value : Json} (h : WrapsObjects value) (name : String) :
    WrapsObjects (hideMember name value).value := by
  rcases hideMember_cases name value with hsame | ⟨-, members, rfl, hhidden⟩
  · rw [hsame]
    exact h
  · rw [hhidden]
    refine wrapsObjects_object (not_isWrapper_insert (by decide) members _) fun m hm => ?_
    rcases NameMap.eq_or_mem_of_mem_insert hm with rfl | hold
    · rintro schema ⟨⟩
    · exact h.of_member hold

/-! ## Paths -/

/-- A hidden path with an operation that does not say whether it is hidden. -/
def LeavesOpen (path : Json) : Prop :=
  ∃ members, path = .object members ∧ isHidden members = true ∧
    ∃ m ∈ members, m.1 ∈ methods ∧ IsOpen m.2

/-- In a hidden path every member is looked at. -/
theorem hidePath_of_isHidden {members : Json.Members} (h : isHidden members = true) :
    hidePath (.object members)
      = ⟨.object (eachMember hideMember members).value, (eachMember hideMember members).report⟩ :=
  if_pos h

/-- Any other path is left alone. -/
theorem hidePath_of_not_isHidden {members : Json.Members} (h : ¬ isHidden members = true) :
    hidePath (.object members) = ⟨.object members, .none⟩ := if_neg h

/-- A path that leaves no operation open is left alone. -/
theorem hidePath_of_not_leavesOpen {path : Json} (h : ¬ LeavesOpen path) :
    hidePath path = ⟨path, .none⟩ := by
  cases path with
  | object members =>
    by_cases hhidden : isHidden members = true
    · have hmembers : eachMember hideMember members = ⟨members, .none⟩ := by
        refine eachMember_eq_self fun m hm => ?_
        by_cases hmethod : m.1 ∈ methods
        · rw [hideMember_of_mem hmethod]
          exact hideOperation_of_not_isOpen fun hopen =>
            h ⟨members, rfl, hhidden, m, hm, hmethod, hopen⟩
        · exact hideMember_of_not_mem hmethod m.2
      rw [hidePath_of_isHidden hhidden, hmembers]
    · exact hidePath_of_not_isHidden hhidden
  | _ => rfl

/-- Hiding an open operation is reported. -/
theorem hidePath_report_ne_none {path : Json} (h : LeavesOpen path) :
    (hidePath path).report ≠ .none := by
  obtain ⟨members, rfl, hhidden, m, hm, hmethod, hopen⟩ := h
  rw [hidePath_of_isHidden hhidden, eachMember_report, Ne, Report.total_eq_none_iff,
    List.forall_mem_map]
  intro hnothing
  have hreport := hnothing m hm
  obtain ⟨operation, hoperation, hnone⟩ := hopen
  rw [hideMember_of_mem hmethod, hoperation, hideOperation_of_isOpen hnone] at hreport
  cases hreport

/-- Hiding leaves nothing open. -/
theorem not_leavesOpen_hidePath (path : Json) : ¬ LeavesOpen (hidePath path).value := by
  by_cases h : LeavesOpen path
  · obtain ⟨members, rfl, hhidden, -⟩ := h
    rw [hidePath_of_isHidden hhidden, eachMember_value]
    rintro ⟨after, hafter, -, m, hm, hmethod, hopen⟩
    rw [← Json.object.inj hafter] at hm
    obtain ⟨old, -, rfl⟩ := List.mem_map.1 hm
    -- The names stay the same, so an operation of the new path was made from one of the old path.
    simp only [hideMember_of_mem hmethod] at hopen
    exact not_isOpen_hideOperation old.2 hopen
  · rw [hidePath_of_not_leavesOpen h]
    exact h

/-- A path stays as it is, or it is an object that remains one with its operations hidden. -/
theorem hidePath_cases (path : Json) : hidePath path = ⟨path, .none⟩ ∨
    ∃ members, path = .object members ∧ (hidePath path).value
      = .object (members.map fun m => (m.1, (hideMember m.1 m.2).value)) := by
  by_cases h : LeavesOpen path
  · obtain ⟨members, rfl, hhidden, -⟩ := h
    refine .inr ⟨members, rfl, ?_⟩
    rw [hidePath_of_isHidden hhidden, eachMember_value]
  · exact .inl (hidePath_of_not_leavesOpen h)

/-- A path stays an object, or whatever else it was. -/
theorem alike_hidePath (path : Json) : Alike path (hidePath path).value := by
  rcases hidePath_cases path with hsame | ⟨members, rfl, hhidden⟩
  · rw [hsame]
    exact .same path
  · rw [hhidden]
    exact .object _ _

/-- Only objects are changed. -/
theorem eq_of_hidePath_eq_array {path : Json} {items : List Json}
    (h : (hidePath path).value = .array items) : path = .array items := by
  rcases hidePath_cases path with hsame | ⟨members, rfl, hhidden⟩
  · rw [hsame] at h
    exact h
  · cases hhidden.symm.trans h

/-- A path that is no wrapper does not become one: its members keep their names and their kinds. -/
theorem not_isWrapper_hidePath {path : Json} (h : ¬ IsWrapper path) :
    ¬ IsWrapper (hidePath path).value := by
  rcases hidePath_cases path with hsame | ⟨members, rfl, hhidden⟩
  · rw [hsame]
    exact h
  · rw [hhidden]
    refine not_isWrapper_map (f := fun name value => (hideMember name value).value) h ?_
    intro m _ schema hschema
    exact (hschema ▸ alike_hideMember m.1 m.2).eq_singleton

/-- What is in wrappers stays an object when a path is hidden. The path itself is none, since
normalizing has taken wrappers away. -/
theorem wrapsObjects_hidePath {path : Json} (h : WrapsObjects path) (hself : ¬ IsWrapper path) :
    WrapsObjects (hidePath path).value := by
  have hafter := not_isWrapper_hidePath hself
  rcases hidePath_cases path with hsame | ⟨members, rfl, hhidden⟩
  · rw [hsame]
    exact h
  · rw [hhidden] at hafter ⊢
    refine wrapsObjects_object hafter (List.forall_mem_map.2 fun m hm => ?_)
    exact wrapsObjects_hideMember (h.of_member hm) m.1

/-! ## Paths in normal form -/

/-- A member with a name that stands for neither prose nor an example, in the normal form of an
object. -/
theorem find?_normalized {name : String} (hprose : isProse name = false)
    (hexample : isExample name = false) (members : Json.Members) (depth : Nat) (inProperties : Bool) :
    NameMap.find? (eachMember (normalizeMember depth inProperties) (prepared members)).value name
      = (members.find? name).map
          fun value => (normalizeWithin depth (name == "properties") value).value := by
  have hne : name ≠ "example" := by
    rintro rfl
    cases hexample
  rw [find?_eachMember, find?_prepared hne, Option.map_map]
  refine congrArg (Option.map · _) (funext fun value => ?_)
  simp only [Function.comp_apply, tidyMember_of_not_isProse hprose, normalizeMember, hexample,
    Bool.false_and, Bool.false_eq_true, if_false]

/-- An operation that says whether it is hidden keeps saying so when it is normalized, and is no
wrapper because of that. -/
theorem not_isOpen_normalizeWithin {members : Json.Members}
    (h : NameMap.contains members hiddenKey = true) (depth : Nat) (inProperties : Bool) :
    ¬ IsOpen (normalizeWithin depth inProperties (.object members)).value := by
  rintro ⟨after, hafter, hnone⟩
  cases depth with
  | zero =>
    rw [← Json.object.inj hafter, h] at hnone
    cases hnone
  | succ depth =>
    -- A wrapper has no member but `allOf`.
    have hself : ¬ IsWrapper (.object members) := by
      rintro ⟨schema, hschema⟩
      rw [Json.object.inj hschema] at h
      cases h
    rw [normalizeWithin_object hself] at hafter
    rw [← Json.object.inj hafter, NameMap.contains, find?_normalized (by decide) (by decide),
      Option.isSome_map] at hnone
    rw [NameMap.contains, hnone] at h
    cases h

/-- Normalizing opens no operation. -/
theorem isOpen_of_normalizeWithin {operation : Json} (h : WrapsObjects operation) {depth : Nat}
    {inProperties : Bool} (hopen : IsOpen (normalizeWithin depth inProperties operation).value) :
    IsOpen operation := by
  obtain ⟨after, hafter, hnone⟩ := hopen
  have halike := alike_normalizeWithin h depth inProperties
  obtain ⟨members, rfl⟩ := (hafter ▸ halike).eq_object
  refine ⟨members, rfl, Bool.eq_false_iff.2 fun hsays => ?_⟩
  exact not_isOpen_normalizeWithin hsays depth inProperties ⟨after, hafter, hnone⟩

/-- The flag counts only if it is set to true; any other value is as good as none. -/
theorem isHidden_iff {members : Json.Members} :
    isHidden members = true ↔ members.find? hiddenKey = some (.bool true) := by
  unfold isHidden
  split
  · next h => exact iff_of_true rfl h
  · next h => exact iff_of_false Bool.false_ne_true h

/-- Normalizing leaves no operation of a path open that was not. -/
theorem leavesOpen_of_normalizeWithin {path : Json} (h : WrapsObjects path)
    (hself : ¬ IsWrapper path) {depth : Nat} {inProperties : Bool}
    (hopen : LeavesOpen (normalizeWithin depth inProperties path).value) : LeavesOpen path := by
  cases depth with
  | zero => exact hopen
  | succ depth =>
    obtain ⟨after, hafter, hhidden, m, hm, hmethod, hm'⟩ := hopen
    -- Only an object can come out as an object.
    have halike := alike_normalizeWithin h (depth + 1) inProperties
    obtain ⟨members, rfl⟩ := (hafter ▸ halike).eq_object
    rw [normalizeWithin_object hself] at hafter
    cases hafter
    refine ⟨members, rfl, ?_, ?_⟩
    · -- A flag that is set was set before, since scalars stay what they are.
      rw [isHidden_iff, find?_normalized (by decide) (by decide)] at hhidden
      obtain ⟨value, hvalue, htrue⟩ := Option.map_eq_some_iff.1 hhidden
      have hobjects : WrapsObjects value := h.of_member (NameMap.mem_of_find?_eq_some hvalue)
      have hsame := (htrue ▸ alike_normalizeWithin hobjects depth _).eq_of_nesting_eq_zero rfl
      rw [isHidden_iff, hvalue, hsame]
    · -- An operation has a name that stands for neither prose nor an example, so it was a member.
      have hnames : ∀ name ∈ methods,
          isProse name = false ∧ isExample name = false ∧ name ≠ "example" := by decide
      rw [eachMember_value] at hm
      obtain ⟨⟨name, value⟩, hprepared, rfl⟩ := List.mem_map.1 hm
      obtain ⟨hprose, hexample, hne⟩ := hnames name hmethod
      rcases mem_prepared hprepared with ⟨old, hold, htidied⟩ | ⟨hname, -⟩
      · rw [tidyMember_of_not_isProse hprose] at htidied
        simp only at htidied hold
        subst htidied
        simp only [normalizeMember, hexample, Bool.false_and, Bool.false_eq_true, if_false] at hm'
        exact ⟨(name, value), hold, hmethod, isOpen_of_normalizeWithin (h.of_member hold) hm'⟩
      · exact absurd hname hne

end ClientStyle.Normal
