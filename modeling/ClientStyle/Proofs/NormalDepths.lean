/-
Normalizing ends, and normal forms nest no deeper.

Normalizing goes from a value to other values: from a wrapper to what it holds, and from any other
object to its prepared members, one of which may be an example that preparing has added. So neither
the size of a value nor its parts bound the steps. What gets less with every step is how deep the
values nest: an example that is added comes from a list among the members. Hiding paths adds members
without containers, and changes no depth at all.
-/
import ClientStyle.Proofs.ReadValues
import ClientStyle.Proofs.SecondPass
import ClientStyle.Proofs.Unchanged
import Mathlib.Logic.ExistsUnique

set_option autoImplicit false

namespace ClientStyle.Normal

/-! ## Steps of normalizing -/

/-- What a value is normalized to, step by step and without a bound on the number of steps. Directly
under `properties` no member is an example payload, and elsewhere payloads stay what they are. -/
inductive NormalizesTo : Bool → Json → Json → Prop
  | scalar {inProperties : Bool} {value : Json} (h : value.nesting = 0) :
      NormalizesTo inProperties value value
  | array {inProperties : Bool} {items : List Json} {normal : Json → Json}
      (step : ∀ item ∈ items, NormalizesTo false item (normal item)) :
      NormalizesTo inProperties (.array items) (.array (items.map normal))
  | wrapper {inProperties : Bool} {schema normal : Json}
      (step : NormalizesTo inProperties schema normal) :
      NormalizesTo inProperties (.object [("allOf", .array [schema])]) normal
  | object {inProperties : Bool} {members : Json.Members} {normal : String × Json → Json}
      (unwrapped : ¬ IsWrapper (.object members))
      (payload : ∀ m ∈ prepared members, (isExample m.1 && !inProperties) = true → normal m = m.2)
      (step : ∀ m ∈ prepared members, (isExample m.1 && !inProperties) = false →
        NormalizesTo (m.1 == "properties") m.2 (normal m)) :
      NormalizesTo inProperties (.object members)
        (.object ((prepared members).map fun m => (m.1, normal m)))

/-- From every value the steps lead to what is normalized within a depth that is enough. -/
theorem normalizesTo_normalizeWithin {value : Json} {depth : Nat} (h : value.nesting ≤ depth)
    (inProperties : Bool) :
    NormalizesTo inProperties value (normalizeWithin depth inProperties value).value := by
  -- Every step is to a value that nests less, or out of a wrapper, which takes two levels; so the
  -- depth is enough all the way.
  induction depth generalizing value inProperties with
  | zero => exact .scalar (Nat.le_zero.1 h)
  | succ depth ih =>
    cases value with
    | object members =>
      by_cases hwrapper : IsWrapper (.object members)
      · obtain ⟨schema, hschema⟩ := hwrapper
        rw [hschema, nesting_wrapper] at h
        rw [hschema, normalizeWithin_wrapper]
        exact .wrapper (ih (by omega) inProperties)
      · have hmembers := nesting_prepared (Json.nesting_object_le_iff.1 h)
        rw [normalizeWithin_object hwrapper, eachMember_value]
        refine @NormalizesTo.object inProperties members
          (fun m => (normalizeMember depth inProperties m.1 m.2).value) hwrapper ?_ ?_
        · intro m _ hexample
          rw [normalizeMember, if_pos hexample]
        · intro m hm hvisited
          rw [normalizeMember, if_neg (Bool.eq_false_iff.1 hvisited)]
          exact ih (hmembers m hm) _
    | array items =>
      rw [normalizeWithin_array]
      exact .array fun item hitem => ih (Json.nesting_array_le_iff.1 h item hitem) false
    | _ => exact .scalar rfl

/-- The steps from a value lead nowhere else. -/
theorem NormalizesTo.normalizeWithin_eq {inProperties : Bool} {value normal : Json}
    (h : NormalizesTo inProperties value normal) {depth : Nat} (hdepth : value.nesting ≤ depth) :
    (normalizeWithin depth inProperties value).value = normal := by
  -- The relation has a case for each branch of the program, and the depth is at least one where there
  -- is a step to be taken.
  induction h generalizing depth with
  | scalar hscalar => rw [normalizeWithin_scalar hscalar]
  | array step ih =>
    obtain ⟨depth, rfl⟩ := Nat.exists_eq_add_of_le' (Nat.le_trans (Nat.le_add_left 1 _) hdepth)
    rw [normalizeWithin_array]
    refine congrArg Json.array (List.map_congr_left fun item hitem => ?_)
    exact ih item hitem (Json.nesting_array_le_iff.1 hdepth item hitem)
  | wrapper step ih =>
    rw [nesting_wrapper] at hdepth
    obtain ⟨depth, rfl⟩ := Nat.exists_eq_add_of_le' (Nat.le_trans (Nat.le_add_left 1 _) hdepth)
    rw [normalizeWithin_wrapper]
    exact ih (by omega)
  | @object inProperties members normal unwrapped payload step ih =>
    obtain ⟨depth, rfl⟩ := Nat.exists_eq_add_of_le' (Nat.le_trans (Nat.le_add_left 1 _) hdepth)
    have hmembers := nesting_prepared (Json.nesting_object_le_iff.1 hdepth)
    rw [normalizeWithin_object unwrapped, eachMember_value]
    refine congrArg Json.object (List.map_congr_left fun m hm => congrArg (Prod.mk m.1) ?_)
    rw [normalizeMember]
    split
    · next hexample => exact (payload m hm hexample).symm
    · next hvisited => exact ih m hm (Bool.eq_false_iff.2 hvisited) (hmembers m hm)

/-! ## Hiding paths -/

/-- A member that nests no deeper than the others does not make an object nest deeper. -/
theorem nesting_insert_le {members : Json.Members} (name : String) {value : Json}
    (hvalue : value.nesting ≤ Json.nestingOfMembers members) :
    Json.nesting (.object (NameMap.insert members name value)) ≤ Json.nesting (.object members) := by
  refine Json.nesting_object_le_iff.2 fun m hm => ?_
  rcases NameMap.eq_or_mem_of_mem_insert hm with rfl | hold
  · exact hvalue
  · exact Json.nestingOfMembers_le_iff.1 (Nat.le_refl _) m hold

/-- An object nests no deeper when none of its members does. -/
theorem nesting_map_le {f : String → Json → Json}
    (hf : ∀ name value, (f name value).nesting ≤ value.nesting) (members : Json.Members) :
    Json.nesting (.object (members.map fun m => (m.1, f m.1 m.2)))
      ≤ Json.nesting (.object members) := by
  refine Json.nesting_object_le_iff.2 (List.forall_mem_map.2 fun m hm => ?_)
  exact Nat.le_trans (hf m.1 m.2) (Json.nestingOfMembers_le_iff.1 (Nat.le_refl _) m hm)

/-- The flag that is added to an operation nests nothing. -/
theorem nesting_hideMember_le (name : String) (value : Json) :
    (hideMember name value).value.nesting ≤ value.nesting := by
  rcases hideMember_cases name value with hsame | ⟨-, members, rfl, hhidden⟩
  · rw [hsame]
  · rw [hhidden]
    exact nesting_insert_le hiddenKey (Nat.zero_le _)

/-- So hiding a path adds no depth either. -/
theorem nesting_hidePath_le (path : Json) : (hidePath path).value.nesting ≤ path.nesting := by
  rcases hidePath_cases path with hsame | ⟨members, rfl, hhidden⟩
  · rw [hsame]
  · rw [hhidden]
    exact nesting_map_le (f := fun name value => (hideMember name value).value)
      nesting_hideMember_le members

/-- Hiding paths makes a document nest no deeper. -/
theorem nesting_hidePaths_le (document : Document) :
    (hidePaths document).value.nesting ≤ document.nesting := by
  rcases hidePaths_cases document with hsame | ⟨members, paths, rfl, hpaths, hhidden⟩
  · rw [hsame]
  · rw [hhidden, hideEach, eachMember_value]
    -- The paths are a member of the document already, and nest no deeper than before.
    refine nesting_insert_le "paths" (Nat.le_trans (m := Json.nesting (.object paths)) ?_ ?_)
    · exact nesting_map_le (f := fun _ path => (hidePath path).value)
        (fun _ path => nesting_hidePath_le path) paths
    · exact Json.nestingOfMembers_le_iff.1 (Nat.le_refl _) _ (NameMap.mem_of_find?_eq_some hpaths)

/-! ## Documents -/

/-- **Normalizing a document ends, and the document nests no deeper than before.** After paths are
hidden, the steps of normalizing lead to the normal form and nowhere else, and the normal form nests
no deeper than the document did. So it keeps the limit up to which documents are read if the document
did, as it does if it was read from a text. -/
theorem existsUnique_normalizesTo (document : Document) :
    (∃! normal, NormalizesTo false (hidePaths document).value normal) ∧
    NormalizesTo false (hidePaths document).value (normalize document).value ∧
    (normalize document).value.nesting ≤ document.nesting ∧
    (document.nesting ≤ Json.nestingLimit →
      (normalize document).value.nesting ≤ Json.nestingLimit) ∧
    ∀ text, Json.read? text = some document → document.nesting ≤ Json.nestingLimit := by
  have hnormalizes : NormalizesTo false (hidePaths document).value (normalize document).value :=
    normalizesTo_normalizeWithin (Nat.le_refl _) false
  have hnesting : (normalize document).value.nesting ≤ document.nesting :=
    nesting_normalizeWithin_le (nesting_hidePaths_le document) _ false
  refine ⟨⟨_, hnormalizes, fun normal h => ?_⟩, hnormalizes, hnesting, fun hlimit => ?_, ?_⟩
  · -- Any other result of the steps is what the program returns.
    exact (h.normalizeWithin_eq (Nat.le_refl _)).symm
  · exact Nat.le_trans hnesting hlimit
  · exact fun text hread => Json.nesting_le_of_read? hread

/-- A wrapper around properties, one of which is named for examples. -/
def wrappedProperties : Document := .object [
  ("allOf", .array [
    .object [
      ("properties", .object [
        ("examples", .array [.object [("allOf", .array [.object [("type", .string "string")]])]])])]])]

/-- The example that is promoted is named for a field, so it is a wrapper to collapse as well. The
document nests eight containers at first and four afterwards. -/
theorem existsUnique_normalizesTo_wrappedProperties :
    wrappedProperties.nesting ≤ Json.nestingLimit ∧
    (∃! normal, NormalizesTo false (hidePaths wrappedProperties).value normal) ∧
    NormalizesTo false (hidePaths wrappedProperties).value
      (.object [
        ("properties", .object [
          ("example", .object [("type", .string "string")]),
          ("examples", .array [.object [("type", .string "string")]])])]) ∧
    (normalize wrappedProperties).value.nesting ≤ Json.nestingLimit := by
  have hlimit : wrappedProperties.nesting ≤ Json.nestingLimit := by decide
  obtain ⟨hunique, hnormalizes, -, hkept, -⟩ := existsUnique_normalizesTo wrappedProperties
  exact ⟨hlimit, hunique, hnormalizes, hkept hlimit⟩

end ClientStyle.Normal
