/-
What publishing models changes.

Generated names of fields are replaced in both lists of every model, and nothing else happens to a
field. No public name is a generated one, so publishing twice is publishing once; and every public
name differs from the one it replaces, so the fields that are counted are those whose names differ
afterwards.
-/
import ClientStyle.Proofs.PublicNames
import Mathlib.Algebra.BigOperators.Group.List.Basic
import Mathlib.Algebra.GroupWithZero.Nat
import Mathlib.Data.List.Zip

set_option autoImplicit false

namespace ClientStyle

/-! ## Names -/

/-- The name under which clients know a field. -/
def publicName (name : String) : String := (publicName? name).getD name

/-- There is one generated name that clients know by another one. -/
theorem publicName_eq (name : String) :
    publicName name = if name = "_AccessToken" then "AccessToken" else name := by
  rw [publicName, publicName?_eq]
  split <;> rfl

/-- A public name is not a generated one. -/
theorem publicName?_publicName (name : String) : publicName? (publicName name) = none := by
  rw [publicName_eq]
  split
  · decide
  · next h => rw [publicName?_eq, if_neg h]

/-- Exactly the generated names are replaced by others. -/
theorem isSome_publicName?_iff (name : String) :
    (publicName? name).isSome = true ↔ name ≠ publicName name := by
  rw [publicName?_eq, publicName_eq]
  split
  · next h =>
    rw [h]
    decide
  · simp

/-! ## Fields -/

/-- What becomes of a field: nothing differs but its name, and this only if it is the reserved one. -/
structure Field.PublishedAs (f f' : Field) : Prop where
  name : f'.name = if f.name = "_AccessToken" then "AccessToken" else f.name
  rest : f' = { f with name := f'.name }

namespace Field

theorem publishedAs_publish (f : Field) : f.PublishedAs f.publish := ⟨f.name_publish, rfl⟩

theorem publish_publish (f : Field) : f.publish.publish = f.publish := by
  have hname : publicName? f.publish.name = none := publicName?_publicName f.name
  rw [publish, hname, Option.getD_none]

/-- An empty default value is none. -/
theorem hasDefault_iff {f : Field} :
    f.hasDefault = true ↔ ∃ value, f.defaultValue = some value ∧ value ≠ "" := by
  unfold hasDefault
  cases f.defaultValue with
  | none => simp
  | some value => simp

end Field

/-! ## Models -/

/-- What becomes of a model: its fields are published in both lists, and it is marked if some field has
a default value that is not empty. -/
structure Model.PublishedAs (m m' : Model) : Prop where
  fields : List.Forall₂ Field.PublishedAs m.fields m'.fields
  allFields : List.Forall₂ Field.PublishedAs m.allFields m'.allFields
  hasDefaults : m'.hasDefaults = true ↔ m.hasDefaults = true ∨
    ∃ f ∈ m.fields ++ m.allFields, ∃ value, f.defaultValue = some value ∧ value ≠ ""
  rest : m' = { m with
    fields := m'.fields, allFields := m'.allFields, hasDefaults := m'.hasDefaults }

namespace Model

/-- The names of all fields of models, inherited ones included. -/
def names (models : List Model) : List String :=
  models.flatMap fun m => (m.fields ++ m.allFields).map (·.name)

theorem publishedAs_publish (m : Model) : m.PublishedAs m.publish where
  fields := by
    rw [publish, List.forall₂_map_right_iff, List.forall₂_same]
    exact fun f _ => f.publishedAs_publish
  allFields := by
    rw [publish, List.forall₂_map_right_iff, List.forall₂_same]
    exact fun f _ => f.publishedAs_publish
  hasDefaults := by
    simp only [publish, Bool.or_eq_true, List.any_eq_true, Field.hasDefault_iff]
  rest := rfl

/-- Publishing a model twice is publishing it once. -/
theorem publish_publish (m : Model) : m.publish.publish = m.publish := by
  have hfields : ∀ fs : List Field, (fs.map Field.publish).map Field.publish = fs.map Field.publish := by
    intro fs
    rw [List.map_map]
    exact List.map_congr_left fun f _ => f.publish_publish
  -- Default values stay, so the fields that set the mark have set it already.
  have hdefaults : (m.fields.map Field.publish ++ m.allFields.map Field.publish).any Field.hasDefault
      = (m.fields ++ m.allFields).any Field.hasDefault := by
    rw [← List.map_append, List.any_map]
    rfl
  simp only [publish, hfields, hdefaults, Bool.or_assoc, Bool.or_self]

/-- The names after publishing are those before, in the same places, each of them made public. -/
theorem names_publish (models : List Model) :
    names (models.map publish) = (names models).map publicName := by
  simp only [names, List.flatMap_map, List.map_flatMap, publish, ← List.map_append, List.map_map]
  rfl

/-- The fields that are counted are those with generated names. -/
theorem sum_renamed (models : List Model) :
    (models.map renamed).sum = (names models).countP fun name => (publicName? name).isSome := by
  rw [names, List.countP_flatMap]
  simp only [List.countP_map, Function.comp_def]
  rfl

/-- The names that differ after publishing are those that are counted. -/
theorem countP_zip_names (models : List Model) :
    ((names models).zip (names (models.map publish))).countP (fun x => x.1 ≠ x.2)
      = (models.map renamed).sum := by
  rw [sum_renamed, names_publish, ← List.map_prod_left_eq_zip, List.countP_map]
  refine List.countP_congr fun name _ => ?_
  rw [isSome_publicName?_iff]
  exact decide_eq_true_iff

/-- **What publishing models does.** Afterwards no field has a generated name in either list of a
model. Each such name has become the public one, and a model is marked if it was marked before or one
of its fields has a default value; no other name, place or value is different. The number of renamed
fields is that of the names that differ. Publishing once more renames nothing and changes nothing. -/
theorem publish_models (models : List Model) :
    "_AccessToken" ∉ names (models.map publish) ∧
    List.Forall₂ PublishedAs models (models.map publish) ∧
    (models.map renamed).sum
      = ((names models).zip (names (models.map publish))).countP (fun x => x.1 ≠ x.2) ∧
    (models.map publish).map publish = models.map publish ∧
    ((models.map publish).map renamed).sum = 0 := by
  refine ⟨?_, ?_, (countP_zip_names models).symm, ?_, ?_⟩
  · -- A public name is never a generated one, so none is left.
    rw [names_publish, List.mem_map]
    rintro ⟨name, -, hname⟩
    have hnone := publicName?_publicName name
    rw [hname] at hnone
    cases hnone
  · rw [List.forall₂_map_right_iff, List.forall₂_same]
    exact fun m _ => m.publishedAs_publish
  · rw [List.map_map]
    exact List.map_congr_left fun m _ => m.publish_publish
  · -- For the same reason there is nothing left to rename.
    rw [sum_renamed, names_publish, List.countP_eq_zero, List.forall_mem_map]
    intro name _
    rw [publicName?_publicName]
    exact Bool.false_ne_true

end Model

end ClientStyle
