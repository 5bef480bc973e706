/-
Publishing models before or after operations are reshaped.

Operations are reshaped against models, and pages look for a field by its name in models whose fields
are renamed. The two do not meet: the field that pages look for is neither renamed nor is any other
field given its name, so it is found in the same place, and it is the same field. Everything else that
operations read of a model is its class, so the passes over operations and over models commute.
-/
import ClientStyle.Run

set_option autoImplicit false

namespace ClientStyle

/-! ## Names of fields -/

/-- Which names are replaced. -/
theorem publicName?_eq (name : String) :
    publicName? name = if name = "_AccessToken" then some "AccessToken" else none := by
  unfold publicName? publicNames
  split
  · next h => rw [h]; rfl
  · next h => rw [List.lookup_cons, beq_false_of_ne h, List.lookup_nil]

namespace Field

/-- Publishing gives a field the public name for the generated one. -/
theorem name_publish (f : Field) :
    f.publish.name = if f.name = "_AccessToken" then "AccessToken" else f.name := by
  rw [publish, publicName?_eq]
  split <;> rfl

/-- No field gets or loses the name of the field that holds the items of a page. -/
theorem name_publish_eq_pageField_iff (f : Field) :
    f.publish.name = pageField ↔ f.name = pageField := by
  rw [name_publish]
  split
  · next h =>
    rw [h]
    decide
  · exact Iff.rfl

/-- The field that holds the items of a page stays as it is. -/
theorem publish_eq_self {f : Field} (h : f.name = pageField) : f.publish = f := by
  have hname : publicName? f.name = none := by
    rw [h, publicName?_eq]
    decide
  rw [publish, hname, Option.getD_none]

end Field

/-! ## Pages -/

/-- **The items of pages are found in the same field.** -/
theorem Model.pageField?_publish (m : Model) : m.publish.pageField? = m.pageField? := by
  have hsame : (fun f : Field => decide (f.publish.name = pageField))
      = fun f => decide (f.name = pageField) := by
    funext f
    simp only [f.name_publish_eq_pageField_iff]
  rw [pageField?, publish]
  -- Both lists of fields are searched one behind the other, so the search is one under `map`.
  simp only [← List.map_append, List.find?_map, Function.comp_def, hsame]
  rw [← pageField?]
  cases hfound : m.pageField? with
  | none => rfl
  | some f =>
    have hname : f.name = pageField := by
      simpa using List.find?_some hfound
    rw [Option.map_some, Field.publish_eq_self hname]

namespace Operation

variable (o : Operation) (models : List Model)

/-- Pages are described alike, whether or not models are published. -/
theorem pagination?_publish (target : Target) :
    o.pagination? (models.map Model.publish) target = o.pagination? models target := by
  -- Publishing keeps the class of a model, so the search stops at the same one.
  have hmodel : ∀ type, (models.map Model.publish).find? (·.className = type)
      = (models.find? (·.className = type)).map Model.publish := by
    intro type
    rw [List.find?_map]
    rfl
  cases htype : o.returnType with
  | none => simp only [pagination?, htype, bind, Option.bind]
  | some type =>
    simp only [pagination?, htype, hmodel, bind, Option.bind]
    cases models.find? (·.className = type) with
    | none => rfl
    | some m => simp only [Option.map_some, m.pageField?_publish]

/-- The warning depends on the outcome of the search, and so is the same too. -/
theorem paginate_publish (target : Target) :
    o.paginate (models.map Model.publish) target = o.paginate models target := by
  simp only [paginate, pagination?_publish]

/-- Operations are reshaped alike, whether or not models are published. -/
theorem shape_publish (style : Style) (document : Document) :
    o.shape style (models.map Model.publish) document = o.shape style models document := by
  simp only [shape, paginate_publish]

/-- Operations are reshaped one after the other against the same models. -/
theorem shapeEach_publish (style : Style) (document : Document) (os : List Operation) :
    shapeEach style (models.map Model.publish) document os = shapeEach style models document os := by
  induction os with
  | nil => rfl
  | cons o os ih => simp only [shapeEach, shape_publish, ih]

end Operation

/-! ## Groups -/

/-- Groups are reshaped alike, whether or not models are published. -/
theorem OperationGroup.transform_publish (g : OperationGroup) (style : Style) (models : List Model)
    (document : Document) :
    g.transform style (models.map Model.publish) document = g.transform style models document := by
  simp only [transform, Operation.shapeEach_publish]

namespace Api

/-- All groups are reshaped alike, too, and the first that is refused ends the run in either order. -/
theorem transformGroups_publish (style : Style) (models : List Model) (document : Document)
    (groups : List OperationGroup) :
    transformGroups style (models.map Model.publish) document groups
      = transformGroups style models document groups := by
  induction groups with
  | nil => rfl
  | cons g groups ih => simp only [transformGroups, OperationGroup.transform_publish, ih]

/-! ## The two passes over an API -/

/-- The API with its groups reshaped against its models as they are, and all fixtures. -/
def reshapeGroups (api : Api) (style : Style) (document : Document) :
    Warned (Except MissingAction (Api × List Artifact)) :=
  (transformGroups style api.models document api.groups).map fun result =>
    result.map fun (groups, artifacts) => ({ api with groups }, artifacts)

/-- The API with its models published. -/
def publishModels (api : Api) : Api := { api with models := api.models.map Model.publish }

/-- **The order of the two passes does not matter.** An API is reshaped by its groups first and its
models afterwards. The models may as well be published first and the groups reshaped against them
afterwards: the groups, fixtures and models are the same, or the same action is missing, and so are
the warnings. This holds of every single group, too, be it reshaped or left as it is when an action is
missing. -/
theorem publishModels_comm (api : Api) (style : Style) (document : Document) :
    api.transform style document
      = (api.reshapeGroups style document).map
          (·.map fun (shaped, artifacts) => (shaped.publishModels, artifacts)) ∧
    api.transform style document = api.publishModels.reshapeGroups style document ∧
    ∀ g : OperationGroup, g.transform style api.publishModels.models document
      = g.transform style api.models document := by
  have hgroups := transformGroups_publish style api.models document api.groups
  refine ⟨?_, ?_, fun g => g.transform_publish style api.models document⟩
  · simp only [transform, reshapeGroups, Warned.map]
    cases (transformGroups style api.models document api.groups).value <;> rfl
  · simp only [transform, reshapeGroups, publishModels, hgroups]

end Api

end ClientStyle
