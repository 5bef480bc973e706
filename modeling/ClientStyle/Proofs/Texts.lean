/-
What a table of descriptions touches.

A table has texts for the notes, the summary and the sample of an operation and for the descriptions
of its parameters. Erasing these texts makes operations equal that differ in nothing else, so a
statement about everything but texts is an equation between erasures. The copies that an operation
holds of its parameters are not described, hence erased on their own.
-/
import ClientStyle.Proofs.Shaping

set_option autoImplicit false

namespace ClientStyle

/-! ## Erasing texts -/

/-- The parameter without its description. -/
def Parameter.withoutText (p : Parameter) : Parameter := { p with description := none }

namespace Operation

/-- The operation without the texts that a table may have for it and its parameters. -/
def withoutTexts (o : Operation) : Operation :=
  { o with
    notes := none
    summary := none
    parameters := o.parameters.map (·.withoutText)
    extensions := { o.extensions with clientSample := none } }

/-- The operation without the descriptions of the parameters that it lists a second time. -/
def withoutCopiedTexts (o : Operation) : Operation :=
  { o with extensions := { o.extensions with
      copiedFromResponse := o.extensions.copiedFromResponse.map (·.withoutText) } }

end Operation

/-- The group without any of these texts. -/
def OperationGroup.withoutTexts (g : OperationGroup) : OperationGroup :=
  { g with operations := g.operations.map fun o => o.withoutTexts.withoutCopiedTexts }

/-! ## Describing -/

namespace Operation

/-- Describing an operation changes texts only, and no copy of a parameter. -/
theorem withoutTexts_describe (o : Operation) (style : Style) :
    (o.describe style).withoutTexts = o.withoutTexts := by
  simp only [withoutTexts, describe, ParameterLists.map, ParameterLists.mapLists, List.map_map]
  rfl

/-- A table without texts for a language changes nothing. -/
theorem describe_of_no_text {style : Style}
    (h : ∀ key, style.descriptions.text? style.target key = none) (o : Operation) :
    o.describe style = o := by
  have hparameters : o.parameters.map (·.describe style o.id) = o.parameters := by
    simp only [ParameterLists.map, ParameterLists.mapLists, Parameter.describe_of_no_text h,
      List.map_id']
  simp only [describe, hparameters, h]
  rfl

end Operation

end ClientStyle
