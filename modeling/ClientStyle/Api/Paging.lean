/-
Pages: where the items are in the model that a paginated operation returns.
-/
import ClientStyle.Api.Operation
import ClientStyle.Target
import ClientStyle.Text.Casing
set_option autoImplicit false

namespace ClientStyle

/-- The accessor that reads a field from a response. -/
def Target.getter (target : Target) (name : String) : String :=
  match target with
  | .csharp => Text.properCase name
  | .java => "get" ++ Text.properCase name

/-- The field of a page that holds its items. -/
def pageField : String := "Data"

/-- The field of a model that holds the items of a page; the fields that the model inherits are
searched first. -/
def Model.pageField? (m : Model) : Option Field :=
  (m.allFields ++ m.fields).find? (·.name = pageField)

/-- Where an operation finds the items of its pages: in the first model with the name of its return
type, if this has a field for them and the field is a list. -/
def Operation.pagination? (o : Operation) (models : List Model) (target : Target) :
    Option Pagination := do
  let type ← o.returnType
  let model ← models.find? (·.className = type)
  let field ← model.pageField?
  let itemType ← field.signature.item?
  some { itemType, getter := field.getter.getD (target.getter field.name) }

end ClientStyle
