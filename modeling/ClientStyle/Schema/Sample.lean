/-
Payloads made up from schemas.

A schema is followed through references, parts, alternatives, items and properties down to values
that it prescribes or that stand for a type. Schemas may refer to themselves, so the number of nested
steps is bounded, and null stands for what would come after the last one.
-/
import ClientStyle.Document
import ClientStyle.Warning
set_option autoImplicit false

namespace ClientStyle.Schema

/-- How many schemas may be nested in each other, the outermost included. -/
def levels : Nat := 9

/-! ## Single values -/

/-- The text that stands for a string of a format. -/
def stringSample (format : Option String) : String :=
  match format with
  | some "date-time" => "2024-01-01T00:00:00Z"
  | some "date" => "2024-01-01"
  | some "uri" => "https://example.com"
  | some "url" => "https://example.com"
  | _ => "string"

/-- The floating-point number zero. -/
def realZero : Json := .number (.real Number.Binary64.zero)

/-- The value that stands for a type without parts. -/
def typeSample? (type : String) (format : Option String) : Option Json :=
  if type = "string" then some (.string (stringSample format))
  else if type = "integer" then some (.number (.integer 0))
  else if type = "number" then some realZero
  else if type = "boolean" then some (.bool true)
  else none

/-! ## What a schema says -/

/-- A member with a text. -/
def textMember? (schema : Json) (name : String) : Option String :=
  (schema.get? name).bind Json.asString?

/-- A member with a list. -/
def listMember? (schema : Json) (name : String) : Option (List Json) :=
  (schema.get? name).bind Json.asArray?

/-- The first item of a member with a list. -/
def firstOf? (schema : Json) (name : String) : Option Json :=
  (listMember? schema name).bind List.head?

/-- The first of the alternatives of a schema. -/
def alternative? (schema : Json) : Option Json :=
  (firstOf? schema "oneOf").or (firstOf? schema "anyOf")

/-- Merges the objects among the payloads of the parts of a schema; later parts win. -/
def mergeParts (payloads : List Json) : Json.Members :=
  payloads.foldl (fun merged payload => match payload with
    | .object members => NameMap.union merged members
    | _ => merged) []

/-- What a schema without prescribed value asks for. -/
inductive Shape where
  | reference (target : String)
  | parts (schemas : List Json)
  | alternative (schema : Json)
  | prescribed (value : Json)
  | list (items : Option Json)
  | properties (members : Json.Members)
  | unknown

/-- The shape of a schema. The first of the members that say it counts; a type other than a list
counts before the properties, and an object without properties is empty. -/
def shape (schema : Json) : Shape :=
  match schema.get? "example" with
  | some value => .prescribed value
  | none =>
  match textMember? schema "$ref" with
  | some target => .reference target
  | none =>
  match listMember? schema "allOf" with
  | some schemas => .parts schemas
  | none =>
  match alternative? schema with
  | some chosen => .alternative chosen
  | none =>
  match firstOf? schema "enum" with
  | some value => .prescribed value
  | none =>
  let type := textMember? schema "type"
  if type = some "array" then .list (schema.get? "items")
  else
    match type.bind (typeSample? · (textMember? schema "format")) with
    | some value => .prescribed value
    | none =>
      match (schema.get? "properties").bind Json.asObject? with
      | some members => .properties members
      | none => if type = some "object" then .properties [] else .unknown

/-! ## Payloads -/

/-- The payload of a schema with some levels left. -/
def sampleWithin (document : Document) : Nat → Json → Warned Json
  | 0, _ => .silent .null
  | left + 1, schema =>
    match shape schema with
    | .prescribed value => .silent value
    | .reference target =>
      match document.resolve? target with
      | some schema => sampleWithin document left schema
      | none => ⟨.null, [.unresolvedReference target]⟩
    | .parts schemas =>
      (Warned.each (sampleWithin document left) schemas).map fun payloads =>
        .object (mergeParts payloads)
    | .alternative schema => sampleWithin document left schema
    | .list none => .silent (.array [.null])
    | .list (some schema) => (sampleWithin document left schema).map fun item => .array [item]
    | .properties members =>
      (Warned.each (fun m => (sampleWithin document left m.2).map (m.1, ·)) members).map .object
    | .unknown => .silent .null

/-- The payload of a schema. -/
def sample (document : Document) (schema : Json) : Warned Json :=
  sampleWithin document levels schema

end ClientStyle.Schema
