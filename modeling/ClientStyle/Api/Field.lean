/-
Fields of models and of object-shaped parameters.
-/
import ClientStyle.Codec.Decode
import ClientStyle.Signature
set_option autoImplicit false

namespace ClientStyle

namespace Signature

/-- A signature is encoded as it is spelled. -/
def toJson (s : Signature) : Json := .string s.raw

/-- A signature is decoded from its spelling. -/
def ofJson : Decoder Signature := fun value => do
  let text ← Decode.text value
  match parse text with
  | .ok s => .ok s
  | .error e => .error (.rejected e.message)

end Signature

/-- What the API description says about a field for clients, and what is derived from it. -/
structure FieldExtensions where
  /-- The field works but is left out of the documentation. -/
  docHidden : Bool
  /-- The literal of the field's example in the target language. -/
  exampleLiteral : Option String
  deriving DecidableEq, Repr, Inhabited

/-- A field of a model, or a nested field of a parameter. -/
structure Field where
  name : String
  baseName : String
  signature : Signature
  description : Option String
  sample : Option String
  defaultValue : Option String
  getter : Option String
  extensions : FieldExtensions
  deriving DecidableEq, Repr, Inhabited

namespace FieldExtensions

/-- No extension at all. -/
def none : FieldExtensions := ⟨false, .none⟩

/-- Extensions that are false or absent are left out. -/
def toJson (x : FieldExtensions) : Json :=
  .object (Encode.flagIfTrue "x-client-doc-hidden" x.docHidden ++
    Encode.optional "x-example-literal" .string x.exampleLiteral)

/-- Reads what `toJson` writes. -/
def ofJson : Decoder FieldExtensions := Decode.record "PropertyExtensions" <|
  Slots.made FieldExtensions.mk
    |>.orElse "x-client-doc-hidden" Decode.flag false
    |>.optional "x-example-literal" Decode.text

end FieldExtensions

namespace Field

/-- Every member is written. -/
def toJson (f : Field) : Json :=
  .object [
    ("baseName", .string f.baseName),
    ("dataType", f.signature.toJson),
    ("defaultValue", Json.ofText? f.defaultValue),
    ("description", Json.ofText? f.description),
    ("example", Json.ofText? f.sample),
    ("getter", Json.ofText? f.getter),
    ("name", .string f.name),
    ("vendorExtensions", f.extensions.toJson)]

/-- Reads what `toJson` writes. -/
def ofJson : Decoder Field := Decode.record "Property" <|
  Slots.made Field.mk
    |>.required "name" Decode.text
    |>.required "baseName" Decode.text
    |>.required "dataType" Signature.ofJson
    |>.optional "description" Decode.text
    |>.optional "example" Decode.text
    |>.optional "defaultValue" Decode.text
    |>.optional "getter" Decode.text
    |>.orElse "vendorExtensions" FieldExtensions.ofJson .none

end Field

end ClientStyle
