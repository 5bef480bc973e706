/-
Parameters of operations, and the lists that an operation keeps them in.
-/
import ClientStyle.Api.Field
set_option autoImplicit false

namespace ClientStyle

/-- What the API description says about a parameter for clients, and what is derived from it. -/
structure ParameterExtensions where
  /-- Clients do not get the parameter. -/
  ignored : Bool
  /-- Clients take the value of the parameter from a response. -/
  copiedFromResponse : Bool
  /-- The accessor that reads the value from a response. -/
  getter : Option String
  /-- The expression that constructs a value in tests. -/
  testConstructor : Option String
  deriving DecidableEq, Repr, Inhabited

/-- A parameter of an operation. -/
structure Parameter where
  name : String
  baseName : String
  signature : Signature
  description : Option String
  required : Bool
  sample : Option String
  /-- The fields of an object-shaped parameter. -/
  fields : List Field
  extensions : ParameterExtensions
  deriving DecidableEq, Repr, Inhabited

namespace ParameterExtensions

/-- No extension at all. -/
def none : ParameterExtensions := ⟨false, false, .none, .none⟩

/-- Extensions that are false or absent are left out. -/
def toJson (x : ParameterExtensions) : Json :=
  .object (Encode.optional "getter" .string x.getter ++
    Encode.optional "testConstructor" .string x.testConstructor ++
    Encode.flagIfTrue "x-client-copy-from-response" x.copiedFromResponse ++
    Encode.flagIfTrue "x-client-ignore" x.ignored)

/-- Reads what `toJson` writes. -/
def ofJson : Decoder ParameterExtensions := Decode.record "ParameterExtensions" <|
  Slots.made ParameterExtensions.mk
    |>.orElse "x-client-ignore" Decode.flag false
    |>.orElse "x-client-copy-from-response" Decode.flag false
    |>.optional "getter" Decode.text
    |>.optional "testConstructor" Decode.text

end ParameterExtensions

namespace Parameter

/-- Every member is written. -/
def toJson (p : Parameter) : Json :=
  .object [
    ("baseName", .string p.baseName),
    ("dataType", p.signature.toJson),
    ("description", Json.ofText? p.description),
    ("example", Json.ofText? p.sample),
    ("paramName", .string p.name),
    ("required", .bool p.required),
    ("vars", Encode.list Field.toJson p.fields),
    ("vendorExtensions", p.extensions.toJson)]

/-- Reads what `toJson` writes. -/
def ofJson : Decoder Parameter := Decode.record "Parameter" <|
  Slots.made Parameter.mk
    |>.required "paramName" Decode.text
    |>.required "baseName" Decode.text
    |>.required "dataType" Signature.ofJson
    |>.optional "description" Decode.text
    |>.orElse "required" Decode.flag false
    |>.optional "example" Decode.text
    |>.orElse "vars" (Decode.list Field.ofJson) []
    |>.orElse "vendorExtensions" ParameterExtensions.ofJson .none

end Parameter

/-! ## Lists of parameters -/

/-- The parameters of an operation, by the place that they are sent in. `every` is a list of its own,
which frameworks fill with the parameters of all places. -/
structure ParameterLists where
  header : List Parameter
  body : List Parameter
  path : List Parameter
  query : List Parameter
  form : List Parameter
  cookie : List Parameter
  every : List Parameter
  deriving DecidableEq, Repr, Inhabited

namespace ParameterLists

/-- No parameters. -/
def none : ParameterLists := ⟨[], [], [], [], [], [], []⟩

/-- Changes each of the lists in the same way. -/
def mapLists (f : List Parameter → List Parameter) (ps : ParameterLists) : ParameterLists :=
  ⟨f ps.header, f ps.body, f ps.path, f ps.query, f ps.form, f ps.cookie, f ps.every⟩

/-- Changes each parameter of each list. -/
def map (f : Parameter → Parameter) (ps : ParameterLists) : ParameterLists :=
  ps.mapLists (List.map f)

/-- Keeps the parameters with a property. -/
def filter (p : Parameter → Bool) (ps : ParameterLists) : ParameterLists :=
  ps.mapLists (List.filter p)

/-- The lists in order, the one of all parameters last. -/
def toList (ps : ParameterLists) : List (List Parameter) :=
  [ps.header, ps.body, ps.path, ps.query, ps.form, ps.cookie, ps.every]

/-- Whatever is done to each of the named lists is done to the list of them, so what is shown of the
latter holds of all seven at once. -/
theorem toList_mapLists (f : List Parameter → List Parameter) (ps : ParameterLists) :
    (ps.mapLists f).toList = ps.toList.map f := rfl

end ParameterLists

end ClientStyle
