/-
Operations of an API with their responses, the groups that they come in, the models that they
exchange, and the whole that a framework extracts from an API description.
-/
import ClientStyle.Api.Parameter
set_option autoImplicit false

namespace ClientStyle

/-! ## Responses -/

/-- A response that an operation declares. -/
structure Response where
  /-- The status code, or a word such as `default`. -/
  code : String
  message : Option String
  type : Option String
  sample : Option Json
  schema : Option Json
  /-- The file that holds an example of the payload, below the output root. -/
  fixtureFile : Option String
  deriving Repr, Inhabited

namespace Response

/-- Every member is written; the extensions are left out when absent. -/
def toJson (r : Response) : Json :=
  .object [
    ("code", .string r.code),
    ("dataType", Json.ofText? r.type),
    ("example", Encode.nullable id r.sample),
    ("message", Json.ofText? r.message),
    ("schema", Encode.nullable id r.schema),
    ("vendorExtensions", .object (Encode.optional "x-fixture-file" .string r.fixtureFile))]

/-- The extensions of a response, of which there is one. -/
def extensionsOfJson : Decoder (Option String) :=
  Decode.record "ResponseExtensions" (Slots.made id |>.optional "x-fixture-file" Decode.text)

/-- Reads what `toJson` writes. -/
def ofJson : Decoder Response := Decode.record "Response" <|
  Slots.made Response.mk
    |>.required "code" Decode.text
    |>.optional "message" Decode.text
    |>.optional "dataType" Decode.text
    |>.optional "example" Decode.anyValue
    |>.optional "schema" Decode.anyValue
    |>.orElse "vendorExtensions" extensionsOfJson none

end Response

/-! ## Pagination -/

/-- Where the items of a page are found. -/
structure Pagination where
  /-- The signature of an item. -/
  itemType : String
  /-- The accessor of the list of items. -/
  getter : String
  deriving DecidableEq, Repr, Inhabited

namespace Pagination

/-- Both members are written. -/
def toJson (p : Pagination) : Json :=
  .object [("getter", .string p.getter), ("type", .string p.itemType)]

/-- Reads what `toJson` writes. -/
def ofJson : Decoder Pagination := Decode.record "PaginationDescriptor" <|
  Slots.made Pagination.mk
    |>.required "type" Decode.text
    |>.required "getter" Decode.text

end Pagination

/-! ## Operations -/

/-- What the API description says about an operation for clients, and what is derived from it. -/
structure OperationExtensions where
  /-- The name that clients call the operation by. -/
  action : Option String
  hidden : Bool
  paginated : Bool
  /-- The parameters whose values clients take from a response. -/
  copiedFromResponse : List Parameter
  pagination : Option Pagination
  clientSample : Option String
  /-- The folder of the fixtures, below the output root. -/
  fixtureFolder : Option String
  deriving DecidableEq, Repr, Inhabited

/-- A callable endpoint. -/
structure Operation where
  id : String
  /-- The name that templates show. -/
  nickname : String
  /-- The name of the class that the operation belongs to. -/
  baseName : String
  path : String
  method : String
  summary : Option String
  notes : Option String
  parameters : ParameterLists
  returnType : Option String
  responses : List Response
  extensions : OperationExtensions
  deriving Repr, Inhabited

namespace OperationExtensions

/-- No extension at all. -/
def none : OperationExtensions := ⟨.none, false, false, [], .none, .none, .none⟩

/-- Extensions that are false, absent or empty are left out. -/
def toJson (x : OperationExtensions) : Json :=
  .object (Encode.optional "x-client-action" .string x.action ++
    (if x.copiedFromResponse.isEmpty then []
      else [("x-client-copy-from-response", Encode.list Parameter.toJson x.copiedFromResponse)]) ++
    Encode.flagIfTrue "x-client-hidden" x.hidden ++
    Encode.flagIfTrue "x-client-paginated" x.paginated ++
    Encode.optional "x-client-sample" .string x.clientSample ++
    Encode.optional "x-fixture-folder" .string x.fixtureFolder ++
    Encode.optional "x-pagination" Pagination.toJson x.pagination)

/-- Reads what `toJson` writes. -/
def ofJson : Decoder OperationExtensions := Decode.record "OperationExtensions" <|
  Slots.made OperationExtensions.mk
    |>.optional "x-client-action" Decode.text
    |>.orElse "x-client-hidden" Decode.flag false
    |>.orElse "x-client-paginated" Decode.flag false
    |>.orElse "x-client-copy-from-response" (Decode.list Parameter.ofJson) []
    |>.optional "x-pagination" Pagination.ofJson
    |>.optional "x-client-sample" Decode.text
    |>.optional "x-fixture-folder" Decode.text

end OperationExtensions

namespace Operation

/-- The action of an operation without white space around it, if one is given and not blank. -/
def action? (o : Operation) : Option String :=
  match o.extensions.action with
  | none => none
  | some action => if Text.trim action = "" then none else some (Text.trim action)

/-- Every member is written. -/
def toJson (o : Operation) : Json :=
  let parameters := Encode.list Parameter.toJson
  .object [
    ("allParams", parameters o.parameters.every),
    ("baseName", .string o.baseName),
    ("bodyParams", parameters o.parameters.body),
    ("cookieParams", parameters o.parameters.cookie),
    ("formParams", parameters o.parameters.form),
    ("headerParams", parameters o.parameters.header),
    ("httpMethod", .string o.method),
    ("nickname", .string o.nickname),
    ("notes", Json.ofText? o.notes),
    ("operationId", .string o.id),
    ("path", .string o.path),
    ("pathParams", parameters o.parameters.path),
    ("queryParams", parameters o.parameters.query),
    ("responses", Encode.list Response.toJson o.responses),
    ("returnType", Json.ofText? o.returnType),
    ("summary", Json.ofText? o.summary),
    ("vendorExtensions", o.extensions.toJson)]

/-- Reads what `toJson` writes. -/
def ofJson : Decoder Operation := Decode.record "Operation" <|
  Slots.made (fun id nickname baseName path method summary notes header body inPath query form
      cookie every returnType responses extensions =>
    { id, nickname, baseName, path, method, summary, notes
      parameters := { header, body, path := inPath, query, form, cookie, every }
      returnType, responses, extensions })
    |>.required "operationId" Decode.text
    |>.orElse "nickname" Decode.text ""
    |>.required "baseName" Decode.text
    |>.orElse "path" Decode.text ""
    |>.orElse "httpMethod" Decode.text ""
    |>.optional "summary" Decode.text
    |>.optional "notes" Decode.text
    |>.orElse "headerParams" (Decode.list Parameter.ofJson) []
    |>.orElse "bodyParams" (Decode.list Parameter.ofJson) []
    |>.orElse "pathParams" (Decode.list Parameter.ofJson) []
    |>.orElse "queryParams" (Decode.list Parameter.ofJson) []
    |>.orElse "formParams" (Decode.list Parameter.ofJson) []
    |>.orElse "cookieParams" (Decode.list Parameter.ofJson) []
    |>.orElse "allParams" (Decode.list Parameter.ofJson) []
    |>.optional "returnType" Decode.text
    |>.orElse "responses" (Decode.list Response.ofJson) []
    |>.orElse "vendorExtensions" OperationExtensions.ofJson .none

end Operation

/-! ## Groups, models and the whole -/

/-- The operations of one class. -/
structure OperationGroup where
  className : String
  operations : List Operation
  /-- Whether every operation is hidden. -/
  allHidden : Bool
  deriving Repr, Inhabited

namespace OperationGroup

/-- Every member is written. -/
def toJson (g : OperationGroup) : Json :=
  .object [
    ("className", .string g.className),
    ("operations", Encode.list Operation.toJson g.operations),
    ("x-client-hidden", .bool g.allHidden)]

/-- Reads what `toJson` writes. -/
def ofJson : Decoder OperationGroup := Decode.record "OperationGroup" <|
  Slots.made OperationGroup.mk
    |>.required "className" Decode.text
    |>.required "operations" (Decode.list Operation.ofJson)
    |>.orElse "x-client-hidden" Decode.flag false

end OperationGroup

/-- A data structure that clients exchange with the API. -/
structure Model where
  className : String
  fields : List Field
  /-- The fields of the model and those that it inherits. -/
  allFields : List Field
  /-- Whether some field has a default value. -/
  hasDefaults : Bool
  deriving DecidableEq, Repr, Inhabited

namespace Model

/-- Every member is written; the extension is left out when it is false. -/
def toJson (m : Model) : Json :=
  .object [
    ("allVars", Encode.list Field.toJson m.allFields),
    ("classname", .string m.className),
    ("vars", Encode.list Field.toJson m.fields),
    ("vendorExtensions", .object (Encode.flagIfTrue "x-has-defaults" m.hasDefaults))]

/-- The extensions of a model, of which there is one. -/
def extensionsOfJson : Decoder Bool :=
  Decode.record "ModelExtensions" (Slots.made id |>.orElse "x-has-defaults" Decode.flag false)

/-- Reads what `toJson` writes. -/
def ofJson : Decoder Model := Decode.record "Model" <|
  Slots.made Model.mk
    |>.required "classname" Decode.text
    |>.orElse "vars" (Decode.list Field.ofJson) []
    |>.orElse "allVars" (Decode.list Field.ofJson) []
    |>.orElse "vendorExtensions" extensionsOfJson false

end Model

/-- Everything that a framework extracts from an API description. -/
structure Api where
  groups : List OperationGroup
  models : List Model
  deriving Repr, Inhabited

namespace Api

/-- Both members are written. -/
def toJson (a : Api) : Json :=
  .object [
    ("groups", Encode.list OperationGroup.toJson a.groups),
    ("models", Encode.list Model.toJson a.models)]

/-- Reads what `toJson` writes. -/
def ofJson : Decoder Api := Decode.record "ExtractedApi" <|
  Slots.made Api.mk
    |>.required "groups" (Decode.list OperationGroup.ofJson)
    |>.required "models" (Decode.list Model.ofJson)

end Api

end ClientStyle
