/-
The templates that a framework would render besides operations and models, and which of them are
suppressed because clients bring files of their own instead.
-/
import ClientStyle.Codec.Decode
import ClientStyle.Files.Path
set_option autoImplicit false

namespace ClientStyle

/-- A file that is rendered once for a client. -/
structure SupportingFile where
  /-- The path of the template. -/
  template : String
  folder : String
  destination : String
  deriving DecidableEq, Repr, Inhabited

namespace SupportingFile

/-- Every member is written. -/
def toJson (f : SupportingFile) : Json :=
  .object [
    ("destination", .string f.destination),
    ("folder", .string f.folder),
    ("templateFile", .string f.template)]

/-- Reads what `toJson` writes. -/
def ofJson : Decoder SupportingFile := Decode.record "SupportingFile" <|
  Slots.made SupportingFile.mk
    |>.required "templateFile" Decode.text
    |>.required "folder" Decode.text
    |>.required "destination" Decode.text

/-- The names of the templates of supporting files that clients write by hand. -/
def suppressedNames : List String :=
  ["ExceptionFactory", "GlobalConfiguration", "IApiAccessor", "OpenAPIDateConverter",
    "IReadableConfiguration", "Configuration"]

/-- Whether a file is suppressed, which the name of its template decides without its directory and
its extension. -/
def isSuppressed (f : SupportingFile) : Bool := suppressedNames.contains (Path.stem f.template)

end SupportingFile

/-- The templates that a framework would render. -/
structure TemplateSet where
  supportingFiles : List SupportingFile
  /-- The templates of the tests of a model, each with the ending of the files that it makes. -/
  modelTests : NameMap String
  deriving DecidableEq, Repr, Inhabited

namespace TemplateSet

/-- The set without templates. -/
def empty : TemplateSet := ⟨[], []⟩

/-- Both members are written. -/
def toJson (t : TemplateSet) : Json :=
  .object [
    ("modelTestTemplates", .object (t.modelTests.map fun m => (m.1, .string m.2))),
    ("supportingFiles", Encode.list SupportingFile.toJson t.supportingFiles)]

/-- Reads what `toJson` writes. -/
def ofJson : Decoder TemplateSet := Decode.record "TemplateSet" <|
  Slots.made TemplateSet.mk
    |>.required "supportingFiles" (Decode.list SupportingFile.ofJson)
    |>.required "modelTestTemplates" (Decode.mapMembers Decode.text)

/-! ## Suppression -/

/-- The name of the template of model tests that is suppressed: models are tested with the fixtures
of responses. -/
def suppressedModelTest : String := "model_test"

/-- Whether a template of model tests is suppressed. -/
def isSuppressedModelTest (template : String) : Bool := Path.stem template = suppressedModelTest

/-- The set without the suppressed templates. -/
def suppress (t : TemplateSet) : TemplateSet where
  supportingFiles := t.supportingFiles.filter (!·.isSuppressed)
  modelTests := t.modelTests.filter (!isSuppressedModelTest ·.1)

/-- The suppressed templates: those of supporting files, and then those of model tests. -/
def suppressed (t : TemplateSet) : List String :=
  (t.supportingFiles.filter (·.isSuppressed)).map (·.template) ++
    (t.modelTests.filter (isSuppressedModelTest ·.1)).map (·.1)

end TemplateSet

end ClientStyle
