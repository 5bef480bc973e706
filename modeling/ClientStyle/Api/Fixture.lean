/-
Fixtures: files with a payload for each response, for the tests of the generated client.
-/
import ClientStyle.Api.Operation
import ClientStyle.Json.Printer
import ClientStyle.Schema.Sample
set_option autoImplicit false

namespace ClientStyle

/-- A file that is generated: its path below the output root, and its content. -/
structure Artifact where
  path : String
  content : String
  deriving DecidableEq, Repr, Inhabited

namespace Artifact

/-- Path and content. -/
def toJson (a : Artifact) : Json := .object [("content", .string a.content), ("path", .string a.path)]

end Artifact

namespace Fixture

/-- The folder of all fixtures, below the output root. -/
def root : String := "tests/resources/payloads"

/-- The folder of an operation that is called by an action. -/
def folder (baseName action : String) : String :=
  root ++ "/" ++ Unicode.lower baseName ++ "/" ++ action ++ "/responses"

/-- The file of a response in a folder. -/
def file (folder code : String) : String := folder ++ "/" ++ code ++ ".json"

/-- The content of a file with a payload. -/
def content (payload : Json) : String := payload.pretty ++ "\n"

end Fixture

namespace Response

/-- The payload of a response: its example, or else one that is made up from its schema. -/
def payload? (r : Response) (document : Document) : Warned (Option Json) :=
  match r.sample, r.schema with
  | some sample, _ => .silent (some sample)
  | none, some schema => (Schema.sample document schema).map some
  | none, none => .silent none

/-- The response with the path of its fixture, and the fixture; a response without payload stays as
it is and has no fixture. -/
def populate (r : Response) (folder : String) (document : Document) :
    Warned (Response × Option Artifact) :=
  (r.payload? document).map fun
    | some payload =>
      let path := Fixture.file folder r.code
      ({ r with fixtureFile := some path }, some ⟨path, Fixture.content payload⟩)
    | none => (r, none)

end Response

namespace Operation

/-- The operation with the paths of its fixtures in a folder, and the fixtures. -/
def populate (o : Operation) (folder : String) (document : Document) :
    Warned (Operation × List Artifact) :=
  (Warned.each (·.populate folder document) o.responses).map fun results =>
    ({ o with responses := results.map (·.1) }, results.filterMap (·.2))

end Operation

end ClientStyle
