/-
The normal form of API descriptions.

Prose is tidied, a schema with several examples gets the first of them as its example, a path that is
hidden hides its operations, and a schema that only wraps another one is replaced by it. Example
payloads are data and stay as they are. A report counts the changes of each kind.
-/
import ClientStyle.Document
import ClientStyle.Text.Tidy
set_option autoImplicit false

namespace ClientStyle.Normal

/-! ## Reports -/

/-- How many changes of each kind were made. -/
structure Report where
  texts : Nat
  examples : Nat
  hidden : Nat
  collapsed : Nat
  deriving DecidableEq, Repr, Inhabited

namespace Report

/-- No changes. -/
def none : Report := ⟨0, 0, 0, 0⟩

/-- The changes of two reports. -/
def add (a b : Report) : Report :=
  ⟨a.texts + b.texts, a.examples + b.examples, a.hidden + b.hidden, a.collapsed + b.collapsed⟩

instance : Add Report := ⟨add⟩

/-- The changes of several reports. -/
def total (rs : List Report) : Report := rs.foldr (· + ·) none

/-- The four counts. -/
def toJson (r : Report) : Json :=
  .object [
    ("collapsed", .ofNat r.collapsed),
    ("examples", .ofNat r.examples),
    ("hidden", .ofNat r.hidden),
    ("texts", .ofNat r.texts)]

end Report

/-- A value in normal form, with the report of what was changed in it. -/
structure Reported (α : Type) where
  value : α
  report : Report

/-! ## Hidden paths -/

/-- The extension that hides a path or an operation from clients. -/
def hiddenKey : String := "x-client-hidden"

/-- The members of a path that are operations. -/
def methods : List String :=
  ["get", "put", "post", "delete", "options", "head", "patch", "trace"]

/-- Hides an operation unless it says itself whether it is hidden. -/
def hideOperation (operation : Json) : Reported Json :=
  match operation with
  | .object members =>
    if NameMap.contains members hiddenKey then ⟨operation, .none⟩
    else ⟨.object (NameMap.insert members hiddenKey (.bool true)), ⟨0, 0, 1, 0⟩⟩
  | _ => ⟨operation, .none⟩

/-- Whether the members of a path hide it. -/
def isHidden (members : Json.Members) : Bool :=
  match members.find? hiddenKey with
  | some (.bool true) => true
  | _ => false

/-- Changes every member of an object on its own. -/
def eachMember (f : String → Json → Reported Json) (members : Json.Members) :
    Reported Json.Members :=
  let results := members.map fun m => (m.1, f m.1 m.2)
  ⟨results.map fun r => (r.1, r.2.value), Report.total (results.map (·.2.report))⟩

/-- Hides the operations of a hidden path. -/
def hidePath (path : Json) : Reported Json :=
  match path with
  | .object members =>
    if isHidden members then
      let hidden := eachMember
        (fun name value => if name ∈ methods then hideOperation value else ⟨value, .none⟩) members
      ⟨.object hidden.value, hidden.report⟩
    else ⟨path, .none⟩
  | _ => ⟨path, .none⟩

/-- Hides the operations of all hidden paths of a document. -/
def hidePaths (document : Document) : Reported Document :=
  match document with
  | .object members =>
    match NameMap.find? members "paths" with
    | some (.object paths) =>
      let hidden := eachMember (fun _ path => hidePath path) paths
      ⟨.object (NameMap.insert members "paths" (.object hidden.value)), hidden.report⟩
    | _ => ⟨document, .none⟩
  | _ => ⟨document, .none⟩

/-! ## One object -/

/-- The schema inside an object that does nothing but wrap it. -/
def wrapped? (members : Json.Members) : Option Json :=
  match members with
  | [("allOf", .array [schema])] => some schema
  | _ => none

/-- The members that hold prose. -/
def isProse (name : String) : Bool := name = "description" || name = "summary"

/-- Tidies a member that holds prose. -/
def tidyMember (name : String) (value : Json) : Reported Json :=
  match value with
  | .string text =>
    if isProse name && Text.tidy text != text then ⟨.string (Text.tidy text), ⟨1, 0, 0, 0⟩⟩
    else ⟨value, .none⟩
  | _ => ⟨value, .none⟩

/-- Makes the first of several examples the example, unless there is one. -/
def promoteExample (members : Json.Members) : Reported Json.Members :=
  if members.contains "example" then ⟨members, .none⟩
  else
    match members.find? "examples" with
    | some (.array (first :: _)) => ⟨members.insert "example" first, ⟨0, 1, 0, 0⟩⟩
    | _ => ⟨members, .none⟩

/-- The members that hold example payloads. -/
def isExample (name : String) : Bool := name = "example" || name = "examples"

/-! ## Documents -/

/-- The normal form of a value that nests at most `depth` containers. Directly under `properties` the
members are named for fields, so none of them holds an example payload. -/
def normalizeWithin : Nat → Bool → Json → Reported Json
  | 0, _, value => ⟨value, .none⟩
  | depth + 1, inProperties, .object members =>
    match wrapped? members with
    | some schema =>
      let inner := normalizeWithin depth inProperties schema
      ⟨inner.value, ⟨0, 0, 0, 1⟩ + inner.report⟩
    | none =>
      let tidied := eachMember tidyMember members
      -- Tidying does not look into lists, so an example is promoted as it was given.
      let promoted := promoteExample tidied.value
      let inner := eachMember
        (fun name value =>
          if isExample name && !inProperties then ⟨value, .none⟩
          else normalizeWithin depth (name == "properties") value)
        promoted.value
      ⟨.object inner.value, tidied.report + promoted.report + inner.report⟩
  | depth + 1, _, .array items =>
    let results := items.map (normalizeWithin depth false)
    ⟨.array (results.map (·.value)), Report.total (results.map (·.report))⟩
  | _ + 1, _, value => ⟨value, .none⟩

/-- The normal form of a part of a document. -/
def normalizeValue (value : Json) : Reported Json := normalizeWithin value.nesting false value

/-- The normal form of a document. Paths are hidden before anything else is changed. -/
def normalize (document : Document) : Reported Document :=
  let hidden := hidePaths document
  let normal := normalizeValue hidden.value
  ⟨normal.value, hidden.report + normal.report⟩

end ClientStyle.Normal
