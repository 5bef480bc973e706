/-
API descriptions as JSON documents: local references and the version.
-/
import ClientStyle.Json.Reader
import ClientStyle.Text.Split
set_option autoImplicit false

namespace ClientStyle

namespace Json

/-! ## Pointers -/

/-- A step of a pointer with its escapes undone: `~1` is a slash, and `~0` a tilde. -/
def pointerStep : List Char → List Char
  | [] => []
  | '~' :: '1' :: cs => '/' :: pointerStep cs
  | '~' :: '0' :: cs => '~' :: pointerStep cs
  | c :: cs => c :: pointerStep cs

/-- The index that a step names: digits only, without a zero in front. -/
def index? (step : List Char) : Option Nat :=
  match step with
  | [] => none
  | ['0'] => some 0
  | '0' :: _ => none
  | _ => if step.all Char.isDigit then some (naturalOf (step.map fun c => c.toNat - '0'.toNat)) else none

/-- The part of a value that a step names. -/
def step? (value : Json) (step : List Char) : Option Json :=
  match value with
  | .object members => NameMap.find? members (String.ofList step)
  | .array items => (index? step).bind (items[·]?)
  | _ => none

/-- The part of a value that a pointer names: the value itself, or the end of a path of steps with a
slash in front of each. -/
def pointer? (value : Json) (pointer : List Char) : Option Json :=
  match pointer with
  | [] => some value
  | '/' :: rest => ((Text.split '/' rest).map pointerStep).foldlM step? value
  | _ => none

end Json

/-- An API description. -/
abbrev Document := Json

namespace Document

/-- The part of a document that a local reference names. -/
def resolve? (document : Document) (reference : String) : Option Json :=
  match reference.toList with
  | '#' :: pointer => Json.pointer? document pointer
  | _ => none

/-- The version of the description format, if the document declares one as a text. -/
def version? (document : Document) : Option String :=
  ((document.get? "openapi").or (document.get? "swagger")).bind Json.asString?

end Document

end ClientStyle
