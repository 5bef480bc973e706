/-
Warnings, and results that come with warnings.

A computation that may warn returns its warnings beside its value, in the order in which they
arise, so that a statement about the value need not mention them.
-/
import ClientStyle.Json.Basic
import ClientStyle.Text.Quoted
set_option autoImplicit false

namespace ClientStyle

/-- Something that the author of an API description should look at. -/
inductive Warning where
  /-- A schema refers to a place that is not in the document. -/
  | unresolvedReference (reference : String)
  /-- An operation is marked as paginated, but the items of its pages cannot be found. -/
  | notPaginated (operation : String) (returnType : Option String)
  deriving DecidableEq, Repr

namespace Warning

/-- The text of a warning. -/
def message : Warning → String
  | .unresolvedReference _ => "Unresolvable schema reference in response"
  | .notPaginated _ _ =>
    "Paginated operation has no resolvable Data field, generating it as not paginated"

/-- A return type as a warning mentions it. -/
def mentionType : Option String → String
  | some type => "Some(" ++ Text.inQuotes type ++ ")"
  | none => "None"

/-- The text of a warning with what it is about. -/
def toJson (w : Warning) : Json :=
  match w with
  | .unresolvedReference reference =>
    .object [("message", .string w.message), ("reference", .string reference)]
  | .notPaginated operation returnType =>
    .object [
      ("message", .string w.message),
      ("operation", .string operation),
      ("return_type", .string (mentionType returnType))]

end Warning

/-- A value with the warnings that arose on the way to it. -/
structure Warned (α : Type) where
  value : α
  warnings : List Warning
  deriving Repr

namespace Warned

variable {α β : Type}

/-- A value without warnings. -/
def silent (value : α) : Warned α := ⟨value, []⟩

/-- Changes the value. -/
def map (f : α → β) (w : Warned α) : Warned β := ⟨f w.value, w.warnings⟩

/-- Treats the elements of a list one after the other. -/
def each (f : α → Warned β) (items : List α) : Warned (List β) :=
  let results := items.map f
  ⟨results.map (·.value), results.flatMap (·.warnings)⟩

@[simp] theorem each_value (f : α → Warned β) (items : List α) :
    (each f items).value = items.map fun a => (f a).value := by
  simp [each, List.map_map, Function.comp_def]

@[simp] theorem each_warnings (f : α → Warned β) (items : List α) :
    (each f items).warnings = items.flatMap fun a => (f a).warnings := by
  simp [each, List.flatMap_map]

end Warned

end ClientStyle
