/-
The filters that templates apply to values.

Every filter turns a text into a text, so a value that is no text passes only if there are no
filters.
-/
import ClientStyle.Json.Basic
import ClientStyle.Target
import ClientStyle.Text.Casing
import ClientStyle.Text.Layout
import ClientStyle.Text.Unescape
set_option autoImplicit false

namespace ClientStyle

/-- A filter of templates. -/
inductive Filter where
  /-- Indents by a width, which is a value of a template as well. -/
  | indented (width : Option Json)
  | lowercaseFirst
  | titlecase
  | unescape
  | multilineComment
  deriving Repr, Inhabited

namespace Filter

/-- The name of a filter in templates. -/
def name : Filter → String
  | .indented _ => "indented"
  | .lowercaseFirst => "lowercase_first"
  | .titlecase => "titlecase"
  | .unescape => "unescape"
  | .multilineComment => "multiline_comment"

/-- The filter with a name; only one of them takes a width. -/
def ofName? (name : String) (width : Option Json) : Option Filter :=
  [.indented width, .lowercaseFirst, .titlecase, .unescape, .multilineComment].find?
    fun filter : Filter => filter.name = name

/-- Why the value of a template cannot be shown. -/
inductive Error where
  | notText (filter : String)
  | badWidth
  | noValue
  deriving DecidableEq, Repr

/-- The report of an error. -/
def Error.message : Error → String
  | .notText filter => "Filter \x60" ++ filter ++ "\x60 expects a string"
  | .badWidth => "Filter \x60indented\x60: width must be a number"
  | .noValue => "Variable \x60value\x60 not found in context while rendering 't'"

/-- The width by which texts are indented if a template gives none. -/
def defaultWidth : Nat := 16

/-- The width that a value of a template gives. -/
def widthOf? : Option Json → Option Nat
  | none => some defaultWidth
  | some (.number (.integer i)) => if 0 ≤ i then some i.toNat else none
  | some _ => none

/-- The text that a filter makes of a text. -/
def applyText (filter : Filter) (target : Target) (text : String) : Except Error String :=
  match filter with
  | .indented width =>
    match widthOf? width with
    | some n => .ok (Text.indent text n)
    | none => .error .badWidth
  | .lowercaseFirst => .ok (Text.lowercaseFirst text)
  | .titlecase => .ok (Text.titlecaseFirst text)
  | .unescape => .ok (Text.unescape text)
  | .multilineComment => .ok (Text.multilineComment text target.commentContinuation)

/-- The text that a filter makes of a value. A width that is none is reported rather than a value
that is no text. -/
def apply (filter : Filter) (target : Target) (value : Json) : Except Error String :=
  match value with
  | .string text => filter.applyText target text
  | _ =>
    match filter with
    | .indented width => .error (if (widthOf? width).isNone then .badWidth else .notText filter.name)
    | _ => .error (.notText filter.name)

/-- Applies filters one after the other to the value that a template gives. -/
def applyAll (filters : List Filter) (target : Target) : Option Json → Except Error Json
  | none => .error .noValue
  | some value =>
    filters.foldlM (fun value filter => (filter.apply target value).map .string) value

end Filter

end ClientStyle
