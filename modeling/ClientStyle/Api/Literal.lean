/-
Literals for documentation and tests, made from the examples of fields and parameters.
-/
import ClientStyle.Api.Parameter
import ClientStyle.Target
set_option autoImplicit false

namespace ClientStyle

/-! ## Examples of fields -/

/-- Replaces an escaped quotation mark by the mark itself. -/
def unescapeQuotes : List Char → List Char
  | [] => []
  | '\\' :: '"' :: cs => '"' :: unescapeQuotes cs
  | c :: cs => c :: unescapeQuotes cs

/-- The elements of an example that is written as a list: its brackets are dropped, and escaped
quotation marks lose their escape. -/
def listElements (sample : String) : String :=
  String.ofList (unescapeQuotes (sample.toList.filter fun c => c != '[' && c != ']'))

/-- The literal of a field's example in a language. There is none for a type whose example is used
as it is, nor for a missing example; a list that is no list of strings has an empty one, whatever
its example. -/
def Field.exampleLiteral? (f : Field) (target : Target) : Option String :=
  match f.signature.kind with
  | .stringList => f.sample.map fun text => target.stringList (listElements text)
  | .array _ => f.signature.item?.map target.emptyList
  | .string => f.sample.map target.stringLiteral
  | .dateTime => f.sample.map target.dateTime
  | _ => none

/-! ## Values of parameters -/

/-- The expression that constructs a value of a parameter in tests. -/
def Parameter.construct (p : Parameter) (target : Target) (placeholderUri : String) : String :=
  match p.signature.kind with
  | .uri => target.uri placeholderUri
  | .file => target.emptyFile
  | .string => p.sample.getD (target.stringLiteral "")
  | .integer => target.integerLiteral
  | _ => target.construct p.signature.raw

end ClientStyle
