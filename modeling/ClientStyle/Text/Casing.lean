/-
Spelling styles of identifiers.

`snakeCase` finds the words of an identifier from its separators and from the change of case inside
it, and writes them in lower case with underscores between them. `properCase` writes the same words
without separators, each with a capital.
-/
import ClientStyle.Text.Split
set_option autoImplicit false

namespace ClientStyle.Text

/-! ## First letters -/

/-- Capitalises the first character and leaves the rest. -/
def titlecaseChars : List Char → List Char
  | [] => []
  | c :: cs => Unicode.toUpper c ++ cs

/-- Capitalises the first character of a text and leaves the rest. -/
def titlecaseFirst (text : String) : String := String.ofList (titlecaseChars text.toList)

/-- Lowers the first character of a text and leaves the rest. -/
def lowercaseFirst (text : String) : String :=
  match text.toList with
  | [] => ""
  | c :: cs => String.ofList (Unicode.toLower c ++ cs)

/-! ## Words -/

/-- What the words written so far end in: nothing yet, a lower-case letter or digit, any other
character of a word, or a separator that is written once another word begins. -/
inductive Ending where
  | start
  | lower
  | other
  | gap
  deriving DecidableEq, Repr

/-- The characters that separate words. -/
def isSeparator (c : Char) : Bool := c = '-' || c = '_' || c = ' '

/-- The words in `cs` in lower case with underscores between them. A capital after a lower-case
letter or digit begins a word; characters that are neither alphanumeric nor separators are dropped
and divide nothing. -/
def snakeFrom (ending : Ending) : List Char → List Char
  | [] => []
  | c :: cs =>
    if Unicode.isUppercase c then
      let lowered := Unicode.toLower c ++ snakeFrom .other cs
      if ending = .lower ∨ ending = .gap then '_' :: lowered else lowered
    else if Unicode.isAlphanumeric c then
      let next := if Unicode.isLowercase c || c.isDigit then Ending.lower else .other
      if ending = .gap then '_' :: c :: snakeFrom next cs else c :: snakeFrom next cs
    else if isSeparator c then
      snakeFrom (if ending = .start then .start else .gap) cs
    else snakeFrom ending cs

/-- The snake-case spelling of an identifier. -/
def snakeCase (text : String) : String := String.ofList (snakeFrom .start text.toList)

/-- The words of an identifier, in lower case. -/
def words (text : String) : List (List Char) :=
  (split '_' (snakeCase text).toList).filter (!·.isEmpty)

/-- The spelling of an identifier with a capital for each word and no separators. -/
def properCase (text : String) : String :=
  String.ofList ((words text).flatMap titlecaseChars)

end ClientStyle.Text
