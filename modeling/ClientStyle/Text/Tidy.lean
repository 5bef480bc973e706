/-
Tidying prose: one kind of line break, no blanks at the ends of lines, no white space around.
-/
import ClientStyle.Text.Split
set_option autoImplicit false

namespace ClientStyle.Text

/-- Writes every line break as a line feed: a carriage return with a line feed behind it as one, and
a carriage return on its own as one, too. -/
def unifyLineBreaks : List Char → List Char
  | [] => []
  | '\r' :: '\n' :: cs => '\n' :: unifyLineBreaks cs
  | c :: cs => (if c = '\r' then '\n' else c) :: unifyLineBreaks cs

/-- The blanks that are dropped at the end of a line. -/
def isLineBlank (c : Char) : Bool := c = ' ' || c = '\t'

/-- Whether a line ends here. -/
def atLineEnd : List Char → Bool
  | [] => true
  | c :: _ => c = '\n'

/-- Drops spaces and tabs before line feeds and at the end of the text. -/
def dropTrailingBlanks : List Char → List Char
  | [] => []
  | c :: cs =>
    let rest := dropTrailingBlanks cs
    if isLineBlank c && atLineEnd rest then rest else c :: rest

/-- Tidies a text given by its characters. -/
def tidyChars (cs : List Char) : List Char := trimChars (dropTrailingBlanks (unifyLineBreaks cs))

/-- Tidies a text. -/
def tidy (text : String) : String := String.ofList (tidyChars text.toList)

end ClientStyle.Text
