/-
Laying out texts of several lines inside generated files.
-/
import ClientStyle.Text.Split
set_option autoImplicit false

namespace ClientStyle.Text

/-! ## Indentation -/

/-- Puts `pad` in front of every line. -/
def padLines (pad cs : List Char) : List Char := join ['\n'] ((split '\n' cs).map (pad ++ ·))

/-- Puts `width` spaces in front of every line; the empty line after a final line break gets
none. -/
def indentChars (width : Nat) (cs : List Char) : List Char :=
  let pad := List.replicate width ' '
  match beforeLast? '\n' cs with
  | some body => padLines pad body ++ ['\n']
  | none => padLines pad cs

/-- Indents a text by a number of spaces. -/
def indent (text : String) (width : Nat) : String :=
  String.ofList (indentChars width text.toList)

/-! ## Comments -/

/-- Puts `continuation` behind every line break. A carriage return with a line feed behind it is
one line break; each of them on its own is one, too. -/
def continueChars (continuation : List Char) : List Char → List Char
  | [] => []
  | '\r' :: '\n' :: cs => '\r' :: '\n' :: (continuation ++ continueChars continuation cs)
  | c :: cs =>
    if c = '\r' ∨ c = '\n' then c :: (continuation ++ continueChars continuation cs)
    else c :: continueChars continuation cs

/-- Continues a comment over the line breaks of a text. -/
def multilineComment (text continuation : String) : String :=
  String.ofList (continueChars continuation.toList text.toList)

end ClientStyle.Text
