/-
The quoted form of texts and characters in diagnostics.

Inside the quotes stands every character as it is, except those that could not be told apart or
would not be seen: line breaks, tabs and the zero character have a short escape, and so have the
backslash and the quote itself; characters without a visible form, and marks drawn upon the
character before them, are written by their code point.
-/
import ClientStyle.Json.Printer
import ClientStyle.Unicode.Class
set_option autoImplicit false

namespace ClientStyle.Text

/-- A character as it stands between two quotes of the given kind. -/
def escapeVisibly (quote c : Char) : List Char :=
  if c = '\x00' then ['\\', '0']
  else if c = '\t' then ['\\', 't']
  else if c = '\r' then ['\\', 'r']
  else if c = '\n' then ['\\', 'n']
  else if c = '\\' ∨ c = quote then ['\\', c]
  else if Unicode.isExtendingMark c || !Unicode.isPrintable c then
    ['\\', 'u', '\x7b'] ++ Nat.toDigits 16 c.toNat ++ ['\x7d']
  else [c]

/-- A text between double quotes. -/
def inQuotes (text : String) : String :=
  String.ofList ('"' :: (text.toList.flatMap (escapeVisibly '"') ++ ['"']))

/-- A character between single quotes. -/
def charInQuotes (c : Char) : String :=
  String.ofList ('\'' :: (escapeVisibly '\'' c ++ ['\'']))

end ClientStyle.Text
