/-
The text of a JSON value, on one line or indented by two spaces a level.

Both forms escape the same characters: the quotation mark, the backslash and the control characters
below U+0020. Every other character stands for itself.
-/
import ClientStyle.Json.Basic
set_option autoImplicit false

namespace ClientStyle.Json

/-! ## Strings -/

/-- A digit in base sixteen, in lower case. -/
def hexDigit (n : Nat) : Char := Nat.digitChar (n % 16)

/-- A character as it stands inside a quoted text. -/
def escapeChar (c : Char) : List Char :=
  if c = '"' then ['\\', '"']
  else if c = '\\' then ['\\', '\\']
  else if c = '\n' then ['\\', 'n']
  else if c = '\r' then ['\\', 'r']
  else if c = '\t' then ['\\', 't']
  else if c = '\x08' then ['\\', 'b']
  else if c = '\x0c' then ['\\', 'f']
  else if c.toNat < 0x20 then ['\\', 'u', '0', '0', hexDigit (c.toNat / 16), hexDigit c.toNat]
  else [c]

/-- A text between quotation marks. -/
def quoted (text : String) : List Char := '"' :: (text.toList.flatMap escapeChar ++ ['"'])

/-! ## The form on one line -/

mutual

/-- The text of a value without any blank. -/
def compactChars : Json → List Char
  | .null => ['n', 'u', 'l', 'l']
  | .bool true => ['t', 'r', 'u', 'e']
  | .bool false => ['f', 'a', 'l', 's', 'e']
  | .number n => n.text
  | .string s => quoted s
  | .array [] => ['[', ']']
  | .array (item :: rest) => '[' :: (compactChars item ++ compactItems rest)
  | .object [] => ['\x7b', '\x7d']
  | .object ((name, value) :: rest) =>
    '\x7b' :: (quoted name ++ ':' :: (compactChars value ++ compactMembers rest))

/-- The items after the first, and the bracket that ends the array. -/
def compactItems : List Json → List Char
  | [] => [']']
  | item :: rest => ',' :: (compactChars item ++ compactItems rest)

/-- The members after the first, and the brace that ends the object. -/
def compactMembers : List (String × Json) → List Char
  | [] => ['\x7d']
  | (name, value) :: rest =>
    ',' :: (quoted name ++ ':' :: (compactChars value ++ compactMembers rest))

end

/-- The text of a value on one line. -/
def compact (value : Json) : String := String.ofList (compactChars value)

/-! ## The indented form -/

/-- A line break and the indentation of a level. -/
def newline (level : Nat) : List Char := '\n' :: List.replicate (2 * level) ' '

mutual

/-- The text of a value that stands at a level. Each item or member has a line of its own, one
level further in; an empty container stays on its line. -/
def prettyChars (level : Nat) : Json → List Char
  | .null => ['n', 'u', 'l', 'l']
  | .bool true => ['t', 'r', 'u', 'e']
  | .bool false => ['f', 'a', 'l', 's', 'e']
  | .number n => n.text
  | .string s => quoted s
  | .array [] => ['[', ']']
  | .array (item :: rest) =>
    '[' :: (newline (level + 1) ++ prettyChars (level + 1) item ++ prettyItems level rest)
  | .object [] => ['\x7b', '\x7d']
  | .object ((name, value) :: rest) =>
    '\x7b' :: (newline (level + 1) ++ quoted name ++ [':', ' '] ++ prettyChars (level + 1) value
      ++ prettyMembers level rest)

/-- The items after the first of an array at a level, and the bracket that ends it. -/
def prettyItems (level : Nat) : List Json → List Char
  | [] => newline level ++ [']']
  | item :: rest =>
    ',' :: (newline (level + 1) ++ prettyChars (level + 1) item ++ prettyItems level rest)

/-- The members after the first of an object at a level, and the brace that ends it. -/
def prettyMembers (level : Nat) : List (String × Json) → List Char
  | [] => newline level ++ ['\x7d']
  | (name, value) :: rest =>
    ',' :: (newline (level + 1) ++ quoted name ++ [':', ' '] ++ prettyChars (level + 1) value
      ++ prettyMembers level rest)

end

/-- The indented text of a value. -/
def pretty (value : Json) : String := String.ofList (prettyChars 0 value)

end ClientStyle.Json
