/-
Undoing the escapes of documentation texts.

Two layers are undone, one after the other: character references as in HTML, and backslash escapes.
Each layer is one pass from left to right, and nothing that a pass has written is read again by it.
-/
import ClientStyle.Text.ReferenceNames
import ClientStyle.Unicode.Class
set_option autoImplicit false

namespace ClientStyle.Text

/-! ## Character references -/

/-- How the characters between the marks of a reference are meant. -/
inductive ReferenceKind where
  | name
  | decimal
  | hexadecimal
  deriving DecidableEq, Repr

/-- Whether a number may be given as a reference: it has to be a character, and no control character
below U+0020 other than the tab, the line feed, the form feed and the carriage return. -/
def isReferable (n : Nat) : Bool :=
  decide n.isValidChar && (0x20 ≤ n || n == 0x9 || n == 0xA || n == 0xC || n == 0xD)

/-- The character of a number. -/
def ofNumber? (n : Nat) : Option (List Char) :=
  if isReferable n then some [Char.ofNat n] else none

/-- The value of a digit in base sixteen, in either case. -/
def digitValue? (c : Char) : Option Nat :=
  if c.isDigit then some (c.toNat - '0'.toNat)
  else if 'a' ≤ c ∧ c ≤ 'f' then some (c.toNat - 'a'.toNat + 10)
  else if 'A' ≤ c ∧ c ≤ 'F' then some (c.toNat - 'A'.toNat + 10)
  else none

/-- The number of some digits in a base; there has to be a digit, and nothing else. -/
def numberIn? (base : Nat) (cs : List Char) : Option Nat :=
  if cs.isEmpty then none
  else cs.foldl (fun n? c =>
    match n?, digitValue? c with
    | some n, some d => if d < base then some (n * base + d) else none
    | _, _ => none) (some 0)

/-- What the characters between the marks of a reference stand for. -/
def referent? : ReferenceKind → List Char → Option (List Char)
  | .name, cs => (referenceNames.lookup (String.ofList cs)).map (·.map Char.ofNat)
  | .decimal, cs => (numberIn? 10 cs).bind ofNumber?
  | .hexadecimal, cs => (numberIn? 16 cs).bind ofNumber?

/-- The kind of a reference, its opening mark behind the ampersand, and what follows this mark. -/
def openingMark : List Char → ReferenceKind × List Char × List Char
  | '#' :: 'x' :: cs => (.hexadecimal, ['#', 'x'], cs)
  | '#' :: 'X' :: cs => (.hexadecimal, ['#', 'X'], cs)
  | '#' :: cs => (.decimal, ['#'], cs)
  | cs => (.name, [], cs)

/-- Whether a character ends the body of a reference: the semicolon completes it, and an ampersand
begins another one. -/
def endsBody (c : Char) : Bool := c = ';' || c = '&'

/-- Decodes the references of a text. A reference without body, an unknown one and one that is not
completed stand for themselves. The first argument bounds the number of characters. -/
def decodeReferencesFrom : Nat → List Char → List Char
  | 0, cs => cs
  | _ + 1, [] => []
  | bound + 1, '&' :: cs =>
    let (kind, opening, rest) := openingMark cs
    let body := rest.takeWhile (!endsBody ·)
    match rest.dropWhile (!endsBody ·) with
    | ';' :: after =>
      match referent? kind body with
      | some decoded => decoded ++ decodeReferencesFrom bound after
      | none => '&' :: (opening ++ body ++ ';' :: decodeReferencesFrom bound after)
    -- The text ends here, or another ampersand comes first, at which decoding goes on.
    | after => '&' :: (opening ++ body ++ decodeReferencesFrom bound after)
  | bound + 1, c :: cs => c :: decodeReferencesFrom bound cs

/-- Decodes the character references of a text. -/
def decodeReferences (cs : List Char) : List Char := decodeReferencesFrom cs.length cs

/-! ## Backslash escapes -/

/-- What a character behind a backslash stands for, if the two are an escape. -/
def escaped? (c : Char) : Option Char :=
  if c = 'n' then some '\n'
  else if c = 't' then some '\t'
  else if c = 'r' then some '\r'
  else if c = '"' ∨ c = '\'' ∨ c = '\\' ∨ c = '/' then some c
  else none

/-- Decodes the backslash escapes of a text. A backslash in front of any other character, or at the
end, stands for itself, and so does the character. -/
def decodeBackslashes : List Char → List Char
  | [] => []
  | ['\\'] => ['\\']
  | '\\' :: c :: cs =>
    match escaped? c with
    | some decoded => decoded :: decodeBackslashes cs
    | none => '\\' :: c :: decodeBackslashes cs
  | c :: cs => c :: decodeBackslashes cs

/-! ## Both layers -/

/-- Decodes the references and then the backslash escapes of a text given by its characters. -/
def unescapeChars (cs : List Char) : List Char := decodeBackslashes (decodeReferences cs)

/-- Decodes the references and then the backslash escapes of a text. -/
def unescape (text : String) : String := String.ofList (unescapeChars text.toList)

end ClientStyle.Text
