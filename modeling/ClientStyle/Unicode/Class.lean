/-
Classes of characters and their case mappings, read off the tables of properties.

Characters below U+0080 are settled without a table; the tables agree with the short answers on that
range.
-/
import ClientStyle.Unicode.Alphabetic
import ClientStyle.Unicode.CaseIgnorable
import ClientStyle.Unicode.Cased
import ClientStyle.Unicode.ExtendingMark
import ClientStyle.Unicode.LowerMapping
import ClientStyle.Unicode.Lowercase
import ClientStyle.Unicode.Numeric
import ClientStyle.Unicode.Unprintable
import ClientStyle.Unicode.UpperMapping
import ClientStyle.Unicode.Uppercase
set_option autoImplicit false

namespace ClientStyle.Unicode

/-! ## Classes -/

/-- Whether a character is one of the first 128. -/
def isAscii (c : Char) : Bool := c.toNat < 0x80

/-- Letters, and the marks and letter numbers that count as such. -/
def isAlphabetic (c : Char) : Bool :=
  if isAscii c then c.isAlpha else alphabeticSet.contains c.toNat

/-- Digits and numbers of every kind. -/
def isNumeric (c : Char) : Bool :=
  if isAscii c then c.isDigit else numericSet.contains c.toNat

/-- Letters and numbers. -/
def isAlphanumeric (c : Char) : Bool := isAlphabetic c || isNumeric c

/-- Characters in upper case; title case is not upper case. -/
def isUppercase (c : Char) : Bool :=
  if isAscii c then c.isUpper else uppercaseSet.contains c.toNat

/-- Characters in lower case; title case is not lower case. -/
def isLowercase (c : Char) : Bool :=
  if isAscii c then c.isLower else lowercaseSet.contains c.toNat

/-- Characters in upper, lower or title case. -/
def isCased (c : Char) : Bool := casedSet.contains c.toNat

/-- Characters that stand inside a word without ending it. -/
def isCaseIgnorable (c : Char) : Bool := caseIgnorableSet.contains c.toNat

/-- Marks drawn upon the character before them. -/
def isExtendingMark (c : Char) : Bool := extendingMarkSet.contains c.toNat

/-- Characters with a visible form, and the space. -/
def isPrintable (c : Char) : Bool := !unprintableSet.contains c.toNat

/-- The characters with the property White_Space: the blanks and line breaks of every script. -/
def isWhiteSpace (c : Char) : Bool :=
  let n := c.toNat
  (0x9 ≤ n && n ≤ 0xD) || n == 0x20 || n == 0x85 || n == 0xA0 || n == 0x1680 ||
    (0x2000 ≤ n && n ≤ 0x200A) || n == 0x2028 || n == 0x2029 || n == 0x202F || n == 0x205F ||
    n == 0x3000

/-! ## Case -/

/-- The upper-case form of a character, which may be several characters. -/
def toUpper (c : Char) : List Char :=
  if isAscii c then [c.toUpper] else (upperMapping.apply c.toNat).map Char.ofNat

/-- The lower-case form of a character, which may be several characters. -/
def toLower (c : Char) : List Char :=
  if isAscii c then [c.toLower] else (lowerMapping.apply c.toNat).map Char.ofNat

/-- Whether the first character that counts, going away from a place in a word, is cased. -/
def meetsCased (cs : List Char) : Bool :=
  match cs.dropWhile isCaseIgnorable with
  | [] => false
  | c :: _ => isCased c

/-- Lowers a text; `before` holds the characters in front of it, the nearest first. A capital sigma
becomes a final one at the end of a word: behind a cased letter and not before one. -/
def lowerAfter (before : List Char) : List Char → List Char
  | [] => []
  | c :: rest =>
    let lowered :=
      if c = 'Σ' then
        if meetsCased before && !meetsCased rest then ['ς'] else ['σ']
      else toLower c
    lowered ++ lowerAfter (c :: before) rest

/-- The lower-case form of a text. -/
def lower (text : String) : String := String.ofList (lowerAfter [] text.toList)

end ClientStyle.Unicode
