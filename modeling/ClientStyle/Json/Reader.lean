/-
Reading JSON texts.

Each reader takes the characters in front of it and returns what it read with the rest. Containers
may nest up to a limit that the caller sets, and the reader of values recurses on that limit; the
items of a container are read by a loop that takes at least one character a turn, so the number of
remaining characters bounds it. A text is refused for any deviation from the grammar; the reason is
not kept, since nothing in this library tells the reasons apart.
-/
import ClientStyle.Json.Basic
set_option autoImplicit false

namespace ClientStyle.Json

/-- A reader returns what it read and the characters after it, or refuses. -/
abbrev Reader (α : Type) := List Char → Option (α × List Char)

/-- The nesting up to which documents and records are read. -/
def nestingLimit : Nat := 127

/-! ## Blanks and words -/

/-- The blanks of JSON. -/
def isBlank (c : Char) : Bool := c = ' ' || c = '\n' || c = '\t' || c = '\r'

/-- Drops the blanks in front. -/
def skipBlanks (cs : List Char) : List Char := cs.dropWhile isBlank

/-- The rest after a given word. -/
def afterWord? : List Char → List Char → Option (List Char)
  | [], cs => some cs
  | _ :: _, [] => none
  | w :: ws, c :: cs => if w = c then afterWord? ws cs else none

/-! ## Strings -/

/-- The value of a digit in base sixteen, in either case. -/
def hexValue? (c : Char) : Option Nat :=
  if '0' ≤ c ∧ c ≤ '9' then some (c.toNat - '0'.toNat)
  else if 'a' ≤ c ∧ c ≤ 'f' then some (c.toNat - 'a'.toNat + 10)
  else if 'A' ≤ c ∧ c ≤ 'F' then some (c.toNat - 'A'.toNat + 10)
  else none

/-- The number of four digits in base sixteen. -/
def hexFour? : Reader Nat
  | a :: b :: c :: d :: rest => do
    let a ← hexValue? a
    let b ← hexValue? b
    let c ← hexValue? c
    let d ← hexValue? d
    some (((a * 16 + b) * 16 + c) * 16 + d, rest)
  | _ => none

/-- Whether a code unit is the first half of a surrogate pair. -/
def isHighSurrogate (unit : Nat) : Bool := 0xD800 ≤ unit && unit < 0xDC00

/-- Whether a code unit is the second half of a surrogate pair. -/
def isLowSurrogate (unit : Nat) : Bool := 0xDC00 ≤ unit && unit < 0xE000

/-- The character of a four-digit escape, whose digits come next. A character beyond the basic
plane takes two escapes; half of such a pair on its own is refused. -/
def unicodeEscape? : Reader Char := fun cs => do
  let (unit, rest) ← hexFour? cs
  if isLowSurrogate unit then none
  else if isHighSurrogate unit then
    match rest with
    | '\\' :: 'u' :: more => do
      let (low, rest) ← hexFour? more
      if isLowSurrogate low then
        some (Char.ofNat (0x10000 + (unit - 0xD800) * 0x400 + (low - 0xDC00)), rest)
      else none
    | _ => none
  else some (Char.ofNat unit, rest)

/-- The character of an escape, behind its backslash. -/
def escape? : Reader Char
  | '"' :: rest => some ('"', rest)
  | '\\' :: rest => some ('\\', rest)
  | '/' :: rest => some ('/', rest)
  | 'b' :: rest => some ('\x08', rest)
  | 'f' :: rest => some ('\x0c', rest)
  | 'n' :: rest => some ('\n', rest)
  | 'r' :: rest => some ('\r', rest)
  | 't' :: rest => some ('\t', rest)
  | 'u' :: rest => unicodeEscape? rest
  | _ => none

/-- The characters up to the closing quotation mark, which is taken too. Control characters have to
be escaped. The first argument bounds the number of characters. -/
def stringChars? : Nat → Reader (List Char)
  | 0, _ => none
  | _ + 1, [] => none
  | bound + 1, c :: rest =>
    if c = '"' then some ([], rest)
    else if c = '\\' then do
      let (c, rest) ← escape? rest
      let (cs, rest) ← stringChars? bound rest
      some (c :: cs, rest)
    else if c.toNat < 0x20 then none
    else do
      let (cs, rest) ← stringChars? bound rest
      some (c :: cs, rest)

/-- A text behind its opening quotation mark. -/
def string? : Reader String := fun cs =>
  (stringChars? cs.length cs).map fun (text, rest) => (String.ofList text, rest)

/-! ## Numbers -/

/-- The digits in front, and the rest. -/
def digits (cs : List Char) : List Nat × List Char :=
  ((cs.takeWhile Char.isDigit).map fun c => c.toNat - '0'.toNat, cs.dropWhile Char.isDigit)

/-- The digits in front, of which there has to be at least one. -/
def someDigits? : Reader (List Nat) := fun cs =>
  match digits cs with
  | ([], _) => none
  | found => some found

/-- The digits before the point: one zero, or digits that do not start with a zero. -/
def wholeDigits? : Reader (List Nat) := fun cs =>
  match someDigits? cs with
  | some (0 :: _ :: _, _) => none
  | found => found

/-- The digits after a point, if one stands in front. -/
def fraction? : Reader (Option (List Nat))
  | '.' :: rest => (someDigits? rest).map fun (ds, rest) => (some ds, rest)
  | cs => some (none, cs)

/-- The natural number of some digits. -/
def naturalOf (ds : List Nat) : Nat := ds.foldl (· * 10 + ·) 0

/-- The exponent, if its mark stands in front. -/
def exponent? : Reader (Option Int) := fun cs =>
  let signed : Reader (Option Int)
    | '-' :: rest => (someDigits? rest).map fun (ds, rest) => (some (-(naturalOf ds : Int)), rest)
    | '+' :: rest => (someDigits? rest).map fun (ds, rest) => (some (naturalOf ds : Int), rest)
    | cs => (someDigits? cs).map fun (ds, rest) => (some (naturalOf ds : Int), rest)
  match cs with
  | 'e' :: rest => signed rest
  | 'E' :: rest => signed rest
  | cs => some (none, cs)

/-- A number behind its sign. -/
def unsigned? (negative : Bool) : Reader Number := fun cs => do
  let (whole, rest) ← wholeDigits? cs
  let (fraction, rest) ← fraction? rest
  let (exponent, rest) ← exponent? rest
  let number ← Number.ofParts? ⟨negative, whole, fraction, exponent⟩
  some (number, rest)

/-- A number. -/
def number? : Reader Number
  | '-' :: rest => unsigned? true rest
  | cs => unsigned? false cs

/-! ## Containers and values -/

/-- What follows an item: a comma, after which another item has to come, or the closing bracket. -/
def separator? (closing : Char) : Reader Bool := fun cs =>
  match skipBlanks cs with
  | [] => none
  | c :: rest => if c = ',' then some (true, rest) else if c = closing then some (false, rest) else none

/-- The items of an array behind its bracket or behind a comma, up to and with the closing bracket.
The second argument bounds their number. -/
def items? (item : Reader Json) : Nat → Reader (List Json)
  | 0, _ => none
  | bound + 1, cs => do
    let (value, rest) ← item cs
    let (more, rest) ← separator? ']' rest
    if more then do
      let (values, rest) ← items? item bound rest
      some (value :: values, rest)
    else some ([value], rest)

/-- A member: its name, a colon and its value. -/
def member? (item : Reader Json) : Reader (String × Json) := fun cs =>
  match skipBlanks cs with
  | '"' :: rest => do
    let (name, rest) ← string? rest
    match skipBlanks rest with
    | ':' :: rest => do
      let (value, rest) ← item rest
      some ((name, value), rest)
    | _ => none
  | _ => none

/-- The members of an object behind its brace or behind a comma, up to and with the closing brace,
in the order of the text. The second argument bounds their number. -/
def members? (item : Reader Json) : Nat → Reader Members
  | 0, _ => none
  | bound + 1, cs => do
    let (value, rest) ← member? item cs
    let (more, rest) ← separator? '\x7d' rest
    if more then do
      let (values, rest) ← members? item bound rest
      some (value :: values, rest)
    else some ([value], rest)

/-- An array behind its bracket. -/
def arrayBody? (item : Reader Json) : Reader Json := fun cs =>
  match skipBlanks cs with
  | ']' :: rest => some (.array [], rest)
  | _ => (items? item cs.length cs).map fun (items, rest) => (.array items, rest)

/-- An object behind its brace. Of members with one name the last one counts. -/
def objectBody? (item : Reader Json) : Reader Json := fun cs =>
  match skipBlanks cs with
  | '\x7d' :: rest => some (.object [], rest)
  | _ => (members? item cs.length cs).map fun (members, rest) => (ofMembers members, rest)

/-- A value that opens no container, or `none` for one that does. -/
def scalar? : Reader Json := fun cs =>
  match cs with
  | '"' :: rest => (string? rest).map fun (s, rest) => (.string s, rest)
  | 'n' :: rest => (afterWord? ['u', 'l', 'l'] rest).map fun rest => (.null, rest)
  | 't' :: rest => (afterWord? ['r', 'u', 'e'] rest).map fun rest => (.bool true, rest)
  | 'f' :: rest => (afterWord? ['a', 'l', 's', 'e'] rest).map fun rest => (.bool false, rest)
  | cs => (number? cs).map fun (n, rest) => (.number n, rest)

/-- A value, with blanks in front of it, that nests at most `limit` containers. -/
def value? : Nat → Reader Json
  | 0, cs => scalar? (skipBlanks cs)
  | limit + 1, cs =>
    match skipBlanks cs with
    | '[' :: rest => arrayBody? (value? limit) rest
    | '\x7b' :: rest => objectBody? (value? limit) rest
    | cs => scalar? cs

/-- The value of a whole text that nests at most `limit` containers; only blanks may follow it. -/
def readWithin? (limit : Nat) (text : String) : Option Json :=
  match value? limit text.toList with
  | some (value, rest) => if skipBlanks rest = [] then some value else none
  | none => none

/-- The value of a whole text. -/
def read? (text : String) : Option Json := readWithin? nestingLimit text

end ClientStyle.Json
