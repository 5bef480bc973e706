/-
The tags of YAML nodes.

A tag is written as a whole between angle brackets, or as a handle with a suffix. What a handle stands
for is told by the directives of a document, and two handles stand for something without any. A
character of a tag may be written by the numbers of its octets, so a tag is a list of octets.
-/
import ClientStyle.Json.Reader
import ClientStyle.Yaml.Cursor
set_option autoImplicit false

namespace ClientStyle.Yaml

/-- A tag by its octets. -/
abbrev Tag := List UInt8

namespace Tag

/-- The tag that is spelled by a text. -/
def ofText (text : String) : Tag := text.toUTF8.toList

/-- The beginning of the tags of values that every reader of documents knows. -/
def core : Tag := ofText "tag:yaml.org,2002:"

/-- The tag of a value that stands for nothing. -/
def null : Tag := core ++ ofText "null"

/-- The tag of truth values. -/
def truth : Tag := core ++ ofText "bool"

/-- The tag of integers. -/
def integer : Tag := core ++ ofText "int"

/-- The tag of floating-point numbers. -/
def real : Tag := core ++ ofText "float"

/-- The tag that says no more than that there is one. -/
def bare : Tag := ofText "!"

/-- The name of the alternative that a tag of one's own chooses: what is behind its exclamation mark. -/
def alternative? (tag : Tag) : Option String :=
  if bare.isPrefixOf tag then String.fromUTF8? ⟨(tag.drop bare.length).toArray⟩ else none

/-! ## Spelling -/

/-- The characters of tags that stand for themselves. -/
def isPlain (c : Char) : Bool := isNameChar c || ";/?:@&=+$.!~*'()".toList.contains c

/-- The characters that stand for themselves only in a tag that is written as a whole. -/
def isWholeOnly (c : Char) : Bool := c = ',' || c = '[' || c = ']'

/-- How many octets are due after an octet. The first octet of a character tells how many octets the
character has, and each of the others says that it is none that is first. -/
def dueAfter? (due octet : Nat) : Option Nat :=
  if due = 0 then
    if octet < 0x80 then some 0
    else if 0xc0 ≤ octet && octet < 0xe0 then some 1
    else if 0xe0 ≤ octet && octet < 0xf0 then some 2
    else if 0xf0 ≤ octet && octet < 0xf8 then some 3
    else none
  else if 0x80 ≤ octet && octet < 0xc0 then some (due - 1)
  else none

/-- Reads a part of a tag, of which some octets have been read, the last one first, and some are
due. -/
def part? (whole : Bool) (due : Nat) (read : Tag) : List Char → Option (Tag × List Char)
  | '%' :: high :: low :: rest =>
    match Json.hexValue? high, Json.hexValue? low with
    | some high, some low =>
      match dueAfter? due (16 * high + low) with
      | some due => part? whole due ((16 * high + low).toUInt8 :: read) rest
      | none => none
    | _, _ => none
  | c :: rest =>
    if due ≠ 0 || c = '%' then none
    else if isPlain c || (whole && isWholeOnly c) then
      part? whole 0 (c.toNat.toUInt8 :: read) rest
    else some (read.reverse, c :: rest)
  | [] => if due = 0 then some (read.reverse, []) else none

/-- A part of a tag that is not empty. -/
def somePart? (whole : Bool) (cs : List Char) : Option (Tag × List Char) :=
  match part? whole 0 [] cs with
  | some ([], _) => none
  | other => other

/-- A handle at the beginning of a text, which begins with an exclamation mark: another mark ends it,
behind the characters of a name. -/
def handle? (cs : List Char) : Option (String × List Char) :=
  match cs with
  | '!' :: rest =>
    let name := rest.takeWhile isNameChar
    match rest.drop name.length with
    | '!' :: after => some (String.ofList ('!' :: name ++ ['!']), after)
    | _ => none
  | _ => none

/-- The handle of the tags of one's own. -/
def ownHandle : String := "!"

/-- The handle and the suffix of a tag. Without a handle the suffix is the whole tag. -/
def read? (cs : List Char) : Option (String × Tag × List Char) :=
  match handle? cs, cs with
  | some (handle, rest), _ => (somePart? false rest).map fun (suffix, rest) => (handle, suffix, rest)
  | none, '!' :: '<' :: rest => do
    let (tag, rest) ← somePart? true rest
    match rest with
    | '>' :: rest => some ("", tag, rest)
    | _ => none
  | none, '!' :: rest => do
    let (suffix, rest) ← part? false 0 [] rest
    some (if suffix.isEmpty then ("", bare, rest) else (ownHandle, suffix, rest))
  | none, _ => none

/-- The handle and the prefix of a directive, behind its name. -/
def directive? (cs : List Char) : Option (String × Tag × List Char) := do
  let text := cs.dropWhile isBlank
  let (handle, rest) ← (handle? text).or (if text.head? = some '!' then
    some (ownHandle, text.drop 1) else none)
  if !cs.head?.any isBlank || !rest.head?.any isBlank then none
  let (start, rest) ← somePart? true (rest.dropWhile isBlank)
  if isGapNext rest then some (handle, start, rest) else none

/-- What the handles stand for that need no directive. -/
def knownHandles : List (String × Tag) := [(ownHandle, bare), ("!!", core)]

end Tag

end ClientStyle.Yaml
