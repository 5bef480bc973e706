/-
Semantic versions.

A version is three numbers with dots between them, then possibly identifiers of a pre-release behind a
hyphen, and possibly build metadata behind a plus sign. The text is read from left to right, and the
first deviation is reported together with the part in which it was found.
-/
import ClientStyle.Text.Quoted
set_option autoImplicit false

namespace ClientStyle

/-- A semantic version. -/
structure Version where
  major : Nat
  minor : Nat
  patch : Nat
  preRelease : List String
  build : List String
  deriving DecidableEq, Repr, Inhabited

namespace Version

/-! ## Reports -/

/-- The parts of a version. -/
inductive Part where
  | major
  | minor
  | patch
  | preRelease
  | build
  deriving DecidableEq, Repr

/-- A part as reports mention it. -/
def Part.name : Part → String
  | .major => "major version number"
  | .minor => "minor version number"
  | .patch => "patch version number"
  | .preRelease => "pre-release identifier"
  | .build => "build metadata"

/-- Why a text is no version. -/
inductive Error where
  | empty
  | unexpectedEnd (part : Part)
  /-- A number or identifier should begin here. -/
  | unexpected (part : Part) (found : Char)
  /-- The part should be over, or go on with what it is made of. -/
  | unexpectedAfter (part : Part) (found : Char)
  | leadingZero (part : Part)
  | tooLarge (part : Part)
  | emptyIdentifier (part : Part)
  deriving DecidableEq, Repr

/-- The report of an error. -/
def Error.message : Error → String
  | .empty => "empty string, expected a semver version"
  | .unexpectedEnd part => "unexpected end of input while parsing " ++ part.name
  | .unexpected part c =>
    "unexpected character " ++ Text.charInQuotes c ++ " while parsing " ++ part.name
  | .unexpectedAfter part c => "unexpected character " ++ Text.charInQuotes c ++ " after " ++ part.name
  | .leadingZero part => "invalid leading zero in " ++ part.name
  | .tooLarge part => "value of " ++ part.name ++ " exceeds u64::MAX"
  | .emptyIdentifier part => "empty identifier segment in " ++ part.name

/-- A reader returns what it read and the characters after it. -/
abbrev Reader (α : Type) := List Char → Except Error (α × List Char)

/-! ## Numbers -/

/-- The largest number in a version, which has 64 bits. -/
def maxNumber : Nat := 18446744073709551615

/-- A number, of which some digits have been read already. -/
def numberAfter (part : Part) (read : Option Nat) : Reader Nat
  | [] =>
    match read with
    | some n => .ok (n, [])
    | none => .error (.unexpectedEnd part)
  | c :: cs =>
    if c.isDigit then
      -- A number that begins with a zero ends with it.
      if read = some 0 then .error (.leadingZero part)
      else
        let n := read.getD 0 * 10 + (c.toNat - '0'.toNat)
        if n ≤ maxNumber then numberAfter part (some n) cs else .error (.tooLarge part)
    else
      match read with
      | some n => .ok (n, c :: cs)
      | none => .error (.unexpected part c)

/-- A number. -/
def number (part : Part) : Reader Nat := numberAfter part none

/-- The rest behind a dot. -/
def dot (part : Part) : List Char → Except Error (List Char)
  | [] => .error (.unexpectedEnd part)
  | c :: cs => if c = '.' then .ok cs else .error (.unexpectedAfter part c)

/-! ## Identifiers -/

/-- The characters of identifiers. -/
def isIdentifierChar (c : Char) : Bool := c.isAlphanum || c = '-'

/-- Whether an identifier is a number with a zero too many in front. -/
def isPaddedNumber (identifier : List Char) : Bool :=
  match identifier with
  | '0' :: _ :: _ => identifier.all Char.isDigit
  | _ => false

/-- An identifier with dots around it, once it is complete. -/
def identifier (part : Part) (cs : List Char) : Except Error String :=
  if cs.isEmpty then .error (.emptyIdentifier part)
  else if part = .preRelease ∧ isPaddedNumber cs then .error (.leadingZero part)
  else .ok (String.ofList cs)

/-- Identifiers with dots between them. `read` holds the characters of the current identifier, the
last one first. -/
def identifiersAfter (part : Part) (read : List Char) : Reader (List String)
  | [] => do
    let last ← identifier part read.reverse
    .ok ([last], [])
  | c :: cs =>
    if isIdentifierChar c then identifiersAfter part (c :: read) cs
    else do
      let done ← identifier part read.reverse
      if c = '.' then
        let (others, rest) ← identifiersAfter part [] cs
        .ok (done :: others, rest)
      else .ok ([done], c :: cs)

/-- The identifiers of a part behind its mark, or none if the mark does not follow. -/
def marked (mark : Char) (part : Part) : Reader (List String)
  | [] => .ok ([], [])
  | c :: cs => if c = mark then identifiersAfter part [] cs else .ok ([], c :: cs)

/-! ## Versions -/

/-- Reads a version. -/
def parse (text : String) : Except Error Version := do
  if text.toList.isEmpty then .error .empty
  let (major, rest) ← number .major text.toList
  let rest ← dot .major rest
  let (minor, rest) ← number .minor rest
  let rest ← dot .minor rest
  let (patch, rest) ← number .patch rest
  let (preRelease, rest) ← marked '-' .preRelease rest
  let (build, rest) ← marked '+' .build rest
  match rest with
  | [] => .ok { major, minor, patch, preRelease, build }
  | c :: _ =>
    -- What is left over is reported behind the last part that there is.
    let last : Part := if !build.isEmpty then .build else if !preRelease.isEmpty then .preRelease
      else .patch
    .error (.unexpectedAfter last c)

/-- Whether a text is a version. -/
def IsVersion (text : String) : Prop := ∃ v, parse text = .ok v

instance (text : String) : Decidable (IsVersion text) :=
  match h : parse text with
  | .ok v => isTrue ⟨v, h⟩
  | .error e => isFalse fun ⟨v, hv⟩ => by rw [h] at hv; cases hv

end Version

end ClientStyle
