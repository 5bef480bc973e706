/-
Calendar dates, written as year, month and day.
-/
import ClientStyle.Codec.Decode
set_option autoImplicit false

namespace ClientStyle

namespace Date

/-! ## The calendar -/

/-- Whether a year has a leap day. -/
def isLeap (year : Int) : Bool := year % 4 == 0 && (year % 100 != 0 || year % 400 == 0)

/-- The number of days of a month. -/
def daysIn (year : Int) (month : Nat) : Nat :=
  if month = 2 then if isLeap year then 29 else 28
  else if month = 4 ∨ month = 6 ∨ month = 9 ∨ month = 11 then 30
  else 31

/-- The first year that can be given. -/
def minYear : Int := -262143

/-- The last year that can be given. -/
def maxYear : Int := 262142

/-- Whether there is such a date. -/
def exists? (year : Int) (month day : Nat) : Bool :=
  minYear ≤ year && year ≤ maxYear && 1 ≤ month && month ≤ 12 && 1 ≤ day && day ≤ daysIn year month

end Date

/-- A date of the Gregorian calendar, extended to all years that can be given. -/
structure Date where
  year : Int
  month : Nat
  day : Nat
  isDate : Date.exists? year month day = true
  deriving DecidableEq, Repr

namespace Date

/-! ## Reading -/

/-- Why a text is no date. -/
inductive Error where
  | invalid
  | tooShort
  | tooLong
  | outOfRange
  deriving DecidableEq, Repr

/-- The report of an error. -/
def Error.message : Error → String
  | .invalid => "input contains invalid characters"
  | .tooShort => "premature end of input"
  | .tooLong => "trailing input"
  | .outOfRange => "input is out of range"

/-- Drops white space in front. -/
def skipBlanks (cs : List Char) : List Char := cs.dropWhile Unicode.isWhiteSpace

/-- The number of some digits. -/
def numberOf (digits : List Char) : Nat :=
  digits.foldl (fun n c => n * 10 + (c.toNat - '0'.toNat)) 0

/-- The number of the digits in front, of which at most `width` are taken. -/
def digits (width : Option Nat) (cs : List Char) : Except Error (Nat × List Char) :=
  let all := cs.takeWhile Char.isDigit
  let taken := match width with
    | some w => all.take w
    | none => all
  match cs with
  | [] => .error .tooShort
  | _ => if taken.isEmpty then .error .invalid else .ok (numberOf taken, cs.drop taken.length)

/-- Years have to fit 32 bits before anything else is read. -/
def yearLimit : Nat := 2147483648

/-- A year: four digits, or a sign and any number of them. -/
def readYear (cs : List Char) : Except Error (Int × List Char) := do
  let (value, rest) ← match cs with
    | '-' :: cs => (digits none cs).map fun (n, rest) => (-(n : Int), rest)
    | '+' :: cs => (digits none cs).map fun (n, rest) => ((n : Int), rest)
    | cs => (digits (some 4) cs).map fun (n, rest) => ((n : Int), rest)
  if -(yearLimit : Int) ≤ value ∧ value < yearLimit then .ok (value, rest) else .error .outOfRange

/-- A number of at most two digits that does not exceed a limit and is not zero. -/
def upTo (limit : Nat) (cs : List Char) : Except Error (Nat × List Char) := do
  let (n, rest) ← digits (some 2) cs
  if 1 ≤ n ∧ n ≤ limit then .ok (n, rest) else .error .outOfRange

/-- The rest behind a hyphen. -/
def hyphen : List Char → Except Error (List Char)
  | [] => .error .tooShort
  | c :: cs => if c = '-' then .ok cs else .error .invalid

/-- Reads a date. White space may stand before each number and each hyphen, and at the end. -/
def parse (text : String) : Except Error Date := do
  let (year, rest) ← readYear (skipBlanks text.toList)
  let rest ← hyphen (skipBlanks rest)
  let (month, rest) ← upTo 12 (skipBlanks rest)
  let rest ← hyphen (skipBlanks rest)
  let (day, rest) ← upTo 31 (skipBlanks rest)
  if !(skipBlanks rest).isEmpty then .error .tooLong
  -- Only here the day is compared with the length of its month.
  else if h : exists? year month day then .ok ⟨year, month, day, h⟩
  else .error .outOfRange

/-! ## Writing -/

/-- A number with zeros in front up to a width. -/
def padded (width n : Nat) : String :=
  let digits := Nat.toDigits 10 n
  String.ofList (List.replicate (width - digits.length) '0' ++ digits)

/-- The year has four digits at least, and a sign unless it lies between 0 and 9999. -/
def text (d : Date) : String :=
  let sign := if d.year < 0 then "-" else if 9999 < d.year then "+" else ""
  sign ++ padded 4 d.year.natAbs ++ "-" ++ padded 2 d.month ++ "-" ++ padded 2 d.day

/-- A date is encoded as its text. -/
def toJson (d : Date) : Json := .string d.text

/-- A date is decoded from its text. -/
def ofJson : Decoder Date
  | .string s =>
    match parse s with
    | .ok d => .ok d
    | .error e => .error (.rejected e.message)
  | other => .error (.mismatch other "a formatted date string")

end Date

end ClientStyle
