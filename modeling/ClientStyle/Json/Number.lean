/-
The numbers of JSON: integers of 64 bits, and binary floating-point numbers for all others.

A number text without fraction and exponent whose value fits 64 bits is an integer and stays exact.
Every other number text is read in two roundings: of its digits the longest run from the left that
fits 64 bits is kept, and the result is scaled by a power of ten. A number beyond the largest
floating-point number is refused.
-/
import ClientStyle.Number.Shortest
set_option autoImplicit false

namespace ClientStyle.Json

open ClientStyle.Number

/-- A JSON number. -/
inductive Number where
  | integer (value : Int)
  | real (value : Binary64)
  deriving DecidableEq, Repr

namespace Number

instance : Inhabited Number := ⟨.integer 0⟩

/-! ## Number texts -/

/-- A number text cut into its parts. `fraction` and `exponent` are absent when the text has no
point or no exponent mark. -/
structure Parts where
  negative : Bool
  whole : List Nat
  fraction : Option (List Nat)
  exponent : Option Int
  deriving DecidableEq, Repr

/-- The largest integer, the last one below `2 ^ 64`. -/
def maxInteger : Nat := 18446744073709551615

/-- The largest absolute value of a negative integer, which is `2 ^ 63`. -/
def maxNegated : Nat := 9223372036854775808

/-- A significand that takes digits as long as it fits 64 bits. `exponent` is the power of ten it
still has to be scaled by, and `full` is set by the first digit that did not fit. -/
structure Significand where
  value : Nat
  exponent : Int
  full : Bool
  deriving DecidableEq, Repr

/-- Takes one digit before the point. Digits that do not fit count as zeros. -/
def Significand.pushWhole (s : Significand) (digit : Nat) : Significand :=
  if !s.full && s.value * 10 + digit ≤ maxInteger then { s with value := s.value * 10 + digit }
  else { s with exponent := s.exponent + 1, full := true }

/-- Takes one digit after the point. Digits that do not fit are dropped. -/
def Significand.pushFraction (s : Significand) (digit : Nat) : Significand :=
  if !s.full && s.value * 10 + digit ≤ maxInteger then
    { s with value := s.value * 10 + digit, exponent := s.exponent - 1 }
  else { s with full := true }

/-- The significand of the digits before and after the point. A significand filled up before the
point may still take digits after it, as long as the next one fits. -/
def Significand.ofDigits (whole fraction : List Nat) : Significand :=
  let before := whole.foldl Significand.pushWhole ⟨0, 0, false⟩
  fraction.foldl Significand.pushFraction { before with full := false }

/-- The floating-point number of a number text. -/
def realOfParts? (p : Parts) : Option Number :=
  let s := Significand.ofDigits p.whole (p.fraction.getD [])
  (Magnitude.scaled? s.value (s.exponent + p.exponent.getD 0)).map fun m =>
    .real ⟨p.negative, m⟩

/-- The integer of the digits of a text without fraction and exponent, if it fits 64 bits. A
negative zero is no integer: only a floating-point number can hold its sign. -/
def integerOfDigits? (negative : Bool) (digits : List Nat) : Option Int :=
  let value := digits.foldl (· * 10 + ·) 0
  if negative then
    if value ≠ 0 ∧ value ≤ maxNegated then some (-(value : Int)) else none
  else if value ≤ maxInteger then some value else none

/-- The number of a number text. -/
def ofParts? (p : Parts) : Option Number :=
  match p.fraction, p.exponent with
  -- An integer that does not fit is rounded like any other number.
  | none, none => ((integerOfDigits? p.negative p.whole).map .integer).or (realOfParts? p)
  | _, _ => realOfParts? p

/-! ## Writing -/

/-- The least decimal exponent of a floating-point number that is written without an exponent. -/
def minPositional : Int := -5

/-- The largest decimal exponent of a floating-point number that is written without an exponent. -/
def maxPositional : Int := 15

/-- The text of a decimal number: with a point and at least one digit after it for moderate
exponents, and in scientific form for all others. -/
def decimalText (d : Decimal) : List Char :=
  if minPositional ≤ d.scientificExponent ∧ d.scientificExponent ≤ maxPositional then
    d.positional ['.', '0']
  else d.scientific

/-- The text of an integer. -/
def integerText (i : Int) : List Char :=
  if i < 0 then '-' :: Decimal.naturalDigits i.natAbs else Decimal.naturalDigits i.natAbs

/-- The text of a number: an integer has neither point nor exponent, and a floating-point number is
written with the fewest digits that single it out. -/
def text : Number → List Char
  | .integer i => integerText i
  | .real x =>
    let magnitude := decimalText (Decimal.shortest x.magnitude)
    if x.negative then '-' :: magnitude else magnitude

end Number

end ClientStyle.Json
