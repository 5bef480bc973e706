/-
Finite binary floating-point numbers with 53 bits of precision, held exactly.

A number is a sign, a mantissa and a power of two, all of them integers, so equality is decidable
and every operation below is a statement about naturals. Results are rounded to the nearest
representable number, a half going to the even mantissa; a result too large to represent is `none`.
-/
set_option autoImplicit false

namespace ClientStyle.Number

/-! ## Magnitudes -/

/-- The non-negative number `mantissa * 2 ^ exponent`. -/
structure Magnitude where
  mantissa : Nat
  exponent : Int
  deriving DecidableEq, Repr, Inhabited

namespace Magnitude

/-- One more than the largest mantissa, which is `2 ^ 53`. -/
def mantissaBound : Nat := 9007199254740992

/-- The exponent of the smallest positive number, and of zero. -/
def minExponent : Int := -1074

/-- The exponent of the largest numbers. -/
def maxExponent : Int := 971

/-- Zero, written with the least exponent as every number below `2 ^ (-1022)` is. -/
def zero : Magnitude := ⟨0, minExponent⟩

/-- Whether the number is zero. -/
def isZero (x : Magnitude) : Bool := x.mantissa == 0

/-- The number as a quotient of two naturals. -/
def toRatio (x : Magnitude) : Nat × Nat :=
  (x.mantissa * Nat.pow 2 x.exponent.toNat, Nat.pow 2 (-x.exponent).toNat)

/-- The quotient `num / den` rounded to a natural, a half going to the even neighbour. -/
def roundQuotient (num den : Nat) : Nat :=
  let below := num / den
  let rest := num % den
  if 2 * rest < den then below
  else if 2 * rest = den ∧ below % 2 = 0 then below
  else below + 1

/-- The quotient `num / den` counted in units of `2 ^ exponent`, as a quotient again. -/
def inUnits (num den : Nat) (exponent : Int) : Nat × Nat :=
  (num * Nat.pow 2 (-exponent).toNat, den * Nat.pow 2 exponent.toNat)

/-- The exponent with which the quotient `num / den` has its leading bit in the highest place of
the mantissa, or the least exponent when the number is too small for that. -/
def exponentOf (num den : Nat) : Int :=
  let estimate : Int := (Nat.log2 num : Int) - (Nat.log2 den : Int) - 53
  let units := inUnits num den estimate
  -- The logarithms are rounded down, so the estimate may be one too small.
  let fitted := if mantissaBound ≤ units.1 / units.2 then estimate + 1 else estimate
  max fitted minExponent

/-- The representable number nearest to `num / den`, for a positive `den`; `none` if it is beyond
the largest one. Rounding up to the mantissa bound moves to the next exponent. -/
def ofRatio? (num den : Nat) : Option Magnitude :=
  if num = 0 then some zero
  else
    let exponent := exponentOf num den
    let units := inUnits num den exponent
    let mantissa := roundQuotient units.1 units.2
    let rounded : Magnitude :=
      if mantissa = mantissaBound then ⟨mantissaBound / 2, exponent + 1⟩ else ⟨mantissa, exponent⟩
    if maxExponent < rounded.exponent then none else some rounded

/-- The representable number nearest to a natural. -/
def ofNat? (n : Nat) : Option Magnitude := ofRatio? n 1

/-- The rounded product. -/
def mul? (x y : Magnitude) : Option Magnitude :=
  ofRatio? (x.toRatio.1 * y.toRatio.1) (x.toRatio.2 * y.toRatio.2)

/-- The rounded quotient by a positive number. -/
def div? (x y : Magnitude) : Option Magnitude :=
  ofRatio? (x.toRatio.1 * y.toRatio.2) (x.toRatio.2 * y.toRatio.1)

/-! ## Decimal numbers -/

/-- The largest power of ten that is representable, at least approximately. -/
def maxPowerOfTen : Nat := 308

/-- The representable number nearest to `10 ^ k`. -/
def powerOfTen? (k : Nat) : Option Magnitude := ofNat? (Nat.pow 10 k)

/-- The representable number nearest to `digits * 10 ^ exponent`. Exponents that put the number
beyond the largest or below half of the smallest one are settled without writing the power out. -/
def ofDecimal? (digits : Nat) (exponent : Int) : Option Magnitude :=
  if digits = 0 then some zero
  else if (maxPowerOfTen : Int) < exponent then none
  else if exponent + (Nat.log2 digits : Int) < -400 then some zero
  else ofRatio? (digits * Nat.pow 10 exponent.toNat) (Nat.pow 10 (-exponent).toNat)

/-- Divides by `10 ^ k` in steps of at most `10 ^ 308`, each step rounded. -/
def scaleDown? (x : Magnitude) (k : Nat) : Option Magnitude :=
  if x.isZero then some x
  else if k ≤ maxPowerOfTen then (powerOfTen? k).bind x.div?
  else ((powerOfTen? maxPowerOfTen).bind x.div?).bind (scaleDown? · (k - maxPowerOfTen))
termination_by k
decreasing_by simp only [maxPowerOfTen] at *; omega

/-- The number `digits * 10 ^ exponent` in two roundings: the digits are rounded first, and then
scaled by the representable power of ten. It may differ in its last place from `ofDecimal?`, which
rounds once. -/
def scaled? (digits : Nat) (exponent : Int) : Option Magnitude :=
  (ofNat? digits).bind fun x =>
    if exponent < 0 then x.scaleDown? (-exponent).toNat
    else if x.isZero then some x
    else if (maxPowerOfTen : Int) < exponent then none
    else (powerOfTen? exponent.toNat).bind x.mul?

end Magnitude

/-! ## Signed numbers -/

/-- A finite number with a sign; zero has both signs. -/
structure Binary64 where
  negative : Bool
  magnitude : Magnitude
  deriving DecidableEq, Repr, Inhabited

namespace Binary64

/-- The positive zero. -/
def zero : Binary64 := ⟨false, Magnitude.zero⟩

end Binary64

end ClientStyle.Number
