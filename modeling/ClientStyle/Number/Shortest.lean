/-
The shortest decimal digits that single out a binary floating-point number.

Every real number in an interval around a representable number rounds to it. `shortest` looks for
the coarsest decimal grid that has a point in this interval, and takes the point nearest to the
number; so no shorter digits read back as the number, and no other digits of that length are
nearer. The comparisons are between naturals and hence exact.
-/
import ClientStyle.Number.Binary64
set_option autoImplicit false

namespace ClientStyle.Number

/-- The decimal number `digits * 10 ^ exponent`. -/
structure Decimal where
  digits : Nat
  exponent : Int
  deriving DecidableEq, Repr, Inhabited

namespace Decimal

/-! ## The interval of a magnitude -/

/-- A magnitude with the ends of the interval that rounds to it, all counted in units of
`1 / scale`. -/
structure Neighbourhood where
  low : Nat
  centre : Nat
  high : Nat
  scale : Nat
  /-- Whether the ends themselves round to the centre: a half goes to the even mantissa. -/
  closed : Bool

/-- The neighbourhood of a magnitude. The gap below a power of two is half as wide as the gap above
it, except at the least exponent. In units of a quarter of the last place every end is a natural. -/
def Neighbourhood.of (x : Magnitude) : Neighbourhood :=
  let unit := Nat.pow 2 (x.exponent - Magnitude.minExponent).toNat
  let below := if x.mantissa = Magnitude.mantissaBound / 2 ∧ x.exponent ≠ Magnitude.minExponent
    then 1 else 2
  { low := (4 * x.mantissa - below) * unit
    centre := 4 * x.mantissa * unit
    high := (4 * x.mantissa + 2) * unit
    scale := 4 * Nat.pow 2 (-Magnitude.minExponent).toNat
    closed := x.mantissa % 2 = 0 }

/-- Whether `digits * 10 ^ exponent` lies in the neighbourhood. -/
def Neighbourhood.contains (n : Neighbourhood) (d : Decimal) : Bool :=
  -- Both sides are multiplied by the denominators, so that naturals are compared.
  let value := d.digits * Nat.pow 10 d.exponent.toNat * n.scale
  let unit := Nat.pow 10 (-d.exponent).toNat
  if n.closed then n.low * unit ≤ value ∧ value ≤ n.high * unit
  else n.low * unit < value ∧ value < n.high * unit

/-- The distance of `digits * 10 ^ exponent` from the centre, in units that only depend on the
exponent. -/
def Neighbourhood.distance (n : Neighbourhood) (d : Decimal) : Nat :=
  let value := d.digits * Nat.pow 10 d.exponent.toNat * n.scale
  let centre := n.centre * Nat.pow 10 (-d.exponent).toNat
  (value - centre) + (centre - value)

/-! ## Grids -/

/-- The number of decimal digits of a positive natural, less one. -/
def leadingPlace (n : Nat) : Nat :=
  if n < 10 then 0 else leadingPlace (n / 10) + 1
termination_by n
decreasing_by omega

/-- The decimal exponent of the leading digit of `num / den`, both positive. For a quotient below
one the scaled quotient `10 ^ places * num / den` is taken, with enough places to be at least one. -/
def leadingExponent (num den : Nat) : Int :=
  if den ≤ num then leadingPlace (num / den)
  else
    let places := leadingPlace den + 1
    (leadingPlace (num * Nat.pow 10 places / den) : Int) - places

/-- The point of the grid `10 ^ exponent` that represents the neighbourhood, if one of the two
points next to the centre lies in it. Of two such points the nearer is taken, and of two equally
near ones the even one. -/
def onGrid? (n : Neighbourhood) (exponent : Int) : Option Decimal :=
  let num := n.centre * Nat.pow 10 (-exponent).toNat
  let den := n.scale * Nat.pow 10 exponent.toNat
  let below : Decimal := ⟨num / den, exponent⟩
  let above : Decimal := ⟨num / den + 1, exponent⟩
  -- All other points of the grid are further from the centre, and so are in the interval only if one
  -- of these is.
  match n.contains below, n.contains above with
  | false, false => none
  | true, false => some below
  | false, true => some above
  | true, true =>
    if n.distance below < n.distance above then some below
    else if n.distance above < n.distance below then some above
    else if below.digits % 2 = 0 then some below else some above

/-- Drops zeros at the end of the digits. -/
def trim (d : Decimal) : Decimal :=
  if h : d.digits ≠ 0 ∧ d.digits % 10 = 0 then trim ⟨d.digits / 10, d.exponent + 1⟩ else d
termination_by d.digits
decreasing_by exact Nat.div_lt_self (Nat.pos_of_ne_zero h.1) (by decide)

/-- The shortest decimal number that rounds to a magnitude; seventeen digits are always enough. -/
def shortest (x : Magnitude) : Decimal :=
  if x.isZero then ⟨0, 0⟩
  else
    let n := Neighbourhood.of x
    let leading := leadingExponent n.centre n.scale
    -- Every digit more makes the grid ten times finer.
    match (List.range 17).findSome? fun (k : Nat) => onGrid? n (leading - (k : Int)) with
    | some d => d.trim
    | none => ⟨0, 0⟩

/-! ## Writing -/

/-- The digits of a natural number in base ten, the leading one first. -/
def naturalDigits (n : Nat) : List Char := Nat.toDigits 10 n

/-- The decimal exponent of the leading digit. -/
def scientificExponent (d : Decimal) : Int := d.exponent + ((naturalDigits d.digits).length - 1)

/-- The number without an exponent. At least one digit stands before the point, and `fraction`
stands for the part after it when there is none. -/
def positional (d : Decimal) (fraction : List Char) : List Char :=
  let digits := naturalDigits d.digits
  if 0 ≤ d.exponent then digits ++ List.replicate d.exponent.toNat '0' ++ fraction
  else
    let places := (-d.exponent).toNat
    if places < digits.length then
      digits.take (digits.length - places) ++ '.' :: digits.drop (digits.length - places)
    else '0' :: '.' :: (List.replicate (places - digits.length) '0' ++ digits)

/-- The number with one digit before the point and a signed exponent. -/
def scientific (d : Decimal) : List Char :=
  let exponent := d.scientificExponent
  let power := (if exponent < 0 then '-' else '+') :: naturalDigits exponent.natAbs
  match naturalDigits d.digits with
  | [] => []
  | [lead] => lead :: 'e' :: power
  | lead :: rest => lead :: '.' :: (rest ++ 'e' :: power)

end Decimal

end ClientStyle.Number
