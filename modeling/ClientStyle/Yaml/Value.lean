/-
YAML documents as JSON values.

A plain scalar is null, a truth value or a number if it looks like one, and a text otherwise; any
other scalar is a text. A tag tells what a scalar has to be, whatever it looks like. Infinite numbers
and those that are not a number become null, and nothing in JSON is like a node with a tag of one's
own.
-/
import ClientStyle.Json.Basic
import ClientStyle.Json.Reader
import ClientStyle.Yaml.Reading
set_option autoImplicit false

namespace ClientStyle.Yaml

open ClientStyle.Number

/-! ## Numbers -/

/-- A sign and what follows it. -/
structure Signed where
  sign : Option Char
  rest : List Char

/-- Cuts off a sign. -/
def Signed.ofChars : List Char → Signed
  | '+' :: rest => ⟨some '+', rest⟩
  | '-' :: rest => ⟨some '-', rest⟩
  | rest => ⟨none, rest⟩

/-- Whether the value is below zero. -/
def Signed.negative (s : Signed) : Bool := s.sign = some '-'

/-- The natural number of some digits in a base up to sixteen; there has to be a digit. -/
def natural? (base : Nat) (digits : List Char) : Option Nat :=
  if digits.isEmpty then none
  else digits.foldlM (fun value c =>
    (Json.hexValue? c).bind fun d => if d < base then some (value * base + d) else none) 0

/-- Whether a text is made of digits with a zero too many in front. -/
def isPadded (digits : List Char) : Bool :=
  match digits with
  | '0' :: _ :: _ => digits.all Char.isDigit
  | _ => false

/-- The absolute value of an integer, in decimal digits or with the mark of a base in front. -/
def integerMagnitude? (digits : List Char) : Option Nat :=
  let marked := match digits with
    | '0' :: 'x' :: rest => natural? 16 rest
    | '0' :: 'o' :: rest => natural? 8 rest
    | '0' :: 'b' :: rest => natural? 2 rest
    | _ => none
  marked.or (if isPadded digits then none else natural? 10 digits)

/-- The integer that a scalar looks like. -/
def integer? (s : Signed) : Option Int :=
  (integerMagnitude? s.rest).map fun n => if s.negative then -(n : Int) else n

/-- The exponent at the end of a number: nothing, or its mark, possibly a sign, and digits. -/
def exponent? : List Char → Option Int
  | [] => some 0
  | mark :: rest =>
    if mark = 'e' ∨ mark = 'E' then
      let s := Signed.ofChars rest
      (if s.rest.all Char.isDigit then natural? 10 s.rest else none).map fun n =>
        if s.negative then -(n : Int) else n
    else none

/-- The floating-point number that a scalar looks like, unless it is beyond the largest one. Digits
may be missing before or after the point, but not both. -/
def real? (s : Signed) : Option Binary64 := do
  let (whole, rest) := Json.digits s.rest
  let (fraction, rest) := match rest with
    | '.' :: rest => Json.digits rest
    | _ => ([], rest)
  if whole.isEmpty && fraction.isEmpty then none
  let exponent ← exponent? rest
  -- The point only moves the exponent.
  let value := Json.naturalOf (whole ++ fraction)
  let magnitude ← Magnitude.ofDecimal? value (exponent - fraction.length)
  some ⟨s.negative, magnitude⟩

/-- Whether a scalar stands for an infinite number or for one that is not a number. -/
def isBeyondNumbers (text : String) : Bool :=
  [".inf", ".Inf", ".INF", "+.inf", "+.Inf", "+.INF", "-.inf", "-.Inf", "-.INF",
    ".nan", ".NaN", ".NAN"].contains text

/-! ## Values -/

/-- The truth value that a scalar looks like. -/
def truth? (text : String) : Option Bool :=
  if ["true", "True", "TRUE"].contains text then some true
  else if ["false", "False", "FALSE"].contains text then some false
  else none

/-- The least integer that scalars are taken for; lower ones are taken for floating-point numbers. -/
def minInteger : Int := -170141183460469231731687303715884105728

/-- The largest integer that scalars are taken for; higher ones are taken for floating-point
numbers. -/
def maxInteger : Int := 340282366920938463463374607431768211455

/-- The number that an integer is, unless it is beyond the integers of JSON. -/
def ofInteger? (i : Int) : Option Json :=
  if -(Json.Number.maxNegated : Int) ≤ i ∧ i ≤ Json.Number.maxInteger then
    some (.number (.integer i))
  else none

/-- The value of a plain scalar. An integer beyond the numbers of JSON has none. -/
def plainValue? (text : String) : Option Json :=
  let s := Signed.ofChars text.toList
  if Reading.isNull text || isBeyondNumbers text then some .null
  else
    match truth? text with
    | some b => some (.bool b)
    | none =>
      match integer? s with
      | some i =>
        -- Beyond these bounds the digits are read once more, as a floating-point number.
        if minInteger ≤ i ∧ i ≤ maxInteger then ofInteger? i else some (beyondIntegers s text)
      | none => some (beyondIntegers s text)
where
  beyondIntegers (s : Signed) (text : String) : Json :=
    match if isPadded s.rest then none else real? s with
    | some x => .number (.real x)
    | none => .string text

/-- The value of a scalar with a tag, which has to be of the type that the tag names. Tags of other
types leave the text as it is. -/
def taggedValue? (tag : Tag) (text : String) : Option Json :=
  let s := Signed.ofChars text.toList
  if tag = Tag.truth then (truth? text).map .bool
  else if tag = Tag.integer then (integer? s).bind ofInteger?
  else if tag = Tag.real then
    if isBeyondNumbers text then some .null else (real? s).map fun x => .number (.real x)
  else if tag = Tag.null then
    if Reading.isNullWord text then some .null else none
  else some (.string text)

/-- The value of a scalar. -/
def scalarValue? (tag : Option Tag) (text : String) (plain : Bool) : Option Json :=
  match tag with
  | some tag =>
    -- A tag of one's own that spells no name counts for nothing.
    if plain && Tag.bare.isPrefixOf tag then plainValue? text else taggedValue? tag text
  | none => if plain then plainValue? text else some (.string text)

/-- How deeply lists and maps may be nested. -/
def maxNesting : Nat := 128

/-- The value of a node, in which lists and maps are nested to a certain depth at most. -/
def valueWithin (depth : Nat) (n : Node) : Reading Json := do
  let n ← Reading.follow n
  if (n.tag?.bind Tag.alternative?).isSome then failure
  match n, depth with
  | .scalar ps text plain, _ => Reading.found (scalarValue? ps.tag text plain)
  | .list _ items, depth + 1 => return .array (← items.mapM (valueWithin depth))
  | .map _ entries, depth + 1 =>
    return .ofMembers (← entries.mapM fun e => do
      return (← Reading.text e.1, ← valueWithin depth e.2))
  | _, _ => failure

/-- The value of the only document in a text. -/
def value? (text : String) : Option Json := Reading.ofText? (valueWithin maxNesting) text

end ClientStyle.Yaml
