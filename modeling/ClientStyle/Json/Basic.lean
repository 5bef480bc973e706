/-
JSON values.

An object is the map of its members, so its members are sorted by name with every name once.
-/
import ClientStyle.Json.Number
import ClientStyle.NameMap
set_option autoImplicit false

namespace ClientStyle

/-- A JSON value. -/
inductive Json where
  | null
  | bool (value : Bool)
  | number (value : Json.Number)
  | string (value : String)
  | array (items : List Json)
  | object (members : List (String × Json))
  deriving Repr, Inhabited

namespace Json

/-- The members of an object. -/
abbrev Members := NameMap Json

/-- The object with these members, in whatever order they are given; of equal names the last one
wins. -/
def ofMembers (members : Members) : Json := .object (NameMap.ofEntries members)

/-! ## Parts of a value -/

/-- The members of an object. -/
def asObject? : Json → Option Members
  | .object members => some members
  | _ => none

/-- The items of an array. -/
def asArray? : Json → Option (List Json)
  | .array items => some items
  | _ => none

/-- The text of a string. -/
def asString? : Json → Option String
  | .string value => some value
  | _ => none

/-- The value of a member; a value that is no object has none. -/
def get? (value : Json) (name : String) : Option Json :=
  match value with
  | .object members => NameMap.find? members name
  | _ => none

/-- The integer with this value. -/
def ofNat (n : Nat) : Json := .number (.integer n)

/-- A text, or null in its absence. -/
def ofText? : Option String → Json
  | some text => .string text
  | none => .null

/-! ## Nesting -/

mutual

/-- How many containers are nested in a value, itself included. -/
def nesting : Json → Nat
  | .array items => nestingOfItems items + 1
  | .object members => nestingOfMembers members + 1
  | _ => 0

/-- The deepest nesting among the items of an array. -/
def nestingOfItems : List Json → Nat
  | [] => 0
  | item :: rest => max (nesting item) (nestingOfItems rest)

/-- The deepest nesting among the members of an object. -/
def nestingOfMembers : List (String × Json) → Nat
  | [] => 0
  | (_, value) :: rest => max (nesting value) (nestingOfMembers rest)

end

end Json

end ClientStyle
