/-
Decoding records from JSON values.

A decoder returns a record or the reason why the value is not one. A record is given by an object or
by a list. The members of an object are decoded in the order of their names and the items of a list in
that of the declaration, and the first that fails decides the reason; only when all that is present
has been decoded, an absent member is reported.
-/
import ClientStyle.Codec.Slots
import ClientStyle.Json.Basic
import ClientStyle.Text.Quoted
set_option autoImplicit false

namespace ClientStyle

/-- Why a JSON value is not the record that was expected. -/
inductive DecodeError where
  /-- A value of another type. -/
  | mismatch (found : Json) (expected : String)
  /-- An object with no member or several where the only member is to name an alternative. -/
  | notOneMember
  /-- A member that has to be there. -/
  | missing (name : String)
  /-- A list with too few items for the members of a record, or with too many. -/
  | wrongLength (length : Nat) (expected : String)
  /-- A text that names none of the alternatives; their names come with it. -/
  | unknownVariant (name : String) (alternatives : List String)
  /-- A value of the right type that its own rules refuse, with their report. -/
  | rejected (report : String)
  deriving Repr

namespace DecodeError

/-- A value as a report mentions it: containers by their type only. -/
def mention : Json → String
  | .null => "null"
  | .bool true => "boolean `true`"
  | .bool false => "boolean `false`"
  | .number (.integer i) => "integer `" ++ String.ofList (Json.Number.integerText i) ++ "`"
  | .number n => "floating point `" ++ String.ofList n.text ++ "`"
  | .string s => "string " ++ Text.inQuotes s
  | .array _ => "sequence"
  | .object _ => "map"

/-- The names of alternatives in a sentence. -/
def enumerate : List String → String
  | [] => ""
  | [a] => "`" ++ a ++ "`"
  | [a, b] => "`" ++ a ++ "` or `" ++ b ++ "`"
  | a :: rest => "`" ++ a ++ "`, " ++ enumerate rest

/-- The report of an error. -/
def message : DecodeError → String
  | .mismatch found expected => "invalid type: " ++ mention found ++ ", expected " ++ expected
  | .notOneMember => "invalid value: map, expected map with a single key"
  | .missing name => "missing field `" ++ name ++ "`"
  | .wrongLength length expected =>
    "invalid length " ++ toString length ++ ", expected " ++ expected
  | .unknownVariant name alternatives =>
    "unknown variant `" ++ name ++ "`, expected " ++ enumerate alternatives
  | .rejected report => report

end DecodeError

/-- A decoder of records of a type. -/
abbrev Decoder (α : Type) := Json → Except DecodeError α

namespace Decode

/-! ## Values -/

/-- A text. -/
def text : Decoder String
  | .string s => .ok s
  | other => .error (.mismatch other "a string")

/-- A path, which is a text. -/
def path : Decoder String
  | .string s => .ok s
  | other => .error (.mismatch other "path string")

/-- A truth value. -/
def flag : Decoder Bool
  | .bool b => .ok b
  | other => .error (.mismatch other "a boolean")

/-- A value of any type. -/
def anyValue : Decoder Json := .ok

/-- A value that may be null. -/
def nullable {α : Type} (decode : Decoder α) : Decoder (Option α)
  | .null => .ok none
  | other => (decode other).map some

/-- A list. -/
def list {α : Type} (decode : Decoder α) : Decoder (List α)
  | .array items => items.mapM decode
  | other => .error (.mismatch other "a sequence")

/-- Decodes the values of an object and keeps their names. -/
def mapMembers {α : Type} (decode : Decoder α) : Decoder (List (String × α))
  | .object members => members.mapM fun m => (decode m.2).map (m.1, ·)
  | other => .error (.mismatch other "a map")

/-! ## Records -/

/-- Why the values that were given for members do not make up a record. -/
inductive Failure where
  /-- The value at a position was refused. -/
  | refused (position : Nat) (cause : DecodeError)
  /-- The member at a place of the declaration is absent and has to be there. -/
  | absent (place : Nat) (name : String)
  deriving Repr

/-- Of two failures the one that is reported: values are decoded as they come, and only when none was
refused, members are found to be absent. The first argument is the one that was declared earlier. -/
def Failure.earlier : Failure → Failure → Failure
  | .refused position cause, .refused position' cause' =>
    if position' < position then .refused position' cause' else .refused position cause
  | .absent _ _, .refused position cause => .refused position cause
  | failure, _ => failure

/-- Applies what was made so far to one more value, unless either of them failed. -/
def apply {α β : Type} : Except Failure (α → β) → Except Failure α → Except Failure β
  | .ok f, .ok a => .ok (f a)
  | .ok _, .error failure => .error failure
  | .error failure, .ok _ => .error failure
  | .error failure, .error failure' => .error (failure.earlier failure')

/-- The value of a member, among values that come with names; the place is that of the member in the
declaration. -/
def take {α : Type} (given : Json.Members) (place : Nat) (slot : Slot Decoder α) :
    Except Failure α :=
  match given.find? slot.name, slot.absent with
  | some value, _ => (slot.read value).mapError (.refused (given.findIdx (·.1 = slot.name)))
  | none, some a => .ok a
  | none, none => .error (.absent place slot.name)

/-- The record that values with names make up. -/
def gather {α : Type} (given : Json.Members) : Slots Decoder α → Except Failure α
  | .made a => .ok a
  | .more before slot => apply (gather given before) (take given before.names.length slot)

/-- A number of elements in words. -/
def elements (count : Nat) : String :=
  toString count ++ (if count = 1 then " element" else " elements")

/-- A record of a type, given by an object with a member for each name, or by a list with an item for
each place. Members that the type does not declare are ignored, and a list must not have any. The name
of the type is only used in reports. -/
def record {α : Type} (type : String) (slots : Slots Decoder α) : Decoder α
  | .object members => (gather members slots).mapError fun
    | .refused _ cause => cause
    | .absent _ name => .missing name
  | .array items =>
    match gather (slots.names.zip items) slots with
    | .ok a =>
      if slots.names.length < items.length then
        .error (.wrongLength items.length "fewer elements in array")
      else .ok a
    | .error (.refused _ cause) => .error cause
    | .error (.absent place _) =>
      .error (.wrongLength place ("struct " ++ type ++ " with " ++ elements slots.names.length))
  | other => .error (.mismatch other ("struct " ++ type))

end Decode

/-- One more member, which may be absent or null. -/
def Slots.optional {α β : Type} (before : Slots Decoder (Option α → β)) (name : String)
    (decode : Decoder α) : Slots Decoder β :=
  before.orElse name (Decode.nullable decode) none

namespace Decode

/-! ## Alternatives -/

/-- Decodes the name of an alternative: the name itself, or an object whose only member has the name
and the value null. -/
def variant {α : Type} (alternatives : List String) (ofName? : String → Option α) : Decoder α
  | .string name => find name
  | .object [(name, value)] => do
    let found ← find name
    match value with
    | .null => .ok found
    | other => .error (.mismatch other "unit")
  | .object _ => .error .notOneMember
  | other => .error (.mismatch other "string or map")
where
  find (name : String) : Except DecodeError α :=
    match ofName? name with
    | some found => .ok found
    | none => .error (.unknownVariant name alternatives)

end Decode

/-! ## Encoding -/

namespace Encode

/-- A member that is left out in the absence of a value. -/
def optional {α : Type} (name : String) (encode : α → Json) : Option α → Json.Members
  | some value => [(name, encode value)]
  | none => []

/-- A member that is left out when it is false. -/
def flagIfTrue (name : String) (value : Bool) : Json.Members :=
  if value then [(name, .bool true)] else []

/-- A value that is null in its absence. -/
def nullable {α : Type} (encode : α → Json) : Option α → Json
  | some value => encode value
  | none => .null

/-- A list. -/
def list {α : Type} (encode : α → Json) (items : List α) : Json := .array (items.map encode)

end Encode

end ClientStyle
