/-
Reading values of known types from YAML nodes.

What a scalar means depends on the type that is wanted: as a text every scalar is what is written,
whatever it looks like and whatever tag it carries. A blank node is also the empty list or map, or a
record without members. Aliases are followed, but only so many times that a small document cannot
stand for a huge value.
-/
import ClientStyle.Codec.Slots
import ClientStyle.Yaml.Node
set_option autoImplicit false

namespace ClientStyle.Yaml

/-- A reading of a document with a certain root, which may follow so many aliases yet. -/
abbrev Reading (α : Type) := ReaderT Node (StateT Nat Option) α

/-- A reader of nodes as values of a type. -/
abbrev NodeReader (α : Type) := Node → Reading α

namespace Reading

variable {α : Type}

/-- How many aliases may be followed for each unit of a document's weight. -/
def aliasesPerWeight : Nat := 100

/-- Reads the only document in a text. -/
def ofText? (read : Node → Reading α) (text : String) : Option α := do
  let root ← Node.ofText? text
  let (value, _) ← ((read root).run root).run (aliasesPerWeight * root.totalWeight)
  some value

/-- The node itself, or the one that an alias stands for. -/
def follow : Node → Reading Node
  | .alias anchor => do
    let left ← getThe Nat
    if left = 0 then failure
    set (left - 1)
    match (← read).anchored? anchor with
    | some target => return target
    | none => failure
  | other => return other

/-! ## Scalars -/

/-- The words that stand for nothing. -/
def isNullWord (text : String) : Bool := ["~", "null", "Null", "NULL"].contains text

/-- The plain scalars that stand for nothing. -/
def isNull (text : String) : Bool := text = "" || isNullWord text

/-- The text of a scalar. -/
def text : NodeReader String := fun n => do
  match ← follow n with
  | .scalar _ text _ => return text
  | _ => failure

/-- A value, or nothing where a plain scalar says so. A scalar with the tag of nothing has to say it
in a word, and one with any other tag is a value. -/
def optional (read : NodeReader α) : NodeReader (Option α) := fun n => do
  match ← follow n with
  | .scalar ⟨anchor, none⟩ text true =>
    if isNull text then return none
    else return some (← read (.scalar ⟨anchor, none⟩ text true))
  | .scalar ⟨anchor, some tag⟩ text true =>
    if tag ≠ Tag.null then return some (← read (.scalar ⟨anchor, some tag⟩ text true))
    else if isNullWord text then return none
    else failure
  | other => return some (← read other)

/-- The value that a text stands for, if it stands for one. -/
def found : Option α → Reading α
  | some value => return value
  | none => failure

/-- A scalar whose text stands for a value. -/
def scalar (ofText? : String → Option α) : NodeReader α := fun n => do
  found (ofText? (← text n))

/-- The name of an alternative: a tag of one's own in front of nothing, or a scalar. -/
def variant (ofName? : String → Option α) : NodeReader α := fun n => do
  match ← follow n with
  | .scalar ⟨_, tag⟩ text plain =>
    match tag.bind Tag.alternative? with
    | some name => if plain && isNull text then found (ofName? name) else failure
    | none => found (ofName? text)
  | _ => failure

/-! ## Lists and maps -/

/-- A list. -/
def list (read : NodeReader α) : NodeReader (List α) := fun n => do
  match ← follow n with
  | .list _ items => items.mapM read
  | .scalar _ "" true => return []
  | _ => failure

/-- A map; of equal keys the last one wins. -/
def map (read : NodeReader α) : NodeReader (NameMap α) := fun n => do
  match ← follow n with
  | .map _ entries =>
    return .ofEntries (← entries.mapM fun e => do return (← text e.1, ← read e.2))
  | .scalar _ "" true => return []
  | _ => failure

/-! ## Records -/

/-- The nodes of a record's members by their names. A member may be given only once, and keys that are
no names are ignored together with their values. A list is refused: unlike the members of JSON
records, those of YAML records have names only. -/
def members (names : List String) : NodeReader (NameMap Node) := fun n => do
  match ← follow n with
  | .map _ entries =>
    let named ← entries.mapM fun e => do return (← text e.1, e.2)
    let known := named.filter fun e => names.contains e.1
    if (known.map (·.1)).eraseDups.length < known.length then failure
    return .ofEntries known
  | .scalar _ "" true => return []
  | _ => failure

/-- The record that nodes with names make up. -/
def gather (given : NameMap Node) {α : Type} : Slots NodeReader α → Reading α
  | .made a => return a
  | .more before slot => do
    let make ← gather given before
    match given.find? slot.name, slot.absent with
    | some n, _ => return make (← slot.read n)
    | none, some a => return make a
    | none, none => failure

/-- A record with the members that its type declares. -/
def record (slots : Slots NodeReader α) : NodeReader α := fun n => do
  gather (← members slots.names n) slots

end Reading

end ClientStyle.Yaml
