/-
The members of records, as types of records declare them.

A record is given by an object, in which its members have names, or by a list, in which they have
places. Readers of either form need to know the same of a type of records: the names of the members in
the order in which they are declared, how the value of each is read, and which of them may be absent.
So a type declares its members once, and whatever reads records goes by the declaration.
-/
set_option autoImplicit false

namespace ClientStyle

/-- A member that a type of records declares. `Read` is the type of what reads values of a type. -/
structure Slot (Read : Type → Type) (α : Type) where
  name : String
  read : Read α
  /-- The value of the member in its absence, unless it has to be there. -/
  absent : Option α

/-- The declared members of a record, the last one outermost, and what they make up. -/
inductive Slots (Read : Type → Type) : Type → Type 1 where
  /-- Without members there is nothing left to read. -/
  | made {α : Type} (a : α) : Slots Read α
  /-- One more member, which what the members before it make up is applied to. -/
  | more {α β : Type} (before : Slots Read (α → β)) (slot : Slot Read α) : Slots Read β

namespace Slots

variable {Read : Type → Type} {α β : Type}

/-- The names of the members in their order. -/
def names {α : Type} : Slots Read α → List String
  | .made _ => []
  | .more before slot => before.names ++ [slot.name]

/-- One more member, which has to be there. -/
def required (before : Slots Read (α → β)) (name : String) (read : Read α) : Slots Read β :=
  .more before ⟨name, read, none⟩

/-- One more member, which has a value in its absence. -/
def orElse (before : Slots Read (α → β)) (name : String) (read : Read α) (absent : α) :
    Slots Read β :=
  .more before ⟨name, read, some absent⟩

end Slots

end ClientStyle
