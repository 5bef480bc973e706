/-
The order of operations inside a class.

Operations are ranked by the verb that their action begins with, in the order in which client
classes list them; within a rank they are ordered by action, and then by path. Texts are compared by
code point.
-/
import ClientStyle.Api.Operation
set_option autoImplicit false

namespace ClientStyle.Operation

/-- The verbs in the order that client classes list them. -/
def verbs : List (List Char) :=
  ["create".toList, "upload".toList, "get".toList, "update".toList, "delete".toList, "list".toList]

/-- Whether a name begins with a verb: the verb is the whole name, or no lower-case letter follows
it. -/
def beginsWithVerb (name verb : List Char) : Bool :=
  match Text.afterStart? verb name with
  | none => false
  | some [] => true
  | some (c :: _) => !Unicode.isLowercase c

/-- The rank of a name: the place of its verb, behind all verbs for a name without one. -/
def verbRank (name : String) : Nat := verbs.findIdx (beginsWithVerb name.toList)

/-- The name that an operation is ordered by: its action, or its id if it has none. -/
def sortKey (o : Operation) : String := o.action?.getD o.id

/-- Compares two texts by their code points. -/
def compareText (a b : String) : Ordering := compare a.toList b.toList

/-- The order of operations. -/
def compare (a b : Operation) : Ordering :=
  (Ord.compare (verbRank a.sortKey) (verbRank b.sortKey)).then
    ((compareText a.sortKey b.sortKey).then (compareText a.path b.path))

/-- Sorts operations; those that compare equal keep their order. -/
def sort (os : List Operation) : List Operation := os.mergeSort fun a b => compare a b != .gt

end ClientStyle.Operation
