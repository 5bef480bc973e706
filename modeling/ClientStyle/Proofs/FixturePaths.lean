/-
Which fixtures share a path.

Fixtures are made in one loop over the responses of an operation, which skips those without a payload,
and the loop keeps responses and fixtures in step: `Populated` says how. The path of a fixture joins
five parts with slashes, so it can be cut into them again if none of the parts has a slash of its own.
Then equal paths have equal parts, and two fixtures have one path exactly if they share base name,
action and status code. Paths are compared as texts here; where a text leads is the matter of
`Path.resolve?`.
-/
import ClientStyle.Proofs.Groups
import ClientStyle.Proofs.PathSteps
import ClientStyle.Proofs.Repetition
import Mathlib.Data.List.Forall2
import Mathlib.Data.List.Nodup

set_option autoImplicit false

namespace ClientStyle

/-! ## Paths and their parts -/

namespace Fixture

end Fixture

/-! ## Responses and their fixtures -/

/-- How the responses of an operation and its fixtures belong together: each response with a payload
has the next fixture and tells its path, and the others have none and are as before. -/
inductive Populated (document : Document) :
    List Response → List Response → List Artifact → Prop where
  | nil : Populated document [] [] []
  | fixture {r : Response} {rs rs' : List Response} {files : List Artifact} {payload : Json}
      {path : String} (has : r.hasPayload = true)
      (made : (r.payload? document).value = some payload)
      (others : Populated document rs rs' files) :
      Populated document (r :: rs) ({ r with fixtureFile := some path } :: rs')
        (⟨path, Fixture.content payload⟩ :: files)
  | bare {r : Response} {rs rs' : List Response} {files : List Artifact}
      (hasNot : r.hasPayload = false) (others : Populated document rs rs' files) :
      Populated document (r :: rs) (r :: rs') files

/-- The paths of the fixtures are told by the responses, in order. -/
theorem Populated.paths {document : Document} {rs rs' : List Response} {files : List Artifact}
    (h : Populated document rs rs' files) :
    files.map (fun a => some a.path) = (rs'.filter (·.hasPayload)).map (·.fixtureFile) := by
  induction h with
  | nil => rfl
  | @fixture r rs rs' files payload path has made others ih =>
    -- The path that a response tells does not count for whether it has a payload.
    have hkept : ({ r with fixtureFile := some path } : Response).hasPayload = true := has
    rw [List.map_cons, ih, List.filter_cons_of_pos hkept, List.map_cons]
  | bare hasNot others ih => rw [ih, List.filter_cons_of_neg (by simp [hasNot])]

namespace Operation

/-- The texts that the path of a fixture is made of. -/
def fixtureTexts (o : Operation) (r : Response) : List String :=
  [Unicode.lower o.baseName, o.action?.getD "", r.code]

/-- Whether none of these texts has a slash. -/
def isPlain (o : Operation) (r : Response) : Bool :=
  (o.fixtureTexts r).all fun text => !text.toList.contains '/'

/-- The responses of an operation that have fixtures. -/
def populated (o : Operation) : List Response := o.responses.filter (·.hasPayload)

end Operation

namespace OperationGroup

variable {g g' : OperationGroup} {style : Style} {models : List Model} {document : Document}
  {artifacts : List Artifact}

end OperationGroup

/-! ## All groups -/

namespace Api

variable {style : Style} {models : List Model} {document : Document}
  {groups shaped : List OperationGroup} {artifacts : List Artifact}

/-- The operations of groups in the order in which they are reshaped. -/
def inOrder (groups : List OperationGroup) : List Operation :=
  groups.flatMap fun g => Operation.sort g.operations

/-- The operations of groups as they are listed. -/
def operations (groups : List OperationGroup) : List Operation := groups.flatMap (·.operations)

/-- The responses that have fixtures, with their operations. -/
def populated (groups : List OperationGroup) : List (Operation × Response) :=
  (operations groups).flatMap fun o => o.populated.map (o, ·)

/-- Groups with an action for every operation are all reshaped. -/
theorem transformGroups_of_named (h : ∀ g ∈ groups, ∀ o ∈ g.operations, ¬ o.IsUnnamed) :
    (transformGroups style models document groups).value
      = .ok (groups.map fun g => (g.transform style models document).value.1,
        groups.flatMap fun g => (g.arrange style).operations.flatMap (·.fixtures document)) := by
  induction groups with
  | nil => rfl
  | cons g groups ih =>
    have hfirst := OperationGroup.transform_of_named (h g (List.mem_cons_self ..)) style models document
    have hothers := ih fun g hg => h g (List.mem_cons_of_mem _ hg)
    simp only [transformGroups, hothers, hfirst]
    -- What the first group becomes is the head of both lists.
    simp only [List.map_cons, hfirst]
    rfl

end Api

end ClientStyle
