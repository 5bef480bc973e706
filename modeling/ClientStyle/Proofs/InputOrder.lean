/-
Reshaping a group does not depend on the order in which its operations come.

Operations are sorted before anything else reads them as a list, so two groups with the same
operations are reshaped alike, warnings included, unless operations are tied. Tied operations keep
the order of the group, and the name that an operation is called by in the end orders it as the name
did that it came with.
-/
import ClientStyle.Proofs.Repetition

set_option autoImplicit false

namespace ClientStyle.OperationGroup

variable {g g' : OperationGroup} {style : Style} {models : List Model} {document : Document}
  {artifacts : List Artifact}

/-! ## Groups with the same operations -/

/-- Arranging forgets the order of a group without ties. -/
theorem arrange_eq_of_perm {os : List Operation} (hperm : os.Perm g.operations)
    (hties : g.operations.Pairwise fun a b => ¬ a.Tied b) (style : Style) :
    { g with operations := os }.arrange style = g.arrange style := by
  have hsort : Operation.sort os = Operation.sort g.operations :=
    Operation.sort_eq_of_perm hperm hties
  have hall : os.all (·.extensions.hidden) = g.operations.all (·.extensions.hidden) := hperm.all_eq
  rw [arrange_eq, arrange_eq]
  simp only [hsort, hall]

/-- A group is reshaped as it is arranged. -/
theorem transform_congr (h : g.arrange style = g'.arrange style) (models : List Model)
    (document : Document) : g.transform style models document = g'.transform style models document := by
  simp only [transform, h]

/-! ## Tied operations -/

/-- What becomes of an operation of a group: if every operation of the group has an action it is
reshaped, and described otherwise. -/
def outcome (g : OperationGroup) (style : Style) (models : List Model) (o : Operation) : Operation :=
  if g.operations.any (·.action?.isNone) then o.describe style
  else (o.describe style).settled style models

/-- What becomes of an operation has its place in the order. -/
theorem tied_outcome_iff (a o : Operation) :
    a.Tied (g.outcome style models o) ↔ a.Tied o := by
  unfold outcome Operation.Tied
  split
  · rfl
  · rw [Operation.sortKey_settled, Operation.sortKey_describe]
    rfl

/-- The operations of a group in any outcome, next to the ones that they were made of. -/
theorem operations_transform (g : OperationGroup) (style : Style) (models : List Model)
    (document : Document) :
    (g.transform style models document).value.1.operations
      = (Operation.sort g.operations).map (g.outcome style models) := by
  rcases g.named_or_first_unnamed with hall | ⟨before, o, after, hsort, hbefore, ho⟩
  · have hnone : g.operations.any (·.action?.isNone) = false := by
      rw [List.any_eq_false]
      exact fun o ho => fun h => hall o ho (Operation.isNone_action?_iff.1 h)
    have h := transform_of_named hall style models document
    rw [h]
    refine (operations_of_transform h).trans (List.map_congr_left fun o _ => ?_)
    rw [outcome, hnone]
    rfl
  · -- The group was refused: its operations are described, and nothing else has been done to them.
    have hmem : o ∈ g.operations := by
      rw [← Operation.mem_sort, hsort]
      exact List.mem_append_right _ (List.mem_cons_self ..)
    have hsome : g.operations.any (·.action?.isNone) = true :=
      List.any_eq_true.2 ⟨o, hmem, Operation.isNone_action?_iff.2 ho⟩
    rw [transform_of_unnamed hsort hbefore ho, arrange_eq]
    refine List.map_congr_left fun o _ => ?_
    rw [outcome, if_pos hsome]

/-- Tied operations keep the order in which the group has them. -/
theorem filter_tied_transform (g : OperationGroup) (style : Style) (models : List Model)
    (document : Document) (a : Operation) :
    (g.transform style models document).value.1.operations.filter (a.Tied ·)
      = (g.operations.filter (a.Tied ·)).map (g.outcome style models) := by
  rw [operations_transform, List.filter_map, ← Operation.filter_tied_sort]
  simp only [Function.comp_def, tied_outcome_iff]

/-! ## Groups that were reshaped -/

/-- A reshaped group is in order. -/
theorem pairwise_of_transform
    (h : (g.transform style models document).value = (g', .ok artifacts)) :
    g'.operations.Pairwise fun a b => a.compare b ≠ .gt := by
  rw [← sort_operations_of_transform h]
  exact (Operation.pairwise_sort g'.operations).imp fun hab => by simpa using hab

/-- The operations of a reshaped group are called by their actions. -/
theorem action?_of_transform
    (h : (g.transform style models document).value = (g', .ok artifacts)) :
    ∀ o ∈ g'.operations, o.action? = some o.id := by
  intro o ho
  have hid : o.sortKey = o.id := congrArg Operation.id (settled_of_transform h o ho)
  rw [Operation.action?_eq_sortKey (named_of_transform h o ho), hid]

/-- **The order of operations decides everything that depends on an order.** The comparison is a
total preorder, and its ties are the operations that are ordered by the same name and have the same
path. Groups with the same operations and without ties have the same outcome, be it fixtures and a
reshaped group, or an error and an arranged group. Where operations are tied, they keep the order of
the group in any outcome. A reshaped group, whose operations are called by their actions, is still
in order. -/
theorem transform_in_order :
    ((∀ a b : Operation, b.compare a = (a.compare b).swap) ∧
      (∀ a b : Operation, a.compare b ≠ .gt ∨ b.compare a ≠ .gt) ∧
      ∀ a b c : Operation, a.compare b ≠ .gt → b.compare c ≠ .gt → a.compare c ≠ .gt) ∧
    (∀ a b : Operation, a.compare b = .eq ↔ a.sortKey = b.sortKey ∧ a.path = b.path) ∧
    ∀ (g : OperationGroup) (style : Style) (models : List Model) (document : Document),
      (∀ os : List Operation, os.Perm g.operations →
        (g.operations.Pairwise fun a b => ¬ a.Tied b) →
        { g with operations := os }.transform style models document
          = g.transform style models document) ∧
      (∀ a : Operation, (g.transform style models document).value.1.operations.filter (a.Tied ·)
        = (g.operations.filter (a.Tied ·)).map (g.outcome style models)) ∧
      ∀ g' artifacts, (g.transform style models document).value = (g', .ok artifacts) →
        (g'.operations.Pairwise fun a b => a.compare b ≠ .gt) ∧
        ∀ o ∈ g'.operations, o.action? = some o.id := by
  refine ⟨⟨fun _ _ => Std.OrientedCmp.eq_swap, ?_, ?_⟩, fun _ _ => Operation.compare_eq_eq_iff, ?_⟩
  · intro a b
    simpa using Operation.compare_ne_gt_total a b
  · intro a b c
    simpa using Operation.compare_ne_gt_trans a b c
  · intro g style models document
    refine ⟨?_, g.filter_tied_transform style models document, ?_⟩
    · -- Only here ties matter: with a tie, the order of the input shows.
      intro os hperm hties
      exact transform_congr (arrange_eq_of_perm hperm hties style) models document
    · intro g' artifacts h
      exact ⟨pairwise_of_transform h, action?_of_transform h⟩

/-- The group of videos the other way round has the same outcome, and its operations come out in
order. -/
theorem transform_in_order_videos :
    (videos.operations.Pairwise fun a b => ¬ a.Tied b) ∧
    { videos with operations := videos.operations.reverse }.transform ⟨.java, videoTexts, ""⟩ [] .null
      = videos.transform ⟨.java, videoTexts, ""⟩ [] .null ∧
    (videos.transform ⟨.java, videoTexts, ""⟩ [] .null).value.1.operations.Pairwise
      fun a b => a.compare b ≠ .gt := by
  have hties : videos.operations.Pairwise fun a b => ¬ a.Tied b := by decide
  obtain ⟨-, -, horder⟩ := transform_in_order
  obtain ⟨hperm, -, hsorted⟩ := horder videos ⟨.java, videoTexts, ""⟩ [] .null
  refine ⟨hties, hperm _ (List.reverse_perm _) hties, ?_⟩
  have h := transform_of_named videos_named ⟨.java, videoTexts, ""⟩ [] .null
  rw [h]
  exact (hsorted _ _ h).1

end ClientStyle.OperationGroup
