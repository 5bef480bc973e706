/-
Groups that cannot be reshaped.

A group is refused for one reason only, and before any of its operations is touched: what is left of
it is the arranged group, however many of its operations could have been reshaped.
-/
import ClientStyle.Proofs.Texts

set_option autoImplicit false

namespace ClientStyle.OperationGroup

/-- The operations of an arranged group are those of the group in order, but for their texts. -/
theorem withoutTexts_arrange (g : OperationGroup) (style : Style) :
    (g.arrange style).operations.map (·.withoutTexts)
      = (Operation.sort g.operations).map (·.withoutTexts) := by
  rw [arrange_eq, List.map_map]
  exact List.map_congr_left fun o _ => o.withoutTexts_describe style

/-- **A group is refused exactly if the action of an operation is absent or blank.** The first such
operation in the order of the group is reported, by the id that it came with. The group that is left
has its operations sorted and described and its mark for being hidden set anew; of no operation
anything but texts has changed, whether or not it has an action. -/
theorem transform_refused_iff (g : OperationGroup) (style : Style) (models : List Model)
    (document : Document) :
    ((∃ e, (g.transform style models document).value.2 = .error e) ↔
      ∃ o ∈ g.operations, o.IsUnnamed) ∧
    ∀ e, (g.transform style models document).value.2 = .error e →
      (∃ before o after, Operation.sort g.operations = before ++ o :: after ∧
        (∀ b ∈ before, ¬ b.IsUnnamed) ∧ o.IsUnnamed ∧ e = ⟨o.id⟩) ∧
      (g.transform style models document).value.1 = { g with
        operations := (Operation.sort g.operations).map (·.describe style)
        allHidden := g.operations.all (·.extensions.hidden) } ∧
      (g.transform style models document).value.1.operations.map (·.withoutTexts)
        = (Operation.sort g.operations).map (·.withoutTexts) := by
  -- The loop over operations has a way out of its own, but it is entered in the first case only.
  rcases g.named_or_first_unnamed with hall | ⟨before, o, after, hsort, hbefore, ho⟩
  · rw [transform_of_named hall]
    refine ⟨⟨?_, ?_⟩, ?_⟩
    · rintro ⟨e, he⟩
      cases he
    · rintro ⟨o, ho, hunnamed⟩
      exact absurd hunnamed (hall o ho)
    · intro e he
      cases he
  · have hmem : o ∈ g.operations := by
      rw [← Operation.mem_sort, hsort]
      exact List.mem_append_right _ (List.mem_cons_self ..)
    rw [transform_of_unnamed hsort hbefore ho]
    refine ⟨⟨fun _ => ⟨o, hmem, ho⟩, fun _ => ⟨_, rfl⟩⟩, ?_⟩
    intro e he
    refine ⟨⟨before, o, after, hsort, hbefore, ho, (Except.error.inj he).symm⟩, ?_, ?_⟩
    · exact arrange_eq g style
    · exact withoutTexts_arrange g style

end ClientStyle.OperationGroup
