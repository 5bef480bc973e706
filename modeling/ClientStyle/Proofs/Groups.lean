/-
Reshaping all groups of an API.

Groups are reshaped one after the other, against the same models. Either all are, and their fixtures
are listed group by group, or the first one that is refused decides, whatever became of the others.
-/
import ClientStyle.Proofs.Output
import ClientStyle.Proofs.Shaping
import ClientStyle.Run

set_option autoImplicit false

namespace ClientStyle.Api

variable {style : Style} {models : List Model} {document : Document}

/-! ## All groups or none -/

/-- The fixtures of groups that are all reshaped, group by group. -/
inductive Fixtures (style : Style) (models : List Model) (document : Document) :
    List OperationGroup → List Artifact → Prop where
  | nil : Fixtures style models document [] []
  | cons {g : OperationGroup} {groups : List OperationGroup} {part fixtures : List Artifact}
      (first : (g.transform style models document).value.2 = .ok part)
      (others : Fixtures style models document groups fixtures) :
      Fixtures style models document (g :: groups) (part ++ fixtures)

/-- A group is refused for a reason, and all groups before it are reshaped. -/
def Refused (style : Style) (models : List Model) (document : Document)
    (groups : List OperationGroup) (cause : MissingAction) : Prop :=
  ∃ before g after, groups = before ++ g :: after ∧
    (∃ fixtures, Fixtures style models document before fixtures) ∧
    (g.transform style models document).value.2 = .error cause

/-- **Either all groups are reshaped, or one is refused.** -/
theorem transformGroups_cases (groups : List OperationGroup) :
    (∃ shaped fixtures, Fixtures style models document groups fixtures ∧
      (transformGroups style models document groups).value = .ok (shaped, fixtures)) ∨
    (∃ cause, Refused style models document groups cause ∧
      (transformGroups style models document groups).value = .error cause) := by
  induction groups with
  | nil => exact .inl ⟨[], [], .nil, rfl⟩
  | cons g groups ih =>
    -- The first group decides alone if it is refused, and hands over to the others if not.
    cases hg : (g.transform style models document).value.2 with
    | error cause =>
      refine .inr ⟨cause, ⟨[], g, groups, rfl, ⟨[], .nil⟩, hg⟩, ?_⟩
      simp only [transformGroups, hg]
    | ok part =>
      rcases ih with ⟨shaped, fixtures, hfixtures, hvalue⟩ | ⟨cause, hrefused, hvalue⟩
      · refine .inl ⟨(g.transform style models document).value.1 :: shaped, part ++ fixtures,
          .cons hg hfixtures, ?_⟩
        simp only [transformGroups, hg, hvalue]
        rfl
      · obtain ⟨before, bad, after, hsplit, ⟨fixtures, hfixtures⟩, hbad⟩ := hrefused
        refine .inr ⟨cause, ⟨g :: before, bad, after, by rw [hsplit]; rfl,
          ⟨part ++ fixtures, .cons hg hfixtures⟩, hbad⟩, ?_⟩
        simp only [transformGroups, hg, hvalue]
        rfl

/-- Groups that are all reshaped have one list of fixtures. -/
theorem Fixtures.unique {groups : List OperationGroup} {fixtures fixtures' : List Artifact}
    (h : Fixtures style models document groups fixtures)
    (h' : Fixtures style models document groups fixtures') : fixtures = fixtures' := by
  induction h generalizing fixtures' with
  | nil => cases h'; rfl
  | cons hfirst _ ih =>
    cases h' with
    | cons hfirst' hothers' =>
      rw [hfirst] at hfirst'
      rw [Except.ok.inj hfirst', ih hothers']

/-- A group among groups that are all reshaped is not refused. -/
theorem Fixtures.not_refused {groups : List OperationGroup} {fixtures : List Artifact}
    {cause : MissingAction} (h : Fixtures style models document groups fixtures) :
    ¬ Refused style models document groups cause := by
  rintro ⟨before, g, after, rfl, -, hg⟩
  -- The refused group is reached after as many groups as there are in front of it, and each of these
  -- was reshaped.
  induction before generalizing fixtures with
  | nil =>
    cases h with
    | cons hfirst _ =>
      rw [hg] at hfirst
      cases hfirst
  | cons _ before ih =>
    cases h with
    | cons _ hothers => exact ih hothers

/-! ## The order of fixtures -/

/-- The paths of the fixtures of groups below a root: by group, by operation in the order of its
group, and by response, as far as it has a payload. -/
def fixturePaths (root : String) (groups : List OperationGroup) : List String :=
  groups.flatMap fun g => (Operation.sort g.operations).flatMap fun o =>
    (o.responses.filter (·.hasPayload)).map fun r => Path.join root (Fixture.file o.folder r.code)

/-- A response has a fixture exactly if it has a payload, and the path is given by its code. -/
theorem path_fixture? (r : Response) (folder : String) (document : Document) (root : String) :
    (r.fixture? folder document).map (·.pathBelow root) =
      if r.hasPayload then some (Path.join root (Fixture.file folder r.code)) else none := by
  rw [← r.isSome_payload? document, Response.fixture?]
  cases (r.payload? document).value with
  | none => rfl
  | some payload => rfl

/-- The paths of the fixtures of an operation, in the order of its responses. -/
theorem paths_fixtures (o : Operation) (document : Document) (root : String) :
    (o.fixtures document).map (·.pathBelow root) =
      (o.responses.filter (·.hasPayload)).map fun r =>
        Path.join root (Fixture.file o.folder r.code) := by
  rw [Operation.fixtures, List.map_filterMap, ← List.filterMap_eq_map, List.filterMap_filter]
  simp only [path_fixture?, Function.comp_apply]

/-- **Fixtures come in the order of groups, operations and responses.** -/
theorem Fixtures.paths {groups : List OperationGroup} {fixtures : List Artifact}
    (h : Fixtures style models document groups fixtures) (root : String) :
    fixtures.map (·.pathBelow root) = fixturePaths root groups := by
  induction h with
  | nil => rfl
  | @cons g groups part fixtures hfirst _ ih =>
    have hvalue : (g.transform style models document).value
        = ((g.transform style models document).value.1, .ok part) := by rw [← hfirst]
    -- Fixtures do not depend on descriptions, so those of the sorted group are listed.
    have hpart : part = (Operation.sort g.operations).flatMap (·.fixtures document) := by
      rw [(OperationGroup.transform_eq_ok_iff.1 hvalue).2.2, OperationGroup.arrange_eq,
        List.flatMap_map]
      rfl
    rw [List.map_append, ih, hpart, List.map_flatMap]
    simp only [paths_fixtures]
    rfl

end ClientStyle.Api
