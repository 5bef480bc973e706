/-
Closed forms of reshaping an operation and a group.

An operation is reshaped in steps that each rewrite it as a whole, and a group one operation after
the other with a way out at each. Here the steps are summed up: `Operation.settled` says what an
operation with an action becomes, field by field, and `Operation.fixtures` which files come with it;
a group either has an action for every operation and becomes the list of these, or it is only
arranged. The way out inside the loop is never taken, since the check in front of it has seen every
operation.
-/
import ClientStyle.Proofs.Order
import ClientStyle.Proofs.Parameter

set_option autoImplicit false

namespace ClientStyle

/-! ## Fixtures -/

namespace Response

/-- Whether there is something to make a payload of. -/
def hasPayload (r : Response) : Bool := r.sample.isSome || r.schema.isSome

/-- The response with the path of its fixture in a folder, if it has one. -/
def placed (r : Response) (folder : String) : Response :=
  if r.hasPayload then { r with fixtureFile := some (Fixture.file folder r.code) } else r

/-- The fixture of a response in a folder. -/
def fixture? (r : Response) (folder : String) (document : Document) : Option Artifact :=
  (r.payload? document).value.map fun payload =>
    ⟨Fixture.file folder r.code, Fixture.content payload⟩

/-- A payload is made exactly if the response has an example or a schema, whatever comes of it. -/
theorem isSome_payload? (r : Response) (document : Document) :
    (r.payload? document).value.isSome = r.hasPayload := by
  unfold payload? hasPayload
  cases r.sample with
  | some sample => rfl
  | none => cases r.schema <;> rfl

theorem populate_value (r : Response) (folder : String) (document : Document) :
    (r.populate folder document).value = (r.placed folder, r.fixture? folder document) := by
  -- Both sides ask the same question, the left one by making the payload.
  have hpayload := r.isSome_payload? document
  simp only [populate, placed, fixture?, Warned.map, ← hpayload]
  cases (r.payload? document).value <;> rfl

/-- Placing a response twice is placing it once. -/
theorem placed_placed (r : Response) (folder : String) :
    (r.placed folder).placed folder = r.placed folder := by
  unfold placed
  split
  · next h => exact if_pos h
  · rfl

/-- The path of a fixture does not matter to the fixture. -/
theorem fixture?_placed (r : Response) (folder : String) (document : Document) :
    (r.placed folder).fixture? folder document = r.fixture? folder document := by
  unfold placed
  split <;> rfl

end Response

/-! ## One operation -/

namespace Operation

/-- Clients have no name for an operation whose action is absent or blank. -/
def IsUnnamed (o : Operation) : Prop :=
  o.extensions.action = none ∨ ∃ text, o.extensions.action = some text ∧ Text.trim text = ""

theorem isUnnamed_iff {o : Operation} : o.IsUnnamed ↔ o.action? = none := by
  unfold IsUnnamed action?
  cases o.extensions.action with
  | none => simp
  | some text => simp

theorem isNone_action?_iff {o : Operation} : o.action?.isNone = true ↔ o.IsUnnamed := by
  rw [isUnnamed_iff, Option.isNone_iff_eq_none]

/-- The search for an operation without an action fails if every operation has one. -/
theorem find?_isNone_action?_eq_none {os : List Operation} :
    os.find? (·.action?.isNone) = none ↔ ∀ o ∈ os, ¬ o.IsUnnamed := by
  simp only [List.find?_eq_none, isNone_action?_iff]

/-- The search for an operation without an action finds the first one. -/
theorem find?_isNone_action?_eq_some {os : List Operation} {o : Operation} :
    os.find? (·.action?.isNone) = some o ↔
      o.IsUnnamed ∧ ∃ before after, os = before ++ o :: after ∧ ∀ b ∈ before, ¬ b.IsUnnamed := by
  simp only [List.find?_eq_some_iff_append, isNone_action?_iff, Bool.not_eq_true',
    ← Bool.not_eq_true]

/-- An operation with an action is ordered by it. -/
theorem action?_eq_sortKey {o : Operation} (h : ¬ o.IsUnnamed) : o.action? = some o.sortKey := by
  rw [isUnnamed_iff] at h
  obtain ⟨action, haction⟩ := Option.ne_none_iff_exists'.1 h
  rw [sortKey, haction]
  rfl

/-- The folder of the fixtures of an operation with an action. -/
def folder (o : Operation) : String := Fixture.folder o.baseName o.sortKey

/-- The parameters of an operation as clients get them, apart from their descriptions. -/
def settledParameters (o : Operation) (style : Style) : ParameterLists :=
  o.parameters.mapLists (List.filterMap (·.shape? style.target style.placeholderUri))

/-- What an operation with an action becomes. -/
def settled (o : Operation) (style : Style) (models : List Model) : Operation :=
  { o with
    id := o.sortKey
    nickname := o.sortKey
    parameters := o.settledParameters style
    responses := o.responses.map (·.placed o.folder)
    extensions := { o.extensions with
      copiedFromResponse :=
        (o.settledParameters style).every.filter (·.extensions.copiedFromResponse)
      pagination := if o.extensions.paginated then o.pagination? models style.target
        else o.extensions.pagination
      fixtureFolder := some o.folder } }

/-- The fixtures of an operation with an action. -/
def fixtures (o : Operation) (document : Document) : List Artifact :=
  o.responses.filterMap (·.fixture? o.folder document)

/-- The responses of an operation are populated one by one, and each gives at most one fixture. -/
theorem populate_value (o : Operation) (folder : String) (document : Document) :
    (o.populate folder document).value =
      ({ o with responses := o.responses.map (·.placed folder) },
        o.responses.filterMap (·.fixture? folder document)) := by
  simp only [populate, Warned.map, Warned.each_value, Response.populate_value, List.map_map,
    List.filterMap_map]
  rfl

/-- Pages are described only for an operation that is marked for it. -/
theorem paginate_value (o : Operation) (models : List Model) (target : Target) :
    (o.paginate models target).value = { o with extensions := { o.extensions with
      pagination := if o.extensions.paginated then o.pagination? models target
        else o.extensions.pagination } } := by
  unfold paginate
  cases o.extensions.paginated with
  | false => rfl
  | true =>
    -- The two outcomes differ in their warnings only.
    simp only [if_true]
    split
    · rfl
    · rfl

/-- The passes over the parameters of an operation are one in each of its lists. -/
theorem mapParameters_passes (ps : ParameterLists) (target : Target) (placeholderUri : String) :
    ((((ps.map (·.withGetter target)).filter (!·.extensions.ignored)).map
      (·.shapeFields target)).map (·.withConstructor target placeholderUri))
      = ps.mapLists (List.filterMap (·.shape? target placeholderUri)) := by
  simp only [ParameterLists.map, ParameterLists.filter, ParameterLists.mapLists,
    Parameter.filterMap_shape?]

/-- **An operation with an action is reshaped into its closed form.** -/
theorem shape_value {o : Operation} (h : ¬ o.IsUnnamed) (style : Style) (models : List Model)
    (document : Document) :
    (o.shape style models document).value = .ok (o.settled style models, o.fixtures document) := by
  simp only [shape, action?_eq_sortKey h, populate_value, paginate_value, keepIn, listCopied,
    mapParameters, dropIgnored, callBy, mapParameters_passes]
  rfl

/-- The loop over operations that all have an action runs to its end. -/
theorem shapeEach_value (style : Style) (models : List Model) (document : Document)
    {os : List Operation} (h : ∀ o ∈ os, ¬ o.IsUnnamed) :
    (shapeEach style models document os).value =
      (os.map (·.settled style models), .ok (os.flatMap (·.fixtures document))) := by
  induction os with
  | nil => rfl
  | cons o os ih =>
    -- The first operation has an action, so the branch that leaves the loop is not taken.
    have hfirst := shape_value (h o (List.mem_cons_self ..)) style models document
    have hothers := ih fun a ha => h a (List.mem_cons_of_mem _ ha)
    simp only [shapeEach, hfirst, hothers]
    rfl

/-! ## Descriptions -/

/-- Descriptions leave the name alone that an operation is ordered by. -/
theorem sortKey_describe (o : Operation) (style : Style) : (o.describe style).sortKey = o.sortKey :=
  rfl

/-- Descriptions name nothing. -/
theorem isUnnamed_describe {o : Operation} {style : Style} :
    (o.describe style).IsUnnamed ↔ o.IsUnnamed := Iff.rfl

/-- Operations may be described before or after they are sorted. -/
theorem sort_describe (os : List Operation) (style : Style) :
    sort (os.map (·.describe style)) = (sort os).map (·.describe style) :=
  sort_map (fun _ _ => rfl) (fun _ _ => rfl)

end Operation

/-! ## Groups -/

namespace OperationGroup

/-- Arranging a group is sorting what it has, and then describing it. -/
theorem arrange_eq (g : OperationGroup) (style : Style) :
    g.arrange style = { g with
      operations := (Operation.sort g.operations).map (·.describe style)
      allHidden := g.operations.all (·.extensions.hidden) } := by
  have hall : ((Operation.sort g.operations).map (·.describe style)).all (·.extensions.hidden)
      = g.operations.all (·.extensions.hidden) := by
    rw [List.all_map]
    exact (Operation.sort_perm g.operations).all_eq
  simp only [arrange, Operation.sort_describe, hall]

/-- The first operation of an arranged group without an action is the description of the first one
in the order of the group. -/
theorem unnamed?_arrange (g : OperationGroup) (style : Style) :
    (g.arrange style).unnamed?
      = ((Operation.sort g.operations).find? (·.action?.isNone)).map (·.describe style) := by
  rw [arrange_eq, unnamed?, List.find?_map]
  rfl

/-- In a group with an action for every operation the search finds nothing. -/
theorem unnamed?_arrange_eq_none {g : OperationGroup} (h : ∀ o ∈ g.operations, ¬ o.IsUnnamed)
    (style : Style) : (g.arrange style).unnamed? = none := by
  rw [unnamed?_arrange, Option.map_eq_none_iff, Operation.find?_isNone_action?_eq_none]
  exact fun o ho => h o (Operation.mem_sort.1 ho)

/-- A group with an action for every operation is reshaped into the closed forms of its operations
in order, and their fixtures. -/
theorem transform_of_named {g : OperationGroup} (h : ∀ o ∈ g.operations, ¬ o.IsUnnamed)
    (style : Style) (models : List Model) (document : Document) :
    (g.transform style models document).value =
      ({ g with
          operations := (g.arrange style).operations.map (·.settled style models)
          allHidden := g.operations.all (·.extensions.hidden) },
        .ok ((g.arrange style).operations.flatMap (·.fixtures document))) := by
  have hnone := unnamed?_arrange_eq_none h style
  have harranged : ∀ o ∈ (g.arrange style).operations, ¬ o.IsUnnamed := by
    rw [arrange_eq]
    intro o ho
    obtain ⟨before, hbefore, rfl⟩ := List.mem_map.1 ho
    rw [Operation.isUnnamed_describe]
    exact h before (Operation.mem_sort.1 hbefore)
  simp only [transform, hnone, Warned.map, Operation.shapeEach_value style models document harranged]
  rw [arrange_eq]

/-- A group in which an operation has no action is only arranged, and the first such operation is
reported. -/
theorem transform_of_unnamed {g : OperationGroup} {before after : List Operation} {o : Operation}
    (hsort : Operation.sort g.operations = before ++ o :: after)
    (hbefore : ∀ b ∈ before, ¬ b.IsUnnamed) (ho : o.IsUnnamed) (style : Style)
    (models : List Model) (document : Document) :
    (g.transform style models document).value = (g.arrange style, .error ⟨o.id⟩) := by
  -- Describing changes neither actions nor ids, so the search may be done before it.
  have hfind : (Operation.sort g.operations).find? (·.action?.isNone) = some o :=
    Operation.find?_isNone_action?_eq_some.2 ⟨ho, before, after, hsort, hbefore⟩
  have hunnamed : (g.arrange style).unnamed? = some (o.describe style) := by
    rw [unnamed?_arrange, hfind]
    rfl
  simp only [transform, hunnamed]
  rfl

/-- Either every operation of a group has an action, or there is a first one that has none. -/
theorem named_or_first_unnamed (g : OperationGroup) :
    (∀ o ∈ g.operations, ¬ o.IsUnnamed) ∨
      ∃ before o after, Operation.sort g.operations = before ++ o :: after ∧
        (∀ b ∈ before, ¬ b.IsUnnamed) ∧ o.IsUnnamed := by
  cases hfind : (Operation.sort g.operations).find? (·.action?.isNone) with
  | none =>
    left
    intro o ho
    exact Operation.find?_isNone_action?_eq_none.1 hfind o (Operation.mem_sort.2 ho)
  | some o =>
    right
    obtain ⟨ho, before, after, hsort, hbefore⟩ := Operation.find?_isNone_action?_eq_some.1 hfind
    exact ⟨before, o, after, hsort, hbefore, ho⟩

/-- **When a group is reshaped**: every operation has an action, and nothing else can be missing. -/
theorem transform_eq_ok_iff {g g' : OperationGroup} {style : Style} {models : List Model}
    {document : Document} {artifacts : List Artifact} :
    (g.transform style models document).value = (g', .ok artifacts) ↔
      (∀ o ∈ g.operations, ¬ o.IsUnnamed) ∧
      g' = { g with
        operations := (g.arrange style).operations.map (·.settled style models)
        allHidden := g.operations.all (·.extensions.hidden) } ∧
      artifacts = (g.arrange style).operations.flatMap (·.fixtures document) := by
  constructor
  · intro h
    rcases g.named_or_first_unnamed with hall | ⟨before, o, after, hsort, hbefore, ho⟩
    · rw [transform_of_named hall] at h
      obtain ⟨hgroup, hartifacts⟩ := Prod.mk.inj h
      exact ⟨hall, hgroup.symm, (Except.ok.inj hartifacts).symm⟩
    · -- A group with an operation that has no action is refused, but it was not.
      rw [transform_of_unnamed hsort hbefore ho] at h
      exact absurd (Prod.mk.inj h).2 (by simp)
  · rintro ⟨hall, rfl, rfl⟩
    exact transform_of_named hall style models document

/-- The operations of a reshaped group in order, next to the ones that they were made of. -/
theorem operations_of_transform {g g' : OperationGroup} {style : Style} {models : List Model}
    {document : Document} {artifacts : List Artifact}
    (h : (g.transform style models document).value = (g', .ok artifacts)) :
    g'.operations = (Operation.sort g.operations).map
      fun o => (o.describe style).settled style models := by
  obtain ⟨-, rfl, -⟩ := transform_eq_ok_iff.1 h
  rw [arrange_eq, List.map_map]
  rfl

/-! ## A group that is reshaped -/

/-- Two operations: one lists videos page by page and takes a token that clients do not get, and one
shows a video. -/
def videos : OperationGroup :=
  let page : Field := { (default : Field) with name := "currentPage", baseName := "currentPage" }
  let filter : Parameter := { (default : Parameter) with name := "filter", fields := [page] }
  let token : Parameter := { (default : Parameter) with
    name := "internalToken", extensions := { ParameterExtensions.none with ignored := true } }
  let list : Operation := { (default : Operation) with
    id := "GET_videos"
    baseName := "Videos"
    parameters := { ParameterLists.none with
      header := [token], query := [filter], every := [token, filter] }
    extensions := { OperationExtensions.none with action := some " list " } }
  let get : Operation := { (default : Operation) with
    id := "GET_video"
    baseName := "Videos"
    responses := [{ (default : Response) with code := "200", sample := some .null }]
    extensions := { OperationExtensions.none with action := some "get" } }
  { className := "Videos", operations := [list, get], allHidden := false }

/-- Texts for both operations under their ids, and for one of them under its action. -/
def videoTexts : Descriptions :=
  ⟨[("java", [("GET_video", "Shows a video."), ("GET_videos", "Lists videos."),
    ("list.filter", "Restricts the list.")])]⟩

theorem videos_named : ∀ o ∈ videos.operations, ¬ o.IsUnnamed := by
  intro o ho
  rw [Operation.isUnnamed_iff]
  simp only [videos, List.mem_cons, List.not_mem_nil, or_false] at ho
  rcases ho with rfl | rfl
  · decide
  · decide

end OperationGroup

end ClientStyle
