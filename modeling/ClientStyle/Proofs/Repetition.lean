/-
Reshaping a group that was reshaped before.

A reshaped operation is a fixed point: it is called by its action already, has no ignored parameter
left, and everything derived would be derived once more from the same data. A second table can change
nothing but texts, and the copies of parameters follow their originals. A group stays sorted, since
the name that an operation is ordered by survives the change of its id.
-/
import ClientStyle.Proofs.Texts
import Mathlib.Data.List.Basic

set_option autoImplicit false

namespace ClientStyle

/-! ## Fixed points -/

namespace ParameterLists

/-- Lists that went through a partial function stay as they are if its results do. -/
theorem filterMap_filterMap {f : Parameter → Option Parameter}
    (hf : ∀ p q, f p = some q → f q = some q) (ps : ParameterLists) :
    (ps.mapLists (List.filterMap f)).mapLists (List.filterMap f)
      = ps.mapLists (List.filterMap f) := by
  have hlist : ∀ l : List Parameter, (l.filterMap f).filterMap f = l.filterMap f := by
    intro l
    rw [List.filterMap_filterMap]
    refine List.filterMap_congr ?_
    intro p _
    cases hp : f p with
    | none => rfl
    | some q => exact hf p q hp
  simp only [mapLists, hlist]

end ParameterLists

namespace Operation

variable {style : Style} {models : List Model}

/-- The name that an operation is ordered by is still its name when it is called by it. -/
theorem sortKey_settled (o : Operation) : (o.settled style models).sortKey = o.sortKey := by
  have haction : (o.settled style models).action? = o.action? := rfl
  rw [sortKey, haction]
  unfold sortKey
  cases h : o.action? with
  | none => simp only [settled, sortKey, h, Option.getD_none]
  | some action => rfl

/-- The folder of an operation is named by what it is ordered by, and so does not move. -/
theorem folder_settled (o : Operation) : (o.settled style models).folder = o.folder := by
  rw [folder, sortKey_settled]
  rfl

/-- The parameters that clients get stay as they are. -/
theorem settledParameters_settled (o : Operation) :
    (o.settled style models).settledParameters style = o.settledParameters style :=
  ParameterLists.filterMap_filterMap (fun _ _ => Parameter.shape?_shape?) o.parameters

/-- **A reshaped operation is a fixed point.** -/
theorem settled_settled (o : Operation) :
    (o.settled style models).settled style models = o.settled style models := by
  have hresponses : (o.settled style models).responses.map (·.placed o.folder)
      = (o.settled style models).responses := by
    simp only [settled, List.map_map]
    exact List.map_congr_left fun r _ => r.placed_placed o.folder
  -- The search for pages reads nothing that the first time has changed.
  have hpagination : (if o.extensions.paginated then o.pagination? models style.target
      else if o.extensions.paginated then o.pagination? models style.target
      else o.extensions.pagination) = if o.extensions.paginated then o.pagination? models style.target
      else o.extensions.pagination := by
    split <;> rfl
  rw [settled, sortKey_settled, settledParameters_settled, folder_settled, hresponses]
  exact congrArg (fun pagination => { o.settled style models with
    extensions := { (o.settled style models).extensions with pagination } }) hpagination

/-- The fixtures of a reshaped operation are the same once more. -/
theorem fixtures_settled (o : Operation) (document : Document) :
    (o.settled style models).fixtures document = o.fixtures document := by
  rw [fixtures, folder_settled]
  simp only [settled, List.filterMap_map]
  exact List.filterMap_congr fun r _ => r.fixture?_placed o.folder document

/-! ## A second table -/

/-- Descriptions commute with the passes that follow them, in every list. -/
theorem settledParameters_describe_eq_map (o : Operation) (style' : Style) :
    (o.describe style').settledParameters style
      = (o.settledParameters style).map (·.describe style' o.id) := by
  have hlist : ∀ ps : List Parameter,
      (ps.map (·.describe style' o.id)).filterMap (·.shape? style.target style.placeholderUri)
        = (ps.filterMap (·.shape? style.target style.placeholderUri)).map
            (·.describe style' o.id) := by
    intro ps
    rw [List.filterMap_map, List.map_filterMap]
    exact List.filterMap_congr fun p _ => p.shape?_describe style' o.id _ _
  simp only [settledParameters, describe, ParameterLists.map, ParameterLists.mapLists, hlist]

/-- **A fixed point stays one under another table**, except that the copies of parameters are taken
anew. -/
theorem settled_describe {o : Operation} (h : o.settled style models = o) (style' : Style) :
    (o.describe style').settled style models = (o.describe style').listCopied := by
  have hid : o.sortKey = o.id := congrArg Operation.id h
  have hnickname : o.sortKey = o.nickname := congrArg nickname h
  have hparameters : o.settledParameters style = o.parameters := congrArg parameters h
  have hresponses : o.responses.map (·.placed o.folder) = o.responses := congrArg responses h
  have hpagination : (if o.extensions.paginated then o.pagination? models style.target
      else o.extensions.pagination) = o.extensions.pagination :=
    congrArg (·.extensions.pagination) h
  have hfolder : some o.folder = o.extensions.fixtureFolder :=
    congrArg (·.extensions.fixtureFolder) h
  -- Only texts differ from the parameters that the operation had, and no pass reads these.
  have hlists : (o.describe style').settledParameters style = (o.describe style').parameters := by
    rw [settledParameters_describe_eq_map, hparameters]
    rfl
  calc (o.describe style').settled style models
      = { o.describe style' with
          id := o.sortKey
          nickname := o.sortKey
          responses := o.responses.map (·.placed o.folder)
          extensions := { (o.describe style').extensions with
            copiedFromResponse :=
              (o.describe style').parameters.every.filter (·.extensions.copiedFromResponse)
            pagination := if o.extensions.paginated then o.pagination? models style.target
              else o.extensions.pagination
            fixtureFolder := some o.folder } } := by
        rw [settled, hlists]
        rfl
    _ = (o.describe style').listCopied := by
        rw [hresponses, hpagination, hfolder, hid]
        exact congrArg (fun nickname => { (o.describe style').listCopied with nickname })
          (hid.symm.trans hnickname)

/-- The copies of a fixed point are copies of its parameters. -/
theorem listCopied_eq_self {o : Operation} (h : o.settled style models = o) : o.listCopied = o := by
  have hparameters : o.settledParameters style = o.parameters := congrArg parameters h
  have hcopies : (o.settledParameters style).every.filter (·.extensions.copiedFromResponse)
      = o.extensions.copiedFromResponse := congrArg (·.extensions.copiedFromResponse) h
  rw [hparameters] at hcopies
  rw [listCopied, hcopies]

/-- Another table leaves everything of a fixed point but texts. -/
theorem withoutTexts_settled_describe {o : Operation} (h : o.settled style models = o)
    (style' : Style) :
    ((o.describe style').settled style models).withoutTexts.withoutCopiedTexts
      = o.withoutTexts.withoutCopiedTexts := by
  have hcopies : ((o.describe style').parameters.every.filter
        (·.extensions.copiedFromResponse)).map (·.withoutText)
      = (o.parameters.every.filter (·.extensions.copiedFromResponse)).map (·.withoutText) := by
    simp only [describe, ParameterLists.map, ParameterLists.mapLists, List.filter_map, List.map_map]
    rfl
  calc ((o.describe style').settled style models).withoutTexts.withoutCopiedTexts
      = (o.describe style').listCopied.withoutTexts.withoutCopiedTexts := by
        rw [settled_describe h]
    _ = { (o.describe style').withoutTexts with
          extensions := { (o.describe style').withoutTexts.extensions with
            copiedFromResponse := ((o.describe style').parameters.every.filter
              (·.extensions.copiedFromResponse)).map (·.withoutText) } } := rfl
    _ = o.listCopied.withoutTexts.withoutCopiedTexts := by
        rw [hcopies, withoutTexts_describe]
        rfl
    _ = o.withoutTexts.withoutCopiedTexts := by rw [listCopied_eq_self h]

end Operation

/-! ## Groups -/

namespace OperationGroup

variable {g g' : OperationGroup} {style : Style} {models : List Model} {document : Document}
  {artifacts : List Artifact}

/-- A reshaped group is sorted. -/
theorem sort_operations_of_transform
    (h : (g.transform style models document).value = (g', .ok artifacts)) :
    Operation.sort g'.operations = g'.operations := by
  -- The id that an operation now has is the name that it was ordered by.
  have hkey : ∀ o ∈ Operation.sort g.operations,
      ((o.describe style).settled style models).sortKey = o.sortKey := by
    intro o _
    rw [Operation.sortKey_settled, Operation.sortKey_describe]
  rw [operations_of_transform h, Operation.sort_map hkey fun _ _ => rfl, Operation.sort_sort]

/-- The operations of a reshaped group are fixed points. -/
theorem settled_of_transform
    (h : (g.transform style models document).value = (g', .ok artifacts)) :
    ∀ o ∈ g'.operations, o.settled style models = o := by
  rw [operations_of_transform h]
  intro o ho
  obtain ⟨before, -, rfl⟩ := List.mem_map.1 ho
  exact Operation.settled_settled _

/-- The operations of a reshaped group have kept their actions. -/
theorem named_of_transform
    (h : (g.transform style models document).value = (g', .ok artifacts)) :
    ∀ o ∈ g'.operations, ¬ o.IsUnnamed := by
  rw [operations_of_transform h]
  intro o ho
  obtain ⟨before, hbefore, rfl⟩ := List.mem_map.1 ho
  exact (transform_eq_ok_iff.1 h).1 before (Operation.mem_sort.1 hbefore)

/-- A reshaped group is marked as hidden if all its operations are. -/
theorem allHidden_of_transform
    (h : (g.transform style models document).value = (g', .ok artifacts)) :
    g'.operations.all (·.extensions.hidden) = g'.allHidden := by
  obtain ⟨-, hgroup, -⟩ := transform_eq_ok_iff.1 h
  have hmark : g'.allHidden = g.operations.all (·.extensions.hidden) := by rw [hgroup]
  rw [operations_of_transform h, List.all_map, hmark]
  exact (Operation.sort_perm g.operations).all_eq

/-- The fixtures of a reshaped group are those that its operations have now. -/
theorem fixtures_of_transform
    (h : (g.transform style models document).value = (g', .ok artifacts)) :
    g'.operations.flatMap (·.fixtures document) = artifacts := by
  obtain ⟨-, hgroup, hartifacts⟩ := transform_eq_ok_iff.1 h
  rw [hartifacts, hgroup, List.flatMap_map]
  simp only [Operation.fixtures_settled]

/-- What a reshaped group becomes under another table. -/
theorem transform_of_transform
    (h : (g.transform style models document).value = (g', .ok artifacts)) (table : Descriptions) :
    (g'.transform { style with descriptions := table } models document).value =
      ({ g' with operations := g'.operations.map fun o =>
          (o.describe { style with descriptions := table }).settled style models },
        .ok artifacts) := by
  have harranged : (g'.arrange { style with descriptions := table }).operations
      = g'.operations.map (·.describe { style with descriptions := table }) := by
    rw [arrange_eq, sort_operations_of_transform h]
  rw [transform_of_named (named_of_transform h), harranged, List.map_map, List.flatMap_map,
    allHidden_of_transform h]
  exact congrArg (fun fixtures => (_, Except.ok fixtures)) (fixtures_of_transform h)

/-- **Reshaping twice is reshaping once.** A group that was reshaped is reshaped again without
failure under any table, with the same fixtures, into a group that differs in nothing but texts. If
the second table has no texts for the language, the group stays as it is. -/
theorem transform_transform
    (h : (g.transform style models document).value = (g', .ok artifacts)) (table : Descriptions) :
    ∃ g'', (g'.transform { style with descriptions := table } models document).value
        = (g'', .ok artifacts) ∧
      g''.withoutTexts = g'.withoutTexts ∧
      ((∀ key, table.text? style.target key = none) → g'' = g') := by
  refine ⟨_, transform_of_transform h table, ?_, ?_⟩
  · simp only [withoutTexts, List.map_map]
    congr 1
    exact List.map_congr_left fun o ho =>
      Operation.withoutTexts_settled_describe (settled_of_transform h o ho) _
  · intro hempty
    have hsettled : ∀ o ∈ g'.operations,
        (o.describe { style with descriptions := table }).settled style models = id o := by
      intro o ho
      rw [Operation.describe_of_no_text hempty]
      exact settled_of_transform h o ho
    rw [List.map_congr_left hsettled, List.map_id]

/-- The group of videos is the same after a second time without texts. -/
theorem transform_transform_videos :
    (∀ o ∈ videos.operations, ¬ o.IsUnnamed) ∧
    ((videos.transform ⟨.java, videoTexts, ""⟩ [] .null).value.1.transform
      ⟨.java, .empty, ""⟩ [] .null).value
        = (videos.transform ⟨.java, videoTexts, ""⟩ [] .null).value := by
  refine ⟨videos_named, ?_⟩
  have h := transform_of_named videos_named ⟨.java, videoTexts, ""⟩ [] .null
  obtain ⟨g'', hagain, -, hsame⟩ := transform_transform h .empty
  rw [h, hagain, hsame fun _ => rfl]

end OperationGroup

end ClientStyle
