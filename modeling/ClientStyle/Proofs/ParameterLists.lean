/-
The seven lists of parameters of an operation after its group was reshaped.

Five passes walk the seven lists. Since each pass treats all lists and every parameter alike, all
lists are the images of what they were under one partial function, which knows the operation by its
first id only. So the list of all parameters stays in step with the other six.
-/
import ClientStyle.Proofs.Shaping
import Mathlib.Data.List.Forall2

set_option autoImplicit false

namespace ClientStyle

/-! ## Lists -/

namespace ParameterLists

/-- The parameters of all places, one place after the other. -/
def placed (ps : ParameterLists) : List Parameter :=
  ps.header ++ ps.body ++ ps.path ++ ps.query ++ ps.form ++ ps.cookie

/-- All places are treated with the same function, so they may be treated together. -/
theorem placed_mapLists_filterMap (f : Parameter → Option Parameter) (ps : ParameterLists) :
    (ps.mapLists (List.filterMap f)).placed = ps.placed.filterMap f := by
  simp only [placed, mapLists, List.filterMap_append]

/-- The list of all parameters has the parameters of all places, each as often as they do. -/
def Complete (ps : ParameterLists) : Prop := ps.every.Perm ps.placed

/-- The list of all parameters has the parameters of all places, however often. -/
def Covering (ps : ParameterLists) : Prop := ∀ p, p ∈ ps.every ↔ p ∈ ps.placed

/-- A rearrangement stays one when the same function is applied to both sides. -/
theorem Complete.mapLists_filterMap {ps : ParameterLists} (h : ps.Complete)
    (f : Parameter → Option Parameter) : (ps.mapLists (List.filterMap f)).Complete := by
  rw [Complete, placed_mapLists_filterMap]
  exact h.filterMap f

theorem Covering.mapLists_filterMap {ps : ParameterLists} (h : ps.Covering)
    (f : Parameter → Option Parameter) : (ps.mapLists (List.filterMap f)).Covering := by
  intro q
  rw [placed_mapLists_filterMap]
  simp only [mapLists, List.mem_filterMap]
  -- In either direction, it is the parameter from before that is in both lists.
  constructor
  · rintro ⟨p, hp, hq⟩
    exact ⟨p, (h p).1 hp, hq⟩
  · rintro ⟨p, hp, hq⟩
    exact ⟨p, (h p).2 hp, hq⟩

end ParameterLists

/-! ## One operation -/

/-- Describing the parameters of an operation and reshaping them afterwards is one function in each
list. -/
theorem Operation.settledParameters_describe (o : Operation) (style : Style) :
    (o.describe style).settledParameters style
      = o.parameters.mapLists (List.filterMap (Parameter.reshape? style o.id)) := by
  have hlist : ∀ ps : List Parameter,
      (ps.map (·.describe style o.id)).filterMap (·.shape? style.target style.placeholderUri)
        = ps.filterMap (Parameter.reshape? style o.id) := by
    intro ps
    rw [List.filterMap_map]
    rfl
  simp only [settledParameters, describe, ParameterLists.map, ParameterLists.mapLists, hlist]

/-- A nested field stays in its place, and is shown as fields are shown. -/
theorem Parameter.shows_fields {style : Style} {operationId : String} {p q : Parameter}
    (h : reshape? style operationId p = some q) : List.Forall₂ Field.Shows p.fields q.fields := by
  rw [fields_of_reshape? h, List.forall₂_map_right_iff, List.forall₂_same]
  exact fun f _ => f.shows_shape style.target

/-- The parameters of a list that clients get stand next to the ones that they were made of. -/
theorem Parameter.forall₂_reshape? {style : Style} {operationId : String} (ps : List Parameter) :
    List.Forall₂ (fun p q => reshape? style operationId p = some q)
      (ps.filter (!·.extensions.ignored)) (ps.filterMap (reshape? style operationId)) := by
  induction ps with
  | nil => exact .nil
  | cons p ps ih =>
    -- Either both lists go on without the parameter, or both begin with what becomes of it.
    cases hp : reshape? style operationId p with
    | none =>
      have hignored : p.extensions.ignored = true := reshape?_eq_none_iff.1 hp
      rw [List.filter_cons_of_neg (by simp [hignored]), List.filterMap_cons_none hp]
      exact ih
    | some q =>
      have hignored : p.extensions.ignored = false := by
        rw [← Bool.not_eq_true, ← reshape?_eq_none_iff, hp]
        exact Option.some_ne_none q
      rw [List.filter_cons_of_pos (by simp [hignored]), List.filterMap_cons_some hp]
      exact .cons hp ih

/-! ## Groups -/

namespace OperationGroup

/-- **One function for all lists.** It is given by the id that an operation came with, the table, the
language and the resource identifier for tests, and it has no result exactly for ignored parameters.
What it returns has the same nested fields, of which those that turn pages are left out of the
documentation, besides those that were left out before. After a group was reshaped, each of the
seven lists of an operation is its image under this function; so no list has an ignored parameter,
and the list of all parameters agrees with the others if it did so before. -/
theorem transform_parameters {g g' : OperationGroup} {style : Style} {models : List Model}
    {document : Document} {artifacts : List Artifact}
    (h : (g.transform style models document).value = (g', .ok artifacts)) :
    (∀ id p, Parameter.reshape? style id p = none ↔ p.extensions.ignored = true) ∧
    (∀ id p q, Parameter.reshape? style id p = some q →
      List.Forall₂ Field.Shows p.fields q.fields) ∧
    List.Forall₂ (fun o o' =>
      o'.parameters.toList
        = o.parameters.toList.map (List.filterMap (Parameter.reshape? style o.id)) ∧
      (∀ ps ∈ o'.parameters.toList, ∀ p ∈ ps, p.extensions.ignored = false) ∧
      (o.parameters.Complete → o'.parameters.Complete) ∧
      (o.parameters.Covering → o'.parameters.Covering))
      (Operation.sort g.operations) g'.operations := by
  refine ⟨fun _ _ => Parameter.reshape?_eq_none_iff, fun _ _ _ => Parameter.shows_fields, ?_⟩
  rw [operations_of_transform h, List.forall₂_map_right_iff, List.forall₂_same]
  intro o _
  have hlists : ((o.describe style).settled style models).parameters
      = o.parameters.mapLists (List.filterMap (Parameter.reshape? style o.id)) :=
    o.settledParameters_describe style
  rw [hlists]
  refine ⟨ParameterLists.toList_mapLists _ _, ?_, fun hc => hc.mapLists_filterMap _,
    fun hc => hc.mapLists_filterMap _⟩
  rw [ParameterLists.toList_mapLists]
  -- A parameter in one of the lists is the image of one from before, and images are not ignored.
  intro ps hps q hq
  obtain ⟨before, -, rfl⟩ := List.mem_map.1 hps
  obtain ⟨p, -, hp⟩ := List.mem_filterMap.1 hq
  exact Parameter.not_ignored_of_reshape? hp

/-- The token of the group of videos is in no list any more. -/
theorem transform_parameters_videos :
    (∀ o ∈ videos.operations, ¬ o.IsUnnamed) ∧
    (∃ o ∈ videos.operations, ∃ p ∈ o.parameters.header, p.extensions.ignored = true) ∧
    ∀ o ∈ (videos.transform ⟨.java, videoTexts, ""⟩ [] .null).value.1.operations,
      ∀ ps ∈ o.parameters.toList, ∀ p ∈ ps, p.extensions.ignored = false := by
  refine ⟨videos_named, by simp [videos], ?_⟩
  have h := transform_of_named videos_named ⟨.java, videoTexts, ""⟩ [] .null
  obtain ⟨-, -, hlists⟩ := transform_parameters h
  rw [h]
  intro o ho
  -- The operations correspond by their position.
  obtain ⟨i, hi, rfl⟩ := List.getElem_of_mem ho
  exact ((List.forall₂_iff_get.1 hlists).2 i (by rw [hlists.length_eq]; exact hi) hi).2.1

end OperationGroup

end ClientStyle
