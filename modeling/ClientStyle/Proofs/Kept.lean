/-
What stays of an operation when its group is reshaped.

Reshaping writes to operations on three levels: the operation itself, its parameters and responses,
and the fields nested in parameters. On each level `Kept` says which members may differ, under which
condition they may, and that all others are as before. A level is kept by the passes that write to it,
and the lists between two levels are kept entry by entry, but for the parameters that clients do not
get and for the order of operations.
-/
import ClientStyle.Proofs.ParameterLists

set_option autoImplicit false

namespace ClientStyle

/-! ## Nested fields -/

/-- Of a nested field nothing may differ but its mark for documentation and its literal. -/
def Field.Kept (f f' : Field) : Prop := f' = { f with extensions := f'.extensions }

/-! ## Parameters -/

/-- What stays of a parameter `p` in the place of which clients get `p'`. -/
structure Parameter.Kept (style : Style) (operationId : String) (p p' : Parameter) : Prop where
  /-- Nothing may differ but the description, nested fields, the accessor and the constructor. -/
  rest : p' = { p with
    description := p'.description
    fields := p'.fields
    extensions := { p.extensions with
      getter := p'.extensions.getter
      testConstructor := p'.extensions.testConstructor } }
  /-- Only the table changes the description. -/
  description : style.descriptions.text? style.target
    (Descriptions.parameterKey operationId p.baseName) = none → p'.description = p.description
  /-- Only a parameter that is copied from a response gets an accessor. -/
  getter : p.extensions.copiedFromResponse = false → p'.extensions.getter = p.extensions.getter
  fields : List.Forall₂ Field.Kept p.fields p'.fields

namespace Parameter

variable {style : Style} {operationId : String}

/-- Of a parameter that clients get, everything is kept that no pass writes to. -/
theorem kept_of_reshape? {p p' : Parameter} (h : reshape? style operationId p = some p') :
    p.Kept style operationId p' := by
  rw [reshape?, shape?_eq] at h
  split at h
  · cases h
  · cases h
    -- What `rest` leaves open is read off the passes that write to a parameter, one member each.
    refine ⟨rfl, ?_, ?_, ?_⟩
    · intro htext
      simp only [describe, htext, Option.none_or]
    · intro hflag
      -- The flag is not described, so the pass reads it as it came.
      have hflag' : (p.describe style operationId).extensions.copiedFromResponse = false := hflag
      simp only [hflag', Bool.false_eq_true, if_false]
      rfl
    · have hfields : (p.describe style operationId).fields = p.fields := rfl
      rw [hfields, List.forall₂_map_right_iff, List.forall₂_same]
      exact fun f _ => rfl

/-- The parameters of a list that clients get are kept one by one. -/
theorem forall₂_kept (ps : List Parameter) :
    List.Forall₂ (Kept style operationId) (ps.filter (!·.extensions.ignored))
      (ps.filterMap (reshape? style operationId)) :=
  (forall₂_reshape? ps).imp fun _ _ => kept_of_reshape?

end Parameter

/-! ## Responses -/

/-- What stays of a response: nothing may differ but the path of its fixture, and nothing at all if it
has neither an example nor a schema. -/
structure Response.Kept (r r' : Response) : Prop where
  rest : r' = { r with fixtureFile := r'.fixtureFile }
  bare : r.sample = none → r.schema = none → r'.fixtureFile = r.fixtureFile

/-- Placing a response writes the path of its fixture if it has one, and nothing else. -/
theorem Response.kept_placed (r : Response) (folder : String) : r.Kept (r.placed folder) := by
  unfold placed
  split
  · next hpayload =>
    refine ⟨rfl, ?_⟩
    intro hsample hschema
    rw [hasPayload, hsample, hschema] at hpayload
    cases hpayload
  · exact ⟨rfl, fun _ _ => rfl⟩

/-! ## Operations -/

/-- What stays of an operation `o` that becomes `o'`. -/
structure Operation.Kept (style : Style) (o o' : Operation) : Prop where
  /-- Nothing may differ but names, texts, parameters, responses and what is derived. -/
  rest : o' = { o with
    id := o'.id
    nickname := o'.nickname
    summary := o'.summary
    notes := o'.notes
    parameters := o'.parameters
    responses := o'.responses
    extensions := { o.extensions with
      copiedFromResponse := o'.extensions.copiedFromResponse
      pagination := o'.extensions.pagination
      clientSample := o'.extensions.clientSample
      fixtureFolder := o'.extensions.fixtureFolder } }
  /-- The operation is called by its action. -/
  id : o.action? = some o'.id
  nickname : o'.nickname = o'.id
  /-- Only the table changes texts, and it knows the operation by the id that it came with. -/
  notes : style.descriptions.text? style.target (Descriptions.operationKey o.id) = none →
    o'.notes = o.notes
  summary : style.descriptions.text? style.target (Descriptions.summaryKey o.id) = none →
    o'.summary = o.summary
  clientSample : style.descriptions.text? style.target (Descriptions.sampleKey o.id) = none →
    o'.extensions.clientSample = o.extensions.clientSample
  /-- Only an operation that is marked as paginated gets a description of pages. -/
  pagination : o.extensions.paginated = false → o'.extensions.pagination = o.extensions.pagination
  responses : List.Forall₂ Response.Kept o.responses o'.responses
  /-- Every list keeps the parameters that clients get, in order. -/
  parameters : List.Forall₂
    (fun ps ps' => List.Forall₂ (Parameter.Kept style o.id) (ps.filter (!·.extensions.ignored)) ps')
    o.parameters.toList o'.parameters.toList

/-- An operation with an action is kept when it is described and reshaped. -/
theorem Operation.kept_settled {o : Operation} (h : ¬ o.IsUnnamed) (style : Style)
    (models : List Model) : o.Kept style ((o.describe style).settled style models) where
  rest := rfl
  id := action?_eq_sortKey h
  nickname := rfl
  notes htext := by simp only [settled, describe, htext, Option.none_or]
  summary htext := by simp only [settled, describe, htext, Option.none_or]
  clientSample htext := by simp only [settled, describe, htext, Option.none_or]
  pagination hflag := by simp only [settled, describe, hflag, Bool.false_eq_true, if_false]
  responses := by
    have hresponses : ((o.describe style).settled style models).responses
        = o.responses.map (·.placed o.folder) := rfl
    rw [hresponses, List.forall₂_map_right_iff, List.forall₂_same]
    exact fun r _ => r.kept_placed o.folder
  parameters := by
    have hlists : ((o.describe style).settled style models).parameters
        = o.parameters.mapLists (List.filterMap (Parameter.reshape? style o.id)) :=
      o.settledParameters_describe style
    rw [hlists, ParameterLists.toList_mapLists, List.forall₂_map_right_iff, List.forall₂_same]
    exact fun ps _ => Parameter.forall₂_kept ps

/-! ## Groups -/

namespace OperationGroup

/-- **What stays of a group that is reshaped.** Its operations are put in order, which is a
rearrangement, and each of them is kept. Of the group itself nothing differs but the mark for being
hidden, which is set if all operations are. -/
theorem transform_kept {g g' : OperationGroup} {style : Style} {models : List Model}
    {document : Document} {artifacts : List Artifact}
    (h : (g.transform style models document).value = (g', .ok artifacts)) :
    (∃ before, before.Perm g.operations ∧
      List.Forall₂ (Operation.Kept style) before g'.operations) ∧
    g' = { g with
      operations := g'.operations
      allHidden := g.operations.all (·.extensions.hidden) } := by
  obtain ⟨hnamed, hgroup, -⟩ := transform_eq_ok_iff.1 h
  -- Neither texts nor shapes bear on the order, so the operations as they came are sorted alike.
  refine ⟨⟨Operation.sort g.operations, Operation.sort_perm _, ?_⟩, ?_⟩
  · rw [operations_of_transform h, List.forall₂_map_right_iff, List.forall₂_same]
    exact fun o ho => Operation.kept_settled (hnamed o (Operation.mem_sort.1 ho)) style models
  · rw [hgroup]

/-- The operations on videos keep base name and path and are called by their actions. -/
theorem transform_kept_videos :
    ∃ g' artifacts, (videos.transform ⟨.java, videoTexts, ""⟩ [] .null).value = (g', .ok artifacts) ∧
      g'.className = "Videos" ∧ ∃ before, before.Perm videos.operations ∧
        List.Forall₂ (fun o o' => o'.baseName = o.baseName ∧ o'.path = o.path ∧
          o.action? = some o'.id) before g'.operations := by
  have h := transform_of_named videos_named ⟨.java, videoTexts, ""⟩ [] .null
  obtain ⟨⟨before, hperm, hkept⟩, hgroup⟩ := transform_kept h
  refine ⟨_, _, h, ?_, before, hperm, hkept.imp fun o o' ho => ⟨?_, ?_, ho.id⟩⟩
  · rw [hgroup]
    rfl
  · rw [ho.rest]
  · rw [ho.rest]

end OperationGroup

end ClientStyle
