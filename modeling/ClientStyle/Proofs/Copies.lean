/-
The parameters that clients take from a response.

An operation lists these parameters a second time, as copies. The copies are taken when all other
passes over parameters are done, so each of them equals its original, whatever the passes added; and
they are taken anew, so a list of copies that came with the operation leaves no trace.
-/
import ClientStyle.Proofs.ParameterLists

set_option autoImplicit false

namespace ClientStyle

/-! ## One parameter -/

/-- The copy `q` of a parameter `p` that clients take from a response: everything is there that is
derived for a parameter, and nothing else differs. -/
structure Parameter.CopiedAs (style : Style) (operationId : String) (p q : Parameter) : Prop where
  rest : q = { p with
    description := q.description
    fields := q.fields
    extensions := { p.extensions with
      getter := q.extensions.getter
      testConstructor := q.extensions.testConstructor } }
  flagged : q.extensions.copiedFromResponse = true
  shown : q.extensions.ignored = false
  description : q.description = (style.descriptions.text? style.target
    (Descriptions.parameterKey operationId p.baseName)).or p.description
  /-- Nested fields have their literals and their marks for documentation. -/
  fields : q.fields = p.fields.map (·.shape style.target)
  getter : q.extensions.getter = some (style.target.getter q.name)
  testConstructor :
    q.extensions.testConstructor = some (q.construct style.target style.placeholderUri)

namespace Parameter

variable {style : Style} {operationId : String}

/-- Whether clients take a parameter from a response does not change. -/
theorem copiedFromResponse_of_reshape? {p q : Parameter}
    (h : reshape? style operationId p = some q) :
    q.extensions.copiedFromResponse = p.extensions.copiedFromResponse := by
  rw [reshape?, shape?_eq] at h
  split at h
  · cases h
  · cases h
    rfl

/-- A flagged parameter that clients get is a copy as it should be: the flag is what asks for an
accessor. -/
theorem copiedAs_of_reshape? {p q : Parameter} (h : reshape? style operationId p = some q)
    (hflag : p.extensions.copiedFromResponse = true) : p.CopiedAs style operationId q := by
  have hflagged := copiedFromResponse_of_reshape? h
  have hfields := fields_of_reshape? h
  rw [reshape?, shape?_eq] at h
  split at h
  · cases h
  · next hignored =>
    -- The flag is not described, so the accessor is added.
    have hflag' : (p.describe style operationId).extensions.copiedFromResponse = true := hflag
    rw [hflag', if_pos rfl] at h
    cases h
    exact {
      rest := rfl
      flagged := hflagged.trans hflag
      shown := Bool.eq_false_iff.2 hignored
      description := rfl
      fields := hfields
      getter := rfl
      testConstructor := rfl }

/-- The flagged parameters of a list that clients get are copied one by one. -/
theorem forall₂_copiedAs (ps : List Parameter) :
    List.Forall₂ (CopiedAs style operationId)
      ((ps.filter (!·.extensions.ignored)).filter (·.extensions.copiedFromResponse))
      ((ps.filterMap (reshape? style operationId)).filter (·.extensions.copiedFromResponse)) := by
  have hreshaped : List.Forall₂ (fun p q => reshape? style operationId p = some q)
      ((ps.filter (!·.extensions.ignored)).filter (·.extensions.copiedFromResponse))
      ((ps.filterMap (reshape? style operationId)).filter (·.extensions.copiedFromResponse)) := by
    refine List.rel_filter (fun p q h => ?_) (forall₂_reshape? ps)
    show p.extensions.copiedFromResponse = true ↔ q.extensions.copiedFromResponse = true
    rw [copiedFromResponse_of_reshape? h]
  have hflagged := (List.forall₂_and_left _ _).2 ⟨fun p hp => (List.mem_filter.1 hp).2, hreshaped⟩
  exact hflagged.imp fun p q ⟨hflag, h⟩ => copiedAs_of_reshape? h hflag

end Parameter

/-! ## Lists of copies that operations come with -/

/-- The operation as it would be if it had come with another list of copies. -/
def Operation.carrying (o : Operation) (copies : List Parameter) : Operation :=
  { o with extensions := { o.extensions with copiedFromResponse := copies } }

/-- The group as it would be if its operations had come with other lists of copies. -/
def OperationGroup.carrying (g : OperationGroup) (copies : Operation → List Parameter) :
    OperationGroup :=
  { g with operations := g.operations.map fun o => o.carrying (copies o) }

/-- What an operation becomes does not depend on the copies that it came with. -/
theorem Operation.settled_carrying (o : Operation) (copies : List Parameter) (style : Style)
    (models : List Model) : ((o.carrying copies).describe style).settled style models
      = (o.describe style).settled style models := rfl

namespace OperationGroup

variable {g g' : OperationGroup} {style : Style} {models : List Model} {document : Document}
  {artifacts : List Artifact}

/-- A group that is reshaped is reshaped alike whatever copies its operations came with. -/
theorem transform_carrying
    (h : (g.transform style models document).value = (g', .ok artifacts))
    (copies : Operation → List Parameter) :
    ((g.carrying copies).transform style models document).value = (g', .ok artifacts) := by
  obtain ⟨hnamed, hgroup, hartifacts⟩ := transform_eq_ok_iff.1 h
  have hsort : Operation.sort (g.carrying copies).operations
      = (Operation.sort g.operations).map fun o => o.carrying (copies o) :=
    Operation.sort_map (fun _ _ => rfl) (fun _ _ => rfl)
  have harranged : ((g.carrying copies).arrange style).operations
      = (Operation.sort g.operations).map fun o => (o.carrying (copies o)).describe style := by
    rw [arrange_eq, hsort, List.map_map]
    rfl
  refine transform_eq_ok_iff.2 ⟨?named, ?group, ?artifacts⟩
  case named =>
    rw [carrying, List.forall_mem_map]
    exact hnamed
  case group =>
    have hhidden : (g.carrying copies).operations.all (·.extensions.hidden)
        = g.operations.all (·.extensions.hidden) := by
      rw [carrying, List.all_map]
      rfl
    rw [hgroup, harranged, hhidden, arrange_eq, List.map_map, List.map_map]
    simp only [Function.comp_def, Operation.settled_carrying]
    rfl
  case artifacts =>
    rw [hartifacts, harranged, arrange_eq, List.flatMap_map, List.flatMap_map]
    rfl

/-- **The copies are the flagged parameters as they are in the end.** In a group that was reshaped, the
list of copies of an operation is made of the flagged entries of its list of all parameters, in order
and each as it stands there. So no copy is ignored, and each has the accessor of its name and a
constructor, besides the description of the table, the literals and the marks of nested fields. They
are copies of the flagged parameters that the operation came with, but for the ignored ones; whatever
was listed as copies before makes no difference. -/
theorem copies_of_transform (h : (g.transform style models document).value = (g', .ok artifacts)) :
    List.Forall₂ (fun o o' =>
      o'.extensions.copiedFromResponse
        = o'.parameters.every.filter (·.extensions.copiedFromResponse) ∧
      (∀ p ∈ o'.extensions.copiedFromResponse, p.extensions.ignored = false ∧
        p.extensions.getter = some (style.target.getter p.name) ∧
        p.extensions.testConstructor = some (p.construct style.target style.placeholderUri)) ∧
      List.Forall₂ (Parameter.CopiedAs style o.id)
        ((o.parameters.every.filter (!·.extensions.ignored)).filter
          (·.extensions.copiedFromResponse))
        o'.extensions.copiedFromResponse)
      (Operation.sort g.operations) g'.operations ∧
    ∀ copies : Operation → List Parameter,
      ((g.carrying copies).transform style models document).value = (g', .ok artifacts) := by
  refine ⟨?_, transform_carrying h⟩
  rw [operations_of_transform h, List.forall₂_map_right_iff, List.forall₂_same]
  intro o _
  have hevery : ((o.describe style).settled style models).parameters.every
      = o.parameters.every.filterMap (Parameter.reshape? style o.id) :=
    congrArg ParameterLists.every (o.settledParameters_describe style)
  have hcopies : ((o.describe style).settled style models).extensions.copiedFromResponse
      = ((o.describe style).settled style models).parameters.every.filter
          (·.extensions.copiedFromResponse) := rfl
  have hcopied : List.Forall₂ (Parameter.CopiedAs style o.id)
      ((o.parameters.every.filter (!·.extensions.ignored)).filter (·.extensions.copiedFromResponse))
      ((o.describe style).settled style models).extensions.copiedFromResponse := by
    rw [hcopies, hevery]
    exact Parameter.forall₂_copiedAs o.parameters.every
  refine ⟨hcopies, ?_, hcopied⟩
  intro q hq
  -- Every copy is one of a pair, and so has what copies have.
  obtain ⟨i, hi, rfl⟩ := List.getElem_of_mem hq
  have hpair := (List.forall₂_iff_get.1 hcopied).2 i (by rw [hcopied.length_eq]; exact hi) hi
  exact ⟨hpair.shown, hpair.getter, hpair.testConstructor⟩

/-- A token that clients do not get, and the identifier of a video. Clients would take either from a
response. -/
def tokenAndVideoId : List Parameter :=
  [{ (default : Parameter) with
      name := "token"
      extensions := { ParameterExtensions.none with ignored := true, copiedFromResponse := true } },
    { (default : Parameter) with
      name := "videoId"
      extensions := { ParameterExtensions.none with copiedFromResponse := true } }]

/-- An upload with both of them, which came with both as copies. -/
def upload : Operation :=
  { (default : Operation) with
    id := "POST_upload"
    parameters := { ParameterLists.none with every := tokenAndVideoId }
    extensions := { OperationExtensions.none with
      action := some "upload", copiedFromResponse := tokenAndVideoId } }

/-- The group of the upload. -/
def uploads : OperationGroup := ⟨"Videos", [upload], false⟩

/-- The upload has an action, so its group can be reshaped. -/
theorem uploads_named : ∀ o ∈ uploads.operations, ¬ o.IsUnnamed := by
  intro o ho
  rw [List.mem_singleton.1 ho, Operation.isUnnamed_iff]
  decide

/-- The upload that clients get lists the identifier alone, with an accessor, and that is what its list
of all parameters has for it. -/
theorem copies_of_transform_uploads :
    (∀ o ∈ uploads.operations, ¬ o.IsUnnamed) ∧
    ∃ o copy, (uploads.transform ⟨.java, .empty, ""⟩ [] .null).value.1.operations = [o] ∧
      o.extensions.copiedFromResponse = [copy] ∧
      o.parameters.every.filter (·.extensions.copiedFromResponse) = [copy] ∧
      copy.name = "videoId" ∧ copy.extensions.getter = some "getVideoId" := by
  refine ⟨uploads_named, ?_⟩
  have h := transform_of_named uploads_named ⟨.java, .empty, ""⟩ [] .null
  have hcopies := (copies_of_transform h).1
  rw [h]
  have hsort : Operation.sort uploads.operations = [upload] := List.mergeSort_singleton upload
  rw [hsort] at hcopies
  -- There is one operation, and of its parameters one is flagged and not ignored.
  obtain ⟨o, _, ⟨hlist, -, hcopied⟩, hrest, hoperations⟩ :=
    List.forall₂_cons_left_iff.1 hcopies
  cases hrest
  obtain ⟨copy, _, hcopy, hrest, hone⟩ := List.forall₂_cons_left_iff.1 hcopied
  cases hrest
  have hname : copy.name = "videoId" := by rw [hcopy.rest]
  refine ⟨o, copy, hoperations, hone, hlist.symm.trans hone, hname, ?_⟩
  rw [hcopy.getter, hname]
  decide

end OperationGroup

end ClientStyle
