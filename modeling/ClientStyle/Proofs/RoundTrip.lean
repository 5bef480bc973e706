/-
Decoding what was encoded, before and after reshaping.

A record is read back from its encoding if it is readable. Decoded records are, and reshaping keeps
them so: it adds texts and drops parameters, but changes no signature and no payload.
-/
import ClientStyle.Proofs.Records
import ClientStyle.Proofs.Shaping

set_option autoImplicit false

namespace ClientStyle

/-! ## Parameters -/

/-- The pass over nested fields changes no signature. -/
theorem Field.readable_shape {f : Field} (h : f.Readable) (target : Target) :
    (f.shape target).Readable := h

namespace Parameter

/-- A description is a text and no part of a signature. -/
theorem readable_describe {p : Parameter} (h : p.Readable) (style : Style) (operationId : String) :
    (p.describe style operationId).Readable := h

/-- The parameters that clients get are readable. -/
theorem readable_of_shape? {p q : Parameter} {target : Target} {placeholderUri : String}
    (h : p.Readable) (hq : p.shape? target placeholderUri = some q) : q.Readable := by
  have hfields : q.fields = p.fields.map (·.shape target) := (of_shape?_eq_some hq).2
  have hsignature : q.signature = p.signature := by
    rw [shape?_eq] at hq
    split at hq
    · cases hq
    · cases hq
      rfl
  refine ⟨hsignature ▸ h.1, ?_⟩
  rw [hfields, List.forall_mem_map]
  exact fun f hf => Field.readable_shape (h.2 f hf) target

end Parameter

/-- Lists stay readable if what becomes of each list does. -/
theorem ParameterLists.Readable.mapLists {ps : ParameterLists} (h : ps.Readable)
    {f : List Parameter → List Parameter}
    (hf : ∀ l : List Parameter, (∀ p ∈ l, p.Readable) → ∀ p ∈ f l, p.Readable) :
    (ps.mapLists f).Readable := by
  rw [Readable, toList_mapLists, List.forall_mem_map]
  exact fun l hl => hf l (h l hl)

/-! ## Operations -/

/-- Placing a response writes a path and leaves its payloads. -/
theorem Response.readable_placed {r : Response} (h : r.Readable) (folder : String) :
    (r.placed folder).Readable := by
  unfold placed
  split
  · exact h
  · exact h

namespace Operation

/-- The parameters in all lists of an operation are described, and nothing else is done to it. -/
theorem readable_describe {o : Operation} (h : o.Readable) (style : Style) :
    (o.describe style).Readable := by
  obtain ⟨hparameters, hresponses, hextensions⟩ := h
  refine ⟨hparameters.mapLists fun l hl => ?_, hresponses, hextensions⟩
  rw [List.forall_mem_map]
  exact fun p hp => Parameter.readable_describe (hl p hp) style o.id

/-- What an operation with an action becomes is readable, the copies of its parameters included. -/
theorem readable_settled {o : Operation} (h : o.Readable) (style : Style) (models : List Model) :
    (o.settled style models).Readable := by
  obtain ⟨hparameters, hresponses, -⟩ := h
  have hsettled : (o.settledParameters style).Readable := by
    refine hparameters.mapLists fun l hl q hq => ?_
    obtain ⟨p, hp, hpq⟩ := List.mem_filterMap.1 hq
    exact Parameter.readable_of_shape? (hl p hp) hpq
  refine ⟨hsettled, ?_, ?_⟩
  · rw [settled, List.forall_mem_map]
    exact fun r hr => Response.readable_placed (hresponses r hr) o.folder
  · -- The copies are parameters of the list of all parameters.
    intro p hp
    have hevery : ∀ p ∈ (o.settledParameters style).every, p.Readable :=
      hsettled _ (by simp [ParameterLists.toList])
    exact hevery p (List.mem_filter.1 hp).1

end Operation

/-! ## Groups and models -/

/-- A readable group is readable after it was reshaped. -/
theorem OperationGroup.readable_of_transform {g g' : OperationGroup} {style : Style}
    {models : List Model} {document : Document} {artifacts : List Artifact} (hg : g.Readable)
    (h : (g.transform style models document).value = (g', .ok artifacts)) : g'.Readable := by
  rw [Readable, operations_of_transform h, List.forall_mem_map]
  intro o ho
  have hread : o.Readable := hg o (Operation.mem_sort.1 ho)
  exact Operation.readable_settled (Operation.readable_describe hread style) style models

/-- Publishing changes names of fields and no signature. -/
theorem Model.readable_publish {m : Model} (h : m.Readable) : m.publish.Readable := by
  obtain ⟨hfields, hall⟩ := h
  constructor
  · exact List.forall_mem_map.2 hfields
  · exact List.forall_mem_map.2 hall

/-! ## Round trips -/

/-- What was decoded is decoded again from its encoding. -/
def RoundTrips {α : Type} (encode : α → Json) (decode : Decoder α) : Prop :=
  ∀ (value : Json) (a : α), decode value = .ok a → decode (encode a) = .ok a

/-- A decoder whose results have a property, and which reads back what has the property. -/
theorem roundTrips_of_gives {α : Type} {encode : α → Json} {decode : Decoder α} {P : α → Prop}
    (hgives : decode.Gives P) (hread : ∀ {a}, P a → decode (encode a) = .ok a) :
    RoundTrips encode decode :=
  fun _ _ h => hread (hgives h)

/-- **Encoding and decoding agree.** A record of any type that was decoded, from an object or from a
list, is decoded from its encoding to the very same record. So is the group that a decoded group is
reshaped into, with all that was derived for it, and so are decoded models after they were
published. -/
theorem roundTrips_records :
    RoundTrips Operation.toJson Operation.ofJson ∧
    RoundTrips OperationGroup.toJson OperationGroup.ofJson ∧
    RoundTrips Parameter.toJson Parameter.ofJson ∧
    RoundTrips Field.toJson Field.ofJson ∧
    RoundTrips Response.toJson Response.ofJson ∧
    RoundTrips Model.toJson Model.ofJson ∧
    RoundTrips Api.toJson Api.ofJson ∧
    (∀ value g, OperationGroup.ofJson value = .ok g →
      ∀ (style : Style) (models : List Model) (document : Document) g' artifacts,
        (g.transform style models document).value = (g', .ok artifacts) →
        OperationGroup.ofJson g'.toJson = .ok g') ∧
    ∀ value models, Decode.list Model.ofJson value = .ok models →
      Decode.list Model.ofJson (Encode.list Model.toJson (models.map Model.publish))
        = .ok (models.map Model.publish) := by
  refine ⟨roundTrips_of_gives Operation.gives_ofJson Operation.ofJson_toJson,
    roundTrips_of_gives OperationGroup.gives_ofJson OperationGroup.ofJson_toJson,
    roundTrips_of_gives Parameter.gives_ofJson Parameter.ofJson_toJson,
    roundTrips_of_gives Field.gives_ofJson Field.ofJson_toJson,
    roundTrips_of_gives Response.gives_ofJson Response.ofJson_toJson,
    roundTrips_of_gives Model.gives_ofJson Model.ofJson_toJson,
    roundTrips_of_gives Api.gives_ofJson Api.ofJson_toJson, ?_, ?_⟩
  · -- Reshaping keeps what was decoded readable.
    intro value g hdecode style models document g' artifacts h
    exact OperationGroup.ofJson_toJson
      (OperationGroup.readable_of_transform (OperationGroup.gives_ofJson hdecode) h)
  · intro value models hdecode
    have hread : ∀ m ∈ models, m.Readable := Decode.gives_list Model.gives_ofJson hdecode
    exact Decode.list_list (List.forall_mem_map.2 fun m hm =>
      Model.ofJson_toJson (Model.readable_publish (hread m hm)))

/-- A group as a framework hands it over: a list of videos that takes their identifiers from a
response. The operation is given by its names; the group, the parameter and the response are given by
the places of their members, and their last members are absent. -/
def videoListing : Json :=
  .array [.string "Videos", .array [.object [
    ("allParams", .array [.array [
      .string "ids", .string "ids", .string " List<String> ", .null, .bool false, .null, .array [],
      .array [.bool false, .bool true]]]),
    ("baseName", .string "Videos"),
    ("operationId", .string "GET_videos"),
    ("responses", .array [.array [.string "200", .null, .null, .null, .object []]]),
    ("vendorExtensions", .object [("x-client-action", .string " list ")])]]]

/-- The listing is decoded, with all that its lists have in places. Its group can be reshaped, and the
reshaped group comes back from its encoding. -/
theorem roundTrips_records_videos :
    ∃ g o p r, OperationGroup.ofJson videoListing = .ok g ∧ g.operations = [o] ∧
      o.parameters.every = [p] ∧ p.signature.raw = "List<String>" ∧ p.extensions.copiedFromResponse ∧
      o.responses = [r] ∧ r.schema = some (.object []) ∧ ¬ o.IsUnnamed ∧
      OperationGroup.ofJson g.toJson = .ok g ∧
      OperationGroup.ofJson (g.transform ⟨.java, .empty, ""⟩ [] .null).value.1.toJson
        = .ok (g.transform ⟨.java, .empty, ""⟩ [] .null).value.1 := by
  have hdecode : ∃ g o p r, OperationGroup.ofJson videoListing = .ok g ∧ g.operations = [o] ∧
      o.parameters.every = [p] ∧ p.signature.raw = "List<String>" ∧ p.extensions.copiedFromResponse ∧
      o.responses = [r] ∧ r.schema = some (.object []) ∧ ¬ o.IsUnnamed := by
    refine ⟨_, _, _, _, rfl, rfl, rfl, rfl, rfl, rfl, rfl, ?_⟩
    rw [Operation.isUnnamed_iff]
    decide
  obtain ⟨g, o, p, r, hg, ho, hp, hraw, hcopied, hr, hschema, hnamed⟩ := hdecode
  obtain ⟨-, hgroup, -, -, -, -, -, hreshaped, -⟩ := roundTrips_records
  have hall : ∀ o' ∈ g.operations, ¬ o'.IsUnnamed := by
    rw [ho, List.forall_mem_singleton]
    exact hnamed
  have h := OperationGroup.transform_of_named hall ⟨.java, .empty, ""⟩ [] .null
  refine ⟨g, o, p, r, hg, ho, hp, hraw, hcopied, hr, hschema, hnamed, hgroup videoListing g hg, ?_⟩
  -- The theorem speaks of any outcome of reshaping, of which this is one.
  have hread := hreshaped videoListing g hg ⟨.java, .empty, ""⟩ [] .null _ _ h
  rw [h]
  exact hread

end ClientStyle
