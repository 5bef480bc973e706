/-
Payloads made up from schemas.

Whatever a payload is made of is a part of the schema or of the document, a scalar, or a container of
such: a shape only asks for parts of the schema it belongs to, and a reference leads to a part of the
document. So a payload is canonical if schema and document are.
-/
import ClientStyle.Api.Fixture
import ClientStyle.Proofs.Canonical

set_option autoImplicit false

namespace ClientStyle.Schema

open Json

/-! ## Shapes -/

theorem part_of_listMember? {schema : Json} {name : String} {items : List Json}
    (h : listMember? schema name = some items) : Part (.array items) schema := by
  obtain ⟨value, hvalue, hitems⟩ := Option.bind_eq_some_iff.1 h
  cases value with
  | array => cases hitems; exact part_of_get? hvalue
  | _ => cases hitems

theorem part_of_firstOf? {schema first : Json} {name : String}
    (h : firstOf? schema name = some first) : Part first schema := by
  obtain ⟨items, hitems, hfirst⟩ := Option.bind_eq_some_iff.1 h
  exact (Part.item (.self first) (List.mem_of_mem_head? hfirst)).trans (part_of_listMember? hitems)

/-- The schema that stands for the alternatives is a part, whichever of the two lists it is from. -/
theorem part_of_alternative? {schema chosen : Json} (h : alternative? schema = some chosen) :
    Part chosen schema := by
  rcases Option.or_eq_some_iff.1 h with hone | ⟨-, hany⟩
  · exact part_of_firstOf? hone
  · exact part_of_firstOf? hany

/-- The value that stands for a type is a scalar. -/
theorem nesting_typeSample? {type : String} {format : Option String} {value : Json}
    (h : typeSample? type format = some value) : value.nesting = 0 := by
  unfold typeSample? at h
  repeat' split at h
  all_goals first | cases h; rfl | cases h

/-- Where the schemas and values come from that a shape asks for: they are parts of the schema,
unless the shape has none or prescribes a scalar. -/
def Shape.Within (schema : Json) : Shape → Prop
  | .parts schemas => Part (.array schemas) schema
  | .alternative chosen => Part chosen schema
  | .prescribed value => Part value schema ∨ value.nesting = 0
  | .list (some items) => Part items schema
  | .properties members => Part (.object members) schema ∨ members = []
  | .reference _ | .list none | .unknown => True

theorem shape_within (schema : Json) : (shape schema).Within schema := by
  unfold shape
  split
  · next value h => exact .inl (part_of_get? h)
  split
  · trivial
  split
  · next schemas h => exact part_of_listMember? h
  split
  · next chosen h => exact part_of_alternative? h
  split
  · next value h => exact .inl (part_of_firstOf? h)
  simp only
  split
  · cases h : schema.get? "items" with
    | none => trivial
    | some items => exact part_of_get? h
  split
  · next value h =>
    obtain ⟨type, -, hvalue⟩ := Option.bind_eq_some_iff.1 h
    exact .inr (nesting_typeSample? hvalue)
  split
  · next members h =>
    obtain ⟨value, hvalue, hmembers⟩ := Option.bind_eq_some_iff.1 h
    cases value with
    | object => cases hmembers; exact .inl (part_of_get? hvalue)
    | _ => cases hmembers
  split
  · exact .inr rfl
  · trivial

/-! ## Payloads -/

theorem canonical_mergeParts {payloads : List Json} (h : ∀ payload ∈ payloads, Canonical payload) :
    Canonical (.object (mergeParts payloads)) := by
  refine List.foldlRecOn payloads _ (motive := fun merged => Canonical (.object merged))
    (canonical_object_iff.2 ⟨NameMap.sorted_nil, nofun⟩) ?_
  intro merged hmerged payload hpayload
  cases payload with
  | object members =>
    have hmembers := canonical_object_iff.1 (h _ hpayload)
    rw [canonical_object_iff] at hmerged ⊢
    refine ⟨NameMap.sorted_union hmerged.1 members, fun m hm => ?_⟩
    exact (NameMap.mem_or_mem_of_mem_union hm).elim (hmerged.2 m) (hmembers.2 m)
  | _ => exact hmerged

/-- What is made up from a canonical schema in a canonical document is canonical. -/
theorem canonical_sampleWithin {document : Document} (hdocument : Canonical document) {schema : Json}
    (h : Canonical schema) (left : Nat) : Canonical (sampleWithin document left schema).value := by
  -- The induction is on the levels left; at each, the shape says where its pieces come from.
  induction left generalizing schema with
  | zero => exact canonical_of_nesting_eq_zero rfl
  | succ left ih =>
    have hwithin := shape_within schema
    rw [sampleWithin]
    cases hshape : shape schema with
    | reference target =>
      simp only
      cases hresolved : document.resolve? target with
      | none => exact canonical_of_nesting_eq_zero rfl
      | some found => exact ih (hdocument.of_part (part_of_resolve? hresolved))
    | parts schemas =>
      rw [hshape] at hwithin
      have hschemas := canonical_array_iff.1 (h.of_part hwithin)
      simp only [Warned.map, Warned.each_value]
      exact canonical_mergeParts (List.forall_mem_map.2 fun part hpart => ih (hschemas part hpart))
    | alternative chosen =>
      rw [hshape] at hwithin
      exact ih (h.of_part hwithin)
    | prescribed value =>
      rw [hshape] at hwithin
      exact hwithin.elim h.of_part canonical_of_nesting_eq_zero
    | list items =>
      cases items with
      | none =>
        exact canonical_array_iff.2 (List.forall_mem_singleton.2 (canonical_of_nesting_eq_zero rfl))
      | some items =>
        rw [hshape] at hwithin
        exact canonical_array_iff.2 (List.forall_mem_singleton.2 (ih (h.of_part hwithin)))
    | properties members =>
      rw [hshape] at hwithin
      have hmembers : NameMap.Sorted members ∧ ∀ m ∈ members, Canonical m.2 := by
        rcases hwithin with hpart | rfl
        · exact canonical_object_iff.1 (h.of_part hpart)
        · exact ⟨NameMap.sorted_nil, nofun⟩
      simp only [Warned.map, Warned.each_value, canonical_object_iff]
      refine ⟨NameMap.sorted_map_iff.2 hmembers.1, List.forall_mem_map.2 fun m hm => ?_⟩
      exact ih (hmembers.2 m hm)
    | unknown => exact canonical_of_nesting_eq_zero rfl

end ClientStyle.Schema

namespace ClientStyle.Response

open Json

/-- The payload of a response is canonical if the response and the document are. -/
theorem canonical_payload {r : Response} {document payload : Json} (hdocument : Canonical document)
    (hsample : ∀ value, r.sample = some value → Canonical value)
    (hschema : ∀ schema, r.schema = some schema → Canonical schema)
    (h : (r.payload? document).value = some payload) : Canonical payload := by
  unfold payload? at h
  split at h
  · next hvalue =>
    cases h
    exact hsample _ hvalue
  · next schema _ hvalue =>
    cases h
    exact Schema.canonical_sampleWithin hdocument (hschema schema hvalue) _
  · cases h

end ClientStyle.Response
