/-
Payloads of composed schemas.

The payload of a schema with parts is an object with the members of the objects among the payloads of
the parts; of a part with any other payload nothing is left, and the properties beside the parts are
not asked for. So a schema that only wraps another one has the payload of that one exactly if it is
an object, and a schema with properties and parts has all fields exactly if the parts have those of
the properties.
-/
import ClientStyle.Proofs.Derivations
import ClientStyle.Proofs.Unchanged

set_option autoImplicit false

namespace ClientStyle.Schema

variable {document : Document}

/-! ## Merging -/

/-- Merging adds the members of the objects in their order. -/
theorem mergeParts_eq (payloads : List Json) :
    mergeParts payloads = NameMap.ofEntries (payloads.filterMap Json.asObject?).flatten := by
  rw [NameMap.ofEntries, NameMap.union, List.foldl_flatten, List.foldl_filterMap, mergeParts]
  congr 1
  funext merged payload
  cases payload <;> rfl

/-- A payload is an object with a member under a name. -/
def HasField (payload : Json) (name : String) : Prop :=
  ∃ members, payload = .object members ∧ NameMap.contains members name = true

/-- For an object the fields are its members; nothing else has fields. -/
theorem hasField_object_iff {members : Json.Members} {name : String} :
    HasField (.object members) name ↔ members.contains name = true := by
  simp only [HasField, Json.object.injEq, exists_eq_left']

/-- The names in merged payloads are those in the payloads. -/
theorem hasField_mergeParts_iff {payloads : List Json} {name : String} :
    HasField (.object (mergeParts payloads)) name ↔ ∃ payload ∈ payloads, HasField payload name := by
  -- Adding entries to nothing gives a map with their names, whatever their order and repetitions.
  have hentries : ∀ entries : Json.Members,
      NameMap.contains (NameMap.ofEntries entries) name = true ↔ entries.contains name = true :=
    fun entries => NameMap.contains_union_iff.trans (or_iff_right Bool.false_ne_true)
  rw [hasField_object_iff, mergeParts_eq, hentries, NameMap.contains_iff_exists_mem]
  constructor
  · rintro ⟨value, hvalue⟩
    obtain ⟨members, hmembers, hmem⟩ := List.mem_flatten.1 hvalue
    obtain ⟨payload, hpayload, hobject⟩ := List.mem_filterMap.1 hmembers
    cases payload with
    | object =>
      cases hobject
      exact ⟨_, hpayload, members, rfl, NameMap.contains_iff_exists_mem.2 ⟨value, hmem⟩⟩
    | _ => cases hobject
  · rintro ⟨payload, hpayload, members, rfl, hname⟩
    obtain ⟨value, hmem⟩ := NameMap.contains_iff_exists_mem.1 hname
    exact ⟨value, List.mem_flatten.2 ⟨members, List.mem_filterMap.2 ⟨_, hpayload, rfl⟩, hmem⟩⟩

/-- The payload of a schema with parts. -/
theorem sampleWithin_of_parts {schema : Json} {parts : List Json} (h : shape schema = .parts parts)
    (left : Nat) : (sampleWithin document (left + 1) schema).value
      = .object (mergeParts (parts.map fun part => (sampleWithin document left part).value)) := by
  rw [sampleWithin, h]
  simp only [Warned.map, Warned.each_value]

/-- The payload of a schema with properties. -/
theorem sampleWithin_of_properties {schema : Json} {fields : Json.Members}
    (h : shape schema = .properties fields) (left : Nat) :
    (sampleWithin document (left + 1) schema).value
      = .object (fields.map fun m => (m.1, (sampleWithin document left m.2).value)) := by
  rw [sampleWithin, h]
  simp only [Warned.map, Warned.each_value]

/-! ## Wrappers -/

/-- A schema that only wraps another one. -/
def wrapping (schema : Json) : Json := .object [("allOf", .array [schema])]

/-- A schema that wraps another one and also allows null. -/
def nullableWrapping (schema : Json) : Json :=
  .object [("allOf", .array [schema]), ("nullable", .bool true)]

/-- A wrapper is a schema of a single part. -/
theorem shape_wrapping (schema : Json) : shape (wrapping schema) = .parts [schema] := rfl

/-- Allowing null says nothing about the payload, so parts count as without it. -/
theorem shape_nullableWrapping (schema : Json) :
    shape (nullableWrapping schema) = .parts [schema] := rfl

/-- Merging a single payload keeps it if it is an object, and else makes an empty object. -/
theorem mergeParts_singleton {payload : Json} (h : payload.Canonical) :
    (∃ members, payload = .object members) ∧ .object (mergeParts [payload]) = payload ∨
      (∀ members, payload ≠ .object members) ∧ mergeParts [payload] = [] := by
  cases payload with
  | object members =>
    have hmerged : mergeParts [.object members] = members :=
      NameMap.ofEntries_of_sorted (Json.canonical_object_iff.1 h).1
    exact .inl ⟨⟨members, rfl⟩, congrArg _ hmerged⟩
  | _ => exact .inr ⟨nofun, rfl⟩

/-- The normal form of a wrapper is that of what it wraps; a wrapper that allows null stays one. -/
theorem normalizeValue_wrapping (schema : Json) :
    (Normal.normalizeValue (wrapping schema)).value = (Normal.normalizeValue schema).value ∧
    (Normal.normalizeValue (nullableWrapping schema)).value
      = nullableWrapping (Normal.normalizeValue schema).value := by
  constructor
  · rw [Normal.normalizeValue, wrapping, Normal.nesting_wrapper, Normal.normalizeWithin_wrapping,
      Normal.normalizeWithin_eq_normalizeValue (Nat.le_succ _)]
  · -- Its second member keeps the nullable wrapper from being one, so its parts are normalized in it.
    have hwrapper : ¬ Normal.IsWrapper (nullableWrapping schema) := by
      rintro ⟨inner, hinner⟩
      cases hinner
    have hnesting : (nullableWrapping schema).nesting = schema.nesting + 2 := by
      simp [nullableWrapping, Json.nesting, Json.nestingOfMembers, Json.nestingOfItems]
    rw [Normal.normalizeValue, hnesting, nullableWrapping, Normal.normalizeWithin_object hwrapper]
    rfl

/-- **Wrapping a schema keeps its payload exactly if that is an object.** The schema is such that it
needs one level less than there are. Document and schema are canonical, as all values are that were
read from a text (`Json.canonical_of_read?`). Of a text, a number, a list or anything else that is no
object the wrapper leaves an empty object, whether or not it allows null, although normalizing a
document puts the wrapped schema in the place of a wrapper that does not. -/
theorem sample_wrapping_eq_iff (hdocument : Json.Canonical document) {schema value : Json}
    (hschema : Json.Canonical schema) (h : YieldsWithin document 7 schema value) :
    (sample document schema).value = value ∧
    (∀ wrapper ∈ [wrapping schema, nullableWrapping schema],
      ((sample document wrapper).value = value ↔ ∃ members, value = .object members) ∧
      ((∀ members, value ≠ .object members) → (sample document wrapper).value = .object [])) ∧
    (Normal.normalizeValue (wrapping schema)).value = (Normal.normalizeValue schema).value ∧
    (Normal.normalizeValue (nullableWrapping schema)).value
      = nullableWrapping (Normal.normalizeValue schema).value := by
  -- The wrapper takes one of the nine levels, and the derivation fits in the other eight.
  have hvalue : (sampleWithin document 8 schema).value = value :=
    sampleWithin_of_yieldsWithin (by decide) h
  have hcanonical : value.Canonical := hvalue ▸ canonical_sampleWithin hdocument hschema 8
  refine ⟨sampleWithin_of_yieldsWithin (by decide) h, fun wrapper hwrapper => ?_,
    normalizeValue_wrapping schema⟩
  have hshape : shape wrapper = .parts [schema] := by
    rcases List.mem_pair.1 hwrapper with rfl | rfl
    · exact shape_wrapping schema
    · exact shape_nullableWrapping schema
  have hsample : (sample document wrapper).value = .object (mergeParts [value]) := by
    rw [← hvalue]
    exact sampleWithin_of_parts hshape 8
  rw [hsample]
  rcases mergeParts_singleton hcanonical with ⟨hobject, hmerged⟩ | ⟨hother, hmerged⟩
  · obtain ⟨members, rfl⟩ := hobject
    exact ⟨iff_of_true hmerged ⟨members, rfl⟩, fun hnone => absurd rfl (hnone members)⟩
  · rw [hmerged]
    refine ⟨iff_of_false (fun heq => hother [] heq.symm) fun ⟨members, heq⟩ => ?_, fun _ => rfl⟩
    exact hother members heq

/-- The schema of a title. -/
def title : Json := .object [("type", .string "string")]

/-- The schema of something with a title. -/
def titled : Json := .object [("properties", .object [("title", title)])]

/-- The payload of an object is kept by its wrappers. -/
theorem sample_wrapping_eq_iff_titled :
    (sample (.object []) (nullableWrapping titled)).value
      = .object [("title", .string "string")] := by
  have htitled : YieldsWithin (.object []) 7 titled (.object [("title", .string "string")]) :=
    .step rfl (.properties rfl (.cons (.step rfl (.prescribed _)) .nil))
  exact ((sample_wrapping_eq_iff (by decide) (by decide) htitled).2.1 (nullableWrapping titled)
    (List.mem_pair.2 (.inr rfl))).1.2 ⟨_, rfl⟩

/-- The payload of a text is not. -/
theorem sample_wrapping_title_ne : YieldsWithin (.object []) 7 title (.string "string") ∧
    (sample (.object []) title).value = .string "string" ∧
    (sample (.object []) (wrapping title)).value = .object [] ∧
    (sample (.object []) (nullableWrapping title)).value = .object [] :=
  ⟨.step rfl (.prescribed _), rfl, rfl, rfl⟩

/-! ## Properties beside parts -/

/-- A schema with properties that says nothing else about its payload, except that it may be an object
and have parts. -/
structure ListsFields (schema : Json) (fields : Json.Members) : Prop where
  properties : schema.get? "properties" = some (.object fields)
  noExample : schema.get? "example" = none
  noReference : schema.get? "$ref" = none
  noOneOf : schema.get? "oneOf" = none
  noAnyOf : schema.get? "anyOf" = none
  noEnum : schema.get? "enum" = none
  type : ∀ type, textMember? schema "type" = some type → type = "object"

/-- Parts count before properties. -/
theorem ListsFields.shape_eq {schema : Json} {fields : Json.Members} (h : ListsFields schema fields) :
    shape schema = match listMember? schema "allOf" with
      | some parts => .parts parts
      | none => .properties fields := by
  have hreference : textMember? schema "$ref" = none := by rw [textMember?, h.noReference]; rfl
  have halternative : alternative? schema = none := by
    rw [alternative?, firstOf?, listMember?, h.noOneOf, firstOf?, listMember?, h.noAnyOf]
    rfl
  have henum : firstOf? schema "enum" = none := by rw [firstOf?, listMember?, h.noEnum]; rfl
  have harray : textMember? schema "type" ≠ some "array" := fun heq =>
    absurd (h.type _ heq) (by decide)
  -- Of the types only those of single values have a payload of their own, and an object is none of
  -- them.
  have hsample : (textMember? schema "type").bind
      (typeSample? · (textMember? schema "format")) = none := by
    refine Option.bind_eq_none_iff.2 fun type htype => ?_
    rw [h.type type htype]
    rfl
  simp only [shape, h.noExample, hreference, halternative, henum, if_neg harray, hsample,
    h.properties]
  rfl

/-- A part of a schema has a payload with a field of this name, with one level less than there are. -/
def FieldOfPart (document : Document) (schema : Json) (name : String) : Prop :=
  ∃ parts, listMember? schema "allOf" = some parts ∧
    ∃ part ∈ parts, HasField (sampleWithin document 8 part).value name

/-- The fields are those of the parts if there are parts, and else those of the properties. -/
theorem ListsFields.hasField_iff {schema : Json} {fields : Json.Members}
    (h : ListsFields schema fields) (document : Document) :
    (∃ payload, (sample document schema).value = .object payload) ∧
    ∀ name, HasField (sample document schema).value name ↔ FieldOfPart document schema name ∨
      listMember? schema "allOf" = none ∧ fields.contains name = true := by
  have hshape := h.shape_eq
  cases hparts : listMember? schema "allOf" with
  -- Parts come first, and then the properties are never looked at.
  | some parts =>
    rw [hparts] at hshape
    have hsample : (sample document schema).value = _ := sampleWithin_of_parts hshape 8
    rw [hsample]
    refine ⟨⟨_, rfl⟩, fun name => ?_⟩
    have hpart : FieldOfPart document schema name ↔
        ∃ part ∈ parts, HasField (sampleWithin document 8 part).value name := by
      simp only [FieldOfPart, hparts, Option.some.injEq, exists_eq_left']
    rw [hasField_mergeParts_iff, hpart]
    simp only [List.mem_map, exists_exists_and_eq_and, reduceCtorEq, false_and, or_false]
  | none =>
    rw [hparts] at hshape
    have hsample : (sample document schema).value = _ := sampleWithin_of_properties hshape 8
    have hpart : ∀ name, ¬ FieldOfPart document schema name := by
      rintro name ⟨parts, hsome, -⟩
      cases hparts.symm.trans hsome
    rw [hsample]
    refine ⟨⟨_, rfl⟩, fun name => ?_⟩
    have hnames := NameMap.contains_map
      (fun _ field => (sampleWithin document 8 field).value) fields name
    rw [hasField_object_iff, hnames, or_iff_right (hpart name), and_iff_right rfl]

/-- **A schema with properties has all its fields unless there are parts that lack some.** The payload
is an object, and its fields are those of the parts if the schema has a list of parts, and else those
of its properties. So they are the fields of both together exactly if there is no list of parts, or if
each of the properties is a field of a part as well. -/
theorem hasField_sample_iff (document : Document) {schema : Json} {fields : Json.Members}
    (h : ListsFields schema fields) :
    (∃ payload, (sample document schema).value = .object payload) ∧
    (∀ name, HasField (sample document schema).value name ↔ FieldOfPart document schema name ∨
      listMember? schema "allOf" = none ∧ fields.contains name = true) ∧
    ((∀ name, HasField (sample document schema).value name ↔
        fields.contains name = true ∨ FieldOfPart document schema name) ↔
      listMember? schema "allOf" = none ∨
        ∀ name, fields.contains name = true → FieldOfPart document schema name) := by
  obtain ⟨hobject, hfields⟩ := h.hasField_iff document
  refine ⟨hobject, hfields, ?_⟩
  simp only [hfields]
  cases hparts : listMember? schema "allOf" with
  | none => simp only [true_and, true_or, or_comm, implies_true]
  | some parts =>
    simp only [reduceCtorEq, false_and, or_false, false_or]
    -- With parts, the fields are those of the parts alone, so both agree exactly if they have all
    -- others.
    refine forall_congr' fun name => ⟨fun hiff hown => hiff.2 (.inl hown), fun hown => ?_⟩
    exact (or_iff_right_of_imp hown).symm

/-- A schema with a title of its own and a part with a number. -/
def numbered : Json := .object [
  ("allOf", .array [
    .object [("properties", .object [("number", .object [("type", .string "integer")])])]]),
  ("properties", .object [("title", title)])]

/-- The schema of the number says nothing about its payload besides its parts and properties. -/
theorem numbered_listsFields : ListsFields numbered [("title", title)] where
  properties := rfl
  noExample := rfl
  noReference := rfl
  noOneOf := rfl
  noAnyOf := rfl
  noEnum := rfl
  type := nofun

/-- The number has the field of its part, and not the title of its own. -/
theorem hasField_sample_iff_numbered : HasField (sample (.object []) numbered).value "number" ∧
    ¬ HasField (sample (.object []) numbered).value "title" := by
  have hfields := (hasField_sample_iff (.object []) numbered_listsFields).2.1
  refine ⟨(hfields "number").2 (.inl ⟨_, rfl, _, List.mem_singleton.2 rfl, _, rfl, rfl⟩), ?_⟩
  rw [hfields]
  rintro (⟨parts, hparts, part, hpart, members, hmembers, hname⟩ | ⟨hnone, -⟩)
  · cases hparts
    rw [List.mem_singleton.1 hpart] at hmembers
    cases hmembers
    cases hname
  · cases hnone

/-- The payload of the number lacks its title, a field of its properties. -/
theorem sample_numbered_lacks_title : ListsFields numbered [("title", title)] ∧
    (sample (.object []) numbered).value = .object [("number", .number (.integer 0))] ∧
    ¬ ∀ name, HasField (sample (.object []) numbered).value name ↔
      NameMap.contains [("title", title)] name = true ∨
        FieldOfPart (.object []) numbered name := by
  refine ⟨numbered_listsFields, rfl, fun hall => ?_⟩
  obtain ⟨members, hmembers, hname⟩ := (hall "title").2 (.inl rfl)
  cases hmembers
  cases hname

end ClientStyle.Schema
