/-
The names of fields.

The properties of a schema are a map from the names of fields to schemas, and a field may have any
name. What normalizing does to the schema of a field depends on its name in one case only: under the
name `properties` the schema is taken for such a map itself, and its examples for schemas of fields.
So two names are treated alike if both are `properties` or none is, or if the examples of the schema
are as normalizing would leave schemas.
-/
import ClientStyle.Proofs.Unchanged

set_option autoImplicit false

namespace ClientStyle.Normal

/-! ## A schema with one field -/

/-- A schema whose properties are one field, with its other members. -/
def withField (others : Json.Members) (name : String) (schema : Json) : Json :=
  .object (NameMap.insert others "properties" (.object [(name, schema)]))

/-- The reports on the members of a map together, with this one in the place of the member under a
name. -/
def reportWith (f : String → Json → Reported Json) (members : Json.Members) (name : String)
    (report : Report) : Report :=
  Report.total
    ((NameMap.insert (members.map fun m => (m.1, (f m.1 m.2).report)) name report).map (·.2))

/-- Adding a member changes the outcome at this member only, in value and report. -/
theorem eachMember_insert (f : String → Json → Reported Json) (members : Json.Members)
    (name : String) (value : Json) : eachMember f (members.insert name value) =
      ⟨NameMap.insert (eachMember f members).value name (f name value).value,
        reportWith f members name (f name value).report⟩ := by
  have hvalue : (eachMember f (members.insert name value)).value
      = NameMap.insert (eachMember f members).value name (f name value).value := by
    rw [eachMember_value, eachMember_value]
    exact NameMap.map_insert (fun name value => (f name value).value) members name value
  have hreport : (eachMember f (members.insert name value)).report
      = reportWith f members name (f name value).report := by
    rw [eachMember_report, reportWith, ← NameMap.map_insert (fun name value => (f name value).report),
      List.map_map]
    rfl
  calc eachMember f (members.insert name value)
      = ⟨(eachMember f (members.insert name value)).value,
          (eachMember f (members.insert name value)).report⟩ := rfl
    _ = _ := by rw [hvalue, hreport]

/-- A member behind the example has no part in promoting one. -/
theorem promoteExample_insert {name : String} (hbehind : "example" < name)
    (hname : name ≠ "examples") (members : Json.Members) (value : Json) :
    promoteExample (members.insert name value) =
      ⟨NameMap.insert (promoteExample members).value name value,
        (promoteExample members).report⟩ := by
  have hne : "example" ≠ name := fun heq => String.lt_irrefl name (heq ▸ hbehind)
  have hcontains : NameMap.contains (members.insert name value) "example"
      = members.contains "example" := by
    rw [NameMap.contains, NameMap.find?_insert_of_ne hne, NameMap.contains]
  unfold promoteExample
  rw [hcontains, NameMap.find?_insert_of_ne hname.symm]
  split
  · rfl
  · split
    · rw [NameMap.insert_comm hbehind]
    · rfl

/-- The map of one field is normalized by normalizing the schema of the field. -/
theorem normalizeWithin_field (depth : Nat) (name : String) (members : Json.Members) :
    normalizeWithin (depth + 1) true (.object [(name, .object members)]) =
      ⟨.object [(name, (normalizeWithin depth (name == "properties") (.object members)).value)],
        (normalizeWithin depth (name == "properties") (.object members)).report⟩ := by
  -- The only member is an object, whatever its name: it is no list of one part, no prose and no list
  -- of examples. That is why the map itself never depends on the name.
  have hwrapper : ¬ IsWrapper (.object [(name, .object members)]) := by
    rintro ⟨schema, hschema⟩
    cases hschema
  have htidied : eachMember tidyMember [(name, .object members)]
      = ⟨[(name, .object members)], .none⟩ :=
    eachMember_eq_self fun m hm => by rw [List.mem_singleton.1 hm]; rfl
  have hpromoted : promoteExample [(name, .object members)] = ⟨[(name, .object members)], .none⟩ := by
    refine promoteExample_eq_self (.inr fun first rest hexamples => ?_)
    cases List.mem_singleton.1 (NameMap.mem_of_find?_eq_some hexamples)
  have hprepared : prepared [(name, .object members)] = [(name, .object members)] := by
    rw [prepared, htidied, hpromoted]
  have hinner : normalizeMember depth true name (.object members)
      = normalizeWithin depth (name == "properties") (.object members) := by
    rw [normalizeMember, Bool.not_true, Bool.and_false]
    rfl
  rw [normalizeWithin_object hwrapper, hprepared, htidied, hpromoted, ← hinner]
  simp [eachMember, Report.total, Report.add_def, Report.none]

/-- What becomes of the other members, and what is reported on them, does not depend on the field. -/
theorem exists_normalizeWithin_withField (others : Json.Members) (depth : Nat)
    (inProperties : Bool) : ∃ (others' : Json.Members) (around : Report → Report),
      ∀ (name : String) (members : Json.Members),
        normalizeWithin (depth + 2) inProperties (withField others name (.object members)) =
          ⟨withField others' name
              (normalizeWithin depth (name == "properties") (.object members)).value,
            around (normalizeWithin depth (name == "properties") (.object members)).report⟩ := by
  refine ⟨(eachMember (normalizeMember (depth + 1) inProperties) (prepared others)).value,
    fun report => reportWith tidyMember others "properties" .none
      + (promoteExample (eachMember tidyMember others).value).report
      + reportWith (normalizeMember (depth + 1) inProperties) (prepared others) "properties" report,
    fun name members => ?_⟩
  have hwrapper := not_isWrapper_insert (by decide : "properties" ≠ "allOf") others
    (.object [(name, .object members)])
  have hprepared : prepared (NameMap.insert others "properties" (.object [(name, .object members)]))
      = NameMap.insert (prepared others) "properties" (.object [(name, .object members)]) := by
    rw [prepared, eachMember_insert, promoteExample_insert (by decide) (by decide)]
    rfl
  -- The map of fields is a member like others, but what is in it is taken for fields.
  have hmember : normalizeMember (depth + 1) inProperties "properties"
      (.object [(name, .object members)])
        = normalizeWithin (depth + 1) true (.object [(name, .object members)]) := rfl
  rw [withField, normalizeWithin_object hwrapper, hprepared,
    eachMember_insert (normalizeMember (depth + 1) inProperties), hmember, normalizeWithin_field,
    eachMember_insert tidyMember, promoteExample_insert (by decide) (by decide)]
  rfl

/-! ## Example payloads -/

/-- A value stands under a name for examples in a schema, or in the schema inside wrappers. -/
inductive HoldsPayload : Json → Json → Prop
  | member {members : Json.Members} {m : String × Json} (hname : isExample m.1 = true)
      (hmem : m ∈ members) : HoldsPayload (.object members) m.2
  | wrapped {schema payload : Json} (h : HoldsPayload schema payload) :
      HoldsPayload (.object [("allOf", .array [schema])]) payload

/-- All examples of a schema are such that normalizing would leave them alone. -/
def PayloadsNormal (schema : Json) : Prop :=
  ∀ payload, HoldsPayload schema payload → (normalizeValue payload).value = payload

/-- A wrapper has no example of its own, so its examples are those of the schema inside. -/
theorem payloadsNormal_wrapper_iff {schema : Json} :
    PayloadsNormal (.object [("allOf", .array [schema])]) ↔ PayloadsNormal schema := by
  constructor
  · exact fun h payload hpayload => h payload (.wrapped hpayload)
  · intro h payload hpayload
    cases hpayload with
    | @member _ m hname hmem =>
      rw [List.mem_singleton.1 hmem] at hname
      cases hname
    | wrapped hinner => exact h payload hinner

/-- There are two names for examples. -/
theorem eq_of_isExample {name : String} (h : isExample name = true) :
    name = "example" ∨ name = "examples" := by
  rw [isExample, Bool.or_eq_true] at h
  exact h.imp of_decide_eq_true of_decide_eq_true

/-- Neither of them stands for prose, so tidying does not touch what stands under them. -/
theorem not_isProse_of_isExample {name : String} (h : isExample name = true) :
    isProse name = false := by
  rcases eq_of_isExample h with rfl | rfl <;> decide

/-- Preparing leaves what stands under the names for examples. -/
theorem find?_prepared_of_isExample {members : Json.Members} {name : String} {payload : Json}
    (hname : isExample name = true) (h : members.find? name = some payload) :
    NameMap.find? (prepared members) name = some payload := by
  rw [find?_prepared_of_find? h, tidyMember_of_not_isProse (not_isProse_of_isExample hname)]

/-- What stands under a name for examples is still there after preparing, whatever was promoted: an
example is promoted only where there is none. -/
theorem mem_prepared_of_isExample {members : Json.Members} {m : String × Json}
    (hname : isExample m.1 = true) (h : m ∈ members) : m ∈ prepared members := by
  have htidied : m ∈ (eachMember tidyMember members).value := by
    rw [eachMember_value]
    refine List.mem_map.2 ⟨m, h, ?_⟩
    rw [tidyMember_of_not_isProse (not_isProse_of_isExample hname)]
  rcases promoteExample_value (eachMember tidyMember members).value with
    hsame | ⟨hnone, first, rest, -, hinsert⟩
  · rw [prepared, hsame]
    exact htidied
  · have hne : m.1 ≠ "example" := fun heq => by
      rw [NameMap.contains_iff_exists_mem.2 ⟨m.2, heq ▸ htidied⟩] at hnone
      cases hnone
    rw [prepared, hinsert]
    exact NameMap.mem_insert_of_mem htidied hne first

/-- An array that normalizing leaves alone has items that it leaves alone. -/
theorem normalizeValue_item_eq {items : List Json}
    (h : (normalizeValue (.array items)).value = .array items) {item : Json} (hitem : item ∈ items) :
    (normalizeValue item).value = item := by
  have hnesting := Json.nestingOfItems_le_iff.1 (Nat.le_refl _) item hitem
  rw [← normalizeWithin_eq_normalizeValue hnesting]
  exact forall_normalizeWithin_eq_of_array h item hitem

/-- An example that was promoted stands in the list of examples, and is left alone with it. -/
theorem PayloadsNormal.of_mem_prepared {members : Json.Members}
    (h : PayloadsNormal (.object members)) {m : String × Json} (hname : isExample m.1 = true)
    (hm : m ∈ prepared members) : (normalizeValue m.2).value = m.2 := by
  rcases mem_prepared hm with ⟨value, hvalue, htidied⟩ | ⟨-, -, rest, hexamples⟩
  · rw [tidyMember_of_not_isProse (not_isProse_of_isExample hname)] at htidied
    rw [htidied]
    exact h value (.member (m := (m.1, value)) hname hvalue)
  · have hlist := h _ (.member (m := ("examples", _)) rfl (NameMap.mem_of_find?_eq_some hexamples))
    exact normalizeValue_item_eq hlist (List.mem_cons_self ..)

/-- What stands under a name for examples stays as it is, unless the names are those of fields. -/
theorem normalizeMember_of_isExample {name : String} (h : isExample name = true) (depth : Nat)
    (inProperties : Bool) (value : Json) : normalizeMember depth inProperties name value
      = if inProperties then normalizeWithin depth false value else ⟨value, .none⟩ := by
  have hname : (name == "properties") = false := by
    rcases eq_of_isExample h with rfl | rfl <;> decide
  rw [normalizeMember, h, hname]
  cases inProperties <;> rfl

/-- What stands under any other name is normalized wherever it stands. -/
theorem normalizeMember_of_not_isExample {name : String} (h : isExample name = false) (depth : Nat)
    (inProperties : Bool) (value : Json) : normalizeMember depth inProperties name value
      = normalizeWithin depth (name == "properties") value := by
  rw [normalizeMember, h]
  rfl

/-- If a schema becomes the same whether or not it is taken for a map of fields, its examples are
left alone also as schemas. -/
theorem payloadsNormal_of_value_eq {schema : Json} {depth : Nat} (hdepth : schema.nesting ≤ depth)
    (h : (normalizeWithin depth true schema).value = (normalizeWithin depth false schema).value) :
    PayloadsNormal schema := by
  -- The induction goes down through the wrappers. In the object inside them it is the members for
  -- examples, and no others, that the two runs may treat differently.
  induction depth generalizing schema with
  | zero =>
    intro payload hpayload
    cases hpayload with
    | member => cases hdepth
    | wrapped => cases hdepth
  | succ depth ih =>
    cases schema with
    | object members =>
      by_cases hwrapper : IsWrapper (.object members)
      · obtain ⟨inner, hinner⟩ := hwrapper
        rw [hinner, nesting_wrapper] at hdepth
        rw [hinner] at h ⊢
        exact payloadsNormal_wrapper_iff.2 (ih (by omega) h)
      · intro payload hpayload
        cases hpayload with
        | @member _ m hname hmem =>
          have hmembers := Json.nesting_object_le_iff.1 hdepth
          rw [normalizeWithin_object hwrapper, normalizeWithin_object hwrapper, Json.object.injEq,
            eachMember_value, eachMember_value] at h
          have hm := List.map_inj_left.1 h m (mem_prepared_of_isExample hname hmem)
          rw [normalizeMember_of_isExample hname, normalizeMember_of_isExample hname,
            if_pos rfl, if_neg Bool.false_ne_true] at hm
          rw [← normalizeWithin_eq_normalizeValue (hmembers m hmem)]
          exact (Prod.mk.inj hm).2
        | wrapped => exact absurd ⟨_, rfl⟩ hwrapper
    | array items => exact fun payload hpayload => by cases hpayload
    | _ => exact fun payload hpayload => by cases hpayload

/-- If the examples of a schema are left alone also as schemas, it makes no difference whether the
schema is taken for a map of fields. -/
theorem normalizeWithin_eq_of_payloadsNormal {schema : Json} {depth : Nat}
    (hdepth : schema.nesting ≤ depth) (h : PayloadsNormal schema) :
    normalizeWithin depth true schema = normalizeWithin depth false schema := by
  induction depth generalizing schema with
  | zero => rfl
  | succ depth ih =>
    cases schema with
    | object members =>
      by_cases hwrapper : IsWrapper (.object members)
      · obtain ⟨inner, hinner⟩ := hwrapper
        rw [hinner, nesting_wrapper] at hdepth
        rw [hinner] at h ⊢
        rw [normalizeWithin_wrapping, normalizeWithin_wrapping,
          ih (by omega) (payloadsNormal_wrapper_iff.1 h)]
      · have hmembers := Json.nesting_object_le_iff.1 hdepth
        have heach : eachMember (normalizeMember depth true) (prepared members)
            = eachMember (normalizeMember depth false) (prepared members) := by
          refine eachMember_congr fun m hm => ?_
          cases hname : isExample m.1 with
          | false =>
            rw [normalizeMember_of_not_isExample hname, normalizeMember_of_not_isExample hname]
          | true =>
            rw [normalizeMember_of_isExample hname, normalizeMember_of_isExample hname, if_pos rfl,
              if_neg Bool.false_ne_true]
            -- The one run normalizes the payload and the other one does not; it is normal, so this is
            -- the same.
            refine normalizeWithin_eq_self ?_
            rw [normalizeWithin_eq_normalizeValue (nesting_prepared hmembers m hm)]
            exact h.of_mem_prepared hname hm
        rw [normalizeWithin_object hwrapper, normalizeWithin_object hwrapper, heach]
    | array items => rfl
    | _ => rfl

/-! ## The name of a field -/

/-- Under two names the schema of a field becomes the same value, and so does all else around it, with
the same report. -/
def NamesAlike (depth : Nat) (inProperties : Bool) (others : Json.Members) (schema : Json)
    (name name' : String) : Prop :=
  ∃ (others' : Json.Members) (schema' : Json) (report : Report),
    normalizeWithin depth inProperties (withField others name schema)
      = ⟨withField others' name schema', report⟩ ∧
    normalizeWithin depth inProperties (withField others name' schema)
      = ⟨withField others' name' schema', report⟩

/-- What stands under a name in the schema of a field. -/
def fieldMember? (value : Json) (field name : String) : Option Json :=
  ((value.get? "properties").bind (·.get? field)).bind (·.get? name)

/-- The member is found through the properties, by the name of the field. -/
theorem fieldMember?_withField (others : Json.Members) (field : String) (schema : Json)
    (name : String) : fieldMember? (withField others field schema) field name = schema.get? name := by
  have hproperties : (withField others field schema).get? "properties"
      = some (.object [(field, schema)]) := NameMap.find?_insert_self ..
  have hfield : Json.get? (.object [(field, schema)]) field = some schema := by
    rw [Json.get?, NameMap.find?_cons, if_pos rfl]
  rw [fieldMember?, hproperties, Option.bind_some, hfield, Option.bind_some]

/-- The field can be read off the schema, so equal schemas have equal fields. -/
theorem withField_inj {others others' : Json.Members} {field : String} {schema schema' : Json}
    (h : withField others field schema = withField others' field schema') : schema = schema' := by
  have hproperties : some (Json.object [(field, schema)]) = some (.object [(field, schema')]) := by
    rw [← NameMap.find?_insert_self others "properties", Json.object.inj h,
      NameMap.find?_insert_self]
  cases hproperties
  rfl

/-- The schema of a field nests two levels less than the schema around it. -/
theorem nesting_of_withField_le {others members : Json.Members} {field : String} {depth : Nat}
    (h : (withField others field (.object members)).nesting ≤ depth) :
    ∃ inner, depth = inner + 2 ∧ (Json.object members).nesting ≤ inner := by
  -- Both the schema around the field and the map of its properties are objects, so they take a level.
  obtain ⟨depth, rfl⟩ := Nat.exists_eq_add_of_le' (Nat.le_of_add_left_le h)
  have hmap := Json.nesting_object_le_iff.1 h _ (NameMap.mem_insert_self ..)
  obtain ⟨depth, rfl⟩ := Nat.exists_eq_add_of_le' (Nat.le_of_add_left_le hmap)
  exact ⟨depth, rfl, Json.nesting_object_le_iff.1 hmap _ (List.mem_singleton.2 rfl)⟩

/-- A schema becomes the same whether or not it is taken for a map of fields only if its examples are
left alone either way. -/
theorem eq_or_payloadsNormal_of_value_eq {schema : Json} {depth : Nat}
    (hdepth : schema.nesting ≤ depth) {inProperties inProperties' : Bool}
    (h : (normalizeWithin depth inProperties schema).value
      = (normalizeWithin depth inProperties' schema).value) :
    inProperties = inProperties' ∨ PayloadsNormal schema := by
  cases inProperties with
  | false =>
    cases inProperties' with
    | false => exact .inl rfl
    | true => exact .inr (payloadsNormal_of_value_eq hdepth h.symm)
  | true =>
    cases inProperties' with
    | false => exact .inr (payloadsNormal_of_value_eq hdepth h)
    | true => exact .inl rfl

/-- The other direction: with the same flag, or with examples that are left alone either way, a schema
becomes the same. -/
theorem normalizeWithin_eq_of_eq_or_payloadsNormal {schema : Json} {depth : Nat}
    (hdepth : schema.nesting ≤ depth) {inProperties inProperties' : Bool}
    (h : inProperties = inProperties' ∨ PayloadsNormal schema) :
    normalizeWithin depth inProperties schema = normalizeWithin depth inProperties' schema := by
  rcases h with rfl | hnormal
  · rfl
  · have heq := normalizeWithin_eq_of_payloadsNormal hdepth hnormal
    cases inProperties with
    | false =>
      cases inProperties' with
      | false => rfl
      | true => exact heq.symm
    | true =>
      cases inProperties' with
      | false => exact heq
      | true => rfl

/-- A payload is found where it was, normalized only if its schema is taken for a map of fields. -/
theorem get?_normalizeWithin_of_isExample {members : Json.Members} {key : String} {payload : Json}
    (hkey : isExample key = true) (h : members.find? key = some payload) {depth : Nat}
    (hdepth : (Json.object members).nesting ≤ depth) (inProperties : Bool) :
    (normalizeWithin depth inProperties (.object members)).value.get? key
      = some (if inProperties then (normalizeValue payload).value else payload) := by
  -- A wrapper has no member for examples.
  have hwrapper : ¬ IsWrapper (.object members) := by
    rintro ⟨schema, hschema⟩
    cases hschema
    cases List.mem_singleton.1 (NameMap.mem_of_find?_eq_some h)
    cases hkey
  obtain ⟨depth, rfl⟩ := Nat.exists_eq_add_of_le' (Nat.le_of_add_left_le hdepth)
  have hpayload := Json.nesting_object_le_iff.1 hdepth _ (NameMap.mem_of_find?_eq_some h)
  rw [normalizeWithin_object hwrapper, Json.get?, find?_eachMember,
    find?_prepared_of_isExample hkey h, Option.map_some, normalizeMember_of_isExample hkey,
    ← normalizeWithin_eq_normalizeValue hpayload]
  cases inProperties <;> rfl

/-- **The name of a field matters only where it is `properties`.** Whatever the other members of a
schema, and wherever it stands, two names for its field are treated alike exactly if both are
`properties` or none is, or if normalizing would leave the examples of the field alone as schemas. An
example of the field stays as it is under every name but `properties`, and under that name exactly if
normalizing would leave it alone. -/
theorem namesAlike_iff {others members : Json.Members} {name : String} {depth : Nat}
    (hdepth : (withField others name (.object members)).nesting ≤ depth) (inProperties : Bool) :
    (∀ name', NamesAlike depth inProperties others (.object members) name name' ↔
      (name = "properties" ↔ name' = "properties") ∨ PayloadsNormal (.object members)) ∧
    (∀ key payload, isExample key = true → members.find? key = some payload →
      (fieldMember? (normalizeWithin depth inProperties
          (withField others name (.object members))).value name key = some payload ↔
        name ≠ "properties" ∨ (normalizeValue payload).value = payload)) := by
  obtain ⟨inner, rfl, hinner⟩ := nesting_of_withField_le hdepth
  obtain ⟨others', around, hnormal⟩ := exists_normalizeWithin_withField others inner inProperties
  have hflags : ∀ name', (name == "properties") = (name' == "properties") ↔
      (name = "properties" ↔ name' = "properties") := fun name' => by
    rw [Bool.eq_iff_iff, beq_iff_eq, beq_iff_eq]
  refine ⟨fun name' => ⟨?_, fun h => ?_⟩, fun key payload hkey hpayload => ?_⟩
  · -- The flag that the schema is normalized with is whether its field is called `properties`.
    rintro ⟨others'', schema', report, h, h'⟩
    rw [hnormal] at h h'
    -- Both are the schema that the two normal forms share.
    have hschema := withField_inj (congrArg Reported.value h)
    have hschema' := withField_inj (congrArg Reported.value h')
    exact (eq_or_payloadsNormal_of_value_eq hinner (hschema.trans hschema'.symm)).imp_left
      (hflags name').1
  · have hsame := normalizeWithin_eq_of_eq_or_payloadsNormal hinner (h.imp_left (hflags name').2)
    refine ⟨others', _, _, hnormal name members, ?_⟩
    rw [hnormal name' members, hsame]
  · rw [hnormal, fieldMember?_withField, get?_normalizeWithin_of_isExample hkey hpayload hinner,
      Option.some.injEq]
    by_cases hname : name = "properties"
    · rw [if_pos (beq_iff_eq.2 hname), or_iff_right (not_not.2 hname)]
    · rw [if_neg (by rwa [beq_iff_eq])]
      exact iff_of_true rfl (.inl hname)

/-- The schema of a video, with an example whose description has blanks around it. -/
def videoSchema : Json.Members := [("example", .object [("description", .string " A video ")])]

/-- Even the name of a member for examples is as good as any other. -/
theorem namesAlike_iff_video : (withField [] "video" (.object videoSchema)).nesting ≤ 4 ∧
    NamesAlike 4 false [] (.object videoSchema) "video" "example" ∧
    fieldMember? (normalizeWithin 4 false (withField [] "video" (.object videoSchema))).value
      "video" "example" = some (.object [("description", .string " A video ")]) := by
  have hdepth : (withField [] "video" (.object videoSchema)).nesting ≤ 4 := by decide
  refine ⟨hdepth, ?_, ?_⟩
  · exact ((namesAlike_iff hdepth false).1 "example").2 (.inl (by decide))
  · exact ((namesAlike_iff hdepth false).2 "example" _ rfl rfl).2 (.inl (by decide))

/-- Under the name `properties` the example of the video is tidied, and under another name it is
not. -/
theorem not_namesAlike_properties : (withField [] "properties" (.object videoSchema)).nesting = 4 ∧
    ¬ NamesAlike 4 false [] (.object videoSchema) "properties" "video" ∧
    fieldMember? (normalizeWithin 4 false (withField [] "properties" (.object videoSchema))).value
      "properties" "example" = some (.object [("description", .string "A video")]) := by
  refine ⟨by decide, ?_, rfl⟩
  rintro ⟨others', schema', report, h, h'⟩
  have hreport : (normalizeWithin 4 false (withField [] "properties" (.object videoSchema))).report
      = (normalizeWithin 4 false (withField [] "video" (.object videoSchema))).report := by
    rw [h, h']
  exact absurd hreport (by decide)

end ClientStyle.Normal
