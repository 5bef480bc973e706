/-
The steps of normalizing an object.

An object that only wraps another one is passed over. The members of any other object are prepared,
which tidies the prose among them and promotes an example, and then normalized one by one. Here each
step is summed up: which members there are afterwards, when nothing is done, and that no step makes a
wrapper of an object.
-/
import ClientStyle.Normal
import ClientStyle.Proofs.Parts

set_option autoImplicit false

namespace ClientStyle.Normal

/-! ## Reports -/

namespace Report

theorem add_def (a b : Report) : a + b =
    ⟨a.texts + b.texts, a.examples + b.examples, a.hidden + b.hidden, a.collapsed + b.collapsed⟩ :=
  rfl

/-- Two reports add up to nothing only if both say nothing. -/
theorem add_eq_none_iff {a b : Report} : a + b = none ↔ a = none ∧ b = none := by
  obtain ⟨at', ae, ah, ac⟩ := a
  obtain ⟨bt, be, bh, bc⟩ := b
  simp only [add_def, none, mk.injEq]
  omega

/-- A run of steps did nothing exactly if no step did anything: reports count, so they cannot
cancel. -/
theorem total_eq_none_iff {rs : List Report} : total rs = none ↔ ∀ r ∈ rs, r = none := by
  induction rs with
  | nil => exact ⟨fun _ r hr => absurd hr List.not_mem_nil, fun _ => rfl⟩
  | cons r rs ih =>
    have htotal : total (r :: rs) = r + total rs := rfl
    rw [htotal, add_eq_none_iff, ih, List.forall_mem_cons]

end Report

theorem eachMember_value (f : String → Json → Reported Json) (members : Json.Members) :
    (eachMember f members).value = members.map fun m => (m.1, (f m.1 m.2).value) := by
  simp only [eachMember, List.map_map]
  rfl

theorem eachMember_report (f : String → Json → Reported Json) (members : Json.Members) :
    (eachMember f members).report = Report.total (members.map fun m => (f m.1 m.2).report) := by
  simp only [eachMember, List.map_map]
  rfl

/-- A step on members changes no name, so a member is found under its old one. -/
theorem find?_eachMember (f : String → Json → Reported Json) (members : Json.Members)
    (name : String) : NameMap.find? (eachMember f members).value name
      = (members.find? name).map fun value => (f name value).value := by
  rw [eachMember_value]
  exact NameMap.find?_map (fun name value => (f name value).value) members name

theorem contains_eachMember (f : String → Json → Reported Json) (members : Json.Members)
    (name : String) : NameMap.contains (eachMember f members).value name
      = members.contains name := by
  rw [eachMember_value]
  exact NameMap.contains_map (fun name value => (f name value).value) members name

/-- If nothing is to be done for any member, nothing is done. -/
theorem eachMember_eq_self {f : String → Json → Reported Json} {members : Json.Members}
    (h : ∀ m ∈ members, f m.1 m.2 = ⟨m.2, .none⟩) : eachMember f members = ⟨members, .none⟩ := by
  have hvalue : (eachMember f members).value = members := by
    rw [eachMember_value]
    refine (List.map_congr_left fun m hm => ?_).trans (List.map_id members)
    rw [h m hm]
    rfl
  have hreport : (eachMember f members).report = .none := by
    rw [eachMember_report, Report.total_eq_none_iff, List.forall_mem_map]
    exact fun m hm => by rw [h m hm]
  calc eachMember f members
      = ⟨(eachMember f members).value, (eachMember f members).report⟩ := rfl
    _ = ⟨members, .none⟩ := by rw [hvalue, hreport]

/-! ## Wrappers -/

/-- An object that does nothing but wrap a value. -/
def IsWrapper (value : Json) : Prop := ∃ schema, value = .object [("allOf", .array [schema])]

/-- The test of the program sees a wrapper exactly where there is one: a second member, or a second
item, and the object is no wrapper. -/
theorem wrapped?_eq_some_iff {members : Json.Members} {schema : Json} :
    wrapped? members = some schema ↔ members = [("allOf", .array [schema])] := by
  constructor
  · intro h
    unfold wrapped? at h
    split at h
    · cases h
      rfl
    · cases h
  · rintro rfl
    rfl

theorem wrapped?_eq_none_iff {members : Json.Members} :
    wrapped? members = none ↔ ¬ IsWrapper (.object members) := by
  -- Both sides say that there is no wrapped schema.
  rw [Option.eq_none_iff_forall_ne_some]
  constructor
  · rintro h ⟨schema, hschema⟩
    exact h schema (wrapped?_eq_some_iff.2 (Json.object.inj hschema))
  · intro h schema hschema
    exact h ⟨schema, congrArg _ (wrapped?_eq_some_iff.1 hschema)⟩

instance : DecidablePred IsWrapper
  | .object members => decidable_of_iff ((wrapped? members).isSome = true) (by
      simp only [Option.isSome_iff_exists, wrapped?_eq_some_iff, IsWrapper, Json.object.injEq])
  | .null | .bool _ | .number _ | .string _ | .array _ => isFalse (by rintro ⟨_, ⟨⟩⟩)

/-- Whatever is wrapped inside a value is an object. -/
def WrapsObjects (value : Json) : Prop :=
  ∀ schema, Json.Part (.object [("allOf", .array [schema])]) value →
    ∃ members, schema = .object members

/-- Whether a value is no wrapper of anything but an object. -/
def holdsObject : Json → Bool
  | .object [("allOf", .array [schema])] => schema.asObject?.isSome
  | _ => true

/-- The test reads nothing below the wrapped value, so `WrapsObjects` asks it of every part. -/
theorem holdsObject_iff {value : Json} : holdsObject value = true ↔
    ∀ schema, value = .object [("allOf", .array [schema])] →
      ∃ members, schema = .object members := by
  unfold holdsObject
  split
  · next schema =>
    cases schema with
    | object members => exact iff_of_true rfl fun _ h => by cases h; exact ⟨members, rfl⟩
    | _ =>
      -- Anything else than an object is wrapped.
      refine iff_of_false Bool.false_ne_true fun h => ?_
      obtain ⟨members, hmembers⟩ := h _ rfl
      cases hmembers
  · next hother => exact iff_of_true rfl fun schema h => absurd h (hother schema)

instance : DecidablePred WrapsObjects := fun value =>
  decidable_of_iff (∀ inner, Json.Part inner value → holdsObject inner = true) (by
    simp only [holdsObject_iff]
    exact ⟨fun h schema hpart => h _ hpart schema rfl, fun h inner hpart schema heq =>
      h schema (heq ▸ hpart)⟩)

theorem WrapsObjects.of_part {value part : Json} (h : WrapsObjects value)
    (hpart : Json.Part part value) : WrapsObjects part :=
  fun schema hinner => h schema (hinner.trans hpart)

theorem WrapsObjects.of_item {items : List Json} (h : WrapsObjects (.array items)) {item : Json}
    (hmem : item ∈ items) : WrapsObjects item := h.of_part (.item (.self item) hmem)

theorem WrapsObjects.of_member {members : Json.Members} (h : WrapsObjects (.object members))
    {m : String × Json} (hmem : m ∈ members) : WrapsObjects m.2 :=
  h.of_part (.member (.self m.2) hmem)

/-- A wrapper holds an object, inside which the same is true again. -/
theorem WrapsObjects.of_wrapper {schema : Json}
    (h : WrapsObjects (.object [("allOf", .array [schema])])) :
    (∃ members, schema = .object members) ∧ WrapsObjects schema := by
  refine ⟨h schema (.self _), ?_⟩
  have hlist : WrapsObjects (.array [schema]) := h.of_member (List.mem_singleton.2 rfl)
  exact hlist.of_item (List.mem_singleton.2 rfl)

theorem wrapsObjects_string (text : String) : WrapsObjects (.string text) := by
  intro schema hpart
  cases hpart

/-- What is wrapped inside an object is what it wraps itself, and what its members do. -/
theorem wrapsObjects_object {members : Json.Members} (hself : ¬ IsWrapper (.object members))
    (h : ∀ m ∈ members, WrapsObjects m.2) : WrapsObjects (.object members) := by
  intro schema hpart
  cases hpart with
  -- The part is the whole object, which wraps nothing.
  | self => exact absurd ⟨schema, rfl⟩ hself
  | member hpart hmem => exact h _ hmem schema hpart

/-- Changing the members of an object makes no wrapper of it if it makes no list of one item of
anything else. -/
theorem not_isWrapper_map {members : Json.Members} {f : String → Json → Json}
    (h : ¬ IsWrapper (.object members))
    (hf : ∀ m ∈ members, ∀ schema, f m.1 m.2 = .array [schema] → ∃ old, m.2 = .array [old]) :
    ¬ IsWrapper (.object (members.map fun m => (m.1, f m.1 m.2))) := by
  rintro ⟨schema, hschema⟩
  -- The new object has one member, so the old one had one too, under the same name.
  obtain ⟨⟨name, value⟩, rfl, hm⟩ := List.map_eq_singleton_iff.1 (Json.object.inj hschema)
  obtain ⟨hname, hvalue⟩ := Prod.mk.inj hm
  obtain ⟨old, hold⟩ := hf (name, value) (List.mem_singleton.2 rfl) schema hvalue
  simp only at hname hold
  exact h ⟨old, by rw [hname, hold]⟩

/-- A wrapper has one member only, which is called `allOf`. So an object with a member of another name
is none, and promoting an example makes none. -/
theorem not_isWrapper_insert {name : String} (h : name ≠ "allOf") (members : Json.Members)
    (value : Json) : ¬ IsWrapper (.object (NameMap.insert members name value)) := by
  rintro ⟨schema, hschema⟩
  have hmem := NameMap.mem_insert_self members name value
  rw [Json.object.inj hschema, List.mem_singleton] at hmem
  exact h (Prod.mk.inj hmem).1

/-! ## The members of an object -/

/-- The members of an object with tidy prose and with an example, before they are normalized
themselves. -/
def prepared (members : Json.Members) : Json.Members :=
  (promoteExample (eachMember tidyMember members).value).value

/-- A member of an object in normal form: an example payload stays as it is. -/
def normalizeMember (depth : Nat) (inProperties : Bool) (name : String) (value : Json) :
    Reported Json :=
  if isExample name && !inProperties then ⟨value, .none⟩
  else normalizeWithin depth (name == "properties") value

theorem normalizeWithin_wrapper (depth : Nat) (inProperties : Bool) (schema : Json) :
    (normalizeWithin (depth + 1) inProperties (.object [("allOf", .array [schema])])).value
      = (normalizeWithin depth inProperties schema).value := rfl

/-- The last step of an object, after it has been prepared; the report has a part for each of the
three. -/
theorem normalizeWithin_object {members : Json.Members} (h : ¬ IsWrapper (.object members))
    (depth : Nat) (inProperties : Bool) :
    normalizeWithin (depth + 1) inProperties (.object members) =
      ⟨.object (eachMember (normalizeMember depth inProperties) (prepared members)).value,
        (eachMember tidyMember members).report
          + (promoteExample (eachMember tidyMember members).value).report
          + (eachMember (normalizeMember depth inProperties) (prepared members)).report⟩ := by
  rw [normalizeWithin, wrapped?_eq_none_iff.2 h]
  rfl

/-- A wrapper is made of two containers, the object and the list of one item. -/
theorem nesting_wrapper (schema : Json) :
    Json.nesting (.object [("allOf", .array [schema])]) = schema.nesting + 2 := by
  simp only [Json.nesting, Json.nestingOfMembers, Json.nestingOfItems, Nat.max_zero]

/-- Arrays are normalized item by item. -/
theorem normalizeWithin_array (depth : Nat) (inProperties : Bool) (items : List Json) :
    (normalizeWithin (depth + 1) inProperties (.array items)).value
      = .array (items.map fun item => (normalizeWithin depth false item).value) := by
  rw [normalizeWithin, List.map_map]
  rfl

/-- If nothing is to be done for any item, nothing is done. -/
theorem normalizeWithin_array_eq_self {depth : Nat} {items : List Json}
    (h : ∀ item ∈ items, normalizeWithin depth false item = ⟨item, .none⟩) (inProperties : Bool) :
    normalizeWithin (depth + 1) inProperties (.array items) = ⟨.array items, .none⟩ := by
  have hitems : items.map (normalizeWithin depth false) = items.map (⟨·, .none⟩) :=
    List.map_congr_left h
  rw [normalizeWithin, hitems]
  simp only [List.map_map, Function.comp_def, List.map_id']
  have hreport : Report.total (items.map fun _ => Report.none) = .none := by
    rw [Report.total_eq_none_iff, List.forall_mem_map]
    exact fun _ _ => rfl
  rw [hreport]

theorem tidyMember_string (name text : String) : (tidyMember name (.string text)).value
    = .string (if isProse name then Text.tidy text else text) := by
  simp only [tidyMember]
  cases isProse name with
  | false => rfl
  | true =>
    -- A text that is tidy is not counted, but what comes out is the tidy text either way.
    by_cases h : Text.tidy text = text
    · simp [h]
    · simp [h]

/-- A member without prose stays as it is. -/
theorem tidyMember_of_not_isProse {name : String} (h : isProse name = false) (value : Json) :
    tidyMember name value = ⟨value, .none⟩ := by
  cases value with
  | string text => simp only [tidyMember, h, Bool.false_and, Bool.false_eq_true, if_false]
  | _ => rfl

theorem tidyMember_eq_self {name : String} {value : Json}
    (h : ∀ text, value = .string text → isProse name = true → Text.tidy text = text) :
    tidyMember name value = ⟨value, .none⟩ := by
  cases hprose : isProse name with
  | false => exact tidyMember_of_not_isProse hprose value
  | true =>
    cases value with
    | string text => simp [tidyMember, h text rfl hprose]
    | _ => rfl

/-- Only texts are tidied, and into texts. -/
theorem tidyMember_cases (name : String) (value : Json) :
    (tidyMember name value).value = value ∨
      ∃ text, value = .string text ∧ (tidyMember name value).value = .string (Text.tidy text) := by
  cases value with
  | string text =>
    rw [tidyMember_string]
    cases isProse name with
    | false => exact .inl rfl
    | true => exact .inr ⟨text, rfl, rfl⟩
  | _ => exact .inl rfl

/-- Promoting an example adds the first entry of a list of examples, or does nothing. -/
theorem promoteExample_value (members : Json.Members) :
    (promoteExample members).value = members ∨
      members.contains "example" = false ∧ ∃ first rest,
        members.find? "examples" = some (.array (first :: rest)) ∧
          (promoteExample members).value = members.insert "example" first := by
  unfold promoteExample
  split
  · exact .inl rfl
  · next hnone =>
    split
    · next first rest hexamples =>
      exact .inr ⟨Bool.eq_false_iff.2 hnone, first, rest, hexamples, rfl⟩
    · exact .inl rfl

/-- Promoting does nothing for an object that has an example, or none to promote. -/
theorem promoteExample_eq_self {members : Json.Members}
    (h : members.contains "example" = true ∨
      ∀ first rest, members.find? "examples" ≠ some (.array (first :: rest))) :
    promoteExample members = ⟨members, .none⟩ := by
  unfold promoteExample
  split
  · rfl
  · next hnone =>
    split
    · next first rest hexamples =>
      rcases h with hexample | hnothing
      · exact absurd hexample hnone
      · exact absurd hexamples (hnothing first rest)
    · rfl

/-- A list of examples is what it was before prose was tidied. -/
theorem find?_tidied_examples {members : Json.Members} {items : List Json}
    (h : NameMap.find? (eachMember tidyMember members).value "examples" = some (.array items)) :
    members.find? "examples" = some (.array items) := by
  rw [find?_eachMember] at h
  obtain ⟨value, hvalue, htidied⟩ := Option.map_eq_some_iff.1 h
  rw [tidyMember_of_not_isProse (by decide)] at htidied
  rw [hvalue]
  exact congrArg some htidied

/-- What is found under a name other than that of the example is a tidied member. -/
theorem find?_prepared {name : String} (h : name ≠ "example") (members : Json.Members) :
    NameMap.find? (prepared members) name
      = (members.find? name).map fun value => (tidyMember name value).value := by
  rw [← find?_eachMember]
  rcases promoteExample_value (eachMember tidyMember members).value with
    hsame | ⟨-, first, rest, -, hinsert⟩
  · rw [prepared, hsame]
  · rw [prepared, hinsert, NameMap.find?_insert_of_ne h]

/-- What is found among the members of an object is found tidied once they are prepared. -/
theorem find?_prepared_of_find? {members : Json.Members} {name : String} {value : Json}
    (h : members.find? name = some value) :
    NameMap.find? (prepared members) name = some (tidyMember name value).value := by
  have htidied : NameMap.find? (eachMember tidyMember members).value name
      = some (tidyMember name value).value := by
    rw [find?_eachMember, h, Option.map_some]
  rcases promoteExample_value (eachMember tidyMember members).value with
    hsame | ⟨hnone, first, rest, -, hinsert⟩
  · rw [prepared, hsame, htidied]
  · -- Only an object without an example has one promoted.
    have hne : name ≠ "example" := by
      rintro rfl
      rw [NameMap.contains, htidied] at hnone
      cases hnone
    rw [prepared, hinsert, NameMap.find?_insert_of_ne hne, htidied]

/-- A prepared member is a tidied one, or the first of the examples. -/
theorem mem_prepared {members : Json.Members} {m : String × Json} (h : m ∈ prepared members) :
    (∃ value, (m.1, value) ∈ members ∧ m.2 = (tidyMember m.1 value).value) ∨
      m.1 = "example" ∧ members.contains "example" = false ∧
        ∃ rest, members.find? "examples" = some (.array (m.2 :: rest)) := by
  have htidied : ∀ m ∈ (eachMember tidyMember members).value,
      ∃ value, (m.1, value) ∈ members ∧ m.2 = (tidyMember m.1 value).value := by
    rw [eachMember_value, List.forall_mem_map]
    exact fun m hm => ⟨m.2, hm, rfl⟩
  rcases promoteExample_value (eachMember tidyMember members).value with
    hsame | ⟨hnone, first, rest, hexamples, hinsert⟩
  · rw [prepared, hsame] at h
    exact .inl (htidied m h)
  · rw [prepared, hinsert] at h
    rw [contains_eachMember] at hnone
    rcases NameMap.eq_or_mem_of_mem_insert h with rfl | hmem
    · exact .inr ⟨rfl, hnone, rest, find?_tidied_examples hexamples⟩
    · exact .inl (htidied m hmem)

/-- An example that is promoted is found. -/
theorem find?_prepared_example {members : Json.Members} {first : Json} {rest : List Json}
    (hnone : members.contains "example" = false)
    (hexamples : members.find? "examples" = some (.array (first :: rest))) :
    NameMap.find? (prepared members) "example" = some first := by
  have hnone' : NameMap.contains (eachMember tidyMember members).value "example" = false :=
    (contains_eachMember ..).trans hnone
  have hexamples' : NameMap.find? (eachMember tidyMember members).value "examples"
      = some (.array (first :: rest)) := by
    rw [find?_eachMember, hexamples]
    rfl
  simp only [prepared, promoteExample, hnone', hexamples', Bool.false_eq_true, if_false]
  exact NameMap.find?_insert_self ..

/-- An entry behind the example is in place if it was. -/
theorem inPlace_prepared {members : Json.Members} {name : String}
    (h : NameMap.InPlace members name) (hbehind : "example" < name) :
    NameMap.InPlace (prepared members) name := by
  have htidied : NameMap.InPlace (eachMember tidyMember members).value name := by
    rw [eachMember_value]
    exact h.map fun name value => (tidyMember name value).value
  rcases promoteExample_value (eachMember tidyMember members).value with
    hsame | ⟨-, first, rest, -, hinsert⟩
  · rw [prepared, hsame]
    exact htidied
  · rw [prepared, hinsert]
    exact htidied.insert hbehind first

/-- After preparing there is an example, unless there is none to promote. -/
theorem contains_prepared (members : Json.Members) :
    NameMap.contains (prepared members) "example" = true ∨
      ∀ first rest, NameMap.find? (prepared members) "examples" ≠ some (.array (first :: rest)) := by
  rw [find?_prepared (by decide), ← find?_eachMember, prepared]
  unfold promoteExample
  split
  · next hexample => exact .inl hexample
  · split
    · exact .inl (by rw [NameMap.contains, NameMap.find?_insert_self]; rfl)
    · next hnone => exact .inr hnone

/-- Preparing makes no wrapper of an object: texts stay texts, and an example comes from a list of
examples, which stays. -/
theorem not_isWrapper_prepared {members : Json.Members} (h : ¬ IsWrapper (.object members)) :
    ¬ IsWrapper (.object (prepared members)) := by
  have htidied : ¬ IsWrapper (.object (eachMember tidyMember members).value) := by
    rw [eachMember_value]
    refine not_isWrapper_map (f := fun name value => (tidyMember name value).value) h ?_
    intro m _ schema hschema
    -- Tidying makes no list, so a list of one item was there before.
    rcases tidyMember_cases m.1 m.2 with hsame | ⟨text, -, htext⟩
    · exact ⟨schema, hsame.symm.trans hschema⟩
    · cases htext.symm.trans hschema
  rcases promoteExample_value (eachMember tidyMember members).value with
    hsame | ⟨-, first, rest, -, hinsert⟩
  · rw [prepared, hsame]
    exact htidied
  · rw [prepared, hinsert]
    exact not_isWrapper_insert (by decide) _ first

/-- A property that texts have, and the items of arrays that have it, is one of prepared members if
it is one of the members. -/
theorem forall_prepared {P : Json → Prop} {members : Json.Members}
    (htext : ∀ text, P (.string text)) (hitem : ∀ item rest, P (.array (item :: rest)) → P item)
    (h : ∀ m ∈ members, P m.2) : ∀ m ∈ prepared members, P m.2 := by
  intro m hm
  rcases mem_prepared hm with ⟨value, hvalue, htidied⟩ | ⟨-, -, rest, hexamples⟩
  · -- A tidied member is the member itself or a text.
    rw [htidied]
    rcases tidyMember_cases m.1 value with hsame | ⟨text, -, htext'⟩
    · rw [hsame]
      exact h _ hvalue
    · rw [htext']
      exact htext _
  · -- The promoted example is the first item of a list that is a member.
    exact hitem _ rest (h _ (NameMap.mem_of_find?_eq_some hexamples))

end ClientStyle.Normal
