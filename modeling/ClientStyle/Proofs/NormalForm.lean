/-
The normal form of a part of a document.

`IsNormal` says what a normal form is without reference to how it is made: no object only wraps
another one, prose is tidy, no example waits to be promoted, and the same holds inside, example
payloads apart. What normalizing returns is of this form, and what is of this form is returned as it
is, with nothing to report.
-/
import ClientStyle.Proofs.NormalSteps
import ClientStyle.Proofs.Prose

set_option autoImplicit false

namespace ClientStyle.Normal

/-! ## What normalizing leaves alone -/

/-- What may become of a value: an object becomes an object, an array becomes an array of the same
length, and anything else stays what it is. -/
inductive Alike : Json → Json → Prop
  | object (members members' : Json.Members) : Alike (.object members) (.object members')
  | array {items items' : List Json} (h : items'.length = items.length) :
      Alike (.array items) (.array items')
  | same (value : Json) : Alike value value

/-- Normalizing does not change what a value is, since wrappers are objects and hold objects. -/
theorem alike_normalizeWithin {value : Json} (h : WrapsObjects value) (depth : Nat)
    (inProperties : Bool) : Alike value (normalizeWithin depth inProperties value).value := by
  induction depth generalizing value inProperties with
  | zero => exact .same value
  | succ depth ih =>
    cases value with
    | object members =>
      by_cases hwrapper : IsWrapper (.object members)
      · -- A wrapper gives way to what it holds, and that is an object again.
        obtain ⟨schema, hschema⟩ := hwrapper
        rw [hschema] at h ⊢
        obtain ⟨⟨inner, rfl⟩, hinner⟩ := h.of_wrapper
        rw [normalizeWithin_wrapper]
        have hobject := ih hinner inProperties
        generalize (normalizeWithin depth inProperties (.object inner)).value = result at hobject
        cases hobject with
        | object => exact .object _ _
        | same => exact .object _ _
      · rw [normalizeWithin_object hwrapper]
        exact .object _ _
    | array items =>
      refine .array ?_
      rw [List.length_map, List.length_map]
    | _ => exact .same _

/-- A member that is skipped stays what it is, and any other is normalized. -/
theorem alike_normalizeMember {value : Json} (h : WrapsObjects value) (depth : Nat)
    (inProperties : Bool) (name : String) :
    Alike value (normalizeMember depth inProperties name value).value := by
  unfold normalizeMember
  split
  · exact .same value
  · exact alike_normalizeWithin h depth _

/-- What becomes a value without members and items was this value. -/
theorem Alike.eq_of_nesting_eq_zero {value value' : Json} (h : Alike value value')
    (hscalar : value'.nesting = 0) : value = value' := by
  cases h with
  | object => cases hscalar
  | array => cases hscalar
  | same => rfl

/-- What becomes an object was one. -/
theorem Alike.eq_object {value : Json} {members : Json.Members} (h : Alike value (.object members)) :
    ∃ old, value = .object old := by
  cases h with
  | object => exact ⟨_, rfl⟩
  | same => exact ⟨members, rfl⟩

/-- What becomes a list with an item was one: a list of examples that could be promoted was there
before. -/
theorem Alike.eq_cons {value first : Json} {rest : List Json}
    (h : Alike value (.array (first :: rest))) : ∃ old more, value = .array (old :: more) := by
  cases h with
  | array hlength =>
    obtain ⟨old, more, rfl⟩ := List.exists_cons_of_length_eq_add_one hlength.symm
    exact ⟨old, more, rfl⟩
  | same => exact ⟨first, rest, rfl⟩

/-- What becomes a list of one item was one, so a wrapper cannot come about. -/
theorem Alike.eq_singleton {value schema : Json} (h : Alike value (.array [schema])) :
    ∃ old, value = .array [old] := by
  cases h with
  | array hlength =>
    obtain ⟨old, rfl⟩ := List.length_eq_one_iff.1 hlength.symm
    exact ⟨old, rfl⟩
  | same => exact ⟨schema, rfl⟩

/-! ## Normal forms -/

/-- A part of a document that is in normal form. Directly under `properties` the members are named
for fields, and elsewhere those named for examples hold payloads, of which nothing is asked. -/
inductive IsNormal : Bool → Json → Prop
  | scalar {inProperties : Bool} {value : Json} (h : value.nesting = 0) : IsNormal inProperties value
  | array {inProperties : Bool} {items : List Json} (h : ∀ item ∈ items, IsNormal false item) :
      IsNormal inProperties (.array items)
  | object {inProperties : Bool} {members : Json.Members}
      (unwrapped : ¬ IsWrapper (.object members))
      (tidy : ∀ name text, (name, Json.string text) ∈ members → isProse name = true →
        Text.tidy text = text)
      (promoted : members.contains "example" = true ∨
        ∀ first rest, members.find? "examples" ≠ some (.array (first :: rest)))
      (inner : ∀ m ∈ members, (isExample m.1 && !inProperties) = false →
        IsNormal (m.1 == "properties") m.2) : IsNormal inProperties (.object members)

/-- **A normal form is left alone**, however deep one looks. -/
theorem normalizeWithin_of_isNormal {inProperties : Bool} {value : Json}
    (h : IsNormal inProperties value) (depth : Nat) :
    normalizeWithin depth inProperties value = ⟨value, .none⟩ := by
  -- The induction is on the normal form, and holds for every depth: no depth is too small for it.
  induction h generalizing depth with
  | @scalar _ value h =>
    cases depth with
    | zero => rfl
    | succ depth =>
      cases value with
      | array items => cases h
      | object members => cases h
      | _ => rfl
  | @array _ items h ih =>
    cases depth with
    | zero => rfl
    | succ depth =>
      exact normalizeWithin_array_eq_self (fun item hitem => ih item hitem depth) _
  | @object inProperties members unwrapped tidy promoted inner ih =>
    cases depth with
    | zero => rfl
    | succ depth =>
      have htidied : eachMember tidyMember members = ⟨members, .none⟩ :=
        eachMember_eq_self fun m hm => tidyMember_eq_self fun text htext =>
          tidy m.1 text (htext ▸ hm)
      have hpromoted := promoteExample_eq_self promoted
      have hprepared : prepared members = members := by rw [prepared, htidied, hpromoted]
      have hinner : eachMember (normalizeMember depth inProperties) members = ⟨members, .none⟩ := by
        refine eachMember_eq_self fun m hm => ?_
        rw [normalizeMember]
        split
        · rfl
        · next hvisited => exact ih m hm (Bool.eq_false_iff.2 hvisited) depth
      rw [normalizeWithin_object unwrapped, hprepared, htidied, hpromoted, hinner]
      rfl

/-! ## What normalizing returns -/

/-- Preparing members makes none nest deeper: an example that is promoted is an item of a member. -/
theorem nesting_prepared {members : Json.Members} {depth : Nat}
    (h : ∀ m ∈ members, m.2.nesting ≤ depth) : ∀ m ∈ prepared members, m.2.nesting ≤ depth := by
  refine forall_prepared (P := fun value => value.nesting ≤ depth) (fun _ => Nat.zero_le _) ?_ h
  intro item rest harray
  have hpart : Json.Part item (.array (item :: rest)) := .item (.self item) (List.mem_cons_self ..)
  exact (Json.nesting_le_of_part hpart).trans harray

/-- Prepared members have objects in their wrappers, as the members had. -/
theorem wrapsObjects_prepared {members : Json.Members} (h : WrapsObjects (.object members)) :
    ∀ m ∈ prepared members, WrapsObjects m.2 :=
  forall_prepared wrapsObjects_string (fun _ _ harray => harray.of_item (List.mem_cons_self ..))
    fun _ hm => h.of_member hm

/-- Prepared prose is tidy. -/
theorem tidy_of_mem_prepared {members : Json.Members} {name text : String}
    (hmem : (name, Json.string text) ∈ prepared members) (hprose : isProse name = true) :
    Text.tidy text = text := by
  rcases mem_prepared hmem with ⟨value, -, htidied⟩ | ⟨rfl, -⟩
  · rcases tidyMember_cases name value with hsame | ⟨old, -, htext⟩
    · -- Prose that tidying left as it is was tidy.
      cases htidied.trans hsame
      have htwice := tidyMember_string name text
      rw [hprose, hsame] at htwice
      exact (Json.string.inj htwice).symm
    · rw [Json.string.inj (htidied.trans htext), Text.tidy_tidy]
  · exact absurd hprose (by decide)

/-- An object is in normal form once its prepared members are normalized. -/
theorem isNormal_object {members : Json.Members} (hself : ¬ IsWrapper (.object members))
    (h : WrapsObjects (.object members)) {depth : Nat} {inProperties : Bool}
    (hinner : ∀ m ∈ prepared members, ∀ inProperties,
      IsNormal inProperties (normalizeWithin depth inProperties m.2).value) :
    IsNormal inProperties
      (.object (eachMember (normalizeMember depth inProperties) (prepared members)).value) := by
  have halike : ∀ m ∈ prepared members,
      Alike m.2 (normalizeMember depth inProperties m.1 m.2).value :=
    fun m hm => alike_normalizeMember (wrapsObjects_prepared h m hm) depth inProperties m.1
  -- What normalizing does to the members keeps all that preparing them has established.
  refine .object ?unwrapped ?tidy ?promoted ?inner
  case unwrapped =>
    rw [eachMember_value]
    refine not_isWrapper_map
      (f := fun name value => (normalizeMember depth inProperties name value).value)
      (not_isWrapper_prepared hself) fun m hm schema hschema => ?_
    exact (hschema ▸ halike m hm).eq_singleton
  case tidy =>
    intro name text hmem hprose
    rw [eachMember_value] at hmem
    obtain ⟨⟨other, old⟩, hm, heq⟩ := List.mem_map.1 hmem
    obtain ⟨rfl, htext⟩ := Prod.mk.inj heq
    have hold : old = .string text := (htext ▸ halike (other, old) hm).eq_of_nesting_eq_zero rfl
    exact tidy_of_mem_prepared (hold ▸ hm) hprose
  case promoted =>
    rcases contains_prepared members with hexample | hnothing
    · exact .inl ((contains_eachMember ..).trans hexample)
    · refine .inr fun first rest hexamples => ?_
      rw [find?_eachMember] at hexamples
      obtain ⟨value, hvalue, hlist⟩ := Option.map_eq_some_iff.1 hexamples
      have hmem := NameMap.mem_of_find?_eq_some hvalue
      obtain ⟨old, more, rfl⟩ := (hlist ▸ halike ("examples", value) hmem).eq_cons
      exact hnothing old more hvalue
  case inner =>
    rw [eachMember_value, List.forall_mem_map]
    intro m hm hvisited
    rw [normalizeMember, if_neg (Bool.eq_false_iff.1 hvisited)]
    exact hinner m hm _

/-- **What normalizing returns is a normal form**, if what is wrapped are objects and one looks deep
enough. -/
theorem isNormal_normalizeWithin {value : Json} (h : WrapsObjects value) {depth : Nat}
    (hdepth : value.nesting ≤ depth) (inProperties : Bool) :
    IsNormal inProperties (normalizeWithin depth inProperties value).value := by
  induction depth generalizing value inProperties with
  | zero => exact .scalar (Nat.le_zero.1 hdepth)
  | succ depth ih =>
    cases value with
    | object members =>
      by_cases hwrapper : IsWrapper (.object members)
      · obtain ⟨schema, hschema⟩ := hwrapper
        rw [hschema] at h ⊢
        rw [hschema, nesting_wrapper] at hdepth
        -- A wrapper nests two containers and takes one level, so the depth is enough for its schema.
        have hschema : schema.nesting ≤ depth := by omega
        rw [normalizeWithin_wrapper]
        exact ih h.of_wrapper.2 hschema inProperties
      · have hobjects := wrapsObjects_prepared h
        have hnesting := nesting_prepared (Json.nesting_object_le_iff.1 hdepth)
        rw [normalizeWithin_object hwrapper]
        exact isNormal_object hwrapper h fun m hm inProperties =>
          ih (hobjects m hm) (hnesting m hm) inProperties
    | array items =>
      rw [normalizeWithin_array]
      refine .array (List.forall_mem_map.2 fun item hitem => ?_)
      exact ih (h.of_item hitem) (Json.nesting_array_le_iff.1 hdepth item hitem) false
    | _ => exact .scalar rfl

end ClientStyle.Normal
