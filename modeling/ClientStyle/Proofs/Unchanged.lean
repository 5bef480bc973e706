/-
Normalizing that changes nothing.

How deep one looks does not matter once it is deep enough, and the normal form nests no deeper than
the value. Since a wrapper gives way to something that nests less, and a promoted example is a new
member, nothing can be changed and changed back: a value that normalizing returns as it was has
nothing to report.
-/
import ClientStyle.Proofs.NormalForm

set_option autoImplicit false

namespace ClientStyle.Normal

/-! ## Depth -/

/-- A wrapper gives way to what it holds, and that is reported. -/
theorem normalizeWithin_wrapping (depth : Nat) (inProperties : Bool) (schema : Json) :
    normalizeWithin (depth + 1) inProperties (.object [("allOf", .array [schema])]) =
      ⟨(normalizeWithin depth inProperties schema).value,
        ⟨0, 0, 0, 1⟩ + (normalizeWithin depth inProperties schema).report⟩ := rfl

theorem normalizeWithin_scalar {value : Json} (h : value.nesting = 0) (depth : Nat)
    (inProperties : Bool) : normalizeWithin depth inProperties value = ⟨value, .none⟩ :=
  normalizeWithin_of_isNormal (.scalar h) depth

/-- Members are changed in the same way by what does the same to each of them. -/
theorem eachMember_congr {f g : String → Json → Reported Json} {members : Json.Members}
    (h : ∀ m ∈ members, f m.1 m.2 = g m.1 m.2) : eachMember f members = eachMember g members := by
  have hresults : members.map (fun m => (m.1, f m.1 m.2)) = members.map fun m => (m.1, g m.1 m.2) :=
    List.map_congr_left fun m hm => congrArg (Prod.mk m.1) (h m hm)
  rw [eachMember, eachMember, hresults]

theorem normalizeMember_congr {depth depth' : Nat} {value : Json}
    (h : ∀ inProperties, normalizeWithin depth inProperties value
      = normalizeWithin depth' inProperties value) (inProperties : Bool) (name : String) :
    normalizeMember depth inProperties name value
      = normalizeMember depth' inProperties name value := by
  rw [normalizeMember, normalizeMember, h]

/-- **Looking deeper than a value nests makes no difference.** -/
theorem normalizeWithin_eq_of_nesting_le {value : Json} {depth depth' : Nat}
    (h : value.nesting ≤ depth) (h' : value.nesting ≤ depth') (inProperties : Bool) :
    normalizeWithin depth inProperties value = normalizeWithin depth' inProperties value := by
  -- The induction is on one depth, for every other: a part nests less than the value at both.
  induction depth generalizing depth' value inProperties with
  | zero =>
    have hscalar : value.nesting = 0 := by omega
    rw [normalizeWithin_scalar hscalar, normalizeWithin_scalar hscalar]
  | succ depth ih =>
    cases depth' with
    | zero =>
      have hscalar : value.nesting = 0 := by omega
      rw [normalizeWithin_scalar hscalar, normalizeWithin_scalar hscalar]
    | succ depth' =>
      cases value with
      | object members =>
        by_cases hwrapper : IsWrapper (.object members)
        · obtain ⟨schema, hschema⟩ := hwrapper
          rw [hschema, nesting_wrapper] at h h'
          have hinner : normalizeWithin depth inProperties schema
              = normalizeWithin depth' inProperties schema := ih (by omega) (by omega) inProperties
          rw [hschema, normalizeWithin_wrapping, normalizeWithin_wrapping, hinner]
        · have hmembers := nesting_prepared (Json.nesting_object_le_iff.1 h)
          have hmembers' := nesting_prepared (Json.nesting_object_le_iff.1 h')
          have heach : eachMember (normalizeMember depth inProperties) (prepared members)
              = eachMember (normalizeMember depth' inProperties) (prepared members) :=
            eachMember_congr fun m hm =>
              normalizeMember_congr (ih (hmembers m hm) (hmembers' m hm)) inProperties m.1
          rw [normalizeWithin_object hwrapper, normalizeWithin_object hwrapper, heach]
      | array items =>
        have hitems : items.map (normalizeWithin depth false)
            = items.map (normalizeWithin depth' false) :=
          List.map_congr_left fun item hitem =>
            ih (Json.nesting_array_le_iff.1 h item hitem) (Json.nesting_array_le_iff.1 h' item hitem)
              false
        rw [normalizeWithin, normalizeWithin, hitems]
      | _ => rfl

/-- The depth that the program takes is one that is enough. -/
theorem normalizeWithin_eq_normalizeValue {value : Json} {depth : Nat} (h : value.nesting ≤ depth) :
    normalizeWithin depth false value = normalizeValue value :=
  normalizeWithin_eq_of_nesting_le h (Nat.le_refl _) false

/-- The normal form of a value nests no deeper than the value. -/
theorem nesting_normalizeWithin_le {value : Json} {bound : Nat} (h : value.nesting ≤ bound)
    (depth : Nat) (inProperties : Bool) :
    (normalizeWithin depth inProperties value).value.nesting ≤ bound := by
  induction depth generalizing value bound inProperties with
  | zero => exact h
  | succ depth ih =>
    cases value with
    | object members =>
      by_cases hwrapper : IsWrapper (.object members)
      · obtain ⟨schema, hschema⟩ := hwrapper
        rw [hschema, nesting_wrapper] at h
        -- The wrapper has two levels of its own to lose.
        have hinner : schema.nesting ≤ bound := by omega
        rw [hschema, normalizeWithin_wrapping]
        exact ih hinner inProperties
      · obtain ⟨bound, rfl⟩ := Nat.exists_eq_add_of_le' (Nat.le_of_add_left_le h)
        have hmembers := nesting_prepared (Json.nesting_object_le_iff.1 h)
        rw [normalizeWithin_object hwrapper, Json.nesting_object_le_iff, eachMember_value,
          List.forall_mem_map]
        intro m hm
        rw [normalizeMember]
        split
        · exact hmembers m hm
        · exact ih (hmembers m hm) _
    | array items =>
      obtain ⟨bound, rfl⟩ := Nat.exists_eq_add_of_le' (Nat.le_of_add_left_le h)
      rw [normalizeWithin_array, Json.nesting_array_le_iff, List.forall_mem_map]
      exact fun item hitem => ih (Json.nesting_array_le_iff.1 h item hitem) false
    | _ => exact h

/-! ## Nothing to report -/

/-- Members that stay what they were together stay what they were each. -/
theorem forall_eq_of_map_eq {f : String → Json → Json} {members : Json.Members}
    (h : members.map (fun m => (m.1, f m.1 m.2)) = members) : ∀ m ∈ members, f m.1 m.2 = m.2 := by
  have hid : members.map (fun m => (m.1, f m.1 m.2)) = members.map id := h.trans members.map_id.symm
  exact fun m hm => (Prod.mk.inj (List.map_inj_left.1 hid m hm)).2

/-- An array that normalizing leaves as it was has items that it leaves as they were. -/
theorem forall_normalizeWithin_eq_of_array {depth : Nat} {inProperties : Bool} {items : List Json}
    (h : (normalizeWithin (depth + 1) inProperties (.array items)).value = .array items) :
    ∀ item ∈ items, (normalizeWithin depth false item).value = item := by
  rw [normalizeWithin_array] at h
  have hid : items.map (fun item => (normalizeWithin depth false item).value) = items.map id :=
    (Json.array.inj h).trans items.map_id.symm
  exact fun item hitem => List.map_inj_left.1 hid item hitem

/-- A member that ends up as it was had no prose to tidy. -/
theorem tidyMember_eq_self_of_normalized {depth : Nat} {inProperties : Bool} {name : String}
    {value : Json}
    (h : (normalizeMember depth inProperties name (tidyMember name value).value).value = value) :
    tidyMember name value = ⟨value, .none⟩ := by
  refine tidyMember_eq_self fun text htext hprose => ?_
  subst htext
  -- Texts are left alone after they are tidied, so this one was tidy.
  have hscalar : normalizeMember depth inProperties name (.string (Text.tidy text))
      = ⟨.string (Text.tidy text), .none⟩ := by
    rw [normalizeMember, normalizeWithin_scalar rfl, ite_self]
  rw [tidyMember_string, if_pos hprose, hscalar] at h
  exact Json.string.inj h

/-- A member that ends up as it was has nothing to report, if that is so for its value. -/
theorem normalizeMember_eq_self {depth : Nat} {inProperties : Bool} {name : String} {value : Json}
    (hvalue : ∀ inProperties, (normalizeWithin depth inProperties value).value = value →
      normalizeWithin depth inProperties value = ⟨value, .none⟩)
    (h : (normalizeMember depth inProperties name value).value = value) :
    normalizeMember depth inProperties name value = ⟨value, .none⟩ := by
  rw [normalizeMember] at h ⊢
  split at h
  · next hexample => rw [if_pos hexample]
  · next hexample =>
    rw [if_neg hexample]
    exact hvalue _ h

/-- An object without an example that ends up as it was had none to promote. -/
theorem promoteExample_eq_self_of_normalized {depth : Nat} {inProperties : Bool}
    {members : Json.Members}
    (h : (eachMember (normalizeMember depth inProperties) (prepared members)).value = members) :
    promoteExample (eachMember tidyMember members).value
      = ⟨(eachMember tidyMember members).value, .none⟩ := by
  refine promoteExample_eq_self ?_
  rcases promoteExample_value (eachMember tidyMember members).value with
    hsame | ⟨hnone, first, rest, -, hinsert⟩
  · have hexample := contains_prepared members
    rw [prepared, hsame] at hexample
    exact hexample
  · -- The promoted example would still be there.
    have hcontains : NameMap.contains members "example" = true := by
      rw [← h, contains_eachMember, prepared, hinsert, NameMap.contains, NameMap.find?_insert_self]
      rfl
    rw [contains_eachMember, hcontains] at hnone
    cases hnone

/-- **What normalizing returns as it was has nothing to report.** -/
theorem normalizeWithin_eq_self {value : Json} {depth : Nat} {inProperties : Bool}
    (h : (normalizeWithin depth inProperties value).value = value) :
    normalizeWithin depth inProperties value = ⟨value, .none⟩ := by
  induction depth generalizing value inProperties with
  | zero => rfl
  | succ depth ih =>
    cases value with
    | object members =>
      by_cases hwrapper : IsWrapper (.object members)
      · -- What a wrapper holds nests less than the wrapper, and so does its normal form.
        obtain ⟨schema, hschema⟩ := hwrapper
        have hnesting := nesting_normalizeWithin_le (Nat.le_refl schema.nesting) depth inProperties
        rw [hschema, normalizeWithin_wrapping] at h
        rw [h, nesting_wrapper] at hnesting
        omega
      · rw [normalizeWithin_object hwrapper] at h ⊢
        have hpromoted := promoteExample_eq_self_of_normalized (Json.object.inj h)
        have hprepared : prepared members = (eachMember tidyMember members).value := by
          rw [prepared, hpromoted]
        -- With nothing promoted, each member is tidied, then normalized, and ends as it was.
        have heach : ∀ m ∈ members, (normalizeMember depth inProperties m.1
            (tidyMember m.1 m.2).value).value = m.2 := by
          have hmembers := Json.object.inj h
          rw [hprepared, eachMember_value, eachMember_value, List.map_map] at hmembers
          exact forall_eq_of_map_eq
            (f := fun name value => (normalizeMember depth inProperties name
              (tidyMember name value).value).value) hmembers
        have htidied : eachMember tidyMember members = ⟨members, .none⟩ :=
          eachMember_eq_self fun m hm => tidyMember_eq_self_of_normalized (heach m hm)
        have hinner : eachMember (normalizeMember depth inProperties) members
            = ⟨members, .none⟩ := by
          refine eachMember_eq_self fun m hm => normalizeMember_eq_self (fun _ => ih) ?_
          have hmember := heach m hm
          rwa [tidyMember_eq_self_of_normalized hmember] at hmember
        rw [hpromoted, hprepared, htidied, hinner]
        rfl
    | array items =>
      have hitems := forall_normalizeWithin_eq_of_array h
      exact normalizeWithin_array_eq_self (fun item hitem => ih (hitems item hitem)) inProperties
    | _ => rfl

end ClientStyle.Normal
