/-
How deep payloads nest.

A schema is looked at in some depth, which counts the steps that led to it, and beyond the last level
nothing is looked at any more. References may lead anywhere in the document, so nothing but the depth
makes the steps end: a derivation at one depth is made of derivations at the next. What a step adds to
a payload is at most one container, around what the steps from there made; and a value that is copied
nests no deeper than the schema or the document that it is copied from.
-/
import ClientStyle.Proofs.Derivations

set_option autoImplicit false

namespace ClientStyle.Schema

open Json

variable {document : Document}

/-! ## Depths -/

/-- What a schema yields at a depth: null if that is too deep, and else what its clause makes of what
the schemas that it asks for yield one deeper. Depths go up, and no number of steps is given. -/
inductive YieldsAt (document : Document) : Nat → Json → Json → Prop
  | tooDeep {depth : Nat} {schema : Json} (h : levels ≤ depth) : YieldsAt document depth schema .null
  | clause {depth : Nat} {schema value : Json} (h : depth < levels) {inner : Json → Json → Prop}
      (step : ∀ schema value, inner schema value → YieldsAt document (depth + 1) schema value)
      (hclause : Clause document inner (shape schema) value) : YieldsAt document depth schema value

/-- One level is one clause: the payloads with one level less are what a payload is made of. -/
theorem clause_sampleWithin (document : Document) (left : Nat) (schema : Json) :
    Clause document (fun schema value => (sampleWithin document left schema).value = value)
      (shape schema) (sampleWithin document (left + 1) schema).value := by
  have hpayloads (schemas : List Json) : List.Forall₂
      (fun schema value => (sampleWithin document left schema).value = value) schemas
        (schemas.map fun schema => (sampleWithin document left schema).value) :=
    List.forall₂_map_right_iff.2 (List.forall₂_same.2 fun _ _ => rfl)
  rw [sampleWithin]
  generalize shape schema = shape
  cases shape with
  | reference target =>
    cases hfound : document.resolve? target with
    | some found =>
      simp only [hfound]
      exact .reference hfound rfl
    | none =>
      simp only [hfound]
      exact .unresolved hfound
  | parts schemas =>
    simp only [Warned.map, Warned.each_value]
    exact .parts (hpayloads schemas)
  | alternative chosen => exact .alternative rfl
  | prescribed value => exact .prescribed value
  | list items =>
    cases items with
    | none => exact .noItems
    | some items => exact .items rfl
  | properties members =>
    simp only [Warned.map, Warned.each_value]
    refine .properties (by simp only [List.map_map, Function.comp_def]) ?_
    have hvalues := hpayloads (members.map (·.2))
    rw [List.map_map] at hvalues
    rwa [List.map_map]
  | unknown => exact .unknown

/-- **Steps are taken at every depth, and they end.** What a schema yields at a depth is its payload
with as many levels as there are from that depth on. -/
theorem yieldsAt_iff {depth : Nat} {schema value : Json} :
    YieldsAt document depth schema value
      ↔ (sampleWithin document (levels - depth) schema).value = value := by
  constructor
  · intro h
    induction h with
    | @tooDeep depth schema hdeep =>
      have hleft : levels - depth = 0 := by omega
      rw [hleft]
      rfl
    | @clause depth schema value hdepth inner step hclause ih =>
      have hleft : levels - depth = levels - (depth + 1) + 1 := by omega
      rw [hleft]
      exact sampleWithin_of_clause (hclause.mono ih)
  · rintro rfl
    generalize hleft : levels - depth = left
    induction left generalizing depth schema with
    | zero => exact .tooDeep (by omega)
    | succ left ih =>
      refine .clause (by omega) (fun schema value hvalue => ?_)
        (clause_sampleWithin document left schema)
      rw [← hvalue]
      exact ih (by omega)

/-! ## Nesting -/

/-- Merging objects makes an object that nests no deeper than one around them. -/
theorem nesting_mergeParts_le {payloads : List Json} {limit : Nat}
    (h : ∀ payload ∈ payloads, payload.nesting ≤ limit) :
    nesting (.object (mergeParts payloads)) ≤ limit + 1 := by
  refine List.foldlRecOn payloads _
    (motive := fun merged => nesting (.object merged) ≤ limit + 1) (Nat.le_add_left 1 limit) ?_
  intro merged hmerged payload hpayload
  cases payload with
  | object members =>
    have hmembers : nesting (.object members) ≤ limit + 1 := Nat.le_succ_of_le (h _ hpayload)
    rw [nesting_object_le_iff] at hmerged hmembers ⊢
    intro m hm
    exact (NameMap.mem_or_mem_of_mem_union hm).elim (hmerged m) (hmembers m)
  | _ => exact hmerged

/-- What several schemas yield nests as deep as each of them may. -/
theorem forall_nesting_le_of_forall₂ {inner : Json → Json → Prop} {bound limit : Nat}
    (step : ∀ schema value, schema.nesting ≤ bound → inner schema value → value.nesting ≤ limit)
    {schemas payloads : List Json} (hschemas : ∀ schema ∈ schemas, schema.nesting ≤ bound)
    (h : List.Forall₂ inner schemas payloads) : ∀ payload ∈ payloads, payload.nesting ≤ limit := by
  induction h with
  | nil => exact nofun
  | cons hfirst _ ih =>
    obtain ⟨hschema, hschemas⟩ := List.forall_mem_cons.1 hschemas
    exact List.forall_mem_cons.2 ⟨step _ _ hschema hfirst, ih hschemas⟩

/-- **A step adds at most one container** to what the steps from there yield. The schema and the
document only matter for how deep the values in them nest. -/
theorem nesting_le_of_clause {inner : Json → Json → Prop} {bound limit : Nat}
    (hdocument : document.nesting ≤ bound) {schema value : Json} (hschema : schema.nesting ≤ bound)
    (hlimit : bound ≤ limit)
    (step : ∀ schema value, schema.nesting ≤ bound → inner schema value → value.nesting ≤ limit)
    (hclause : Clause document inner (shape schema) value) : value.nesting ≤ limit + 1 := by
  -- Whatever schema a step leads to, it is a part of the schema or of the document.
  have hwithin := shape_within schema
  have hpart {part : Json} (h : Part part schema) : part.nesting ≤ bound :=
    Nat.le_trans (nesting_le_of_part h) hschema
  generalize shape schema = shape at hclause hwithin
  cases hclause with
  | prescribed =>
    rcases hwithin with h | hscalar
    · exact Nat.le_trans (hpart h) (Nat.le_succ_of_le hlimit)
    · omega
  | reference hfound hstep =>
    have hresolved := Nat.le_trans (nesting_le_of_part (part_of_resolve? hfound)) hdocument
    exact Nat.le_succ_of_le (step _ _ hresolved hstep)
  | unresolved => exact Nat.zero_le _
  | @parts schemas payloads hsteps =>
    have hschemas : ∀ part ∈ schemas, part.nesting ≤ bound :=
      fun part hmem => hpart ((Part.item (.self part) hmem).trans hwithin)
    exact nesting_mergeParts_le (forall_nesting_le_of_forall₂ step hschemas hsteps)
  | alternative hstep => exact Nat.le_succ_of_le (step _ _ (hpart hwithin) hstep)
  | items hstep =>
    exact nesting_array_le_iff.2 (List.forall_mem_singleton.2 (step _ _ (hpart hwithin) hstep))
  | noItems => exact Nat.le_add_left 1 limit
  | @properties members payloads hnames hsteps =>
    have hmembers : ∀ property ∈ members.map (·.2), property.nesting ≤ bound := by
      refine List.forall_mem_map.2 fun m hm => ?_
      rcases hwithin with h | rfl
      · exact hpart ((Part.member (.self m.2) hm).trans h)
      · cases hm
    have hpayloads := forall_nesting_le_of_forall₂ step hmembers hsteps
    exact nesting_object_le_iff.2 (List.forall_mem_map.1 hpayloads)
  | unknown => exact Nat.zero_le _

/-- What a schema yields at a depth nests no deeper than there are levels from there on, and below
them values of the schema or the document. -/
theorem YieldsAt.nesting_le {depth bound : Nat} {schema value : Json}
    (h : YieldsAt document depth schema value) (hdocument : document.nesting ≤ bound)
    (hschema : schema.nesting ≤ bound) : value.nesting ≤ levels - depth + bound := by
  induction h with
  | tooDeep => exact Nat.zero_le _
  | @clause depth schema value hdepth inner step hclause ih =>
    have hbound := nesting_le_of_clause hdocument hschema
      (Nat.le_add_left bound (levels - (depth + 1)))
      (fun schema value hschema hstep => ih schema value hstep hschema) hclause
    omega

/-- **Making up a payload ends, and the payload nests only so deep.** Whatever the references of the
document, in a circle or not, a schema yields one payload at each depth and no other. If neither the
document nor the schema nests deeper than a bound, the payload nests at most as many containers more
as there are levels from its depth on, of which there are nine at the beginning. -/
theorem existsUnique_yieldsAt (document : Document) (schema : Json) (depth : Nat) :
    (∃! payload, YieldsAt document depth schema payload) ∧
    YieldsAt document depth schema (sampleWithin document (levels - depth) schema).value ∧
    ∀ bound, document.nesting ≤ bound → schema.nesting ≤ bound →
      (sampleWithin document (levels - depth) schema).value.nesting ≤ 9 - depth + bound := by
  have hyields : YieldsAt document depth schema
      (sampleWithin document (levels - depth) schema).value := yieldsAt_iff.2 rfl
  refine ⟨⟨_, hyields, fun payload h => (yieldsAt_iff.1 h).symm⟩, hyields, ?_⟩
  exact fun bound hdocument hschema => hyields.nesting_le hdocument hschema

/-- A schema of lists that are nested without end. -/
def endlessLists : Document := .object [
  ("Lists", .object [("items", .object [("$ref", .string "#/Lists")]), ("type", .string "array")])]

/-- Of the lists without end, every second level makes one, up to the depth where the levels end. -/
theorem existsUnique_yieldsAt_endlessLists :
    endlessLists.nesting ≤ 3 ∧ Json.nesting (.object [("$ref", .string "#/Lists")]) ≤ 3 ∧
    (∃! payload, YieldsAt endlessLists 2 (.object [("$ref", .string "#/Lists")]) payload) ∧
    YieldsAt endlessLists 2 (.object [("$ref", .string "#/Lists")])
      (.array [.array [.array [.null]]]) ∧
    Json.nesting (.array [.array [.array [.null]]]) ≤ 9 - 2 + 3 := by
  have hdocument : endlessLists.nesting ≤ 3 := by decide
  have hschema : Json.nesting (.object [("$ref", .string "#/Lists")]) ≤ 3 := by decide
  obtain ⟨hunique, hyields, hbound⟩ :=
    existsUnique_yieldsAt endlessLists (.object [("$ref", .string "#/Lists")]) 2
  exact ⟨hdocument, hschema, hunique, hyields, hbound 3 hdocument hschema⟩

end ClientStyle.Schema
