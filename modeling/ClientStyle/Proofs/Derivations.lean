/-
Payloads without a bound on the levels.

What a payload is made of is said by one clause for each shape of a schema. The relation `Yields` has
these clauses and nothing else: no bound, and so no value for a schema that only refers to itself. The
payload made up with some levels left is what the clause of the schema makes of the payloads with one
level less. So it is the value that is derived, for every number of levels that the derivation fits
in; and where references run in a circle, it is null.
-/
import ClientStyle.Proofs.Samples
import Mathlib.Data.List.Forall2
import Mathlib.Logic.Relation

set_option autoImplicit false

namespace ClientStyle.Schema

variable {document : Document}

/-! ## Clauses -/

/-- What a schema of some shape yields if the schemas nested in it yield what `inner` says. -/
inductive Clause (document : Document) (inner : Json → Json → Prop) : Shape → Json → Prop
  | prescribed (value : Json) : Clause document inner (.prescribed value) value
  | reference {target : String} {found value : Json} (h : document.resolve? target = some found)
      (step : inner found value) : Clause document inner (.reference target) value
  | unresolved {target : String} (h : document.resolve? target = none) :
      Clause document inner (.reference target) .null
  | parts {schemas payloads : List Json} (step : List.Forall₂ inner schemas payloads) :
      Clause document inner (.parts schemas) (.object (mergeParts payloads))
  | alternative {chosen value : Json} (step : inner chosen value) :
      Clause document inner (.alternative chosen) value
  | items {items value : Json} (step : inner items value) :
      Clause document inner (.list (some items)) (.array [value])
  | noItems : Clause document inner (.list none) (.array [.null])
  | properties {members payloads : Json.Members} (h : payloads.map (·.1) = members.map (·.1))
      (step : List.Forall₂ inner (members.map (·.2)) (payloads.map (·.2))) :
      Clause document inner (.properties members) (.object payloads)
  | unknown : Clause document inner .unknown .null

/-- A clause holds with whatever more the nested schemas yield. -/
theorem Clause.mono {inner inner' : Json → Json → Prop} (h : ∀ schema value,
    inner schema value → inner' schema value) {shape : Shape} {value : Json}
    (hclause : Clause document inner shape value) : Clause document inner' shape value := by
  cases hclause with
  | prescribed => exact .prescribed _
  | reference hfound step => exact .reference hfound (h _ _ step)
  | unresolved hnone => exact .unresolved hnone
  | parts step => exact .parts (step.imp h)
  | alternative step => exact .alternative (h _ _ step)
  | items step => exact .items (h _ _ step)
  | noItems => exact .noItems
  | properties hnames step => exact .properties hnames (step.imp h)
  | unknown => exact .unknown

/-- A clause that takes no step holds whatever schemas yield. -/
theorem Clause.of_no_step {inner : Json → Json → Prop} {shape : Shape} {value : Json}
    (h : Clause document (fun _ _ => False) shape value) : Clause document inner shape value :=
  h.mono fun _ _ hstep => hstep.elim

/-! ## Derivations -/

/-- **What a schema yields**, however deep schemas are nested in it. -/
inductive Yields (document : Document) : Json → Json → Prop
  | clause {schema value : Json} (h : Clause document (Yields document) (shape schema) value) :
      Yields document schema value

/-- A schema yields a value by a derivation in which at most so many steps are nested: hops along a
reference, and descents to a part, an alternative, the items or a property. -/
def YieldsWithin (document : Document) : Nat → Json → Json → Prop
  | 0, schema, value => Clause document (fun _ _ => False) (shape schema) value
  | steps + 1, schema, value =>
    Clause document (YieldsWithin document steps) (shape schema) value

/-- What is closed under the clauses holds of all that schemas yield. -/
theorem Yields.closed {schema value : Json} (h : Yields document schema value)
    {P : Json → Json → Prop}
    (hclosed : ∀ schema value, Clause document P (shape schema) value → P schema value) :
    P schema value := by
  -- The derivation nests in clauses and in lists, so each of these has its own statement.
  refine @Yields.rec document (fun schema value _ => P schema value)
    (fun shape value _ => Clause document P shape value)
    (fun schemas payloads _ => List.Forall₂ P schemas payloads)
    ?clause ?prescribed ?reference ?unresolved ?parts ?alternative ?items ?noItems ?properties
    ?unknown ?nil ?cons _ _ h
  case clause => exact fun _ ih => hclosed _ _ ih
  case prescribed => exact .prescribed
  case reference => exact fun hfound _ ih => .reference hfound ih
  case unresolved => exact .unresolved
  case parts => exact fun _ ih => .parts ih
  case alternative => exact fun _ ih => .alternative ih
  case items => exact fun _ ih => .items ih
  case noItems => exact .noItems
  case properties => exact fun hnames _ ih => .properties hnames ih
  case unknown => exact .unknown
  case nil => exact .nil
  case cons => exact fun _ _ ih ihs => .cons ih ihs

/-- One step further out, a schema yields what the clause of its shape says. -/
theorem YieldsWithin.step {steps : Nat} {schema value : Json} {what : Shape}
    (hshape : shape schema = what) (h : Clause document (YieldsWithin document steps) what value) :
    YieldsWithin document (steps + 1) schema value := by
  rw [YieldsWithin, hshape]
  exact h

/-- A bound may be raised: it limits how many steps are nested and does not count them. -/
theorem YieldsWithin.mono {steps steps' : Nat} (hle : steps ≤ steps') {schema value : Json}
    (h : YieldsWithin document steps schema value) :
    YieldsWithin document steps' schema value := by
  induction steps generalizing steps' schema value with
  | zero =>
    cases steps' with
    | zero => exact h
    | succ => exact Clause.of_no_step h
  | succ steps ih =>
    obtain ⟨steps', rfl⟩ : ∃ rest, steps' = rest + 1 := ⟨steps' - 1, by omega⟩
    have hrest : steps ≤ steps' := by omega
    exact Clause.mono (fun _ _ hstep => ih hrest hstep) h

/-- Several schemas, each with a derivation of its own, have derivations within one bound. -/
theorem exists_forall₂_yieldsWithin {schemas payloads : List Json}
    (h : List.Forall₂ (fun schema value => ∃ steps, YieldsWithin document steps schema value)
      schemas payloads) :
    ∃ steps, List.Forall₂ (YieldsWithin document steps) schemas payloads := by
  induction h with
  | nil => exact ⟨0, .nil⟩
  | cons hfirst _ ih =>
    obtain ⟨first, hfirst⟩ := hfirst
    obtain ⟨rest, hrest⟩ := ih
    -- The larger of the two bounds serves both, since a bound may be raised.
    refine ⟨max first rest, .cons (hfirst.mono (Nat.le_max_left ..)) ?_⟩
    exact hrest.imp fun _ _ hstep => hstep.mono (Nat.le_max_right ..)

/-- A clause takes finitely many steps, so they have derivations within one bound. -/
theorem Clause.exists_within {shape : Shape} {value : Json}
    (h : Clause document (fun schema value => ∃ steps, YieldsWithin document steps schema value)
      shape value) : ∃ steps, Clause document (YieldsWithin document steps) shape value := by
  cases h with
  | prescribed => exact ⟨0, .prescribed _⟩
  | reference hfound step => exact step.imp fun _ hstep => .reference hfound hstep
  | unresolved hnone => exact ⟨0, .unresolved hnone⟩
  -- The parts have bounds of their own, of which the largest serves all of them.
  | parts step => exact (exists_forall₂_yieldsWithin step).imp fun _ hsteps => .parts hsteps
  | alternative step => exact step.imp fun _ hstep => .alternative hstep
  | items step => exact step.imp fun _ hstep => .items hstep
  | noItems => exact ⟨0, .noItems⟩
  | properties hnames step =>
    exact (exists_forall₂_yieldsWithin step).imp fun _ hsteps => .properties hnames hsteps
  | unknown => exact ⟨0, .unknown⟩

/-- A derivation is finite, so some number of its steps are nested. -/
theorem yields_iff {schema value : Json} : Yields document schema value ↔
    ∃ steps, YieldsWithin document steps schema value := by
  constructor
  · intro h
    refine h.closed (P := fun schema value => ∃ steps, YieldsWithin document steps schema value) ?_
    intro schema value hclause
    obtain ⟨steps, hsteps⟩ := hclause.exists_within
    exact ⟨steps + 1, hsteps⟩
  · -- Every level of the bound is one clause of the derivation.
    rintro ⟨steps, h⟩
    induction steps generalizing schema value with
    | zero => exact .clause (Clause.of_no_step h)
    | succ steps ih => exact .clause (Clause.mono (fun _ _ hstep => ih hstep) h)

/-! ## Payloads -/

/-- A function relates each list to one other, its image. -/
theorem eq_map_of_forall₂ {f : Json → Json} {schemas payloads : List Json}
    (h : List.Forall₂ (fun schema value => f schema = value) schemas payloads) :
    payloads = schemas.map f := by
  have hmap : List.Forall₂ (· = ·) (schemas.map f) payloads := List.forall₂_map_left_iff.2 h
  rw [List.forall₂_eq_eq_eq] at hmap
  exact hmap.symm

/-- **One level is one clause**: the payload of a schema is what its clause makes of the payloads
with one level less. -/
theorem sampleWithin_of_clause {left : Nat} {schema value : Json}
    (h : Clause document (fun schema value => (sampleWithin document left schema).value = value)
      (shape schema) value) : (sampleWithin document (left + 1) schema).value = value := by
  rw [sampleWithin]
  -- The clause is about the shape alone, so the cases are those of the shape. The relation between
  -- nested schemas and payloads is a function here, and a list of payloads the image of the schemas.
  generalize shape schema = shape at h
  cases h with
  | prescribed => rfl
  | reference hfound step =>
    simp only [hfound]
    exact step
  | unresolved hnone => simp only [hnone]
  | parts step =>
    rw [eq_map_of_forall₂ step]
    simp only [Warned.map, Warned.each_value]
  | alternative step => exact step
  | items step => exact congrArg (fun value => Json.array [value]) step
  | noItems => rfl
  | @properties members payloads hnames step =>
    have hvalues := eq_map_of_forall₂ step
    have hpayloads : payloads = members.map fun m => (m.1, (sampleWithin document left m.2).value) :=
      calc payloads
          = (payloads.map (·.1)).zip (payloads.map (·.2)) := by rw [List.zip_map', List.map_id']
        _ = members.map fun m => (m.1, (sampleWithin document left m.2).value) := by
          rw [hnames, hvalues, List.map_map, List.zip_map']
          rfl
    simp only [Warned.map, Warned.each_value, hpayloads]
  | unknown => rfl

/-- **A derivation that fits in the levels gives the payload.** -/
theorem sampleWithin_of_yieldsWithin {steps left : Nat} (hleft : steps < left) {schema value : Json}
    (h : YieldsWithin document steps schema value) :
    (sampleWithin document left schema).value = value := by
  -- Every step of the derivation takes one level, and the last clause needs one more.
  induction steps generalizing left schema value with
  | zero =>
    obtain ⟨left, rfl⟩ : ∃ rest, left = rest + 1 := ⟨left - 1, by omega⟩
    exact sampleWithin_of_clause (Clause.of_no_step h)
  | succ steps ih =>
    obtain ⟨left, rfl⟩ : ∃ rest, left = rest + 1 := ⟨left - 1, by omega⟩
    have hrest : steps < left := by omega
    exact sampleWithin_of_clause (Clause.mono (fun _ _ hstep => ih hrest hstep) h)

/-! ## References in a circle -/

/-- A schema refers to another one, which the document has. -/
def RefersTo (document : Document) (schema found : Json) : Prop :=
  ∃ target, shape schema = .reference target ∧ document.resolve? target = some found

/-- The references from a schema lead, hop by hop, into a circle. -/
def RunsInCircle (document : Document) (schema : Json) : Prop :=
  ∃ again, Relation.ReflTransGen (RefersTo document) schema again ∧
    Relation.TransGen (RefersTo document) again again

/-- On the way into a circle, and in it, there is always a next hop. -/
theorem RunsInCircle.next {schema : Json} (h : RunsInCircle document schema) :
    ∃ found, RefersTo document schema found ∧ RunsInCircle document found := by
  obtain ⟨again, hway, hround⟩ := h
  rcases hway.cases_head with rfl | ⟨found, hhop, hrest⟩
  · -- The schema is in the circle already, which goes on with its first hop.
    obtain ⟨found, hhop, hrest⟩ := Relation.TransGen.head'_iff.1 hround
    exact ⟨found, hhop, schema, hrest, hround⟩
  · exact ⟨found, hhop, again, hrest, hround⟩

/-- Whatever the number of levels, they are used up in the circle. -/
theorem RunsInCircle.sampleWithin_eq_null {schema : Json} (h : RunsInCircle document schema)
    (left : Nat) : (sampleWithin document left schema).value = .null := by
  induction left generalizing schema with
  | zero => rfl
  | succ left ih =>
    obtain ⟨found, ⟨target, hshape, hfound⟩, hcircle⟩ := h.next
    refine sampleWithin_of_clause ?_
    rw [hshape]
    exact .reference hfound (ih hcircle)

/-- Nothing can be derived in a circle. -/
theorem RunsInCircle.not_yields {schema : Json} (h : RunsInCircle document schema) (value : Json) :
    ¬ Yields document schema value := by
  intro hyields
  -- No value that is derived belongs to a schema in a circle: the clause would take the next hop.
  refine hyields.closed (P := fun schema _ => ¬ RunsInCircle document schema) ?_ h
  intro schema value hclause hcircle
  obtain ⟨found, ⟨target, hshape, hfound⟩, hnext⟩ := hcircle.next
  rw [hshape] at hclause
  cases hclause with
  | reference hfound' step =>
    rw [hfound] at hfound'
    exact step (Option.some.inj hfound' ▸ hnext)
  | unresolved hnone => cases hnone.symm.trans hfound

end ClientStyle.Schema

namespace ClientStyle.Response

open Schema

/-- **The bound on the levels only matters for schemas that need more of them.** Take a response
without example. What its schema yields by a derivation with at most eight nested steps is its
payload, and more levels change nothing. If the references from its schema run in a circle, there is
no derivation, and the payload is null. -/
theorem payload_of_schema (document : Document) {r : Response} {schema : Json}
    (hsample : r.sample = none) (hschema : r.schema = some schema) :
    (∀ value, Yields document schema value ↔
      ∃ steps, YieldsWithin document steps schema value) ∧
    (∀ value, YieldsWithin document 8 schema value →
      (r.payload? document).value = some value ∧
        ∀ left, levels ≤ left → (sampleWithin document left schema).value = value) ∧
    (RunsInCircle document schema →
      (∀ value, ¬ Yields document schema value) ∧
        (r.payload? document).value = some .null) := by
  -- Without an example the payload is that of the schema, with all levels left.
  have hpayload : (r.payload? document).value = some (sampleWithin document levels schema).value := by
    rw [payload?, hsample, hschema]
    rfl
  refine ⟨fun _ => yields_iff, fun value h => ?_, fun h => ?_⟩
  · have hvalue : ∀ left, levels ≤ left → (sampleWithin document left schema).value = value :=
      fun left hleft => sampleWithin_of_yieldsWithin hleft h
    exact ⟨hpayload.trans (congrArg some (hvalue levels (Nat.le_refl _))), hvalue⟩
  · exact ⟨h.not_yields, hpayload.trans (congrArg some (h.sampleWithin_eq_null levels))⟩

/-- A document with pages of videos, and with a schema that refers to itself. -/
def pageSchemas : Document := .object [
  ("Loop", .object [("$ref", .string "#/Loop")]),
  ("Page", .object [
    ("properties", .object [
      ("data", .object [
        ("items", .object [("$ref", .string "#/Video")]),
        ("type", .string "array")])])]),
  ("Video", .object [
    ("allOf", .array [
      .object [
        ("properties", .object [
          ("tags", .object [
            ("items", .object [("oneOf", .array [.object [("type", .string "string")]])]),
            ("type", .string "array")])])]])])]

/-- A response with the schema of this name. -/
def referring (target : String) : Response :=
  { (default : Response) with schema := some (.object [("$ref", .string target)]) }

/-- The text in the tags of a video on a page is eight steps away: the page, its data, the items, the
video, its part, the tags, the items and their alternative. -/
theorem yieldsWithin_page : YieldsWithin pageSchemas 8 (.object [("$ref", .string "#/Page")])
    (.object [("data", .array [.object [("tags", .array [.string "string"])]])]) := by
  have tags : YieldsWithin pageSchemas 3 (.object [
      ("properties", .object [
        ("tags", .object [
          ("items", .object [("oneOf", .array [.object [("type", .string "string")]])]),
          ("type", .string "array")])])])
      (.object [("tags", .array [.string "string"])]) :=
    .step rfl (.properties rfl (.cons (.step rfl (.items (.step rfl (.alternative
      (.prescribed _))))) .nil))
  exact .step rfl (.reference rfl (.step rfl (.properties rfl (.cons (.step rfl (.items
    (.step rfl (.reference rfl (.step rfl (.parts (.cons tags .nil))))))) .nil))))

/-- The eight steps to the tags of the page fit in the levels; the loop has no derivation. -/
theorem payload_of_schema_page :
    ((referring "#/Page").payload? pageSchemas).value
      = some (.object [("data", .array [.object [("tags", .array [.string "string"])]])]) ∧
    ((referring "#/Loop").payload? pageSchemas).value = some .null := by
  constructor
  · exact ((payload_of_schema pageSchemas rfl rfl).2.1 _ yieldsWithin_page).1
  · have hloop : RefersTo pageSchemas (.object [("$ref", .string "#/Loop")])
        (.object [("$ref", .string "#/Loop")]) := ⟨"#/Loop", rfl, rfl⟩
    exact ((payload_of_schema pageSchemas rfl rfl).2.2 ⟨_, .refl, .single hloop⟩).2

end ClientStyle.Response
