/-
What becomes of a single parameter, whichever list it stands in.

Descriptions, accessors, the dropping of ignored parameters, nested fields and constructors are
separate passes over the lists of an operation. Each pass treats a parameter by itself, so the
passes add up to one partial function, `Parameter.reshape?`, and a list is treated by applying that
function to its entries. The function is a projection: what it returns stays as it is.
-/
import ClientStyle.Api.Transform

set_option autoImplicit false

namespace ClientStyle

/-! ## Nested fields -/

namespace Field

/-- The pass over nested fields reads nothing that it writes. -/
theorem exampleLiteral?_shape (f : Field) (target : Target) :
    (f.shape target).exampleLiteral? target = f.exampleLiteral? target := rfl

/-- A field that went through the pass stays as it is. -/
theorem shape_shape (f : Field) (target : Target) :
    (f.shape target).shape target = f.shape target := by
  -- A literal is derived anew from the example, or there is none and the old one stays.
  have hliteral : (f.exampleLiteral? target).or ((f.exampleLiteral? target).or
      f.extensions.exampleLiteral) = (f.exampleLiteral? target).or f.extensions.exampleLiteral := by
    cases f.exampleLiteral? target <;> rfl
  -- The mark is set again for the same names.
  have hhidden : ((f.extensions.docHidden || f.turnsPages) || f.turnsPages)
      = (f.extensions.docHidden || f.turnsPages) := by
    rw [Bool.or_assoc, Bool.or_self]
  rw [shape, exampleLiteral?_shape]
  simp only [shape, turnsPages, hliteral] at hhidden ⊢
  rw [hhidden]

/-- Which fields turn pages. -/
theorem turnsPages_iff (f : Field) :
    f.turnsPages = true ↔ f.name ∈ pagingFields ∨ f.baseName ∈ pagingFields := by
  simp only [turnsPages, List.any_eq_true, Bool.or_eq_true, beq_iff_eq]
  constructor
  · rintro ⟨name, hname, h | h⟩
    · exact .inr (h ▸ hname)
    · exact .inl (h ▸ hname)
  · rintro (h | h)
    · exact ⟨f.name, h, .inr rfl⟩
    · exact ⟨f.baseName, h, .inl rfl⟩

/-- What clients may see of a field `f` in the place of which they get `f'`: nothing but the
extensions differs, and the documentation leaves out what it left out before, and fields that turn
pages. -/
def Shows (f f' : Field) : Prop :=
  f' = { f with extensions := f'.extensions } ∧
    (f'.extensions.docHidden = true ↔
      f.extensions.docHidden = true ∨ f.name ∈ pagingFields ∨ f.baseName ∈ pagingFields)

/-- The pass over a nested field writes to its extensions only, and marks those that turn pages. -/
theorem shows_shape (f : Field) (target : Target) : f.Shows (f.shape target) := by
  refine ⟨rfl, ?_⟩
  rw [← turnsPages_iff]
  exact Bool.or_eq_true_iff

end Field

/-! ## Parameters -/

namespace Parameter

/-- The parameter as clients get it, or nothing for one that they do not get: the passes that follow
the descriptions, for a single parameter. -/
def shape? (p : Parameter) (target : Target) (placeholderUri : String) : Option Parameter :=
  if p.extensions.ignored then none
  else some (((p.withGetter target).shapeFields target).withConstructor target placeholderUri)

/-- The parameter of an operation as clients get it, with its description, or nothing for one that
they do not get. -/
def reshape? (style : Style) (operationId : String) (p : Parameter) : Option Parameter :=
  (p.describe style operationId).shape? style.target style.placeholderUri

/-- An accessor changes nothing that another pass reads. -/
theorem withGetter_eq (p : Parameter) (target : Target) :
    p.withGetter target = { p with extensions := { p.extensions with
      getter := if p.extensions.copiedFromResponse then some (target.getter p.name)
        else p.extensions.getter } } := by
  unfold withGetter
  split <;> rfl

/-- All passes written out. No pass reads what another one writes, so each member is told by the
parameter as it came. -/
theorem shape?_eq (p : Parameter) (target : Target) (placeholderUri : String) :
    p.shape? target placeholderUri =
      if p.extensions.ignored then none
      else some { p with
        fields := p.fields.map (·.shape target)
        extensions := { p.extensions with
          getter := if p.extensions.copiedFromResponse then some (target.getter p.name)
            else p.extensions.getter
          testConstructor := some (p.construct target placeholderUri) } } := by
  rw [shape?, withGetter_eq]
  rfl

/-- **The passes over a list are one.** Accessors are added before ignored parameters are dropped,
fields and constructors after that. -/
theorem filterMap_shape? (ps : List Parameter) (target : Target) (placeholderUri : String) :
    ((((ps.map (·.withGetter target)).filter (!·.extensions.ignored)).map
      (·.shapeFields target)).map (·.withConstructor target placeholderUri))
      = ps.filterMap (·.shape? target placeholderUri) := by
  induction ps with
  | nil => rfl
  | cons p ps ih =>
    -- The accessor that an ignored parameter gets is dropped together with it.
    have hignored : (p.withGetter target).extensions.ignored = p.extensions.ignored := by
      rw [withGetter_eq]
    cases h : p.extensions.ignored with
    | true =>
      have hnone : p.shape? target placeholderUri = none := by rw [shape?, if_pos h]
      rw [List.map_cons, List.filter_cons_of_neg (by simp [hignored, h]), ih, List.filterMap_cons]
      simp only [hnone]
    -- Any other parameter goes through the three passes that are left.
    | false =>
      have hsome : p.shape? target placeholderUri = some
          (((p.withGetter target).shapeFields target).withConstructor target placeholderUri) := by
        rw [shape?, if_neg (by simp [h])]
      rw [List.map_cons, List.filter_cons_of_pos (by simp [hignored, h]), List.map_cons,
        List.map_cons, ih, List.filterMap_cons]
      simp only [hsome]

/-- Clients do not get the ignored parameters, and get all others. -/
theorem shape?_eq_none_iff {p : Parameter} {target : Target} {placeholderUri : String} :
    p.shape? target placeholderUri = none ↔ p.extensions.ignored = true := by
  rw [shape?_eq]
  split <;> simp_all

/-- What the parameter that clients get has to do with the one before. -/
theorem of_shape?_eq_some {p q : Parameter} {target : Target} {placeholderUri : String}
    (h : p.shape? target placeholderUri = some q) :
    q.extensions.ignored = false ∧ q.fields = p.fields.map (·.shape target) := by
  rw [shape?_eq] at h
  split at h
  · cases h
  · next hignored =>
    cases h
    exact ⟨Bool.eq_false_iff.2 hignored, rfl⟩

/-- A parameter that clients get stays as it is. -/
theorem shape?_shape? {p q : Parameter} {target : Target} {placeholderUri : String}
    (h : p.shape? target placeholderUri = some q) : q.shape? target placeholderUri = some q := by
  rw [shape?_eq] at h
  split at h
  · cases h
  · next hignored =>
    cases h
    have hfields : (p.fields.map (·.shape target)).map (·.shape target)
        = p.fields.map (·.shape target) := by
      rw [List.map_map]
      exact List.map_congr_left fun f _ => f.shape_shape target
    -- The accessor depends on the name and the mark, and both are as they were.
    simp only [shape?_eq, hignored, hfields, construct]
    cases p.extensions.copiedFromResponse <;> rfl

/-- Descriptions do not matter to the passes that follow them. -/
theorem shape?_describe (p : Parameter) (style : Style) (operationId : String) (target : Target)
    (placeholderUri : String) :
    (p.describe style operationId).shape? target placeholderUri
      = (p.shape? target placeholderUri).map (·.describe style operationId) := by
  simp only [shape?_eq, describe, construct]
  split <;> rfl

/-- Without texts, a parameter keeps its description. -/
theorem describe_of_no_text {style : Style}
    (h : ∀ key, style.descriptions.text? style.target key = none) (p : Parameter)
    (operationId : String) : p.describe style operationId = p := by
  simp only [describe, h]
  rfl

/-! ## The function of all passes -/

theorem reshape?_eq_none_iff {style : Style} {operationId : String} {p : Parameter} :
    reshape? style operationId p = none ↔ p.extensions.ignored = true :=
  shape?_eq_none_iff

/-- No field of a parameter is lost or moved. -/
theorem fields_of_reshape? {style : Style} {operationId : String} {p q : Parameter}
    (h : reshape? style operationId p = some q) :
    q.fields = p.fields.map (·.shape style.target) :=
  (of_shape?_eq_some h).2

theorem not_ignored_of_reshape? {style : Style} {operationId : String} {p q : Parameter}
    (h : reshape? style operationId p = some q) : q.extensions.ignored = false :=
  (of_shape?_eq_some h).1

end Parameter

end ClientStyle
