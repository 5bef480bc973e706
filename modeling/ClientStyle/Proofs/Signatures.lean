/-
Which texts are type signatures, and how the kind of a signature goes with that of its elements.

The signatures are told by their characters and by counting angle brackets, without a scanner. A list
is recognised twice, once for its kind and once for the signature of its elements; both come to the
same answer, at every level, because what is inside a list is checked before the list is one. So no
flaw can show up inside: reading level by level is reading at once.
-/
import ClientStyle.Api.Literal
import ClientStyle.Proofs.Trimming

set_option autoImplicit false

namespace ClientStyle

namespace Kind

/-! ## Well-formed signatures -/

/-- The characters of signatures. -/
def IsAllowed (c : Char) : Prop :=
  Unicode.isAlphanumeric c = true ∨ c ∈ ['_', '.', ',', ' ', '?', '[', ']', '<', '>']

/-- A text that is a type signature. -/
structure IsSignature (cs : List Char) : Prop where
  start : ∃ c rest, cs = c :: rest ∧ (Unicode.isAlphabetic c = true ∨ c = '_')
  characters : ∀ c ∈ cs, IsAllowed c
  /-- Nothing is closed that is not open. -/
  closed : ∀ front, front <+: cs → front.count '>' ≤ front.count '<'
  total : cs.count '>' = cs.count '<'

/-- The scanner tests brackets, alphanumeric characters and punctuation in turn. -/
theorem isAllowed_iff {c : Char} : IsAllowed c ↔
    c = '<' ∨ c = '>' ∨ Unicode.isAlphanumeric c = true ∨ isPunctuation c = true := by
  simp only [IsAllowed, isPunctuation, List.mem_cons, List.not_mem_nil, or_false, Bool.or_eq_true,
    decide_eq_true_eq]
  tauto

/-- The beginnings of a list are the empty one and those of its tail behind the first entry. -/
theorem forall_prefix_cons_iff {α : Type} {P : List α → Prop} {a : α} {as : List α} :
    (∀ front, front <+: a :: as → P front) ↔ P [] ∧ ∀ front, front <+: as → P (a :: front) := by
  constructor
  · intro h
    refine ⟨h [] List.nil_prefix, fun front hfront => ?_⟩
    exact h (a :: front) (List.cons_prefix_cons.2 ⟨rfl, hfront⟩)
  · rintro ⟨hnil, hcons⟩ front hfront
    rcases List.prefix_cons_iff.1 hfront with rfl | ⟨rest, rfl, hrest⟩
    · exact hnil
    · exact hcons rest hrest

/-- What the scanner accepts with some brackets open in front. -/
theorem balanced_iff {depth : Nat} {cs : List Char} : balanced depth cs = true ↔
    (∀ c ∈ cs, IsAllowed c) ∧
    (∀ front, front <+: cs → front.count '>' ≤ depth + front.count '<') ∧
    cs.count '>' = depth + cs.count '<' := by
  induction cs generalizing depth with
  | nil =>
    simp [balanced]
    omega
  | cons c cs ih =>
    rw [balanced, List.forall_mem_cons, forall_prefix_cons_iff, isAllowed_iff]
    -- The first character opens a bracket, closes one, or leaves the count alone.
    by_cases hopening : c = '<'
    · subst hopening
      rw [if_pos rfl, ih]
      simp [Nat.add_assoc, Nat.add_comm 1]
    · rw [if_neg hopening]
      by_cases hclosing : c = '>'
      · subst hclosing
        rw [if_pos rfl]
        cases depth with
        | zero =>
          constructor
          · intro h
            simp at h
          · -- The bracket itself closes nothing that is open.
            rintro ⟨-, ⟨-, hclosed⟩, -⟩
            simpa using hclosed [] List.nil_prefix
        | succ depth => simp [ih, Nat.add_right_comm]
      · rw [if_neg hclosing]
        simp [ih, hopening, hclosing, and_assoc]

/-- The scanner accepts the type signatures. -/
theorem wellFormed_iff {cs : List Char} : wellFormed cs = true ↔ IsSignature cs := by
  cases cs with
  | nil =>
    constructor
    · intro h
      cases h
    · rintro ⟨⟨c, rest, hcs, -⟩, -, -, -⟩
      cases hcs
  | cons c cs =>
    simp only [wellFormed, Bool.and_eq_true, balanced_iff, Nat.zero_add]
    simp only [startsSignature, Bool.or_eq_true, decide_eq_true_eq]
    constructor
    · rintro ⟨hstart, hcharacters, hclosed, htotal⟩
      exact ⟨⟨c, cs, rfl, hstart⟩, hcharacters, hclosed, htotal⟩
    · rintro ⟨⟨first, rest, hcs, hstart⟩, hcharacters, hclosed, htotal⟩
      cases hcs
      exact ⟨hstart, hcharacters, hclosed, htotal⟩

/-! ## Signatures inside lists -/

/-- What is inside a list is a signature in its own right, without white space around it. -/
theorem wellFormed_of_item? {cs inner : List Char} (h : item? cs = some inner) :
    wellFormed inner = true ∧ Text.trimChars inner = inner := by
  -- Whichever opening it is, what is inside is checked before it is returned.
  obtain ⟨opening, -, hafter⟩ := List.exists_of_findSome?_eq_some h
  unfold itemAfter? at hafter
  split at hafter
  · cases hafter
  · split at hafter
    · cases hafter
    · split at hafter
      · next hformed =>
        cases hafter
        exact ⟨hformed, Text.trimChars_trimChars _⟩
      · cases hafter

/-- One level of a kind, without the evidence by which the recursion ends. -/
theorem ofChars_eq (cs : List Char) : ofChars cs =
    match item? cs with
    | some inner => listOf (ofChars inner)
    | none => ofName cs := by
  rw [ofChars]
  split
  · next hitem => rw [hitem]
  · next hitem => rw [hitem]

theorem ofChars_of_item?_eq_some {cs inner : List Char} (h : item? cs = some inner) :
    ofChars cs = listOf (ofChars inner) := by
  rw [ofChars_eq, h]

theorem ofChars_of_item?_eq_none {cs : List Char} (h : item? cs = none) :
    ofChars cs = ofName cs := by
  rw [ofChars_eq, h]

/-! ## Kinds of lists -/

/-- The kinds of lists. -/
def IsList (kind : Kind) : Prop := kind = .stringList ∨ ∃ item, kind = .array item

/-- A list of anything has the kind of a list, and a list of strings one of its own. -/
theorem isList_listOf (item : Kind) : (listOf item).IsList := by
  cases item with
  | string => exact .inl rfl
  | _ => exact .inr ⟨_, rfl⟩

theorem not_isList_ofName (cs : List Char) : ¬ (ofName cs).IsList := by
  simp only [ofName]
  split_ifs <;> simp [IsList]

/-- A signature has the kind of a list if it has one inside. -/
theorem isList_ofChars_iff {cs : List Char} :
    (ofChars cs).IsList ↔ ∃ inner, item? cs = some inner := by
  cases hitem : item? cs with
  | none => simp [ofChars_of_item?_eq_none hitem, not_isList_ofName]
  | some inner => simp [ofChars_of_item?_eq_some hitem, isList_listOf]

/-- The kind of a list tells the kind of its elements. -/
theorem eq_string_of_listOf {item : Kind} (h : listOf item = .stringList) : item = .string := by
  cases item with
  | string => rfl
  | _ => cases h

theorem eq_of_listOf {item item' : Kind} (h : listOf item = .array item') : item = item' := by
  cases item with
  | string => cases h
  | _ => exact Kind.array.inj h

/-! ## Reading level by level -/

/-- The kind of a text that is read by checking it, and then whatever is inside in the same way. -/
def readEach (text : List Char) : Except Signature.Malformed Kind :=
  if wellFormed (Text.trimChars text) then
    match _h : item? (Text.trimChars text) with
    | some inner => (readEach inner).map listOf
    | none => .ok (ofName (Text.trimChars text))
  else .error ⟨String.ofList (Text.trimChars text)⟩
termination_by text.length
decreasing_by exact (length_item?_lt (by assumption)).trans_le (length_trimChars_le text)

/-- A well-formed text is read as the list of what is inside it, or as a name. -/
theorem readEach_of_wellFormed {text : List Char} (h : wellFormed (Text.trimChars text) = true) :
    readEach text =
      match item? (Text.trimChars text) with
      | some inner => (readEach inner).map listOf
      | none => .ok (ofName (Text.trimChars text)) := by
  rw [readEach, if_pos h]
  split
  · next hitem => rw [hitem]
  · next hitem => rw [hitem]

/-- A text is rejected at the first level or not at all. -/
theorem readEach_eq (text : List Char) : readEach text =
    if wellFormed (Text.trimChars text) then .ok (ofChars (Text.trimChars text))
    else .error ⟨String.ofList (Text.trimChars text)⟩ := by
  induction text using readEach.induct with
  | case1 text hformed inner hitem ih =>
    -- What is inside is well formed already, so it cannot be what is reported.
    obtain ⟨hinner, htrim⟩ := wellFormed_of_item? hitem
    rw [htrim, if_pos hinner] at ih
    rw [readEach_of_wellFormed hformed, if_pos hformed, ofChars_of_item?_eq_some hitem]
    simp only [hitem, ih, Except.map]
  | case2 text hformed hitem =>
    rw [readEach_of_wellFormed hformed, if_pos hformed, ofChars_of_item?_eq_none hitem]
    simp only [hitem]
  | case3 text hformed => rw [readEach, if_neg hformed, if_neg hformed]

/-! ## Optional types -/

/-- The mark of an optional type is no bracket, so brackets stay balanced. -/
theorem balanced_append_optional (depth : Nat) (cs : List Char) :
    balanced depth (cs ++ ['?']) = balanced depth cs := by
  induction cs generalizing depth with
  | nil => simp [balanced, isPunctuation]
  | cons c cs ih => simp only [List.cons_append, balanced, ih]

theorem wellFormed_append_optional {cs : List Char} (h : wellFormed cs = true) :
    wellFormed (cs ++ ['?']) = true := by
  cases cs with
  | nil => cases h
  | cons c cs =>
    rw [wellFormed, ← balanced_append_optional] at h
    exact h

/-- The mark is no white space, so there is still none around the signature. -/
theorem trimmed_append_optional {cs : List Char} (h : Text.Trimmed cs) :
    Text.Trimmed (cs ++ ['?']) := by
  constructor
  · intro c hc
    cases cs with
    | nil =>
      cases hc
      rfl
    | cons first cs => exact h.1 c hc
  · intro c hc
    rw [List.getLast?_concat] at hc
    cases hc
    rfl

section Optional

variable {cs : List Char} (htrim : Text.Trimmed cs) (hlast : cs.getLast? ≠ some '?')

include htrim hlast in
/-- The mark of an optional type is not looked at for what is inside a list. -/
theorem item?_append_optional : item? (cs ++ ['?']) = item? cs := by
  simp only [item?, Text.trimChars_of_trimmed htrim,
    Text.trimChars_of_trimmed (trimmed_append_optional htrim), Text.dropLastChar_append,
    Text.dropLastChar_of_getLast?_ne hlast]

include hlast in
/-- The mark is dropped before a name is looked up. Only a name that is not known keeps it, as a part
of the name of an object. -/
theorem ofName_append_optional (h : ∀ name, ofName cs ≠ .object name) :
    ofName (cs ++ ['?']) = ofName cs := by
  simp only [ofName, Text.dropLastChar_append, Text.dropLastChar_of_getLast?_ne hlast] at h ⊢
  split_ifs at h ⊢
  all_goals first
    | rfl
    | exact absurd rfl (h _)

include htrim hlast in
/-- The mark of an optional type is not looked at for a kind that does not spell out its type. -/
theorem ofChars_append_optional (h : ∀ name, ofChars cs ≠ .object name) :
    ofChars (cs ++ ['?']) = ofChars cs := by
  have hoptional := item?_append_optional htrim hlast
  cases hitem : item? cs with
  | none =>
    rw [hitem] at hoptional
    rw [ofChars_of_item?_eq_none hitem] at h
    rw [ofChars_of_item?_eq_none hoptional, ofChars_of_item?_eq_none hitem]
    exact ofName_append_optional hlast h
  | some inner =>
    rw [hitem] at hoptional
    rw [ofChars_of_item?_eq_some hoptional, ofChars_of_item?_eq_some hitem]

end Optional

end Kind

namespace Signature

/-! ## Reading signatures -/

/-- The signature with a spelling. -/
def ofChars (cs : List Char) : Signature := ⟨String.ofList cs, Kind.ofChars cs⟩

theorem item?_ofChars (cs : List Char) : (ofChars cs).item? = (Kind.item? cs).map String.ofList := by
  simp only [item?, ofChars, String.toList_ofList]

/-- A signature without white space around it is read as it is spelled. -/
theorem parse_ofList {cs : List Char} (hformed : Kind.wellFormed cs = true)
    (htrim : Text.trimChars cs = cs) : parse (String.ofList cs) = .ok (ofChars cs) := by
  simp only [parse, ofChars, String.toList_ofList, htrim, if_pos hformed]

/-- Only the text as a whole is checked and reported. -/
theorem parse_eq (text : String) : parse text =
    if Kind.wellFormed (Text.trimChars text.toList) then
      .ok (ofChars (Text.trimChars text.toList))
    else .error ⟨Text.trim text⟩ := rfl

/-- How the kind of a signature goes with what is inside it. -/
structure Coherent (s : Signature) : Prop where
  /-- The two ways to recognise a list come to the same. -/
  isList_iff : s.kind.IsList ↔ ∃ inner, s.item? = some inner
  /-- What is inside a list is the signature of the elements. -/
  element : ∀ inner, s.item? = some inner → ∃ element, parse inner = .ok element ∧
    (s.kind = .stringList → element.kind = .string) ∧
    ∀ item, s.kind = .array item → element.kind = item
  /-- A list that is none of strings has an empty list for its literal, in either language. -/
  literal : ∀ (f : Field) (target : Target) (item : Kind), f.signature = s →
    s.kind = .array item → ∃ inner, s.item? = some inner ∧
      f.exampleLiteral? target = some (target.emptyList inner)
  /-- The mark of an optional type makes a difference only to a kind that spells out its type. -/
  optional : s.raw.toList.getLast? ≠ some '?' → (∀ name, s.kind ≠ .object name) →
    ∃ marked, parse (s.raw ++ "?") = .ok marked ∧ marked.kind = s.kind ∧ marked.item? = s.item?

section

variable {cs : List Char}

/-- What is inside is read as the kind that the elements of the list have. -/
theorem element_ofChars {inner : String} (h : (ofChars cs).item? = some inner) :
    ∃ element, parse inner = .ok element ∧ (ofChars cs).kind = Kind.listOf element.kind := by
  rw [item?_ofChars, Option.map_eq_some_iff] at h
  obtain ⟨item, hitem, rfl⟩ := h
  obtain ⟨hformed, htrim⟩ := Kind.wellFormed_of_item? hitem
  exact ⟨ofChars item, parse_ofList hformed htrim, Kind.ofChars_of_item?_eq_some hitem⟩

/-- The kind says that there is something inside exactly if there is. -/
theorem isList_kind_ofChars_iff :
    (ofChars cs).kind.IsList ↔ ∃ inner, (ofChars cs).item? = some inner := by
  rw [item?_ofChars]
  simp [ofChars, Kind.isList_ofChars_iff]

theorem optional_ofChars (hformed : Kind.wellFormed cs = true) (htrim : Text.Trimmed cs)
    (hlast : cs.getLast? ≠ some '?') (hkind : ∀ name, Kind.ofChars cs ≠ .object name) :
    ∃ marked, parse ((ofChars cs).raw ++ "?") = .ok marked ∧ marked.kind = (ofChars cs).kind ∧
      marked.item? = (ofChars cs).item? := by
  have hraw : (ofChars cs).raw ++ "?" = String.ofList (cs ++ ['?']) := by
    rw [String.ofList_append]
    rfl
  refine ⟨ofChars (cs ++ ['?']), ?_, ?_, ?_⟩
  · rw [hraw]
    exact parse_ofList (Kind.wellFormed_append_optional hformed)
      (Text.trimChars_of_trimmed (Kind.trimmed_append_optional htrim))
  · -- Both are told without the mark.
    exact Kind.ofChars_append_optional htrim hlast hkind
  · rw [item?_ofChars, item?_ofChars, Kind.item?_append_optional htrim hlast]

theorem coherent_ofChars (hformed : Kind.wellFormed cs = true) (htrim : Text.Trimmed cs) :
    (ofChars cs).Coherent where
  isList_iff := isList_kind_ofChars_iff
  element := by
    intro inner hinner
    obtain ⟨element, hparse, hkind⟩ := element_ofChars hinner
    rw [hkind]
    exact ⟨element, hparse, Kind.eq_string_of_listOf, fun _ => Kind.eq_of_listOf⟩
  literal := by
    intro f target item hf hkind
    obtain ⟨inner, hinner⟩ := isList_kind_ofChars_iff.1 (.inr ⟨item, hkind⟩)
    refine ⟨inner, hinner, ?_⟩
    simp only [Field.exampleLiteral?, hf, hkind, hinner, Option.map_some]
  optional := by
    intro hlast hkind
    rw [ofChars, String.toList_ofList] at hlast
    exact optional_ofChars hformed htrim hlast hkind

end

section

variable {text : String}

/-- White space around a text is dropped before it is checked. -/
theorem exists_parse_eq_ok_iff :
    (∃ s, parse text = .ok s) ↔ Kind.IsSignature (Text.trim text).toList := by
  rw [← Kind.wellFormed_iff, Text.trim, String.toList_ofList, parse_eq]
  split <;> simp [*]

/-- The report has the text without white space around it, however deep the flaw is. -/
theorem text_of_parse_eq_error {e : Malformed} (h : parse text = .error e) :
    e.text = Text.trim text := by
  rw [parse_eq] at h
  split at h
  · cases h
  · cases h
    rfl

/-- Reading at once is reading level by level. -/
theorem map_kind_parse : (parse text).map (·.kind) = Kind.readEach text.toList := by
  rw [Kind.readEach_eq, parse_eq]
  split <;> rfl

theorem coherent_of_parse {s : Signature} (h : parse text = .ok s) :
    s.raw = Text.trim text ∧ s.Coherent := by
  rw [parse_eq] at h
  split at h
  · next hformed =>
    cases h
    exact ⟨rfl, coherent_ofChars hformed (Text.trimmed_trimChars _)⟩
  · cases h

end

/-- Which texts are read, what is reported of the others, and how the kind that is read goes with
the signature of the elements. -/
theorem parse_text (text : String) :
    ((∃ s, parse text = .ok s) ↔ Kind.IsSignature (Text.trim text).toList) ∧
    (∀ e, parse text = .error e → e.text = Text.trim text) ∧
    (parse text).map (·.kind) = Kind.readEach text.toList ∧
    ∀ s, parse text = .ok s → s.raw = Text.trim text ∧ s.Coherent :=
  ⟨exists_parse_eq_ok_iff, fun _ => text_of_parse_eq_error, map_kind_parse,
    fun _ => coherent_of_parse⟩

/-- A list is a list for its kind and for its elements, however it is spaced and marked. -/
example : parse " List< Set<int?> >? " =
    .ok ⟨"List< Set<int?> >?", .array (.array .integer)⟩ ∧
    (parse " List< Set<int?> >? ").map (·.item?) = .ok (some "Set<int?>") := by
  decide +kernel

end Signature

end ClientStyle
