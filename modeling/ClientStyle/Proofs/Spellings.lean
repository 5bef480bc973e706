/-
Which kinds are read back from their usual signatures.

A kind is written as a signature by nesting its names into brackets. Reading such a signature splits
off the brackets again and gives the kind back, whatever characters the names have, as long as each
name stands for itself and lists of strings are not written as other lists. These are exactly the
kinds that any signature has.
-/
import ClientStyle.Proofs.Signatures

set_option autoImplicit false

namespace ClientStyle

namespace Kind

/-! ## Kinds inside kinds -/

/-- The kind of a text. -/
def read (text : String) : Except Signature.Malformed Kind :=
  (Signature.parse text).map (·.kind)

/-- A kind is another one, or is the kind of elements somewhere inside it. -/
inductive OccursIn (part : Kind) : Kind → Prop where
  | self : OccursIn part part
  | item {item : Kind} (h : OccursIn part item) : OccursIn part (.array item)

/-- A kind that can be written: inside it, lists of strings are written as such, and every object has a
name that stands for itself. -/
structure Expressible (kind : Kind) : Prop where
  stringLists : ¬ OccursIn (.array .string) kind
  names : ∀ name, OccursIn (.object name) kind → read name = .ok (.object name)

variable {part kind item : Kind} {name : String} {cs inner : List Char}

/-- A list of some kind has this kind inside, and what is inside this kind. -/
theorem occursIn_array_iff : OccursIn part (.array item) ↔ part = .array item ∨ OccursIn part item := by
  constructor
  · intro h
    cases h with
    | self => exact .inl rfl
    | item h => exact .inr h
  · rintro (rfl | h)
    · exact .self
    · exact .item h

/-- Nothing occurs in a kind without elements but this kind itself. -/
theorem occursIn_iff_eq (h : ∀ item, kind ≠ .array item) : OccursIn part kind ↔ part = kind := by
  constructor
  · intro hpart
    cases hpart with
    | self => rfl
    | item _ => exact absurd rfl (h _)
  · rintro rfl
    exact .self

/-- A list can be written if its elements can, unless they are strings. -/
theorem expressible_array_iff : Expressible (.array item) ↔ item ≠ .string ∧ Expressible item := by
  constructor
  · intro h
    refine ⟨?_, fun hstrings => h.stringLists (.item hstrings), fun name hname => ?_⟩
    · rintro rfl
      exact h.stringLists .self
    · exact h.names name (.item hname)
  · rintro ⟨hne, h⟩
    refine ⟨fun hstrings => ?_, fun name hname => ?_⟩
    · rcases occursIn_array_iff.1 hstrings with heq | hstrings
      · exact hne (Kind.array.inj heq).symm
      · exact h.stringLists hstrings
    · rcases occursIn_array_iff.1 hname with heq | hname
      · cases heq
      · exact h.names name hname

/-- An object can be written if its name is read as an object of this name. -/
theorem expressible_object_iff : Expressible (.object name) ↔ read name = .ok (.object name) := by
  have hself : ∀ part, OccursIn part (.object name) ↔ part = .object name :=
    fun _ => occursIn_iff_eq nofun
  constructor
  · intro h
    exact h.names name .self
  · intro h
    refine ⟨fun hstrings => ?_, fun other hother => ?_⟩
    · cases (hself _).1 hstrings
    · cases (hself _).1 hother
      exact h

/-- The kinds that neither have elements nor a name can be written. -/
theorem expressible_of_plain (harray : ∀ item, kind ≠ .array item)
    (hobject : ∀ name, kind ≠ .object name) : Expressible kind := by
  refine ⟨fun hstrings => ?_, fun name hname => ?_⟩
  · exact harray _ ((occursIn_iff_eq harray).1 hstrings).symm
  · exact absurd ((occursIn_iff_eq harray).1 hname).symm (hobject name)

/-- The list of a kind that can be written can be written: of strings there is a kind of its own. -/
theorem expressible_listOf (h : Expressible item) : Expressible (listOf item) := by
  cases item with
  | string => exact expressible_of_plain nofun nofun
  | _ => exact expressible_array_iff.2 ⟨nofun, h⟩

/-! ## Lists as they are written -/

/-- One more bracket that is open is closed by one more at the end. -/
theorem balanced_close {depth : Nat} (h : balanced depth cs = true) :
    balanced (depth + 1) (cs ++ ['>']) = true := by
  induction cs generalizing depth with
  | nil => simpa [balanced] using h
  | cons c cs ih =>
    rw [balanced] at h
    rw [List.cons_append, balanced]
    split at h
    · next hopening => rw [if_pos hopening, ih h]
    · next hopening =>
      rw [if_neg hopening]
      split at h
      · next hclosing =>
        rw [Bool.and_eq_true, bne_iff_ne] at h
        obtain ⟨outer, rfl⟩ := Nat.exists_eq_succ_of_ne_zero h.1
        rw [if_pos hclosing]
        simpa using ih h.2
      · next hclosing =>
        rw [Bool.and_eq_true] at h
        rw [if_neg hclosing, h.1, ih h.2, Bool.true_and]

/-- The signature of a list whose elements have a signature. -/
def listChars (inner : List Char) : List Char := ['L', 'i', 's', 't', '<'] ++ inner ++ ['>']

theorem wellFormed_listChars (h : wellFormed inner = true) : wellFormed (listChars inner) = true := by
  have hbalanced : balanced 0 inner = true := by
    cases inner with
    | nil => cases h
    | cons c inner =>
      rw [wellFormed, Bool.and_eq_true] at h
      exact h.2
  have hclosed : balanced 1 (inner ++ ['>']) = true := balanced_close hbalanced
  have hopened : balanced 0 (listChars inner) = balanced 1 (inner ++ ['>']) := by
    have hL : (Unicode.isAlphanumeric 'L' || isPunctuation 'L') = true := by decide
    have hi : (Unicode.isAlphanumeric 'i' || isPunctuation 'i') = true := by decide
    have hs : (Unicode.isAlphanumeric 's' || isPunctuation 's') = true := by decide
    have ht : (Unicode.isAlphanumeric 't' || isPunctuation 't') = true := by decide
    simp [listChars, balanced, hL, hi, hs, ht]
  have hstart : startsSignature 'L' = true := by decide
  exact Bool.and_eq_true_iff.2 ⟨hstart, hopened.trans hclosed⟩

theorem trimmed_listChars (inner : List Char) : Text.Trimmed (listChars inner) := by
  constructor
  · intro c hc
    cases hc
    decide
  · intro c hc
    rw [listChars, List.getLast?_concat] at hc
    cases hc
    decide

/-- What is inside a list that is written is what is between its brackets. -/
theorem item?_listChars (inner : List Char) : item? (listChars inner) =
    if wellFormed (Text.trimChars inner) then some (Text.trimChars inner) else none := by
  have hlast : (listChars inner).getLast? = some '>' := List.getLast?_concat
  have hfirst : itemAfter? "List<".toList (listChars inner)
      = if wellFormed (Text.trimChars inner) then some (Text.trimChars inner) else none := by
    simp [itemAfter?, listChars, Text.afterStart?, Text.beforeLast?]
  -- The text begins with the first of the openings and with none of the others.
  have hothers : ∀ opening ∈ listOpenings.tail, itemAfter? opening (listChars inner) = none := by
    intro opening hopening
    simp only [listOpenings, List.tail_cons, List.mem_cons, List.not_mem_nil, or_false] at hopening
    rcases hopening with rfl | rfl | rfl | rfl <;> rfl
  have hsplit : listOpenings = "List<".toList :: listOpenings.tail := rfl
  rw [item?, Text.trimChars_of_trimmed (trimmed_listChars inner),
    Text.dropLastChar_of_getLast?_ne (by rw [hlast]; decide), hsplit, List.findSome?_cons, hfirst,
    List.findSome?_eq_none_iff.2 hothers]
  split
  · next heq => exact heq.symm
  · next heq => exact heq.symm

/-! ## Reading what is written -/

/-- Reading a kind is checking the text without white space around it, and taking the kind of its
characters. -/
theorem read_eq_ok_iff {text : String} : read text = .ok kind ↔
    wellFormed (Text.trimChars text.toList) = true ∧ ofChars (Text.trimChars text.toList) = kind := by
  rw [read, Signature.parse_eq]
  split
  · next h => simp [h, Except.map, Signature.ofChars]
  · next h => simp [h, Except.map]

/-- An object is named by its signature as it stands. -/
theorem eq_of_ofChars_eq_object (h : ofChars cs = .object name) : cs = name.toList := by
  cases hitem : item? cs with
  | some inner =>
    rw [ofChars_of_item?_eq_some hitem] at h
    cases hinner : ofChars inner with
    | _ => rw [hinner] at h; cases h
  | none =>
    rw [ofChars_of_item?_eq_none hitem, ofName] at h
    split_ifs at h
    rw [← Kind.object.inj h, String.toList_ofList]

/-- The characters of a list are those of its elements between the brackets. -/
theorem toList_text_array (item : Kind) :
    (text (.array item)).toList = listChars item.text.toList := by
  simp [text, listChars]

/-- What is read back is written without white space around it. -/
theorem trimChars_text_of_read (h : read kind.text = .ok kind) :
    Text.trimChars kind.text.toList = kind.text.toList := by
  cases kind with
  | array item =>
    rw [toList_text_array]
    exact Text.trimChars_of_trimmed (trimmed_listChars _)
  | object name => exact eq_of_ofChars_eq_object (read_eq_ok_iff.1 h).2
  | _ => decide +kernel

theorem listOf_of_ne_string (h : kind ≠ .string) : listOf kind = .array kind := by
  cases kind with
  | string => exact absurd rfl h
  | _ => rfl

/-- Only a list of strings has a kind of its own, so the kind of any other list tells its elements. -/
theorem listOf_eq_array_iff : listOf kind = .array item ↔ item ≠ .string ∧ kind = item := by
  constructor
  · intro h
    obtain rfl := eq_of_listOf h
    refine ⟨?_, rfl⟩
    rintro rfl
    cases h
  · rintro ⟨hne, rfl⟩
    exact listOf_of_ne_string hne

/-- A list is read back exactly if its elements are, and they are no strings. -/
theorem read_text_array_iff :
    read (text (.array item)) = .ok (.array item) ↔ item ≠ .string ∧ read item.text = .ok item := by
  have hitem := item?_listChars item.text.toList
  have hlist : read (text (.array item)) = .ok (.array item) ↔
      wellFormed (listChars item.text.toList) = true ∧
        ofChars (listChars item.text.toList) = .array item := by
    rw [read_eq_ok_iff, toList_text_array, Text.trimChars_of_trimmed (trimmed_listChars _)]
  rw [hlist]
  constructor
  · rintro ⟨-, hkind⟩
    by_cases hinner : wellFormed (Text.trimChars item.text.toList) = true
    · rw [if_pos hinner] at hitem
      rw [ofChars_of_item?_eq_some hitem, listOf_eq_array_iff] at hkind
      exact ⟨hkind.1, read_eq_ok_iff.2 ⟨hinner, hkind.2⟩⟩
    · -- If the elements cannot be read, the text is not one of a list.
      rw [if_neg hinner] at hitem
      rw [ofChars_of_item?_eq_none hitem] at hkind
      exact absurd (.inr ⟨item, hkind⟩) (not_isList_ofName _)
  · rintro ⟨hne, hread⟩
    obtain ⟨hinner, hsame⟩ := read_eq_ok_iff.1 hread
    rw [if_pos hinner] at hitem
    rw [ofChars_of_item?_eq_some hitem, listOf_eq_array_iff]
    rw [trimChars_text_of_read hread] at hinner
    exact ⟨wellFormed_listChars hinner, hne, hsame⟩

/-- **A kind is read back from its usual signature exactly if it can be written.** -/
theorem read_text_iff (kind : Kind) : read kind.text = .ok kind ↔ kind.Expressible := by
  induction kind with
  | array item ih => rw [read_text_array_iff, expressible_array_iff, ih]
  | object name => rw [expressible_object_iff, text]
  | _ =>
    constructor
    · exact fun _ => expressible_of_plain nofun nofun
    · intro _
      decide +kernel

/-- The kind of a signature can be written. -/
theorem expressible_ofChars (hformed : wellFormed cs = true) (htrim : Text.trimChars cs = cs) :
    Expressible (ofChars cs) := by
  induction cs using ofChars.induct with
  | case1 cs inner hitem ih =>
    obtain ⟨hinner, htrimmed⟩ := wellFormed_of_item? hitem
    rw [ofChars_of_item?_eq_some hitem]
    exact expressible_listOf (ih hinner htrimmed)
  | case2 cs hitem =>
    -- A name that is not known is an object of this name, and is read as itself.
    by_cases hobject : ∃ name, ofChars cs = .object name
    · obtain ⟨name, hname⟩ := hobject
      have hcs := eq_of_ofChars_eq_object hname
      rw [hname, expressible_object_iff, read_eq_ok_iff, ← hcs, htrim]
      exact ⟨hformed, hname⟩
    · rw [ofChars_of_item?_eq_none hitem] at hobject ⊢
      refine expressible_of_plain (fun item harray => ?_) (fun name hname => hobject ⟨name, hname⟩)
      exact not_isList_ofName cs (.inr ⟨item, harray⟩)

theorem expressible_of_read {text : String} (h : read text = .ok kind) : kind.Expressible := by
  obtain ⟨hformed, rfl⟩ := read_eq_ok_iff.1 h
  exact expressible_ofChars hformed (Text.trimChars_trimChars _)

end Kind

namespace Signature

/-- The signature that is made of a kind is the one that its text is read as, if the kind can be
written. -/
theorem parse_text_eq_ofKind_iff (kind : Kind) :
    parse kind.text = .ok (ofKind kind) ↔ kind.Expressible := by
  rw [← Kind.read_text_iff]
  constructor
  · intro h
    rw [Kind.read, h]
    rfl
  · intro h
    have hkind := (Kind.read_eq_ok_iff.1 h).2
    have htrim := Kind.trimChars_text_of_read h
    rw [parse_eq, if_pos (Kind.read_eq_ok_iff.1 h).1, ofChars, hkind, htrim, String.ofList_toList]
    rfl

/-- **Reading undoes writing exactly for the kinds that are ever read.** These are the kinds inside
which no list of strings is written as another list and every object has a name that stands for
itself. Of these kinds, and of no others, signatures are made as their texts are read. -/
theorem expressible_iff (kind : Kind) :
    (Kind.read kind.text = .ok kind ↔ kind.Expressible) ∧
    ((∃ text, Kind.read text = .ok kind) ↔ kind.Expressible) ∧
    (parse kind.text = .ok (ofKind kind) ↔ kind.Expressible) := by
  refine ⟨Kind.read_text_iff kind, ⟨?_, ?_⟩, parse_text_eq_ofKind_iff kind⟩
  · rintro ⟨text, h⟩
    exact Kind.expressible_of_read h
  · intro h
    exact ⟨kind.text, (Kind.read_text_iff kind).2 h⟩

/-- Commas and brackets inside a name are part of it; a list of strings is read as one, however its
kind was made. -/
example : Kind.read (Kind.array (.array (.object "Map<String, List<Video?>>"))).text
      = .ok (.array (.array (.object "Map<String, List<Video?>>"))) ∧
    Kind.read (Kind.array .string).text = .ok .stringList := by
  decide +kernel

end Signature

end ClientStyle
