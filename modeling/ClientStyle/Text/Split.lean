/-
Cutting texts at a separator, joining them, and trimming blanks.

`split` and `join` are inverse to each other: a text is its parts joined, and parts without the
separator are found again.
-/
import ClientStyle.Unicode.Class
set_option autoImplicit false

namespace ClientStyle.Text

/-! ## Parts -/

/-- The parts of a text between the separators. There is always at least one part. -/
def split (separator : Char) : List Char → List (List Char)
  | [] => [[]]
  | c :: cs =>
    if c = separator then [] :: split separator cs
    else
      match split separator cs with
      | [] => [[c]]
      | part :: parts => (c :: part) :: parts

/-- The parts with separators between them. -/
def join (separator : List Char) : List (List Char) → List Char
  | [] => []
  | [part] => part
  | part :: parts => part ++ separator ++ join separator parts

/-- There is a part in front of the first separator, even if it is empty. -/
theorem split_ne_nil (separator : Char) (cs : List Char) : split separator cs ≠ [] := by
  cases cs with
  | nil => simp [split]
  | cons c cs =>
    unfold split
    split
    · simp
    · split <;> simp

/-- A text is its parts joined. -/
theorem join_split (separator : Char) (cs : List Char) :
    join [separator] (split separator cs) = cs := by
  induction cs with
  | nil => rfl
  | cons c cs ih =>
    obtain ⟨part, parts, hparts⟩ := List.exists_cons_of_ne_nil (split_ne_nil separator cs)
    rw [hparts] at ih
    by_cases h : c = separator
    · simp [split, h, hparts, join, ih]
    · cases parts with
      | nil => simp_all [split, join]
      | cons next parts => simp_all [split, join]

/-- All parts but the first come with a separator in front of them. -/
theorem join_cons (separator : Char) (part : List Char) (parts : List (List Char)) :
    join [separator] (part :: parts) = part ++ parts.flatMap (separator :: ·) := by
  induction parts generalizing part with
  | nil => rw [join, List.flatMap_nil, List.append_nil]
  | cons next parts ih =>
    rw [join, ih, List.flatMap_cons, List.append_assoc, List.singleton_append, List.cons_append]
    exact List.cons_ne_nil _ _

/-- Two parts have a separator between them. -/
theorem join_cons_cons (separator : Char) (part next : List Char) (parts : List (List Char)) :
    join [separator] (part :: next :: parts)
      = part ++ separator :: join [separator] (next :: parts) := by
  rw [join, List.append_assoc, List.singleton_append]
  exact List.cons_ne_nil _ _

/-- The parts in front of one come with a separator behind each, and those behind it with one in
front of each. -/
theorem join_append_cons (separator : Char) (before : List (List Char)) (part : List Char)
    (after : List (List Char)) : join [separator] (before ++ part :: after)
      = before.flatMap (· ++ [separator]) ++ part ++ after.flatMap (separator :: ·) := by
  induction before with
  | nil => exact join_cons separator part after
  | cons first before ih =>
    obtain ⟨next, rest, hrest⟩ : ∃ next rest, before ++ part :: after = next :: rest :=
      List.exists_cons_of_ne_nil (List.append_ne_nil_of_right_ne_nil before (List.cons_ne_nil _ _))
    rw [List.cons_append, hrest, join_cons_cons, ← hrest, ih, List.flatMap_cons]
    simp only [List.append_assoc, List.cons_append, List.nil_append]

/-- Joined parts have the characters of the parts, and besides them only separators. -/
theorem mem_join_iff {separator c : Char} (hc : c ≠ separator) {parts : List (List Char)} :
    c ∈ join [separator] parts ↔ ∃ part ∈ parts, c ∈ part := by
  cases parts with
  | nil => simp [join]
  | cons part parts => simp [join_cons, hc]

/-- A text is cut at each of its separators on its own. -/
theorem split_append_cons (separator : Char) (cs ds : List Char) :
    split separator (cs ++ separator :: ds) = split separator cs ++ split separator ds := by
  induction cs with
  | nil => simp [split]
  | cons c cs ih =>
    by_cases hc : c = separator
    · simp only [List.cons_append, split, if_pos hc, ih]
    · obtain ⟨part, parts, hparts⟩ := List.exists_cons_of_ne_nil (split_ne_nil separator cs)
      rw [hparts] at ih
      simp only [List.cons_append, split, if_neg hc, ih, hparts]

/-- A text without separators is a single part. -/
theorem split_of_not_mem {separator : Char} {cs : List Char} (h : separator ∉ cs) :
    split separator cs = [cs] := by
  induction cs with
  | nil => rfl
  | cons c cs ih =>
    rw [List.mem_cons, not_or] at h
    simp only [split, if_neg (Ne.symm h.1), ih h.2]

/-- What is put in front of a text and has no separators belongs to its first part. -/
theorem split_append_of_not_mem {separator : Char} {ds : List Char} (h : separator ∉ ds)
    {cs part : List Char} {parts : List (List Char)} (hcs : split separator cs = part :: parts) :
    split separator (ds ++ cs) = (ds ++ part) :: parts := by
  induction ds with
  | nil => exact hcs
  | cons d ds ih =>
    rw [List.mem_cons, not_or] at h
    simp only [List.cons_append, split, if_neg (Ne.symm h.1), ih h.2]

/-- A part is a text without separators. -/
theorem not_mem_of_mem_split {separator : Char} {cs part : List Char}
    (h : part ∈ split separator cs) : separator ∉ part := by
  induction cs generalizing part with
  | nil =>
    obtain rfl := List.mem_singleton.1 h
    exact List.not_mem_nil
  | cons c cs ih =>
    obtain ⟨first, parts, hparts⟩ := List.exists_cons_of_ne_nil (split_ne_nil separator cs)
    rw [hparts] at ih
    by_cases hc : c = separator
    · simp only [split, if_pos hc, hparts, List.mem_cons] at h
      rcases h with rfl | h
      · exact List.not_mem_nil
      · exact ih (List.mem_cons.2 h)
    · simp only [split, if_neg hc, hparts, List.mem_cons] at h
      rcases h with rfl | h
      · rw [List.mem_cons, not_or]
        exact ⟨Ne.symm hc, ih (List.mem_cons_self ..)⟩
      · exact ih (List.mem_cons_of_mem _ h)

/-- Parts are found again in the text that they are joined to. -/
theorem split_join {separator : Char} {parts : List (List Char)} (hne : parts ≠ [])
    (h : ∀ part ∈ parts, separator ∉ part) : split separator (join [separator] parts) = parts := by
  induction parts with
  | nil => exact absurd rfl hne
  | cons part parts ih =>
    obtain ⟨hpart, hparts⟩ := List.forall_mem_cons.1 h
    cases parts with
    | nil => exact split_of_not_mem hpart
    | cons next parts =>
      rw [join_cons_cons, split_append_cons, split_of_not_mem hpart, ih (List.cons_ne_nil _ _) hparts]
      rfl

/-- Lines that are each ended by a separator are found again, with nothing behind them. -/
theorem split_lines {separator : Char} {lines : List (List Char)}
    (h : ∀ line ∈ lines, separator ∉ line) :
    split separator (lines.flatMap (· ++ [separator])) = lines ++ [[]] := by
  induction lines with
  | nil => rfl
  | cons line lines ih =>
    obtain ⟨hline, hlines⟩ := List.forall_mem_cons.1 h
    rw [List.flatMap_cons, List.append_assoc, List.singleton_append, split_append_cons,
      split_of_not_mem hline, ih hlines]
    rfl

/-- What is put behind a text without a separator belongs to its last part. -/
theorem exists_split_append {separator : Char} {ds : List Char} (h : separator ∉ ds)
    (cs : List Char) : ∃ before part,
      split separator (cs ++ ds) = before ++ [part ++ ds] := by
  induction cs with
  | nil => exact ⟨[], [], split_of_not_mem h⟩
  | cons c cs ih =>
    obtain ⟨before, part, hsplit⟩ := ih
    by_cases hc : c = separator
    · refine ⟨[] :: before, part, ?_⟩
      simp only [List.cons_append, split, if_pos hc, hsplit]
    · cases before with
      | nil =>
        refine ⟨[], c :: part, ?_⟩
        simp only [List.cons_append, split, if_neg hc, hsplit, List.nil_append]
      | cons first before =>
        refine ⟨(c :: first) :: before, part, ?_⟩
        simp only [List.cons_append, split, if_neg hc, hsplit]

/-! ## Trimming -/

/-- Drops the characters of a class at the end. -/
def dropEndWhile (p : Char → Bool) (cs : List Char) : List Char := (cs.reverse.dropWhile p).reverse

/-- Drops white space at both ends. -/
def trimChars (cs : List Char) : List Char :=
  dropEndWhile Unicode.isWhiteSpace (cs.dropWhile Unicode.isWhiteSpace)

/-- Drops white space at both ends of a text. -/
def trim (text : String) : String := String.ofList (trimChars text.toList)

/-! ## Ends -/

/-- What follows a given beginning. -/
def afterStart? : List Char → List Char → Option (List Char)
  | [], cs => some cs
  | _ :: _, [] => none
  | b :: bs, c :: cs => if b = c then afterStart? bs cs else none

/-- What precedes a given last character. -/
def beforeLast? (last : Char) (cs : List Char) : Option (List Char) :=
  if cs.getLast? = some last then some cs.dropLast else none

/-- The text without one given last character, or unchanged if it does not end in it. -/
def dropLastChar (last : Char) (cs : List Char) : List Char := (beforeLast? last cs).getD cs

/-- A character that was added at the end is the one that is dropped. -/
@[simp] theorem dropLastChar_append (last : Char) (cs : List Char) :
    dropLastChar last (cs ++ [last]) = cs := by
  simp [dropLastChar, beforeLast?]

/-- A text that ends in another character stays as it is. -/
theorem dropLastChar_of_getLast?_ne {last : Char} {cs : List Char} (h : cs.getLast? ≠ some last) :
    dropLastChar last cs = cs := by
  simp [dropLastChar, beforeLast?, h]

/-- Whether a text occurs within another one. -/
def occursIn (part : List Char) : List Char → Bool
  | [] => part.isEmpty
  | c :: cs => (afterStart? part (c :: cs)).isSome || occursIn part cs

end ClientStyle.Text
