/-
Tidy prose.

Each step of tidying establishes what the next steps keep: no carriage return is left, then no blank
stands at the end of a line, and then no white space at either end of the text. A text with all three
properties is left alone by every step, so tidying twice is tidying once.
-/
import ClientStyle.Proofs.Trimming
import ClientStyle.Text.Tidy

set_option autoImplicit false

namespace ClientStyle.Text

/-! ## Line breaks -/

/-- All line breaks are line feeds. -/
theorem not_mem_unifyLineBreaks (cs : List Char) : '\r' ∉ unifyLineBreaks cs := by
  fun_induction unifyLineBreaks cs with
  | case1 => exact List.not_mem_nil
  | case2 cs ih =>
    rw [List.mem_cons, not_or]
    exact ⟨by decide, ih⟩
  | case3 c cs _ ih =>
    rw [List.mem_cons, not_or]
    refine ⟨?_, ih⟩
    split
    · decide
    · next hne => exact Ne.symm hne

/-- A text without carriage returns has its line breaks already. -/
theorem unifyLineBreaks_of_not_mem {cs : List Char} (h : '\r' ∉ cs) : unifyLineBreaks cs = cs := by
  fun_induction unifyLineBreaks cs with
  | case1 => rfl
  | case2 cs _ => exact absurd (List.mem_cons_self ..) h
  | case3 c cs _ ih =>
    rw [List.mem_cons, not_or] at h
    rw [if_neg (Ne.symm h.1), ih h.2]

/-! ## Blanks at the ends of lines -/

/-- No line of a text ends in a blank. -/
def LinesTrimmed : List Char → Prop
  | [] => True
  | c :: cs => (isLineBlank c = true → atLineEnd cs = false) ∧ LinesTrimmed cs

/-- Dropping blanks adds no characters. -/
theorem dropTrailingBlanks_subset (cs : List Char) : dropTrailingBlanks cs ⊆ cs := by
  induction cs with
  | nil => exact List.Subset.refl _
  | cons c cs ih =>
    simp only [dropTrailingBlanks]
    split
    · exact List.subset_cons_of_subset c ih
    · exact List.cons_subset_cons c ih

theorem linesTrimmed_dropTrailingBlanks (cs : List Char) : LinesTrimmed (dropTrailingBlanks cs) := by
  induction cs with
  | nil => exact trivial
  | cons c cs ih =>
    simp only [dropTrailingBlanks]
    split
    · exact ih
    · next hkept =>
      refine ⟨fun hblank => ?_, ih⟩
      rw [hblank, Bool.true_and] at hkept
      exact Bool.eq_false_iff.2 hkept

theorem dropTrailingBlanks_of_linesTrimmed {cs : List Char} (h : LinesTrimmed cs) :
    dropTrailingBlanks cs = cs := by
  induction cs with
  | nil => rfl
  | cons c cs ih =>
    simp only [dropTrailingBlanks, ih h.2]
    refine if_neg ?_
    intro hdropped
    rw [Bool.and_eq_true] at hdropped
    rw [h.1 hdropped.1] at hdropped
    cases hdropped.2

/-- What stands behind a character decides whether it is the end of a line, so the end of a text has
trimmed lines if the text has. -/
theorem LinesTrimmed.of_append {cs more : List Char} (h : LinesTrimmed (cs ++ more)) :
    LinesTrimmed more := by
  induction cs with
  | nil => exact h
  | cons c cs ih => exact ih h.2

/-- The beginning of a text has no blanks at the ends of its lines if it does not itself end in
one. -/
theorem LinesTrimmed.of_prefix {cs more : List Char} (h : LinesTrimmed (cs ++ more))
    (hlast : ∀ c, cs.getLast? = some c → isLineBlank c = false) : LinesTrimmed cs := by
  induction cs with
  | nil => exact trivial
  | cons c cs ih =>
    cases cs with
    | nil =>
      refine ⟨fun hblank => ?_, trivial⟩
      rw [hlast c rfl] at hblank
      cases hblank
    | cons next cs =>
      exact ⟨h.1, ih h.2 fun d hd => hlast d (by rw [List.getLast?_cons_cons, hd])⟩

/-- The blanks of a line are white space. -/
theorem isLineBlank_of_not_isWhiteSpace {c : Char} (h : Unicode.isWhiteSpace c = false) :
    isLineBlank c = false := by
  refine Bool.eq_false_iff.2 fun hblank => ?_
  simp only [isLineBlank, Bool.or_eq_true, decide_eq_true_eq] at hblank
  rcases hblank with rfl | rfl
  · exact absurd h (by decide)
  · exact absurd h (by decide)

/-! ## Tidy texts -/

/-- A text that is tidy: its line breaks are line feeds, no line ends in a blank, and there is no
white space around it. -/
structure Tidied (cs : List Char) : Prop where
  unified : '\r' ∉ cs
  lines : LinesTrimmed cs
  trimmed : Trimmed cs

theorem tidied_tidyChars (cs : List Char) : Tidied (tidyChars cs) := by
  have hpiece := trimChars_infix (dropTrailingBlanks (unifyLineBreaks cs))
  have htrimmed := trimmed_trimChars (dropTrailingBlanks (unifyLineBreaks cs))
  refine ⟨?_, ?_, htrimmed⟩
  · exact fun hmem =>
      not_mem_unifyLineBreaks cs (dropTrailingBlanks_subset _ (hpiece.subset hmem))
  · obtain ⟨before, after, hparts⟩ := hpiece
    have hlines := linesTrimmed_dropTrailingBlanks (unifyLineBreaks cs)
    rw [← hparts, List.append_assoc] at hlines
    exact hlines.of_append.of_prefix fun c hc => isLineBlank_of_not_isWhiteSpace (htrimmed.2 c hc)

/-- A tidy text is left alone. -/
theorem tidyChars_of_tidied {cs : List Char} (h : Tidied cs) : tidyChars cs = cs := by
  rw [tidyChars, unifyLineBreaks_of_not_mem h.unified, dropTrailingBlanks_of_linesTrimmed h.lines,
    trimChars_of_trimmed h.trimmed]

/-- Tidying twice is tidying once. -/
@[simp] theorem tidy_tidy (text : String) : tidy (tidy text) = tidy text := by
  rw [tidy, tidy, String.toList_ofList, tidyChars_of_tidied (tidied_tidyChars text.toList)]

end ClientStyle.Text
