/-
How the words of an identifier are found and written, one character at a time.

A character is part of a word, or separates words, or is dropped. What a character of a word adds to
the snake-case spelling depends on it and on what the words written so far end in, and on nothing
else. The spelling with capitals is read off the snake-case spelling without cutting it into words.
-/
import ClientStyle.Text.Casing
import Mathlib.Tactic.SplitIfs

set_option autoImplicit false

namespace ClientStyle.Text

variable {c : Char} {ending : Ending}

/-! ## Characters of words -/

/-- Whether a character is part of a word. -/
def isWordChar (c : Char) : Bool := Unicode.isUppercase c || Unicode.isAlphanumeric c

/-- How a character of a word is written in snake case. -/
def written (c : Char) : List Char := if Unicode.isUppercase c then Unicode.toLower c else [c]

/-- What a word ends in after a character. -/
def endingOf (c : Char) : Ending :=
  if Unicode.isUppercase c then .other
  else if Unicode.isLowercase c || c.isDigit then .lower
  else .other

/-- What is written in front of a character of a word: an underscore if it begins another word. -/
def division (ending : Ending) (c : Char) : List Char :=
  if ending = .gap ∨ ending = .lower ∧ Unicode.isUppercase c = true then ['_'] else []

theorem isWordChar_of_isSeparator (h : isSeparator c = true) : isWordChar c = false := by
  simp only [isSeparator, Bool.or_eq_true, decide_eq_true_eq] at h
  rcases h with (rfl | rfl) | rfl <;> decide +kernel

/-- A character of a word is written behind what divides it from the word before. -/
theorem snakeFrom_of_isWordChar (h : isWordChar c = true) (cs : List Char) :
    snakeFrom ending (c :: cs) = division ending c ++ (written c ++ snakeFrom (endingOf c) cs) := by
  unfold isWordChar at h
  unfold division written endingOf
  rw [snakeFrom]
  by_cases hupper : Unicode.isUppercase c = true
  · cases ending <;> simp [hupper]
  · rw [Bool.not_eq_true] at hupper
    rw [hupper, Bool.false_or] at h
    cases ending <;> simp [hupper, h]

/-- A separator leaves a gap, except in front of the first word. -/
theorem snakeFrom_of_isSeparator (h : isSeparator c = true) (cs : List Char) :
    snakeFrom ending (c :: cs) = snakeFrom (if ending = .start then .start else .gap) cs := by
  have hword := isWordChar_of_isSeparator h
  rw [isWordChar, Bool.or_eq_false_iff] at hword
  rw [snakeFrom, hword.1, hword.2, h]
  simp only [Bool.false_eq_true, if_false, if_true]

/-- Any other character is dropped. -/
theorem snakeFrom_of_dropped (hword : isWordChar c = false) (hseparator : isSeparator c = false)
    (cs : List Char) : snakeFrom ending (c :: cs) = snakeFrom ending cs := by
  rw [isWordChar, Bool.or_eq_false_iff] at hword
  rw [snakeFrom, hword.1, hword.2, hseparator]
  simp only [Bool.false_eq_true, if_false]

/-- Induction along a text, with what the words so far end in. -/
@[elab_as_elim]
theorem snakeFrom_induction {motive : Ending → List Char → Prop} (nil : ∀ ending, motive ending [])
    (word : ∀ ending c cs, isWordChar c = true → motive (endingOf c) cs → motive ending (c :: cs))
    (separator : ∀ ending c cs, isSeparator c = true →
      motive (if ending = .start then .start else .gap) cs → motive ending (c :: cs))
    (dropped : ∀ ending c cs, isWordChar c = false → isSeparator c = false →
      motive ending cs → motive ending (c :: cs))
    (ending : Ending) (cs : List Char) : motive ending cs := by
  induction cs generalizing ending with
  | nil => exact nil ending
  | cons c cs ih =>
    by_cases hword : isWordChar c = true
    · exact word ending c cs hword (ih _)
    · by_cases hseparator : isSeparator c = true
      · exact separator ending c cs hseparator (ih _)
      · rw [Bool.not_eq_true] at hword hseparator
        exact dropped ending c cs hword hseparator (ih _)

/-! ## Capitals for words -/

/-- Drops the underscores and capitalises the character behind each of them. -/
def capitalise (first : Bool) : List Char → List Char
  | [] => []
  | c :: cs =>
    if c = '_' then capitalise true cs
    else (if first then Unicode.toUpper c else [c]) ++ capitalise false cs

/-- Capitalising the parts between underscores. -/
theorem capitalise_eq (cs : List Char) :
    capitalise true cs = (split '_' cs).flatMap titlecaseChars ∧
      ∀ part parts, split '_' cs = part :: parts →
        capitalise false cs = part ++ parts.flatMap titlecaseChars := by
  induction cs with
  | nil =>
    refine ⟨rfl, fun part parts hsplit => ?_⟩
    cases hsplit
    rfl
  | cons c cs ih =>
    obtain ⟨part, parts, hsplit⟩ := List.exists_cons_of_ne_nil (split_ne_nil '_' cs)
    obtain ⟨hfirst, hrest⟩ := ih
    have hrest := hrest part parts hsplit
    by_cases hc : c = '_'
    · refine ⟨?_, fun part' parts' hsplit' => ?_⟩
      · rw [capitalise, if_pos hc, split, if_pos hc, List.flatMap_cons, hfirst]
        rfl
      · rw [split, if_pos hc] at hsplit'
        cases hsplit'
        rw [capitalise, if_pos hc, hfirst]
        rfl
    · have hsplit' : split '_' (c :: cs) = (c :: part) :: parts := by
        rw [split, if_neg hc, hsplit]
      refine ⟨?_, fun part' parts' hparts => ?_⟩
      · rw [capitalise, if_neg hc, if_pos rfl, hsplit', hrest, List.flatMap_cons, titlecaseChars,
          List.append_assoc]
      · rw [hsplit'] at hparts
        cases hparts
        rw [capitalise, if_neg hc, hrest]
        rfl

/-- The spelling with capitals is the snake-case spelling with capitals for its underscores. -/
theorem toList_properCase (text : String) :
    (properCase text).toList = capitalise true (snakeCase text).toList := by
  have hempty : ∀ parts : List (List Char),
      (parts.filter (!·.isEmpty)).flatMap titlecaseChars = parts.flatMap titlecaseChars := by
    intro parts
    induction parts with
    | nil => rfl
    | cons part parts ih =>
      cases part with
      | nil => exact ih
      | cons c part => rw [List.filter_cons_of_pos rfl, List.flatMap_cons, List.flatMap_cons, ih]
  rw [properCase, String.toList_ofList, words, hempty, (capitalise_eq _).1]

end ClientStyle.Text
