/-
Spelling in snake case what is in snake case already.

In a snake-case spelling, underscores only stand between other characters, each on its own. Spelling
it once more finds the same words, with two exceptions. The capital I with a dot is written as an i
and a dot, and the dot is no character of a word; so it is lost. And a capital without a lower-case
form stays a capital, which begins a word of its own as soon as a lower-case letter is in front of it,
even where that letter was a capital before.
-/
import ClientStyle.Api.Paging
import ClientStyle.Proofs.Capitals
import ClientStyle.Proofs.Casing
import Mathlib.Data.List.Chain
import Mathlib.Data.List.Infix

set_option autoImplicit false

namespace ClientStyle.Text

open Unicode (isUppercase isLowercase isAlphanumeric toLower toUpper)

variable {c d : Char} {cs : List Char} {ending : Ending}

/-! ## What characters are written as -/

/-- A capital with another lower-case form than itself. -/
def IsLowered (c : Char) : Prop := isUppercase c = true ∧ toLower c ≠ [c]

/-- A capital that has no lower-case form. -/
def IsFixed (c : Char) : Prop := isUppercase c = true ∧ toLower c = [c]

theorem ne_underscore_of_isWordChar (h : isWordChar c = true) : c ≠ '_' := by
  rintro rfl
  exact absurd h (by decide +kernel)

/-- A lower-case letter is written as it is, and a word may end in it. -/
theorem written_of_isLowercase (h : isLowercase c = true) : isWordChar c = true ∧
    isUppercase c = false ∧ written c = [c] ∧ endingOf c = .lower := by
  have hupper := Unicode.isUppercase_of_isLowercase h
  refine ⟨?_, hupper, ?_, ?_⟩
  · rw [isWordChar, hupper, Unicode.isAlphanumeric_of_isLowercase h, Bool.or_true]
  · rw [written, hupper, if_neg Bool.false_ne_true]
  · rw [endingOf, hupper, if_neg Bool.false_ne_true, h, Bool.true_or, if_pos rfl]

/-- What a character of a word is written as. -/
inductive WrittenAs (c : Char) : List Char → Prop where
  /-- The capital I with a dot is written as an i and a dot. -/
  | dotted (h : c = 'İ') : WrittenAs c ['i', '\u0307']
  /-- Any other capital is written as a lower-case letter if there is one. -/
  | lowered {letter : Char} (hcapital : IsLowered c) (hlower : isLowercase letter = true) :
    WrittenAs c [letter]
  /-- A capital without a lower-case form is written as it is. -/
  | fixed (hcapital : IsFixed c) : WrittenAs c [c]
  /-- What is no capital is written as it is. -/
  | plain (hupper : isUppercase c = false) : WrittenAs c [c]

/-- A character is written in one of these four ways, since letters are mapped to one character or to
themselves, but for the capital I with a dot. -/
theorem writtenAs_written (c : Char) : WrittenAs c (written c) := by
  unfold written
  split
  · next hupper =>
    rcases Unicode.toLower_cases c with ⟨hc, hlower⟩ | ⟨letter, hletter, hlower⟩ | hself
    · rw [hlower]
      exact .dotted hc
    · rw [hletter]
      refine .lowered ⟨hupper, fun hself => ?_⟩ hlower
      cases hletter.symm.trans hself
      rw [Unicode.isUppercase_of_isLowercase hlower] at hupper
      cases hupper
    · rw [hself]
      exact .fixed ⟨hupper, hself⟩
  · next hupper => exact .plain (Bool.eq_false_iff.2 hupper)

/-- A character of a word is written as something, but not as an underscore. -/
theorem exists_written (h : isWordChar c = true) :
    ∃ d ds, written c = d :: ds ∧ ∀ x ∈ d :: ds, x ≠ '_' := by
  have hself := ne_underscore_of_isWordChar h
  have hwritten := writtenAs_written c
  generalize written c = piece at hwritten
  cases hwritten with
  | dotted => exact ⟨_, _, rfl, by simp⟩
  | lowered _ hlower =>
    have hletter := ne_underscore_of_isWordChar (written_of_isLowercase hlower).1
    exact ⟨_, _, rfl, List.forall_mem_singleton.2 hletter⟩
  | fixed => exact ⟨_, _, rfl, List.forall_mem_singleton.2 hself⟩
  | plain => exact ⟨_, _, rfl, List.forall_mem_singleton.2 hself⟩

/-! ## Underscores -/

/-- Every underscore stands between two other characters. -/
structure Separated (cs : List Char) : Prop where
  first : cs.head? ≠ some '_'
  last : cs.getLast? ≠ some '_'
  single : ¬ ['_', '_'] <:+: cs

/-- Every underscore has another character behind it. -/
structure Continued (cs : List Char) : Prop where
  last : cs.getLast? ≠ some '_'
  single : ¬ ['_', '_'] <:+: cs

theorem continued_nil : Continued [] := ⟨nofun, by decide⟩

theorem Continued.cons (h : Continued cs) (hc : c ≠ '_') : Continued (c :: cs) := by
  refine ⟨?_, fun hinfix => ?_⟩
  · rw [List.getLast?_cons]
    cases hlast : cs.getLast? with
    | none => simpa using hc
    | some d =>
      have hd := h.last
      rw [hlast] at hd
      exact hd
  · rcases List.infix_cons_iff.1 hinfix with hprefix | hinfix
    · exact hc (List.cons_prefix_cons.1 hprefix).1.symm
    · exact h.single hinfix

theorem Continued.append (h : Continued cs) {piece : List Char} (hpiece : ∀ c ∈ piece, c ≠ '_') :
    Continued (piece ++ cs) := by
  induction piece with
  | nil => exact h
  | cons c piece ih =>
    obtain ⟨hc, hpiece⟩ := List.forall_mem_cons.1 hpiece
    exact (ih hpiece).cons hc

theorem Continued.underscore (h : Continued (c :: cs)) (hc : c ≠ '_') :
    Continued ('_' :: c :: cs) := by
  refine ⟨?_, fun hinfix => ?_⟩
  · rw [List.getLast?_cons_cons]
    exact h.last
  · rcases List.infix_cons_iff.1 hinfix with hprefix | hinfix
    · exact hc (List.cons_prefix_cons.1 (List.cons_prefix_cons.1 hprefix).2).1.symm
    · exact h.single hinfix

/-- An underscore is written only together with the character that begins the next word. -/
theorem continued_snakeFrom (ending : Ending) (cs : List Char) :
    Continued (snakeFrom ending cs) := by
  induction ending, cs using snakeFrom_induction with
  | nil => exact continued_nil
  | word ending c cs hword ih =>
    obtain ⟨d, ds, hpiece, hne⟩ := exists_written hword
    have hmore := ih.append hne
    rw [snakeFrom_of_isWordChar hword, hpiece, division]
    split
    · exact hmore.underscore (hne d (List.mem_cons_self ..))
    · exact hmore
  | separator ending c cs hseparator ih =>
    rw [snakeFrom_of_isSeparator hseparator]
    exact ih
  | dropped ending c cs hword hseparator ih =>
    rw [snakeFrom_of_dropped hword hseparator]
    exact ih

/-- The first word has no underscore in front of it, since separators at the beginning leave no
gap. -/
theorem head?_snakeFrom (hstart : ending = .start) (cs : List Char) :
    (snakeFrom ending cs).head? ≠ some '_' := by
  induction ending, cs using snakeFrom_induction with
  | nil => nofun
  | word ending c cs hword =>
    obtain ⟨d, ds, hpiece, hne⟩ := exists_written hword
    rw [snakeFrom_of_isWordChar hword, hpiece, division, if_neg (by simp [hstart])]
    simpa using hne d (List.mem_cons_self ..)
  | separator ending c cs hseparator ih =>
    rw [snakeFrom_of_isSeparator hseparator]
    exact ih (if_pos hstart)
  | dropped ending c cs hword hseparator ih =>
    rw [snakeFrom_of_dropped hword hseparator]
    exact ih hstart

/-- In a snake-case spelling every underscore stands between two other characters. -/
theorem separated_snakeCase (text : String) : Separated (snakeCase text).toList := by
  rw [snakeCase, String.toList_ofList]
  have hcontinued := continued_snakeFrom .start text.toList
  exact ⟨head?_snakeFrom rfl text.toList, hcontinued.last, hcontinued.single⟩

/-! ## The dot of a capital I -/

/-- What a snake-case spelling has besides underscores is what the characters of words are written
as. -/
theorem mem_snakeFrom_iff (hd : d ≠ '_') (ending : Ending) (cs : List Char) :
    d ∈ snakeFrom ending cs ↔ ∃ c ∈ cs, isWordChar c = true ∧ d ∈ written c := by
  induction ending, cs using snakeFrom_induction with
  | nil => exact iff_of_false List.not_mem_nil (by simp)
  | word ending c cs hword ih =>
    have hdivision : d ∉ division ending c := by
      unfold division
      split
      · simpa using hd
      · exact List.not_mem_nil
    rw [snakeFrom_of_isWordChar hword, List.mem_append, or_iff_right hdivision, List.mem_append, ih,
      List.exists_mem_cons_iff, and_iff_right hword]
  | separator ending c cs hseparator ih =>
    have hword := isWordChar_of_isSeparator hseparator
    rw [snakeFrom_of_isSeparator hseparator, ih, List.exists_mem_cons_iff, hword]
    simp
  | dropped ending c cs hword hseparator ih =>
    rw [snakeFrom_of_dropped hword hseparator, ih, List.exists_mem_cons_iff, hword]
    simp

theorem written_dotted : written 'İ' = ['i', '\u0307'] := by decide +kernel

/-- The dot above comes from a capital I with a dot, since on its own it is dropped. -/
theorem dot_mem_written_iff (h : isWordChar c = true) : '\u0307' ∈ written c ↔ c = 'İ' := by
  have hdot : isWordChar '\u0307' = false := by decide +kernel
  have hne : ∀ d, isWordChar d = true → '\u0307' ∉ [d] := by
    intro d hd hmem
    rw [← List.mem_singleton.1 hmem, hdot] at hd
    cases hd
  constructor
  · intro hmem
    have hwritten := writtenAs_written c
    generalize written c = piece at hwritten hmem
    cases hwritten with
    | dotted hc => exact hc
    | lowered _ hlower => exact absurd hmem (hne _ (written_of_isLowercase hlower).1)
    | fixed => exact absurd hmem (hne c h)
    | plain => exact absurd hmem (hne c h)
  · rintro rfl
    rw [written_dotted]
    decide

/-- A capital I with a dot is never written. -/
theorem dotted_not_mem_written (c : Char) : 'İ' ∉ written c := by
  intro hmem
  have hwritten := writtenAs_written c
  generalize hpiece : written c = piece at hwritten hmem
  have hupper : isUppercase 'İ' = true := by decide +kernel
  cases hwritten with
  | dotted => exact absurd hmem (by decide)
  | lowered _ hlower =>
    rw [← List.mem_singleton.1 hmem] at hlower
    rw [Unicode.isUppercase_of_isLowercase hlower] at hupper
    cases hupper
  | fixed =>
    rw [← List.mem_singleton.1 hmem, written_dotted] at hpiece
    exact absurd hpiece (by decide)
  | plain hplain =>
    rw [← List.mem_singleton.1 hmem, hupper] at hplain
    cases hplain

/-- The dot above tells whether there was a capital I with a dot, of which the second time finds
none. -/
theorem dot_mem_snakeFrom_iff (ending : Ending) (cs : List Char) :
    '\u0307' ∈ snakeFrom ending cs ↔ 'İ' ∈ cs := by
  rw [mem_snakeFrom_iff (by decide)]
  constructor
  · rintro ⟨c, hc, hword, hdot⟩
    rw [← (dot_mem_written_iff hword).1 hdot]
    exact hc
  · intro hc
    have hword : isWordChar 'İ' = true := by decide +kernel
    exact ⟨_, hc, hword, (dot_mem_written_iff hword).2 rfl⟩

theorem dotted_not_mem_snakeFrom (ending : Ending) (cs : List Char) :
    'İ' ∉ snakeFrom ending cs := by
  rw [mem_snakeFrom_iff (by decide)]
  rintro ⟨c, -, -, hdotted⟩
  exact dotted_not_mem_written c hdotted

theorem dot_mem_capitalise_iff (first : Bool) (cs : List Char) :
    '\u0307' ∈ capitalise first cs ↔ '\u0307' ∈ cs := by
  induction cs generalizing first with
  | nil => exact Iff.rfl
  | cons c cs ih =>
    rw [capitalise, List.mem_cons]
    split
    · next hc =>
      rw [ih, hc]
      exact (or_iff_right (by decide)).symm
    · have hfirst : '\u0307' ∈ (if first then toUpper c else [c]) ↔ '\u0307' = c := by
        split
        · rw [Unicode.dot_mem_toUpper_iff, eq_comm]
        · exact List.mem_singleton
      rw [List.mem_append, ih, hfirst]

/-! ## The second time -/

/-- What the words end in the second time, if they end in something the first time. The difference
is made by capitals that are written small; behind a separator the underscore is yet to be written. -/
def Follows : Ending → Ending → Prop
  | .start, again => again = .start
  | .lower, again => again = .lower
  | .other, again => again = .lower ∨ again = .other
  | .gap, again => again = .lower ∨ again = .other

/-- A character of a word is written as one character, which is written as it is the second time. -/
structure Settles (c d : Char) : Prop where
  written_eq : written c = [d]
  isWordChar : isWordChar d = true
  written_again : written d = [d]
  isUppercase_iff : isUppercase d = true ↔ IsFixed c
  follows : Follows (endingOf c) (endingOf d)
  isLowered_iff : IsLowered c ↔ endingOf c = .other ∧ endingOf d = .lower

/-- Every character of a word settles the first time, except for the capital I with a dot. -/
theorem exists_settles (h : isWordChar c = true) (hc : c ≠ 'İ') : ∃ d, Settles c d := by
  have hwritten := writtenAs_written c
  generalize hpiece : written c = piece at hwritten
  cases hwritten with
  | dotted hdotted => exact absurd hdotted hc
  | @lowered letter hcapital hlower =>
    -- The letter that a capital is written as may end a word, which the capital could not.
    obtain ⟨hword, hupper, hself, hending⟩ := written_of_isLowercase hlower
    have hother : endingOf c = .other := by rw [endingOf, hcapital.1, if_pos rfl]
    have hnot : ¬ IsFixed c := fun hfixed => hcapital.2 hfixed.2
    refine ⟨letter, hpiece, hword, hself, iff_of_false (by simp [hupper]) hnot,
      ?_, iff_of_true hcapital ⟨hother, hending⟩⟩
    rw [hother, hending]
    exact .inl rfl
  | fixed hcapital =>
    have hother : endingOf c = .other := by rw [endingOf, hcapital.1, if_pos rfl]
    have hnot : ¬ IsLowered c := fun hlowered => hlowered.2 hcapital.2
    refine ⟨c, hpiece, h, hpiece, iff_of_true hcapital.1 hcapital, ?_, ?_⟩
    · rw [hother]
      exact .inr rfl
    · rw [hother]
      exact iff_of_false hnot (by decide)
  | plain hupper =>
    have hnot : ∀ {p : Prop}, ¬ (isUppercase c = true ∧ p) := by simp [hupper]
    have hending : endingOf c = .lower ∨ endingOf c = .other := by
      rw [endingOf, hupper, if_neg Bool.false_ne_true]
      split
      · exact .inl rfl
      · exact .inr rfl
    refine ⟨c, hpiece, h, hpiece, iff_of_false (by simp [hupper]) hnot, ?_,
      iff_of_false hnot ?_⟩
    · rcases hending with hending | hending
      · rw [hending]
        exact rfl
      · rw [hending]
        exact .inr rfl
    · rintro ⟨hother, hlower⟩
      cases hother.symm.trans hlower

variable {again : Ending}

/-- Only a capital behind one that was written small is divided from it the second time. -/
theorem snakeFrom_division (hfollows : Follows ending again) (h : Settles c d) (more : List Char) :
    snakeFrom again (division ending c ++ d :: more)
      = (if ending = .other ∧ again = .lower ∧ isUppercase d = true then ['_']
        else division ending c) ++ d :: snakeFrom (endingOf d) more := by
  have hd : ∀ e, snakeFrom e (d :: more) = division e d ++ d :: snakeFrom (endingOf d) more := by
    intro e
    rw [snakeFrom_of_isWordChar h.isWordChar, h.written_again]
    rfl
  -- The underscore that is there makes the gap the second time.
  have hgap : again ≠ .start → snakeFrom again ('_' :: d :: more)
      = '_' :: d :: snakeFrom (endingOf d) more := by
    intro hagain
    rw [snakeFrom_of_isSeparator (by decide), if_neg hagain, hd]
    rfl
  cases ending with
  | start =>
    cases hfollows
    simp [division, hd]
  | lower =>
    cases hfollows
    by_cases hupper : isUppercase c = true
    · simpa [division, hupper] using hgap (by decide)
    · have hplain : ¬ isUppercase d = true := fun hd => hupper (h.isUppercase_iff.1 hd).1
      simp [division, hupper, hplain, hd]
  | other =>
    rcases hfollows with rfl | rfl
    · simp [division, hd]
    · simp [division, hd]
  | gap =>
    have hagain : again ≠ .start := by rcases hfollows with rfl | rfl <;> decide
    simpa [division] using hgap hagain

/-- The characters of a text that are not dropped. -/
def kept (cs : List Char) : List Char := cs.filter fun c => isWordChar c || isSeparator c

theorem isUppercase_of_isSeparator (h : isSeparator c = true) : isUppercase c = false :=
  (Bool.or_eq_false_iff.1 (isWordChar_of_isSeparator h)).1

/-- Behind a separator the first time has a gap, and the second time still has what was in front of
it. -/
theorem Follows.of_separator (h : Follows ending again) :
    Follows (if ending = .start then .start else .gap) again := by
  cases ending with
  | start => exact h
  | lower => exact .inl h
  | other => exact h
  | gap => exact h

/-- The second time changes nothing exactly if no capital without a lower-case form stands directly
behind one that is written small. -/
theorem snakeFrom_snakeFrom_eq_iff (hcs : 'İ' ∉ cs) (hfollows : Follows ending again) :
    snakeFrom again (snakeFrom ending cs) = snakeFrom ending cs ↔
      (kept cs).IsChain (fun a b => ¬ (IsLowered a ∧ IsFixed b)) ∧
        (ending = .other ∧ again = .lower → ∀ c ∈ (kept cs).head?, ¬ IsFixed c) := by
  induction ending, cs using snakeFrom_induction generalizing again with
  | nil => simp [snakeFrom, kept]
  | word ending c cs hword ih =>
    rw [List.mem_cons, not_or] at hcs
    obtain ⟨d, hd⟩ := exists_settles hword (Ne.symm hcs.1)
    have hkept : kept (c :: cs) = c :: kept cs := by simp [kept, hword]
    have hhead : ∀ p : Prop, (p → ∀ y ∈ (c :: kept cs).head?, ¬ IsFixed y) ↔ (p → ¬ IsFixed c) := by
      simp
    -- What follows is left alone if its first character is not to be divided from this one.
    have hmore : snakeFrom (endingOf d) (snakeFrom (endingOf c) cs) = snakeFrom (endingOf c) cs ↔
        (c :: kept cs).IsChain (fun a b => ¬ (IsLowered a ∧ IsFixed b)) := by
      rw [ih hcs.2 hd.follows, List.isChain_cons, ← hd.isLowered_iff, and_comm]
      refine and_congr_left' ?_
      simp only [not_and]
      exact ⟨fun h y hy hc => h hc y hy, fun h hc y hy => h y hy hc⟩
    rw [snakeFrom_of_isWordChar hword, hd.written_eq, List.singleton_append,
      snakeFrom_division hfollows hd, hkept, hhead, ← hmore]
    -- Either there is another underscore in front of this character, or the first difference is
    -- behind it.
    by_cases hdivided : ending = .other ∧ again = .lower ∧ isUppercase d = true
    · obtain ⟨rfl, rfl, hupper⟩ := hdivided
      have hne := ne_underscore_of_isWordChar hd.isWordChar
      refine iff_of_false ?_ fun h => h.2 ⟨rfl, rfl⟩ (hd.isUppercase_iff.1 hupper)
      simpa [hupper, division] using fun heq => absurd heq.symm hne
    · rw [if_neg hdivided, List.append_cancel_left_eq, List.cons_inj_right, iff_self_and]
      rintro - ⟨hending, hagain⟩ hfixed
      exact hdivided ⟨hending, hagain, hd.isUppercase_iff.2 hfixed⟩
  | separator ending c cs hseparator ih =>
    have hkept : kept (c :: cs) = c :: kept cs := by simp [kept, hseparator]
    have hnext : (if ending = .start then Ending.start else .gap) ≠ .other := by
      split <;> decide
    have hplain : ∀ {p : Prop}, ¬ (isUppercase c = true ∧ p) := by
      simp [isUppercase_of_isSeparator hseparator]
    have hlowered : ¬ IsLowered c := hplain
    have hfixed : ¬ IsFixed c := hplain
    rw [snakeFrom_of_isSeparator hseparator,
      ih (List.not_mem_of_not_mem_cons hcs) hfollows.of_separator, hkept, List.isChain_cons]
    simp [hnext, hlowered, hfixed]
  | dropped ending c cs hword hseparator ih =>
    have hkept : kept (c :: cs) = kept cs := by simp [kept, hword, hseparator]
    rw [snakeFrom_of_dropped hword hseparator, ih (List.not_mem_of_not_mem_cons hcs) hfollows, hkept]

/-- Texts that are capitalised alike are so behind the same characters. -/
theorem capitalise_append_congr {more more' : List Char}
    (h : ∀ first, capitalise first more = capitalise first more') (piece : List Char)
    (first : Bool) : capitalise first (piece ++ more) = capitalise first (piece ++ more') := by
  induction piece generalizing first with
  | nil => exact h first
  | cons c piece ih => rw [List.cons_append, List.cons_append, capitalise, capitalise, ih, ih]

/-- The second time makes no difference to the spelling with capitals, since the capitals that are
divided from the letter in front of them are capitals in both. -/
theorem capitalise_snakeFrom_snakeFrom (hcs : 'İ' ∉ cs) (hfollows : Follows ending again)
    (first : Bool) : capitalise first (snakeFrom again (snakeFrom ending cs))
      = capitalise first (snakeFrom ending cs) := by
  induction ending, cs using snakeFrom_induction generalizing again first with
  | nil => rfl
  | word ending c cs hword ih =>
    rw [List.mem_cons, not_or] at hcs
    obtain ⟨d, hd⟩ := exists_settles hword (Ne.symm hcs.1)
    have hmore := fun first => ih hcs.2 hd.follows first
    rw [snakeFrom_of_isWordChar hword, hd.written_eq, List.singleton_append,
      snakeFrom_division hfollows hd]
    split
    · next hdivided =>
      obtain ⟨rfl, rfl, hupper⟩ := hdivided
      have hne := ne_underscore_of_isWordChar hd.isWordChar
      have hself : toUpper d = [d] := Unicode.toUpper_of_isUppercase hupper
      rw [List.singleton_append, capitalise, if_pos rfl, capitalise, if_neg hne, hmore]
      simp [division, capitalise, hne, hself]
    · -- Nothing is divided here, so both sides begin alike.
      exact capitalise_append_congr (fun first => capitalise_append_congr hmore [d] first) _ first
  | separator ending c cs hseparator ih =>
    rw [snakeFrom_of_isSeparator hseparator]
    exact ih (List.not_mem_of_not_mem_cons hcs) hfollows.of_separator first
  | dropped ending c cs hword hseparator ih =>
    rw [snakeFrom_of_dropped hword hseparator]
    exact ih (List.not_mem_of_not_mem_cons hcs) hfollows first

/-! ## Spellings and accessors -/

/-- The snake-case spelling of a snake-case spelling. -/
theorem snakeCase_snakeCase_eq_iff (text : String) :
    snakeCase (snakeCase text) = snakeCase text ↔ 'İ' ∉ text.toList ∧
      (kept text.toList).IsChain (fun a b => ¬ (IsLowered a ∧ IsFixed b)) := by
  rw [← String.toList_inj, snakeCase, snakeCase, String.toList_ofList, String.toList_ofList]
  by_cases hdotted : 'İ' ∈ text.toList
  · -- The dot is there the first time only.
    refine iff_of_false (fun heq => ?_) fun h => h.1 hdotted
    have hdot := (dot_mem_snakeFrom_iff .start text.toList).2 hdotted
    rw [← heq, dot_mem_snakeFrom_iff] at hdot
    exact dotted_not_mem_snakeFrom .start text.toList hdot
  · have hstart : Follows .start .start := rfl
    rw [snakeFrom_snakeFrom_eq_iff hdotted hstart, and_iff_right hdotted]
    exact and_iff_left fun h => absurd h.1 (by decide)

/-- The spelling with capitals of a snake-case spelling. -/
theorem properCase_snakeCase_eq_iff (text : String) :
    properCase (snakeCase text) = properCase text ↔ 'İ' ∉ text.toList := by
  rw [← String.toList_inj, toList_properCase, toList_properCase, snakeCase, snakeCase,
    String.toList_ofList, String.toList_ofList]
  constructor
  · intro heq hdotted
    have hdot := (dot_mem_capitalise_iff true _).2
      ((dot_mem_snakeFrom_iff .start text.toList).2 hdotted)
    rw [← heq, dot_mem_capitalise_iff, dot_mem_snakeFrom_iff] at hdot
    exact dotted_not_mem_snakeFrom .start text.toList hdot
  · have hstart : Follows .start .start := rfl
    exact fun hdotted => capitalise_snakeFrom_snakeFrom hdotted hstart true

/-- **Snake case is canonical but for two kinds of capitals.** In the snake-case spelling every
underscore stands between two other characters. Spelling it in snake case changes nothing exactly if
the text has no capital I with a dot, and has no capital without a lower-case form directly behind a
capital with one. The spelling with capitals and the accessors are those of the snake-case spelling
exactly if there is no capital I with a dot. -/
theorem snakeCase_canonical_iff (text : String) :
    Separated (snakeCase text).toList ∧
    (snakeCase (snakeCase text) = snakeCase text ↔ 'İ' ∉ text.toList ∧
      (kept text.toList).IsChain (fun a b => ¬ (IsLowered a ∧ IsFixed b))) ∧
    (properCase (snakeCase text) = properCase text ↔ 'İ' ∉ text.toList) ∧
    ∀ target : Target,
      target.getter (snakeCase text) = target.getter text ↔ 'İ' ∉ text.toList := by
  have hproper := properCase_snakeCase_eq_iff text
  refine ⟨separated_snakeCase text, snakeCase_snakeCase_eq_iff text, hproper, fun target => ?_⟩
  cases target with
  | csharp => exact hproper
  | java => rw [Target.getter, Target.getter, String.append_right_inj, hproper]

/-- The dot of a capital I stays the first time and is lost the second time, in every spelling. -/
theorem snakeCase_dotted_ne : snakeCase "İ" = "i\u0307" ∧
    snakeCase (snakeCase "İ") ≠ snakeCase "İ" ∧ properCase (snakeCase "İ") ≠ properCase "İ" ∧
    ∀ target : Target, target.getter (snakeCase "İ") ≠ target.getter "İ" := by
  refine ⟨by decide +kernel, by decide +kernel, by decide +kernel, fun target => ?_⟩
  cases target <;> decide +kernel

/-- A capital without a lower-case form is divided from the letter in front of it only the second
time. -/
example : snakeCase "A𝐀" = "a𝐀" ∧ snakeCase "a𝐀" = "a_𝐀" := by decide +kernel

end ClientStyle.Text
