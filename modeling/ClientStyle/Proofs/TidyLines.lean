/-
Tidying by replacing, and tidying line by line.

Tidying can be said in two ways. One replaces what matches a pattern, from left to right: first line
breaks of two characters, then those of one, then the blanks in front of a line feed or of the end of
the text. The other cuts the text into lines and drops the blanks at the end of each. A text is a row
of runs of blanks with one other character behind each, and what becomes of such a run depends only on
what follows it; so everything that does the right thing with one run does the same with every text.
-/
import ClientStyle.Proofs.Prose

set_option autoImplicit false

namespace ClientStyle.Text

/-! ## Replacing -/

/-- What stands in the place of a match: the pattern takes one character and as many more as it says,
and has a replacement for them. -/
abbrev Pattern := List Char → Option (Nat × List Char)

/-- Replaces the matches of a pattern from left to right, none of which overlap. Some characters in
front may belong to a match that was replaced already; they are left out. -/
def replaceFrom (pattern : Pattern) : Nat → List Char → List Char
  | _, [] => []
  | left + 1, _ :: cs => replaceFrom pattern left cs
  | 0, c :: cs =>
    match pattern (c :: cs) with
    | some (more, replacement) => replacement ++ replaceFrom pattern more cs
    | none => c :: replaceFrom pattern 0 cs

/-- Replaces the matches of a pattern in a text. -/
def replaceAll (pattern : Pattern) (cs : List Char) : List Char := replaceFrom pattern 0 cs

/-- A carriage return with a line feed behind it becomes a line feed. -/
def pair : Pattern
  | '\r' :: '\n' :: _ => some (1, ['\n'])
  | _ => none

/-- A carriage return becomes a line feed. -/
def carriageReturn : Pattern
  | '\r' :: _ => some (0, ['\n'])
  | _ => none

/-- The match of a run of blanks, by what is behind it: nothing, or a line feed, which belongs to the
match and stays. At least one blank is needed. -/
def matchOfRun : List Char → List Char → Option (Nat × List Char)
  | _ :: more, [] => some (more.length, [])
  | _ :: more, '\n' :: _ => some (more.length + 1, ['\n'])
  | _, _ => none

/-- Blanks with a line feed or nothing behind them, as many as there are. -/
def endBlanks : Pattern := fun cs =>
  matchOfRun (cs.takeWhile isLineBlank) (cs.dropWhile isLineBlank)

variable {pattern : Pattern} {c : Char} {cs : List Char}

/-- Replacing goes on behind the characters that belong to a match. -/
theorem replaceFrom_eq (pattern : Pattern) (left : Nat) (cs : List Char) :
    replaceFrom pattern left cs = replaceAll pattern (cs.drop left) := by
  induction cs generalizing left with
  | nil =>
    rw [List.drop_nil]
    cases left <;> rfl
  | cons c cs ih =>
    cases left with
    | zero => rfl
    | succ left => exact ih left

/-- A match is replaced, and what follows it is searched for others. -/
theorem replaceAll_of_eq_some {more : Nat} {replacement : List Char}
    (h : pattern (c :: cs) = some (more, replacement)) :
    replaceAll pattern (c :: cs) = replacement ++ replaceAll pattern (cs.drop more) := by
  rw [replaceAll, replaceFrom, h, ← replaceFrom_eq]

theorem replaceAll_of_eq_none (h : pattern (c :: cs) = none) :
    replaceAll pattern (c :: cs) = c :: replaceAll pattern cs := by
  rw [replaceAll, replaceFrom, h, replaceAll]

/-! ## Line breaks -/

/-- The text with every line break as a line feed: pairs first, and then what is left on its own. -/
def withLineFeeds (cs : List Char) : List Char :=
  replaceAll carriageReturn (replaceAll pair cs)

/-- A pattern of one character looks at each character on its own. -/
theorem replaceAll_carriageReturn_cons (c : Char) (cs : List Char) :
    replaceAll carriageReturn (c :: cs)
      = (if c = '\r' then '\n' else c) :: replaceAll carriageReturn cs := by
  by_cases hc : c = '\r'
  · subst hc
    have hmatch : carriageReturn ('\r' :: cs) = some (0, ['\n']) := rfl
    exact replaceAll_of_eq_some hmatch
  · rw [if_neg hc]
    refine replaceAll_of_eq_none ?_
    unfold carriageReturn
    split
    · next heq => exact absurd (List.cons.inj heq).1 hc
    · rfl

/-- Replacing pairs first and single characters then is the same as finding both in one go. -/
theorem unifyLineBreaks_eq (cs : List Char) : unifyLineBreaks cs = withLineFeeds cs := by
  unfold withLineFeeds
  fun_induction unifyLineBreaks cs with
  | case1 => rfl
  | case2 cs ih =>
    have hmatch : pair ('\r' :: '\n' :: cs) = some (1, ['\n']) := rfl
    rw [replaceAll_of_eq_some hmatch, List.singleton_append, replaceAll_carriageReturn_cons, ih]
    rfl
  -- No pair begins here, so the first pass leaves the character and the second one looks at it.
  | case3 c cs hpair ih =>
    have hsingle : pair (c :: cs) = none := by
      unfold pair
      split
      · next rest heq =>
        obtain ⟨hc, hcs⟩ := List.cons.inj heq
        exact absurd hcs (hpair rest hc)
      · rfl
    rw [replaceAll_of_eq_none hsingle, replaceAll_carriageReturn_cons, ih]

/-! ## Runs of blanks -/

/-- Only blanks. -/
def IsBlankRun (bs : List Char) : Prop := ∀ b ∈ bs, isLineBlank b = true

/-- A text is shown to have a property run by run: a run ends with the text, at a line feed or in
front of another character that is no blank. -/
theorem runRec {P : List Char → Prop} (finish : ∀ bs, IsBlankRun bs → P bs)
    (line : ∀ bs cs, IsBlankRun bs → P cs → P (bs ++ '\n' :: cs))
    (char : ∀ bs c cs, IsBlankRun bs → c ≠ '\n' → isLineBlank c = false → P cs →
      P (bs ++ c :: cs)) (cs : List Char) : P cs := by
  induction hlength : cs.length using Nat.strong_induction_on generalizing cs with
  | _ length ih =>
    subst hlength
    have hrun : IsBlankRun (cs.takeWhile isLineBlank) := fun b hb => List.mem_takeWhile_imp hb
    -- The first run goes as far as there are blanks.
    have hparts : cs.takeWhile isLineBlank ++ cs.dropWhile isLineBlank = cs :=
      List.takeWhile_append_dropWhile
    cases hrest : cs.dropWhile isLineBlank with
    | nil =>
      rw [hrest, List.append_nil] at hparts
      rw [← hparts]
      exact finish _ hrun
    | cons c rest =>
      have hc : isLineBlank c = false := by
        have hhead := List.head?_dropWhile_not isLineBlank cs
        rwa [hrest] at hhead
      rw [hrest] at hparts
      have hshorter : rest.length < cs.length := by
        rw [← hparts, List.length_append, List.length_cons]
        omega
      have hinner : P rest := ih _ hshorter rest rfl
      rw [← hparts]
      by_cases hline : c = '\n'
      · subst hline
        exact line _ rest hrun hinner
      · exact char _ c rest hrun hline hc hinner

/-- What drops the blanks at the ends of lines: it drops a run at the end of the text or in front of a
line feed, and keeps any other run. -/
structure DropsEndBlanks (f : List Char → List Char) : Prop where
  finish : ∀ bs, IsBlankRun bs → f bs = []
  line : ∀ bs cs, IsBlankRun bs → f (bs ++ '\n' :: cs) = '\n' :: f cs
  char : ∀ bs c cs, IsBlankRun bs → c ≠ '\n' → isLineBlank c = false →
    f (bs ++ c :: cs) = bs ++ c :: f cs

/-- There is only one way to do it. -/
theorem DropsEndBlanks.eq {f g : List Char → List Char} (hf : DropsEndBlanks f)
    (hg : DropsEndBlanks g) (cs : List Char) : f cs = g cs := by
  induction cs using runRec with
  | finish bs hrun => rw [hf.finish bs hrun, hg.finish bs hrun]
  | line bs cs hrun ih => rw [hf.line bs cs hrun, hg.line bs cs hrun, ih]
  | char bs c cs hrun hline hc ih =>
    rw [hf.char bs c cs hrun hline hc, hg.char bs c cs hrun hline hc, ih]

/-! ## Blanks from the right -/

/-- Blanks in front of what is left of a text are dropped if a line ends there. -/
theorem dropTrailingBlanks_append {bs : List Char} (hrun : IsBlankRun bs) (cs : List Char) :
    dropTrailingBlanks (bs ++ cs) = if atLineEnd (dropTrailingBlanks cs) then dropTrailingBlanks cs
      else bs ++ dropTrailingBlanks cs := by
  induction bs with
  | nil => rw [List.nil_append, List.nil_append, ite_self]
  | cons b bs ih =>
    obtain ⟨hb, hrun⟩ := List.forall_mem_cons.1 hrun
    rw [List.cons_append, dropTrailingBlanks]
    simp only [ih hrun, hb, Bool.true_and]
    cases hend : atLineEnd (dropTrailingBlanks cs) with
    | true => simp [hend]
    | false =>
      -- Neither a blank nor what follows the run is the end of a line.
      have hkept : atLineEnd (bs ++ dropTrailingBlanks cs) = false := by
        cases bs with
        | nil => exact hend
        | cons next bs =>
          have hnext := hrun next (List.mem_cons_self ..)
          refine decide_eq_false ?_
          rintro rfl
          cases hnext
      simp [hkept]

theorem dropsEndBlanks_dropTrailingBlanks : DropsEndBlanks dropTrailingBlanks where
  finish bs hrun := by
    have h := dropTrailingBlanks_append hrun []
    rwa [List.append_nil] at h
  line bs cs hrun := dropTrailingBlanks_append hrun ('\n' :: cs)
  char bs c cs hrun hline hc := by
    have hkept : dropTrailingBlanks (c :: cs) = c :: dropTrailingBlanks cs := by
      simp [dropTrailingBlanks, hc]
    have hend : atLineEnd (c :: dropTrailingBlanks cs) = false := decide_eq_false hline
    rw [dropTrailingBlanks_append hrun, hkept, hend]
    rfl

/-! ## Blanks by pattern -/

/-- What the pattern sees: the run in front, and what follows it. -/
theorem endBlanks_append {bs : List Char} (hrun : IsBlankRun bs)
    (hrest : ∀ c, cs.head? = some c → isLineBlank c = false) :
    endBlanks (bs ++ cs) = matchOfRun bs cs := by
  have hnone : cs.takeWhile isLineBlank = [] ∧ cs.dropWhile isLineBlank = cs := by
    cases cs with
    | nil => exact ⟨rfl, rfl⟩
    | cons c cs => simp [hrest c rfl]
  rw [endBlanks, List.takeWhile_append_of_pos hrun, List.dropWhile_append_of_pos hrun, hnone.1,
    hnone.2, List.append_nil]

theorem dropsEndBlanks_replaceAll : DropsEndBlanks (replaceAll endBlanks) where
  finish bs hrun := by
    cases bs with
    | nil => rfl
    | cons b bs =>
      have hmatch : endBlanks (b :: bs ++ []) = some (bs.length, []) :=
        endBlanks_append hrun nofun
      rw [List.append_nil] at hmatch
      rw [replaceAll_of_eq_some hmatch, List.drop_length]
      rfl
  line bs cs hrun := by
    have hrest : ∀ c, ('\n' :: cs).head? = some c → isLineBlank c = false := by
      rintro c ⟨⟩
      rfl
    cases bs with
    | nil => exact replaceAll_of_eq_none (endBlanks_append hrun hrest)
    | cons b bs =>
      have hmatch : endBlanks (b :: (bs ++ '\n' :: cs)) = some (bs.length + 1, ['\n']) :=
        endBlanks_append hrun hrest
      have hdrop : (bs ++ '\n' :: cs).drop (bs.length + 1) = cs := by simp
      rw [List.cons_append, replaceAll_of_eq_some hmatch, hdrop]
      rfl
  -- Within the run there are shorter runs with the same end, and none of them matches.
  char bs c cs hrun hline hc := by
    have hrest : ∀ d, (c :: cs).head? = some d → isLineBlank d = false := by
      rintro d ⟨⟩
      exact hc
    induction bs with
    | nil => exact replaceAll_of_eq_none (endBlanks_append hrun hrest)
    | cons b bs ih =>
      have hnone : endBlanks (b :: (bs ++ c :: cs)) = none := by
        refine (endBlanks_append hrun hrest).trans ?_
        unfold matchOfRun
        split
        · next heq => cases heq
        · next heq => exact absurd (List.cons.inj heq).1 hline
        · rfl
      rw [List.cons_append, replaceAll_of_eq_none hnone, ih (List.forall_mem_cons.1 hrun).2]
      rfl

/-! ## Blanks line by line -/

/-- The text with the blanks at the end of each line dropped. -/
def trimLines (cs : List Char) : List Char :=
  join ['\n'] ((split '\n' cs).map (dropEndWhile isLineBlank))

/-- A run of blanks does not go over the end of a line. -/
theorem IsBlankRun.not_mem {bs : List Char} (hrun : IsBlankRun bs) : '\n' ∉ bs := by
  intro hmem
  cases hrun _ hmem

/-- A run of blanks has nothing in front of it. -/
theorem IsBlankRun.dropEndWhile_eq {bs : List Char} (hrun : IsBlankRun bs) :
    dropEndWhile isLineBlank bs = [] := by
  rw [dropEndWhile_eq_rdropWhile, List.rdropWhile_eq_nil_iff]
  exact hrun

theorem dropsEndBlanks_trimLines : DropsEndBlanks trimLines where
  finish bs hrun := by
    rw [trimLines, split_of_not_mem hrun.not_mem, List.map_singleton, hrun.dropEndWhile_eq]
    rfl
  line bs cs hrun := by
    obtain ⟨part, parts, hparts⟩ := List.exists_cons_of_ne_nil (split_ne_nil '\n' cs)
    rw [trimLines, trimLines, split_append_cons, split_of_not_mem hrun.not_mem, hparts,
      List.map_append, List.map_singleton, hrun.dropEndWhile_eq, List.singleton_append, List.map_cons,
      join_cons_cons, List.nil_append]
  -- The run and the character behind it begin the first line of what follows.
  char bs c cs hrun hline hc := by
    obtain ⟨part, parts, hparts⟩ := List.exists_cons_of_ne_nil (split_ne_nil '\n' cs)
    have hfront : '\n' ∉ bs ++ [c] := by
      rw [List.mem_append, List.mem_singleton, not_or]
      exact ⟨hrun.not_mem, Ne.symm hline⟩
    have hsplit : split '\n' (bs ++ c :: cs) = (bs ++ c :: part) :: parts := by
      have h := split_append_of_not_mem hfront hparts
      rwa [List.append_assoc, List.append_assoc] at h
    rw [trimLines, trimLines, hsplit, hparts, List.map_cons, List.map_cons, join_cons, join_cons,
      dropEndWhile_append_cons hc, List.append_assoc, List.cons_append]

/-! ## Tidying -/

/-- In a tidy text no line feed has a blank in front of it. -/
theorem Tidied.not_infix (h : Tidied cs) {b : Char} (hb : isLineBlank b = true) :
    ¬ [b, '\n'] <:+: cs := by
  rintro ⟨before, after, rfl⟩
  have hlines := h.lines
  rw [List.append_assoc] at hlines
  cases hlines.of_append.1 hb

/-- **Tidying is tidying line by line.** -/
theorem tidy_eq_lines (text : String) :
    tidy text = trim (String.ofList (trimLines (withLineFeeds text.toList))) ∧
    tidy text = trim (String.ofList (replaceAll endBlanks (withLineFeeds text.toList))) ∧
    '\r' ∉ (tidy text).toList ∧
    (∀ b, isLineBlank b = true → ¬ [b, '\n'] <:+: (tidy text).toList) ∧
    Trimmed (tidy text).toList ∧ tidy (tidy text) = tidy text := by
  have htidy : tidy text = trim (String.ofList (dropTrailingBlanks (withLineFeeds text.toList))) := by
    rw [trim, String.toList_ofList, tidy, tidyChars, unifyLineBreaks_eq]
  have htidied : Tidied (tidy text).toList := by
    rw [tidy, String.toList_ofList]
    exact tidied_tidyChars text.toList
  refine ⟨?_, ?_, htidied.unified, fun b hb => htidied.not_infix hb, htidied.trimmed,
    tidy_tidy text⟩
  · rw [htidy, dropsEndBlanks_dropTrailingBlanks.eq dropsEndBlanks_trimLines]
  · rw [htidy, dropsEndBlanks_dropTrailingBlanks.eq dropsEndBlanks_replaceAll]

example : tidy "  Line one  \r\nLine two\t\n" = "Line one\nLine two" := by decide +kernel

end ClientStyle.Text
