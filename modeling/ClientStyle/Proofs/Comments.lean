/-
Comments that go on over line breaks.

A description of several lines is put into a comment by writing the mark of a comment line behind each
of its line breaks. On the cut of the text this is one step for each line but the first, and the
result is the cut of the new text: a mark without line breaks neither makes one nor comes between a
carriage return and its line feed, and where it is empty nothing was parted before. So the lines and
breaks of the text are all found again.
-/
import ClientStyle.Proofs.LineBreaks
import ClientStyle.Target

set_option autoImplicit false

namespace ClientStyle.Text

namespace Cut

/-! ## Beginnings of lines -/

/-- Every line but the first gets a beginning. -/
def continued (start : List Char) (k : Cut) : Cut :=
  ⟨k.first, k.further.map fun e => (e.1, start ++ e.2)⟩

/-- Every line but the first loses some characters at its beginning. -/
def dropStarts (n : Nat) (k : Cut) : Cut := ⟨k.first, k.further.map fun e => (e.1, e.2.drop n)⟩

variable {start : List Char} {k : Cut} {cs : List Char}

/-- What a continued text is made of: its first line, and each further one behind its break and the
beginning. -/
theorem chars_continued (start : List Char) (k : Cut) :
    (k.continued start).chars = k.first ++ k.further.flatMap fun e => e.1.chars ++ start ++ e.2 := by
  simp only [chars, continued, List.flatMap_map, List.append_assoc]

/-- Beginnings are put behind the breaks, which stay as they are. -/
theorem breaks_continued (start : List Char) (k : Cut) : (k.continued start).breaks = k.breaks := by
  simp only [breaks, continued, List.map_map, Function.comp_def]

/-- Every line but the first has the beginning. -/
theorem prefix_of_mem_continued {line : List Char} (h : line ∈ (k.continued start).lines.tail) :
    start <+: line := by
  simp only [lines, List.tail_cons, continued, List.map_map, List.mem_map] at h
  obtain ⟨e, -, rfl⟩ := h
  exact List.prefix_append start e.2

/-- Without the beginnings the lines are those of before, so the text can be recovered. -/
theorem dropStarts_continued (start : List Char) (k : Cut) :
    (k.continued start).dropStarts start.length = k := by
  simp only [dropStarts, continued, List.map_map, Function.comp_def, List.drop_left, List.map_id']

/-- Beginnings without line breaks leave all breaks as they are. -/
theorem IsCutOf.continued (hstart : Unbroken start) (h : k.IsCutOf cs) :
    (k.continued start).IsCutOf (k.continued start).chars := by
  refine ⟨rfl, ?_, ?_⟩
  · intro line hline
    rcases List.mem_cons.1 hline with rfl | hline
    · exact h.unbroken _ (List.mem_cons_self ..)
    · simp only [Cut.continued, List.map_map, List.mem_map] at hline
      obtain ⟨e, he, rfl⟩ := hline
      have hold := h.unbroken e.2 (List.mem_cons_of_mem _ (List.mem_map_of_mem he))
      simp only [Unbroken, Function.comp_apply, List.mem_append, not_or]
      exact ⟨⟨hstart.1, hold.1⟩, hstart.2, hold.2⟩
  · -- Two breaks that were kept apart by a line stay apart: a line only gets longer.
    refine (List.isChain_map _).2 (h.apart.imp fun a b hapart hempty => hapart ?_)
    obtain ⟨hb, hline⟩ := Prod.mk.inj hempty
    exact Prod.ext hb (List.append_eq_nil_iff.1 hline).2

end Cut

/-! ## Continued texts -/

/-- The program copies any character that is no part of a break, as `Cut.push` does with a cut. -/
theorem continueChars_cons {c : Char} (hc : c ≠ '\r' ∧ c ≠ '\n') (start cs : List Char) :
    continueChars start (c :: cs) = c :: continueChars start cs := by
  rw [continueChars, if_neg (not_or.2 hc)]
  rintro _ rfl _
  exact hc.1 rfl

/-- The program copies a break and puts the beginning behind it, as `Cut.pushBreak` does with a cut.
The condition is the one of `isCutOf_pushBreak`: a pair counts as one break. -/
theorem continueChars_break {b : LineBreak} {cs : List Char}
    (hb : b = .carriageReturn → cs.head? ≠ some '\n') (start : List Char) :
    continueChars start (b.chars ++ cs) = b.chars ++ (start ++ continueChars start cs) := by
  cases b with
  | carriageReturn =>
    refine (continueChars.eq_3 _ _ _ ?_).trans (if_pos (.inl rfl))
    rintro cs' - rfl
    exact hb rfl rfl
  | lineFeed => rfl
  | both => rfl

/-- What a text is made of is found in order, with the beginning behind each break. -/
theorem continueChars_of_isCutOf {k : Cut} {cs : List Char} (h : k.IsCutOf cs)
    (start : List Char) : continueChars start cs = (k.continued start).chars := by
  obtain rfl := h.chars_eq
  -- The induction is on the cut, since the program reads a pair of characters at once where a cut has
  -- one break.
  induction k using Cut.pushRec with
  | empty => rfl
  | push c k ih =>
    obtain ⟨hc, hk⟩ := Cut.isCutOf_push.1 h
    rw [Cut.chars_push, continueChars_cons hc, ih hk]
    rfl
  | pushBreak b k ih =>
    rw [Cut.chars_pushBreak] at h
    obtain ⟨hb, hk⟩ := Cut.isCutOf_pushBreak.1 h
    rw [Cut.chars_pushBreak, continueChars_break hb, ih hk]
    simp only [Cut.chars, Cut.continued, Cut.pushBreak, List.map_cons, List.flatMap_cons,
      List.nil_append, List.append_assoc]

/-- **A comment is continued behind every line break and nowhere else.** There is one way to cut a
text into lines and breaks, and one way to cut what becomes of it; the breaks are the same in both,
every line but the first begins with the continuation, and without it the lines make up the text. -/
theorem multilineComment_cut {continuation : String} (hc : Unbroken continuation.toList)
    (text : String) :
    ∃ k l : Cut, (∀ k' : Cut, k'.IsCutOf text.toList ↔ k' = k) ∧
      (∀ l' : Cut, l'.IsCutOf (multilineComment text continuation).toList ↔ l' = l) ∧
      (multilineComment text continuation).toList
        = k.first ++ k.further.flatMap (fun e => e.1.chars ++ continuation.toList ++ e.2) ∧
      l.breaks = k.breaks ∧ (∀ line ∈ l.lines.tail, continuation.toList <+: line) ∧
      (l.dropStarts continuation.length).chars = text.toList := by
  have hk := isCutOf_cut text.toList
  have hcomment : (multilineComment text continuation).toList
      = ((cut text.toList).continued continuation.toList).chars := by
    rw [multilineComment, String.toList_ofList, continueChars_of_isCutOf hk]
  have hl := hk.continued hc
  rw [← hcomment] at hl
  refine ⟨cut text.toList, (cut text.toList).continued continuation.toList, fun _ => isCutOf_iff,
    fun l' => ?_, ?_, Cut.breaks_continued .., fun line => Cut.prefix_of_mem_continued, ?_⟩
  · rw [isCutOf_iff, hl.eq_cut]
  · rw [hcomment, Cut.chars_continued]
  · rw [← String.length_toList, Cut.dropStarts_continued, hk.chars_eq]

/-- No target breaks a line within its continuation. -/
theorem unbroken_commentContinuation (target : Target) :
    Unbroken target.commentContinuation.toList := by
  cases target with
  | csharp => exact ⟨by decide, by decide⟩
  | java => exact ⟨by decide, by decide⟩

/-- Runs of both characters: a break of its own before a pair, a pair the wrong way round, and a break
at the end. -/
theorem multilineComment_cut_mixed :
    Unbroken Target.csharp.commentContinuation.toList ∧
      ∃ k l : Cut, (∀ k' : Cut, k'.IsCutOf "a\r\r\nb\n\rc\r".toList ↔ k' = k) ∧
        (∀ l' : Cut, l'.IsCutOf (multilineComment "a\r\r\nb\n\rc\r"
          Target.csharp.commentContinuation).toList ↔ l' = l) ∧
        (multilineComment "a\r\r\nb\n\rc\r" Target.csharp.commentContinuation).toList
          = k.first ++ k.further.flatMap
            (fun e => e.1.chars ++ Target.csharp.commentContinuation.toList ++ e.2) ∧
        l.breaks = k.breaks ∧
        (∀ line ∈ l.lines.tail, Target.csharp.commentContinuation.toList <+: line) ∧
        (l.dropStarts Target.csharp.commentContinuation.length).chars
          = "a\r\r\nb\n\rc\r".toList :=
  ⟨unbroken_commentContinuation .csharp,
    multilineComment_cut (unbroken_commentContinuation .csharp) "a\r\r\nb\n\rc\r"⟩

/-- The text of before has five breaks. -/
example : (cut "a\r\r\nb\n\rc\r".toList).breaks
    = [.carriageReturn, .both, .lineFeed, .carriageReturn, .carriageReturn] := by decide +kernel

end ClientStyle.Text
