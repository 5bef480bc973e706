/-
Indentation.

Indenting changes the lines of a text one by one, and the empty line behind a final line feed is not
one of them. Changing lines in two ways one after the other is changing them in both ways at once, as
long as no line is broken or emptied on the way. So widths add up, width zero does nothing, and what
was put in front of the lines can be dropped again.
-/
import ClientStyle.Proofs.LineBreaks

set_option autoImplicit false

namespace ClientStyle.Text

/-! ## Lines -/

/-- The lines of a text. The empty line behind a final line feed is left out. -/
def fullLines (cs : List Char) : List (List Char) :=
  if cs.getLast? = some '\n' then (split '\n' cs).dropLast else split '\n' cs

/-- The final line feed of a text, if there is one. -/
def ending (cs : List Char) : List Char := if cs.getLast? = some '\n' then ['\n'] else []

/-- Changes the lines of a text. -/
def mapLines (f : List Char → List Char) (cs : List Char) : List Char :=
  join ['\n'] ((fullLines cs).map f) ++ ending cs

variable {f g : List Char → List Char} {cs : List Char}

/-- The line feed at the end of a text ends its last line and begins none. -/
theorem fullLines_concat (body : List Char) : fullLines (body ++ ['\n']) = split '\n' body := by
  have hsplit : split '\n' (body ++ ['\n']) = split '\n' body ++ [[]] := split_append_cons '\n' body []
  rw [fullLines, if_pos List.getLast?_concat, hsplit, List.dropLast_concat]

/-- Without it, what is behind the last line feed is a line as well. -/
theorem fullLines_of_getLast?_ne (h : cs.getLast? ≠ some '\n') : fullLines cs = split '\n' cs :=
  if_neg h

/-- A final line feed is kept at the end. -/
theorem mapLines_concat (f : List Char → List Char) (body : List Char) :
    mapLines f (body ++ ['\n']) = join ['\n'] ((split '\n' body).map f) ++ ['\n'] := by
  rw [mapLines, fullLines_concat, ending, if_pos List.getLast?_concat]

/-- Without one nothing is added. Every text has one of these two forms, so the laws below have two
cases. -/
theorem mapLines_of_getLast?_ne (h : cs.getLast? ≠ some '\n') :
    mapLines f cs = join ['\n'] ((split '\n' cs).map f) := by
  rw [mapLines, fullLines_of_getLast?_ne h, ending, if_neg h, List.append_nil]

/-- A text ends in a line feed, or nothing is left out of its lines. -/
theorem ends_or (cs : List Char) : (∃ body, cs = body ++ ['\n']) ∨ cs.getLast? ≠ some '\n' := by
  by_cases h : cs.getLast? = some '\n'
  · exact .inl (List.getLast?_eq_some_iff.1 h)
  · exact .inr h

/-- All lines of a text are the full ones, and an empty one behind a final line feed. -/
theorem split_ending (cs : List Char) :
    split '\n' cs = fullLines cs ++ if cs.getLast? = some '\n' then [[]] else [] := by
  rcases ends_or cs with ⟨body, rfl⟩ | h
  · rw [fullLines_concat, if_pos List.getLast?_concat]
    exact split_append_cons '\n' body []
  · rw [fullLines_of_getLast?_ne h, if_neg h, List.append_nil]

/-- Lines that are left alone make up the text. -/
theorem mapLines_id (h : ∀ line, f line = line) (cs : List Char) : mapLines f cs = cs := by
  obtain rfl : f = id := funext h
  rcases ends_or cs with ⟨body, rfl⟩ | hlast
  · rw [mapLines_concat, List.map_id, join_split]
  · rw [mapLines_of_getLast?_ne hlast, List.map_id, join_split]

/-! ## Changing lines twice -/

/-- No line is broken, and only an empty one becomes empty. -/
structure KeepsLines (f : List Char → List Char) : Prop where
  not_mem : ∀ line, '\n' ∉ line → '\n' ∉ f line
  eq_nil : ∀ line, f line = [] → line = []

/-- Joined lines end in a line feed if and only if an empty line comes behind others. -/
theorem getLast?_join_concat {before : List (List Char)} {last : List Char} (h : '\n' ∉ last) :
    (join ['\n'] (before ++ [last])).getLast? = some '\n' ↔ before ≠ [] ∧ last = [] := by
  cases before with
  | nil =>
    refine iff_of_false (fun hlast => h (List.mem_of_getLast? hlast)) fun hne => hne.1 rfl
  | cons line before =>
    have hjoin : join ['\n'] (line :: before ++ [last])
        = (line ++ before.flatMap ('\n' :: ·)) ++ '\n' :: last := by
      rw [List.cons_append, join_cons, List.flatMap_append, List.flatMap_singleton,
        List.append_assoc]
    have hnot : last.getLast? ≠ some '\n' := fun hlast => h (List.mem_of_getLast? hlast)
    rw [hjoin, List.getLast?_append]
    cases last with
    | nil => simp
    | cons c last => simpa [List.getLast?_cons_cons, List.getLast?_cons] using hnot

/-- Changed lines do not end in a line feed if the lines did not: that would take an empty last line
behind others, and only an empty line becomes empty. -/
theorem getLast?_join_map (hf : KeepsLines f) (h : cs.getLast? ≠ some '\n') :
    (join ['\n'] ((split '\n' cs).map f)).getLast? ≠ some '\n' := by
  obtain ⟨before, last, hlines⟩ :=
    (List.eq_nil_or_concat' (split '\n' cs)).resolve_left (split_ne_nil '\n' cs)
  have hmem : last ∈ split '\n' cs := by
    rw [hlines]
    exact List.mem_append_right before (List.mem_singleton.2 rfl)
  have hlast : '\n' ∉ last := not_mem_of_mem_split hmem
  rw [← join_split '\n' cs, hlines, Ne, getLast?_join_concat hlast] at h
  rw [hlines, List.map_append, List.map_singleton, Ne,
    getLast?_join_concat (hf.not_mem last hlast)]
  rintro ⟨hbefore, hempty⟩
  exact h ⟨fun hnil => hbefore (by rw [hnil]; rfl), hf.eq_nil last hempty⟩

/-- A text of changed lines is split into these lines again, since none of them is broken. -/
theorem split_join_map (hf : KeepsLines f) (cs : List Char) :
    split '\n' (join ['\n'] ((split '\n' cs).map f)) = (split '\n' cs).map f := by
  refine split_join (by simpa using split_ne_nil '\n' cs) ?_
  simp only [List.forall_mem_map]
  exact fun line hline => hf.not_mem line (not_mem_of_mem_split hline)

/-- The lines of a text with changed lines are the changed lines. -/
theorem fullLines_mapLines (hf : KeepsLines f) (cs : List Char) :
    fullLines (mapLines f cs) = (fullLines cs).map f := by
  rcases ends_or cs with ⟨body, rfl⟩ | h
  · rw [mapLines_concat, fullLines_concat, fullLines_concat, split_join_map hf]
  · rw [mapLines_of_getLast?_ne h, fullLines_of_getLast?_ne (getLast?_join_map hf h),
      fullLines_of_getLast?_ne h, split_join_map hf]

/-- Whether there is a final line feed does not change. -/
theorem getLast?_mapLines (hf : KeepsLines f) (cs : List Char) :
    (mapLines f cs).getLast? = some '\n' ↔ cs.getLast? = some '\n' := by
  rcases ends_or cs with ⟨body, rfl⟩ | h
  · rw [mapLines_concat, List.getLast?_concat, List.getLast?_concat]
  · rw [mapLines_of_getLast?_ne h]
    exact iff_of_false (getLast?_join_map hf h) h

/-- Lines may be changed one after the other or at once. All laws of indentation are cases of this
one. -/
theorem mapLines_mapLines (hf : KeepsLines f) (g : List Char → List Char) (cs : List Char) :
    mapLines g (mapLines f cs) = mapLines (g ∘ f) cs := by
  have hending : ending (mapLines f cs) = ending cs := by
    simp only [ending, getLast?_mapLines hf]
  rw [mapLines, fullLines_mapLines hf, hending, List.map_map]
  rfl

/-! ## Line breaks -/

/-- Characters without breaks in front of a text add no break. The last of them may be followed by any
character, since no break begins in them. -/
theorem breaks_cut_append {pad : List Char} (hpad : Unbroken pad) (cs : List Char) :
    (cut (pad ++ cs)).breaks = (cut cs).breaks := by
  induction pad with
  | nil => rfl
  | cons c pad ih =>
    obtain ⟨hc, hpad⟩ := unbroken_cons.1 hpad
    rw [List.cons_append, cut_cons hc, Cut.breaks_push, ih hpad]

/-- The breaks of a text are those up to a line feed and those behind it. -/
theorem breaks_cut_line (line cs : List Char) :
    (cut (line ++ '\n' :: cs)).breaks = (cut (line ++ ['\n'])).breaks ++ (cut cs).breaks := by
  fun_induction cut line with
  | case1 => rfl
  | case2 line ih => exact congrArg (LineBreak.both :: ·) ih
  | case3 line hpair ih =>
    cases line with
    | nil => rfl
    | cons d line =>
      -- What follows the carriage return is in the line still, so the line feed at its end is not
      -- next to it.
      have hb (tail : List Char) : LineBreak.carriageReturn = .carriageReturn →
          (d :: line ++ tail).head? ≠ some '\n' := by
        rintro - hd
        obtain rfl := Option.some.inj hd
        exact hpair line rfl rfl
      have hstep (tail : List Char) : (cut ('\r' :: (d :: line ++ tail))).breaks
          = .carriageReturn :: (cut (d :: line ++ tail)).breaks :=
        congrArg Cut.breaks (cut_break (hb tail))
      calc (cut ('\r' :: (d :: line ++ '\n' :: cs))).breaks
          = .carriageReturn :: (cut (d :: line ++ '\n' :: cs)).breaks := hstep _
        _ = .carriageReturn :: (cut (d :: line ++ ['\n'])).breaks ++ (cut cs).breaks :=
          congrArg (LineBreak.carriageReturn :: ·) ih
        _ = (cut ('\r' :: (d :: line ++ ['\n']))).breaks ++ (cut cs).breaks := by rw [hstep]
  | case4 line _ _ ih => exact congrArg (LineBreak.lineFeed :: ·) ih
  | case5 c line _ hr hn ih =>
    rw [List.cons_append, List.cons_append, cut_cons ⟨hr, hn⟩, cut_cons ⟨hr, hn⟩]
    exact ih

/-- What stands in front of lines changes no break, whatever follows the last of them. -/
theorem breaks_cut_join {pad : List Char} (hpad : Unbroken pad) (line : List Char)
    (lines : List (List Char)) (rest : List Char) :
    (cut (join ['\n'] ((line :: lines).map (pad ++ ·)) ++ rest)).breaks
      = (cut (join ['\n'] (line :: lines) ++ rest)).breaks := by
  induction lines generalizing line with
  | nil =>
    rw [List.map_singleton, join, join, List.append_assoc, breaks_cut_append hpad]
  | cons next lines ih =>
    rw [List.map_cons, List.map_cons, join_cons_cons, join_cons_cons, ← List.map_cons]
    simp only [List.append_assoc, List.cons_append]
    rw [breaks_cut_append hpad, breaks_cut_line, ih next, ← breaks_cut_line]

/-- What stands in front of the lines of a text changes none of its breaks. -/
theorem breaks_cut_mapLines {pad : List Char} (hpad : Unbroken pad) (cs : List Char) :
    (cut (mapLines (pad ++ ·) cs)).breaks = (cut cs).breaks := by
  have hne : fullLines cs ≠ [] := by
    rcases ends_or cs with ⟨body, rfl⟩ | h
    · rw [fullLines_concat]
      exact split_ne_nil '\n' body
    · rw [fullLines_of_getLast?_ne h]
      exact split_ne_nil '\n' cs
  obtain ⟨line, lines, hlines⟩ := List.exists_cons_of_ne_nil hne
  -- The lines and the ending make up the text, which is `mapLines_id` for the lines as they are.
  have htext : join ['\n'] (line :: lines) ++ ending cs = cs := by
    have hself := mapLines_id (fun _ => rfl) cs
    rwa [mapLines, List.map_id', hlines] at hself
  rw [mapLines, hlines, breaks_cut_join hpad, htext]

/-! ## Indented texts -/

theorem unbroken_replicate (width : Nat) : Unbroken (List.replicate width ' ') :=
  ⟨fun h => absurd (List.eq_of_mem_replicate h) (by decide),
    fun h => absurd (List.eq_of_mem_replicate h) (by decide)⟩

/-- Something in front of each line breaks none, and makes none empty. -/
theorem keepsLines_append {pad : List Char} (hpad : Unbroken pad) : KeepsLines (pad ++ ·) where
  not_mem line hline := by
    rw [List.mem_append, not_or]
    exact ⟨hpad.2, hline⟩
  eq_nil _ hempty := (List.append_eq_nil_iff.1 hempty).2

/-- Indenting puts blanks in front of the lines. -/
theorem indentChars_eq_mapLines (width : Nat) (cs : List Char) :
    indentChars width cs = mapLines (List.replicate width ' ' ++ ·) cs := by
  rcases ends_or cs with ⟨body, rfl⟩ | h
  · rw [mapLines_concat, indentChars, beforeLast?, if_pos List.getLast?_concat, List.dropLast_concat]
    rfl
  · rw [mapLines_of_getLast?_ne h, indentChars, beforeLast?, if_neg h]
    rfl

/-- **Widths of indentation add up.** Width zero changes nothing, and indenting twice is indenting by
both widths at once. All line breaks stay as they are; the lines of the indented text are those of
the text behind so many blanks, but for the empty one behind a final line feed, and without these
blanks they make up the text. -/
theorem indent_indent (text : String) (a b : Nat) :
    indent text 0 = text ∧ indent (indent text a) b = indent text (a + b) ∧
      (cut (indent text a).toList).breaks = (cut text.toList).breaks ∧
      split '\n' (indent text a).toList
        = (fullLines text.toList).map (List.replicate a ' ' ++ ·)
          ++ (if text.toList.getLast? = some '\n' then [[]] else []) ∧
      mapLines (·.drop a) (indent text a).toList = text.toList := by
  have htext (width : Nat) (t : String) :
      (indent t width).toList = mapLines (List.replicate width ' ' ++ ·) t.toList := by
    rw [indent, String.toList_ofList, indentChars_eq_mapLines]
  have hkeeps := keepsLines_append (unbroken_replicate a)
  refine ⟨?_, ?_, ?_, ?_, ?_⟩
  · rw [← String.toList_inj, htext]
    exact mapLines_id (fun _ => rfl) text.toList
  · have hwidths : (List.replicate b ' ' ++ ·) ∘ (List.replicate a ' ' ++ ·)
        = (List.replicate (a + b) ' ' ++ ·) := by
      funext line
      rw [Function.comp_apply, ← List.append_assoc, List.replicate_append_replicate, Nat.add_comm]
    rw [← String.toList_inj, htext, htext, htext, mapLines_mapLines hkeeps, hwidths]
  · rw [htext, breaks_cut_mapLines (unbroken_replicate a)]
  · rw [split_ending, htext, fullLines_mapLines hkeeps]
    simp only [getLast?_mapLines hkeeps]
  · rw [htext, mapLines_mapLines hkeeps]
    refine mapLines_id (fun line => ?_) text.toList
    exact List.drop_left' List.length_replicate

/-- A blank line is a line, and so is the only line of the empty text. -/
example : indent "a\n\nb\n" 2 = "  a\n  \n  b\n" ∧ indent "" 2 = "  " := by decide +kernel

end ClientStyle.Text
