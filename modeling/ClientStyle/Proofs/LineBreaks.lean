/-
Texts cut at their line breaks.

A line break is a carriage return, a line feed, or a line feed right behind a carriage return, which
are one break and not two. A cut has the lines of a text with the breaks between them. That every text
has exactly one cut is not plain, since a run of both characters could be divided in several ways; the
condition that no cut leaves such a pair apart is what singles one of them out.
-/
import ClientStyle.Text.Layout
import Mathlib.Data.List.Chain

set_option autoImplicit false

namespace ClientStyle.Text

/-! ## Cuts -/

/-- The ways to end a line. -/
inductive LineBreak where
  | carriageReturn
  | lineFeed
  | both
  deriving DecidableEq, Repr

/-- The characters of a line break. -/
def LineBreak.chars : LineBreak → List Char
  | .carriageReturn => ['\r']
  | .lineFeed => ['\n']
  | .both => ['\r', '\n']

/-- Characters without a line break, not even a part of one. -/
def Unbroken (cs : List Char) : Prop := '\r' ∉ cs ∧ '\n' ∉ cs

/-- The condition character by character, which is how texts are walked through below. -/
theorem unbroken_cons {c : Char} {cs : List Char} :
    Unbroken (c :: cs) ↔ (c ≠ '\r' ∧ c ≠ '\n') ∧ Unbroken cs := by
  simp only [Unbroken, List.mem_cons, not_or, ne_comm (a := c)]
  tauto

/-- Lines with the breaks between them: the first line, and each further one behind its break. -/
structure Cut where
  first : List Char
  further : List (LineBreak × List Char)
  deriving DecidableEq, Repr

namespace Cut

/-- The lines. -/
def lines (k : Cut) : List (List Char) := k.first :: k.further.map (·.2)

/-- The line breaks. -/
def breaks (k : Cut) : List LineBreak := k.further.map (·.1)

/-- Lines and breaks as one text. -/
def chars (k : Cut) : List Char := k.first ++ k.further.flatMap fun e => e.1.chars ++ e.2

/-- A text is cut at all of its line breaks, and only there. -/
structure IsCutOf (k : Cut) (cs : List Char) : Prop where
  chars_eq : k.chars = cs
  unbroken : ∀ line ∈ k.lines, Unbroken line
  /-- A carriage return with a line feed right behind it would be one break. -/
  apart : k.further.IsChain fun a b => a = (.carriageReturn, []) → b.1 ≠ .lineFeed

/-! ## Cuts from left to right -/

/-- The cut with a character in front of its first line. -/
def push (c : Char) (k : Cut) : Cut := ⟨c :: k.first, k.further⟩

/-- The cut with an empty line and a break in front of it. -/
def pushBreak (b : LineBreak) (k : Cut) : Cut := ⟨[], (b, k.first) :: k.further⟩

@[simp] theorem chars_push (c : Char) (k : Cut) : (k.push c).chars = c :: k.chars := rfl

@[simp] theorem chars_pushBreak (b : LineBreak) (k : Cut) :
    (k.pushBreak b).chars = b.chars ++ k.chars := List.append_assoc b.chars ..

@[simp] theorem breaks_push (c : Char) (k : Cut) : (k.push c).breaks = k.breaks := rfl

/-- A property of cuts is shown from right to left. -/
theorem pushRec {P : Cut → Prop} (empty : P ⟨[], []⟩) (push : ∀ c k, P k → P (k.push c))
    (pushBreak : ∀ b k, P k → P (k.pushBreak b)) (k : Cut) : P k := by
  obtain ⟨first, further⟩ := k
  induction further generalizing first with
  | nil =>
    induction first with
    | nil => exact empty
    | cons c first ih => exact push c _ ih
  | cons e further ih =>
    induction first with
    | nil => exact pushBreak e.1 ⟨e.2, further⟩ (ih e.2)
    | cons c first ihfirst => exact push c _ ihfirst

variable {k l : Cut} {cs : List Char}

/-- A character that is no part of a break belongs to the first line and has no other effect on a
cut. -/
theorem isCutOf_push {c : Char} :
    (k.push c).IsCutOf (c :: cs) ↔ (c ≠ '\r' ∧ c ≠ '\n') ∧ k.IsCutOf cs := by
  have hlines : (∀ line ∈ (k.push c).lines, Unbroken line)
      ↔ (c ≠ '\r' ∧ c ≠ '\n') ∧ ∀ line ∈ k.lines, Unbroken line := by
    rw [push, lines, lines, List.forall_mem_cons, List.forall_mem_cons, unbroken_cons, and_assoc]
  constructor
  · rintro ⟨hchars, hunbroken, hapart⟩
    obtain ⟨hc, hunbroken⟩ := hlines.1 hunbroken
    exact ⟨hc, (List.cons.inj hchars).2, hunbroken, hapart⟩
  · rintro ⟨hc, hchars, hunbroken, hapart⟩
    exact ⟨congrArg (c :: ·) hchars, hlines.2 ⟨hc, hunbroken⟩, hapart⟩

/-- A text begins with a line feed if and only if its cut begins with this break. -/
theorem IsCutOf.head?_eq_iff (h : k.IsCutOf cs) :
    cs.head? = some '\n' ↔ k.first = [] ∧ ∃ e ∈ k.further.head?, e.1 = .lineFeed := by
  obtain ⟨rfl, hunbroken, -⟩ := h
  obtain ⟨_ | ⟨c, first⟩, _ | ⟨⟨b, line⟩, further⟩⟩ := k
  · simp [chars]
  · cases b <;> simp [chars, LineBreak.chars]
  all_goals
    have hc := (unbroken_cons.1 (hunbroken _ (List.mem_cons_self ..))).1.2
    simp [chars, hc]

/-- A break in front of a text is one of its own unless it is a carriage return and a line feed
follows, which would be the second half of the same break. This is the only place where a cut looks
ahead. -/
theorem isCutOf_pushBreak {b : LineBreak} :
    (k.pushBreak b).IsCutOf (b.chars ++ cs)
      ↔ (b = .carriageReturn → cs.head? ≠ some '\n') ∧ k.IsCutOf cs := by
  have hlines : (∀ line ∈ (k.pushBreak b).lines, Unbroken line)
      ↔ ∀ line ∈ k.lines, Unbroken line := by
    simp [pushBreak, lines, Unbroken]
  -- A line feed follows exactly if the cut goes on with an empty line and this break, which is what
  -- `apart` rules out.
  have hapart (hk : k.IsCutOf cs) : (b = .carriageReturn → cs.head? ≠ some '\n')
      ↔ ∀ e ∈ k.further.head?, (b, k.first) = (.carriageReturn, []) → e.1 ≠ .lineFeed := by
    rw [Ne, hk.head?_eq_iff]
    constructor
    · rintro hnot e he heq hline
      obtain ⟨hb, hfirst⟩ := Prod.mk.inj heq
      exact hnot hb ⟨hfirst, e, he, hline⟩
    · rintro hnot hb ⟨hfirst, e, he, hline⟩
      exact hnot e he (by rw [hb, hfirst]) hline
  constructor
  · rintro ⟨hchars, hunbroken, hchain⟩
    obtain ⟨hfirst, hchain⟩ := List.isChain_cons.1 hchain
    rw [chars_pushBreak, List.append_right_inj] at hchars
    have hk : k.IsCutOf cs := ⟨hchars, hlines.1 hunbroken, hchain⟩
    exact ⟨(hapart hk).2 hfirst, hk⟩
  · rintro ⟨hb, hk⟩
    refine ⟨?_, hlines.2 hk.unbroken, List.isChain_cons.2 ⟨(hapart hk).1 hb, hk.apart⟩⟩
    rw [chars_pushBreak, hk.chars_eq]

end Cut

/-! ## The cut of a text -/

/-- Cuts a text. -/
def cut : List Char → Cut
  | [] => ⟨[], []⟩
  | '\r' :: '\n' :: cs => (cut cs).pushBreak .both
  | c :: cs =>
    if c = '\r' then (cut cs).pushBreak .carriageReturn
    else if c = '\n' then (cut cs).pushBreak .lineFeed
    else (cut cs).push c

/-- Any other character goes to the first line. -/
theorem cut_cons {c : Char} (hc : c ≠ '\r' ∧ c ≠ '\n') (cs : List Char) :
    cut (c :: cs) = (cut cs).push c := by
  rw [cut, if_neg hc.1, if_neg hc.2]
  rintro _ rfl _
  exact hc.1 rfl

/-- Each break is found where it is, unless it is the first half of a longer one. -/
theorem cut_break {b : LineBreak} {cs : List Char}
    (hb : b = .carriageReturn → cs.head? ≠ some '\n') :
    cut (b.chars ++ cs) = (cut cs).pushBreak b := by
  cases b with
  | carriageReturn =>
    refine (cut.eq_3 _ _ ?_).trans (if_pos rfl)
    rintro cs' - rfl
    exact hb rfl rfl
  | lineFeed => rfl
  | both => rfl

/-- A cut of a text exists: the one that is computed is one. -/
theorem isCutOf_cut (cs : List Char) : (cut cs).IsCutOf cs := by
  -- The cases are those of the reader of lines: the end, a pair, a character of a break alone, and
  -- any other character.
  fun_induction cut cs with
  | case1 => exact ⟨rfl, by simp [Cut.lines, Unbroken], .nil⟩
  | case2 cs ih => exact Cut.isCutOf_pushBreak.2 ⟨nofun, ih⟩
  | case3 cs hpair ih =>
    refine Cut.isCutOf_pushBreak.2 ⟨fun _ hhead => ?_, ih⟩
    obtain ⟨rest, rfl⟩ := List.head?_eq_some_iff.1 hhead
    exact hpair rest rfl rfl
  | case4 cs _ _ ih => exact Cut.isCutOf_pushBreak.2 ⟨nofun, ih⟩
  | case5 c cs _ hr hn ih => exact Cut.isCutOf_push.2 ⟨⟨hr, hn⟩, ih⟩

/-- No other cut of a text exists. The induction is on the cut, since it tells where the text begins
with a break and where with another character. -/
theorem Cut.IsCutOf.eq_cut {k : Cut} {cs : List Char} (h : k.IsCutOf cs) : k = cut cs := by
  obtain rfl := h.chars_eq
  induction k using Cut.pushRec with
  | empty => rfl
  | push c k ih =>
    obtain ⟨hc, hk⟩ := Cut.isCutOf_push.1 h
    rw [Cut.chars_push, cut_cons hc, ← ih hk]
  | pushBreak b k ih =>
    rw [Cut.chars_pushBreak] at h
    obtain ⟨hb, hk⟩ := Cut.isCutOf_pushBreak.1 h
    rw [Cut.chars_pushBreak, cut_break hb, ← ih hk]

/-- **A text has exactly one cut.** -/
theorem isCutOf_iff {k : Cut} {cs : List Char} : k.IsCutOf cs ↔ k = cut cs :=
  ⟨Cut.IsCutOf.eq_cut, fun h => h ▸ isCutOf_cut cs⟩

end ClientStyle.Text
