/-
Styles of spelling the words of an identifier.

The same words can be spelled with separators between them or with capitals. Whatever the style, the
words are found again: a separator leaves a gap, and a capital stands behind a lower-case letter or a
digit, since words have at least two characters. So all styles lead to the same snake-case spelling,
the same spelling with capitals and the same accessors.
-/
import ClientStyle.Api.Paging
import ClientStyle.Proofs.Casing

set_option autoImplicit false

namespace ClientStyle.Text

/-! ## Words -/

/-- A small letter of ASCII or a digit. -/
def IsPlain (c : Char) : Prop := c.isLower = true ∨ c.isDigit = true

/-- A word: a small letter, and behind it at least one more character that is a small letter or a
digit. -/
structure Word where
  first : Char
  rest : List Char
  isLower_first : first.isLower = true
  rest_ne_nil : rest ≠ []
  isPlain_rest : ∀ c ∈ rest, IsPlain c

namespace Word

/-- The characters of a word. -/
def chars (w : Word) : List Char := w.first :: w.rest

/-- The characters of a word with a capital. -/
def capitalised (w : Word) : List Char := w.first.toUpper :: w.rest

theorem isPlain_chars (w : Word) : ∀ c ∈ w.chars, IsPlain c :=
  List.forall_mem_cons.2 ⟨.inl w.isLower_first, w.isPlain_rest⟩

end Word

/-- A style of spelling words. -/
inductive WordStyle where
  | snake
  | kebab
  | spaced
  | camel
  | pascal
  deriving DecidableEq, Repr

namespace WordStyle

/-- The characters of some words in a style. -/
def chars : WordStyle → List Word → List Char
  | .snake, ws => join ['_'] (ws.map Word.chars)
  | .kebab, ws => join ['-'] (ws.map Word.chars)
  | .spaced, ws => join [' '] (ws.map Word.chars)
  | .camel, [] => []
  | .camel, w :: ws => w.chars ++ ws.flatMap Word.capitalised
  | .pascal, ws => ws.flatMap Word.capitalised

/-- Some words in a style. -/
def spell (style : WordStyle) (ws : List Word) : String := String.ofList (style.chars ws)

end WordStyle

/-! ## Finding words -/

variable {c : Char} {ending : Ending} {cs : List Char}

/-- Small letters and digits are characters of ASCII, so what holds of them is checked one by one. -/
theorem IsPlain.toNat_lt (h : IsPlain c) : c.toNat < 128 := by
  rcases h with hlower | hdigit
  · have hle : c.val ≤ 'z'.val := of_decide_eq_true (Bool.and_eq_true_iff.1 hlower).2
    exact Nat.lt_of_le_of_lt (UInt32.le_iff_toNat_le.1 hle) (by decide)
  · have hle : c.val ≤ '9'.val := of_decide_eq_true (Bool.and_eq_true_iff.1 hdigit).2
    exact Nat.lt_of_le_of_lt (UInt32.le_iff_toNat_le.1 hle) (by decide)

/-- A small letter or a digit is written as it is, and a word may end in it. -/
theorem IsPlain.written_eq (h : IsPlain c) : isWordChar c = true ∧ written c = [c] ∧
    endingOf c = .lower ∧ Unicode.isUppercase c = false ∧ c ≠ '_' := by
  have hplain : ∀ n < 128, (Char.ofNat n).isLower = true ∨ (Char.ofNat n).isDigit = true →
      isWordChar (Char.ofNat n) = true ∧ written (Char.ofNat n) = [Char.ofNat n] ∧
        endingOf (Char.ofNat n) = .lower ∧ Unicode.isUppercase (Char.ofNat n) = false ∧
          Char.ofNat n ≠ '_' := by
    decide
  have hc := hplain c.toNat h.toNat_lt
  rw [Char.ofNat_toNat] at hc
  exact hc h

/-- A capital is written small, and no word of more than one character ends in it. -/
theorem written_toUpper (h : c.isLower = true) : isWordChar c.toUpper = true ∧
    written c.toUpper = [c] ∧ endingOf c.toUpper = .other ∧
      Unicode.isUppercase c.toUpper = true ∧ Unicode.toUpper c = [c.toUpper] := by
  have hsmall : ∀ n < 128, (Char.ofNat n).isLower = true →
      isWordChar (Char.ofNat n).toUpper = true ∧ written (Char.ofNat n).toUpper = [Char.ofNat n] ∧
        endingOf (Char.ofNat n).toUpper = .other ∧
          Unicode.isUppercase (Char.ofNat n).toUpper = true ∧
            Unicode.toUpper (Char.ofNat n) = [(Char.ofNat n).toUpper] := by
    decide
  have hc := hsmall c.toNat (IsPlain.toNat_lt (.inl h))
  rw [Char.ofNat_toNat] at hc
  exact hc h

/-- Behind a gap an underscore is written, and otherwise nothing. -/
theorem IsPlain.division_eq (h : IsPlain c) :
    division ending c = if ending = .gap then ['_'] else [] := by
  obtain ⟨-, -, -, hupper, -⟩ := h.written_eq
  simp only [division, hupper, Bool.false_eq_true, and_false, or_false]

/-- Small letters and digits go on with the word before them, or begin one behind a gap. -/
theorem snakeFrom_plain (h : ∀ c ∈ cs, IsPlain c) (hne : cs ≠ []) (more : List Char) :
    snakeFrom ending (cs ++ more)
      = (if ending = .gap then ['_'] else []) ++ (cs ++ snakeFrom .lower more) := by
  induction cs generalizing ending with
  | nil => exact absurd rfl hne
  | cons c cs ih =>
    obtain ⟨hc, hcs⟩ := List.forall_mem_cons.1 h
    obtain ⟨hword, hwritten, hending, -⟩ := hc.written_eq
    -- Behind the first character the word goes on, so there is no gap to fill.
    have hrest : snakeFrom .lower (cs ++ more) = cs ++ snakeFrom .lower more := by
      cases cs with
      | nil => rfl
      | cons d cs => exact ih hcs (List.cons_ne_nil _ _)
    rw [List.cons_append, snakeFrom_of_isWordChar hword, hc.division_eq, hwritten, hending, hrest]
    rfl

namespace Word

variable (w : Word) (more : List Char)

/-- A word in small letters is found behind a gap or at the beginning. -/
theorem snakeFrom_chars : snakeFrom ending (w.chars ++ more)
    = (if ending = .gap then ['_'] else []) ++ (w.chars ++ snakeFrom .lower more) :=
  snakeFrom_plain w.isPlain_chars (List.cons_ne_nil _ _) more

/-- A word with a capital is found behind another word, too. -/
theorem snakeFrom_capitalised : snakeFrom ending (w.capitalised ++ more)
    = (if ending = .gap ∨ ending = .lower then ['_'] else [])
      ++ (w.chars ++ snakeFrom .lower more) := by
  obtain ⟨hword, hwritten, hending, hupper, -⟩ := written_toUpper w.isLower_first
  have hdivision : division ending w.first.toUpper
      = if ending = .gap ∨ ending = .lower then ['_'] else [] := by
    simp only [division, hupper, and_true]
  rw [capitalised, List.cons_append, snakeFrom_of_isWordChar hword, hdivision, hwritten, hending,
    snakeFrom_plain w.isPlain_rest w.rest_ne_nil]
  rfl

/-- A word is capitalised behind an underscore or at the beginning. -/
theorem capitalise_chars :
    capitalise true (w.chars ++ more) = w.capitalised ++ capitalise false more := by
  -- Behind the first character, all stay as they are up to the next underscore.
  have hrest : ∀ cs : List Char, (∀ c ∈ cs, IsPlain c) →
      capitalise false (cs ++ more) = cs ++ capitalise false more := by
    intro cs hcs
    induction cs with
    | nil => rfl
    | cons c cs ih =>
      obtain ⟨hc, hcs⟩ := List.forall_mem_cons.1 hcs
      rw [List.cons_append, capitalise, if_neg hc.written_eq.2.2.2.2, ih hcs]
      rfl
  have hfirst := (IsPlain.written_eq (.inl w.isLower_first)).2.2.2.2
  rw [chars, List.cons_append, capitalise, if_neg hfirst, if_pos rfl, hrest _ w.isPlain_rest,
    (written_toUpper w.isLower_first).2.2.2.2]
  rfl

end Word

/-! ## Finding all words -/

/-- Words with separators in front of them. -/
theorem snakeFrom_separated {separator : Char} (h : isSeparator separator = true) (ws : List Word) :
    snakeFrom .lower (ws.flatMap fun w => separator :: w.chars)
      = ws.flatMap fun w => '_' :: w.chars := by
  induction ws with
  | nil => rfl
  | cons w ws ih =>
    rw [List.flatMap_cons, List.cons_append, snakeFrom_of_isSeparator h, if_neg (by decide),
      w.snakeFrom_chars, if_pos rfl, ih, List.flatMap_cons]
    rfl

/-- Words with capitals. -/
theorem snakeFrom_capitals (ws : List Word) :
    snakeFrom .lower (ws.flatMap Word.capitalised) = ws.flatMap fun w => '_' :: w.chars := by
  induction ws with
  | nil => rfl
  | cons w ws ih =>
    rw [List.flatMap_cons, w.snakeFrom_capitalised, if_pos (.inr rfl), ih, List.flatMap_cons]
    rfl

/-- Capitalising words with underscores in front of them. -/
theorem capitalise_underscored (ws : List Word) :
    capitalise false (ws.flatMap fun w => '_' :: w.chars) = ws.flatMap Word.capitalised := by
  induction ws with
  | nil => rfl
  | cons w ws ih =>
    rw [List.flatMap_cons, List.cons_append, capitalise, if_pos rfl, w.capitalise_chars, ih,
      List.flatMap_cons]

namespace WordStyle

/-- Words that are joined have a separator in front of each but the first. -/
theorem join_chars (separator : Char) (w : Word) (ws : List Word) :
    join [separator] ((w :: ws).map Word.chars)
      = w.chars ++ ws.flatMap fun w => separator :: w.chars := by
  rw [List.map_cons, join_cons, List.flatMap_map]

/-- The words are found in every style. -/
theorem snakeFrom_chars (style : WordStyle) (ws : List Word) :
    snakeFrom .start (style.chars ws) = snake.chars ws := by
  cases ws with
  | nil => cases style <;> rfl
  | cons w ws =>
    have hjoined : ∀ separator, isSeparator separator = true →
        snakeFrom .start (join [separator] ((w :: ws).map Word.chars)) = snake.chars (w :: ws) := by
      intro separator hseparator
      rw [chars, join_chars, join_chars, w.snakeFrom_chars, snakeFrom_separated hseparator]
      rfl
    cases style with
    | snake => exact hjoined '_' (by decide)
    | kebab => exact hjoined '-' (by decide)
    | spaced => exact hjoined ' ' (by decide)
    | camel =>
      rw [chars, chars, join_chars, w.snakeFrom_chars, snakeFrom_capitals]
      rfl
    | pascal =>
      rw [chars, chars, join_chars, List.flatMap_cons, w.snakeFrom_capitalised, snakeFrom_capitals]
      rfl

theorem capitalise_snake (ws : List Word) :
    capitalise true (snake.chars ws) = pascal.chars ws := by
  cases ws with
  | nil => rfl
  | cons w ws =>
    rw [chars, chars, join_chars, w.capitalise_chars, capitalise_underscored, List.flatMap_cons]

end WordStyle

/-- **The style of spelling makes no difference.** Of any words, each style has the snake-case
spelling and the spelling with capitals that the words themselves have, and the same accessors in
every language. -/
theorem spell_alike (style : WordStyle) (ws : List Word) :
    snakeCase (style.spell ws) = WordStyle.snake.spell ws ∧
    properCase (style.spell ws) = WordStyle.pascal.spell ws ∧
    ∀ (other : WordStyle) (target : Target),
      target.getter (style.spell ws) = target.getter (other.spell ws) := by
  have hsnake : ∀ style : WordStyle, snakeCase (style.spell ws) = WordStyle.snake.spell ws := by
    intro style
    rw [snakeCase, WordStyle.spell, String.toList_ofList, style.snakeFrom_chars, WordStyle.spell]
  -- Capitals are put into the snake-case spelling, which does not depend on the style.
  have hproper : ∀ style : WordStyle, properCase (style.spell ws) = WordStyle.pascal.spell ws := by
    intro style
    rw [← String.toList_inj, toList_properCase, hsnake, WordStyle.spell, WordStyle.spell,
      String.toList_ofList, String.toList_ofList, WordStyle.capitalise_snake]
  refine ⟨hsnake style, hproper style, fun other target => ?_⟩
  cases target with
  | csharp => rw [Target.getter, Target.getter, hproper, hproper]
  | java => rw [Target.getter, Target.getter, hproper, hproper]

/-- Two words in the five styles. -/
example : [WordStyle.snake, .kebab, .spaced, .camel, .pascal].map (·.spell
      [⟨'p', ['a', 'r', 't'], rfl, List.cons_ne_nil _ _, by simp [IsPlain]⟩,
        ⟨'n', ['o', '2'], rfl, List.cons_ne_nil _ _, by simp [IsPlain]⟩])
    = ["part_no2", "part-no2", "part no2", "partNo2", "PartNo2"] := by decide +kernel

end ClientStyle.Text
