/-
Reading back texts, numbers and words.

Each reader undoes the writer of its piece of a text, whatever comes after the piece; only behind a
number it matters, since another digit, a point or an exponent would belong to it. A quoted text is
read back escape by escape, and an integer of 64 bits digit by digit.
-/
import ClientStyle.Json.Printer
import ClientStyle.Json.Reader
import Mathlib.Tactic.SplitIfs

set_option autoImplicit false

namespace ClientStyle.Json

/-! ## Strings -/

theorem hexValue?_hexDigit (n : Nat) : hexValue? (hexDigit n) = some (n % 16) := by
  have hdigits : ∀ d < 16, hexValue? (Nat.digitChar d) = some d := by decide
  exact hdigits _ (Nat.mod_lt n (by decide))

/-- The escape of a control character is read back. -/
theorem unicodeEscape?_hexDigits {n : Nat} (h : n < 0x20) (rest : List Char) :
    unicodeEscape? ('0' :: '0' :: hexDigit (n / 16) :: hexDigit n :: rest)
      = some (Char.ofNat n, rest) := by
  have hzero : hexValue? '0' = some 0 := by decide
  have hvalue : ((0 * 16 + 0) * 16 + n / 16 % 16) * 16 + n % 16 = n := by omega
  have hfour : hexFour? ('0' :: '0' :: hexDigit (n / 16) :: hexDigit n :: rest) = some (n, rest) := by
    simp only [hexFour?, hzero, hexValue?_hexDigit, Option.bind_eq_bind, Option.bind_some, hvalue]
  -- A control character is far below the surrogates, so no second escape is asked for.
  have hlow : isLowSurrogate n = false := by
    simp only [isLowSurrogate, Bool.and_eq_false_iff, decide_eq_false_iff_not]
    omega
  have hhigh : isHighSurrogate n = false := by
    simp only [isHighSurrogate, Bool.and_eq_false_iff, decide_eq_false_iff_not]
    omega
  simp [unicodeEscape?, hfour, hlow, hhigh]

/-- A character stands for itself, or an escape that is read as the character stands for it. -/
theorem escapeChar_cases (c : Char) :
    (∃ escape, escapeChar c = '\\' :: escape ∧ ∀ rest, escape? (escape ++ rest) = some (c, rest)) ∨
      escapeChar c = [c] ∧ c ≠ '"' ∧ c ≠ '\\' ∧ ¬ c.toNat < 0x20 := by
  unfold escapeChar
  split_ifs with hquote hbackslash _ _ _ _ _ hcontrol
  -- Seven characters have an escape of their own.
  any_goals
    refine .inl ⟨_, rfl, fun _ => ?_⟩
    subst_vars
    rfl
  · refine .inl ⟨_, rfl, fun rest => ?_⟩
    have hread := unicodeEscape?_hexDigits hcontrol rest
    rw [Char.ofNat_toNat] at hread
    exact hread
  · exact .inr ⟨rfl, hquote, hbackslash, hcontrol⟩

/-- The characters that stand for one character are read as that character. -/
theorem stringChars?_escapeChar (c : Char) (bound : Nat) (rest : List Char) :
    stringChars? (bound + 1) (escapeChar c ++ rest)
      = (stringChars? bound rest).map fun found => (c :: found.1, found.2) := by
  rcases escapeChar_cases c with ⟨escape, hescape, hread⟩ | ⟨hself, hquote, hbackslash, hcontrol⟩
  · rw [hescape, List.cons_append, stringChars?, if_neg (by decide), if_pos rfl]
    simp only [hread, Option.bind_eq_bind, Option.bind_some]
    cases stringChars? bound rest <;> rfl
  · -- A character that stands for itself is none of those that the reader treats in a special way.
    rw [hself, List.singleton_append, stringChars?, if_neg hquote, if_neg hbackslash,
      if_neg hcontrol]
    cases stringChars? bound rest <;> rfl

/-- All characters of a text are read back, up to and with the closing quotation mark. None of the
escapes has a quotation mark of its own, which would end the text early. -/
theorem stringChars?_escaped (cs rest : List Char) {bound : Nat} (h : cs.length < bound) :
    stringChars? bound (cs.flatMap escapeChar ++ '"' :: rest) = some (cs, rest) := by
  induction cs generalizing bound with
  | nil =>
    obtain ⟨bound, rfl⟩ := Nat.exists_eq_add_of_le' h
    rfl
  | cons c cs ih =>
    obtain ⟨bound, rfl⟩ := Nat.exists_eq_add_of_le' (Nat.lt_of_le_of_lt (Nat.zero_le _) h)
    rw [List.flatMap_cons, List.append_assoc, stringChars?_escapeChar,
      ih (Nat.lt_of_succ_lt_succ h)]
    rfl

/-- Escaping makes no text shorter, so the bound of the reader is enough for the characters that it
reads. -/
theorem length_le_length_escaped (cs : List Char) : cs.length ≤ (cs.flatMap escapeChar).length := by
  have hone : ∀ c ∈ cs, 1 ≤ (escapeChar c).length := by
    intro c _
    rcases escapeChar_cases c with ⟨escape, hescape, -⟩ | ⟨hself, -⟩
    · rw [hescape, List.length_cons]
      exact Nat.le_add_left 1 _
    · rw [hself]
      exact Nat.le_refl 1
  induction cs with
  | nil => exact Nat.le_refl 0
  | cons c cs ih =>
    obtain ⟨hfirst, hrest⟩ := List.forall_mem_cons.1 hone
    rw [List.flatMap_cons, List.length_append, List.length_cons]
    have := ih hrest
    omega

/-- A quoted text is read back behind its opening quotation mark. -/
theorem string?_quoted (text : String) (rest : List Char) :
    string? (text.toList.flatMap escapeChar ++ '"' :: rest) = some (text, rest) := by
  have hlength := length_le_length_escaped text.toList
  rw [string?, stringChars?_escaped]
  · simp only [Option.map_some, String.ofList_toList]
  · rw [List.length_append, List.length_cons]
    omega

/-! ## Numbers -/

/-- A text that does not go on with a number. -/
def EndsNumber (rest : List Char) : Prop :=
  ∀ c, rest.head? = some c → c.isDigit = false ∧ c ≠ '.' ∧ c ≠ 'e' ∧ c ≠ 'E'

/-- The digits of a number are read as far as they go. -/
theorem digits_append {cs rest : List Char} (hcs : ∀ c ∈ cs, c.isDigit = true)
    (hrest : EndsNumber rest) :
    digits (cs ++ rest) = (cs.map fun c => c.toNat - '0'.toNat, rest) := by
  have hstop : rest.takeWhile Char.isDigit = [] ∧ rest.dropWhile Char.isDigit = rest := by
    cases rest with
    | nil => exact ⟨rfl, rfl⟩
    | cons c rest =>
      obtain ⟨hc, -⟩ := hrest c rfl
      have hc' : ¬ c.isDigit = true := Bool.eq_false_iff.1 hc
      exact ⟨List.takeWhile_cons_of_neg hc', List.dropWhile_cons_of_neg hc'⟩
  rw [digits, List.takeWhile_append_of_pos hcs, List.dropWhile_append_of_pos hcs, hstop.1, hstop.2,
    List.append_nil]

open ClientStyle.Number.Decimal (naturalDigits)

theorem isDigit_of_mem_naturalDigits {n : Nat} {c : Char} (h : c ∈ naturalDigits n) :
    c.isDigit = true := Nat.isDigit_of_mem_toDigits (by decide) (by decide) h

/-- The digits of a natural number make it up again. -/
theorem naturalOf_naturalDigits (n : Nat) :
    naturalOf ((naturalDigits n).map fun c => c.toNat - '0'.toNat) = n := by
  have hvalue : Nat.ofDigitChars 10 (naturalDigits n) 0 = n :=
    Nat.ofDigitChars_toDigits (by decide) (by decide)
  rw [naturalOf, List.foldl_map]
  simpa only [Nat.ofDigitChars, Nat.mul_comm] using hvalue

/-- A positive number does not start with a zero. -/
theorem exists_naturalDigits_of_pos {n : Nat} (h : 0 < n) :
    ∃ c cs, naturalDigits n = c :: cs ∧ 0 < c.toNat - '0'.toNat := by
  induction n using Nat.strongRecOn with
  | ind n ih =>
    by_cases hn : n < 10
    · refine ⟨Nat.digitChar n, [], Nat.toDigits_of_lt_base hn, ?_⟩
      have hdigits : ∀ d < 10, 0 < d → 0 < (Nat.digitChar d).toNat - '0'.toNat := by decide
      exact hdigits n hn h
    · obtain ⟨c, cs, hcs, hc⟩ := ih (n / 10) (by omega) (by omega)
      refine ⟨c, cs ++ [Nat.digitChar (n % 10)], ?_, hc⟩
      -- The last digit is written behind those of the quotient, so the first one is the quotient's.
      have hsplit := Nat.toDigits_of_base_le (by decide) (Nat.le_of_not_lt hn)
      rw [naturalDigits, hsplit, ← List.cons_append, ← hcs]
      rfl

/-- The digits of a natural number are read back. No digit may follow a zero in front, which is why
zero is a case of its own. -/
theorem wholeDigits?_naturalDigits (n : Nat) {rest : List Char} (hrest : EndsNumber rest) :
    ∃ ds, wholeDigits? (naturalDigits n ++ rest) = some (ds, rest) ∧ naturalOf ds = n := by
  refine ⟨_, ?_, naturalOf_naturalDigits n⟩
  have hdigits : digits (naturalDigits n ++ rest)
      = ((naturalDigits n).map fun c => c.toNat - '0'.toNat, rest) :=
    digits_append (fun _ => isDigit_of_mem_naturalDigits) hrest
  rcases Nat.eq_zero_or_pos n with rfl | hpos
  · rw [wholeDigits?, someDigits?, hdigits]
    rfl
  · obtain ⟨c, cs, hcs, hc⟩ := exists_naturalDigits_of_pos hpos
    rw [wholeDigits?, someDigits?, hdigits, hcs, List.map_cons]
    obtain ⟨d, hd⟩ := Nat.exists_eq_add_of_le' hc
    rw [hd]
    rfl

theorem exists_naturalDigits (n : Nat) :
    ∃ c cs, naturalDigits n = c :: cs ∧ c.isDigit = true := by
  have hne : naturalDigits n ≠ [] := Nat.toDigits_ne_nil
  obtain ⟨c, cs, hcs⟩ := List.exists_cons_of_ne_nil hne
  have hmem : c ∈ naturalDigits n := hcs ▸ List.mem_cons_self ..
  exact ⟨c, cs, hcs, isDigit_of_mem_naturalDigits hmem⟩

theorem fraction?_of_endsNumber {rest : List Char} (h : EndsNumber rest) :
    fraction? rest = some (none, rest) := by
  unfold fraction?
  split
  · exact absurd rfl (h '.' rfl).2.1
  · rfl

theorem exponent?_of_endsNumber {rest : List Char} (h : EndsNumber rest) :
    exponent? rest = some (none, rest) := by
  unfold exponent?
  split
  · exact absurd rfl (h 'e' rfl).2.2.1
  · exact absurd rfl (h 'E' rfl).2.2.2
  · rfl

/-- The digits of an integer are read back behind its sign. -/
theorem unsigned?_naturalDigits {negative : Bool} {i : Int} {rest : List Char}
    (hinteger : ∀ ds, naturalOf ds = i.natAbs → Number.integerOfDigits? negative ds = some i)
    (hrest : EndsNumber rest) :
    unsigned? negative (naturalDigits i.natAbs ++ rest) = some (.integer i, rest) := by
  obtain ⟨ds, hds, hvalue⟩ := wholeDigits?_naturalDigits i.natAbs hrest
  simp only [unsigned?, hds, Option.bind_eq_bind, Option.bind_some, fraction?_of_endsNumber hrest,
    exponent?_of_endsNumber hrest, Number.ofParts?, hinteger ds hvalue, Option.map_some,
    Option.some_or]

/-- An integer fits 64 bits, with a sign if it is negative: it is at least `-2 ^ 63` and less than
`2 ^ 64`. -/
def FitsWord (i : Int) : Prop := -9223372036854775808 ≤ i ∧ i ≤ 18446744073709551615

instance : DecidablePred FitsWord := fun i =>
  inferInstanceAs (Decidable (-9223372036854775808 ≤ i ∧ i ≤ 18446744073709551615))

/-- An integer of 64 bits is read back. -/
theorem number?_integerText {i : Int} (h : FitsWord i) {rest : List Char}
    (hrest : EndsNumber rest) :
    number? (Number.integerText i ++ rest) = some (.integer i, rest) := by
  unfold FitsWord at h
  unfold Number.integerText
  split
  · next hnegative =>
    rw [List.cons_append, number?]
    refine unsigned?_naturalDigits (fun ds hds => ?_) hrest
    have hrange : naturalOf ds ≠ 0 ∧ naturalOf ds ≤ Number.maxNegated := by
      rw [hds, Number.maxNegated]
      omega
    rw [naturalOf] at hds hrange
    rw [Number.integerOfDigits?, if_pos rfl, if_pos hrange, hds]
    exact congrArg some (by omega)
  · next hnegative =>
    -- A digit is no sign.
    have hhead : ∀ cs, naturalDigits i.natAbs ++ rest ≠ '-' :: cs := by
      intro cs hcs
      obtain ⟨c, more, hdigits, hc⟩ := exists_naturalDigits i.natAbs
      rw [hdigits] at hcs
      cases hcs
      cases hc
    -- Without a sign in front, the digits are all there is.
    have hnumber : number? (naturalDigits i.natAbs ++ rest)
        = unsigned? false (naturalDigits i.natAbs ++ rest) := by
      unfold number?
      split
      · next heq => exact absurd heq (hhead _)
      · rfl
    rw [hnumber]
    refine unsigned?_naturalDigits (fun ds hds => ?_) hrest
    have hrange : naturalOf ds ≤ Number.maxInteger := by
      rw [hds, Number.maxInteger]
      omega
    rw [naturalOf] at hds hrange
    rw [Number.integerOfDigits?, if_neg (by decide), if_pos hrange, hds]
    exact congrArg some (by omega)

/-- The text of an integer starts with a sign or a digit. -/
theorem exists_integerText (i : Int) :
    ∃ c cs, Number.integerText i = c :: cs ∧ (c = '-' ∨ c.isDigit = true) := by
  unfold Number.integerText
  split
  · exact ⟨'-', _, rfl, .inl rfl⟩
  · obtain ⟨c, cs, hcs, hc⟩ := exists_naturalDigits i.natAbs
    exact ⟨c, cs, hcs, .inr hc⟩

/-! ## Blanks -/

theorem skipBlanks_cons {c : Char} (h : isBlank c = false) (cs : List Char) :
    skipBlanks (c :: cs) = c :: cs := List.dropWhile_cons_of_neg (Bool.eq_false_iff.1 h)

/-- A line break and the indentation behind it are blank. -/
@[simp] theorem skipBlanks_newline (level : Nat) (cs : List Char) :
    skipBlanks (newline level ++ cs) = skipBlanks cs := by
  refine List.dropWhile_append_of_pos fun c hc => ?_
  rcases List.mem_cons.1 hc with rfl | hspace
  · rfl
  · rw [List.eq_of_mem_replicate hspace]
    rfl

/-- Blanks in front of a value do not matter. -/
theorem value?_of_skipBlanks_eq {cs cs' : List Char} (h : skipBlanks cs = skipBlanks cs')
    (limit : Nat) : value? limit cs = value? limit cs' := by
  cases limit with
  | zero => rw [value?, value?, h]
  | succ limit => rw [value?, value?, h]

/-! ## Scalars -/

/-- A value that begins with neither kind of bracket is a scalar. -/
theorem value?_scalar {c : Char} (hblank : isBlank c = false) (hlist : c ≠ '[')
    (hobject : c ≠ '\x7b') (limit : Nat) (cs : List Char) :
    value? limit (c :: cs) = scalar? (c :: cs) := by
  cases limit with
  | zero => rw [value?, skipBlanks_cons hblank]
  | succ limit =>
    rw [value?, skipBlanks_cons hblank]
    split
    · next heq => exact absurd (List.cons.inj heq).1 hlist
    · next heq => exact absurd (List.cons.inj heq).1 hobject
    · rfl

theorem value?_quoted (limit : Nat) (text : String) (rest : List Char) :
    value? limit (quoted text ++ rest) = some (.string text, rest) := by
  have hread := string?_quoted text rest
  rw [quoted, List.cons_append, List.append_assoc, List.singleton_append,
    value?_scalar (by decide) (by decide) (by decide), scalar?, hread]
  rfl

theorem value?_integerText (limit : Nat) {i : Int} (h : FitsWord i)
    {rest : List Char} (hrest : EndsNumber rest) :
    value? limit (Number.integerText i ++ rest) = some (.number (.integer i), rest) := by
  have hread := number?_integerText h hrest
  obtain ⟨c, cs, hcs, hc⟩ := exists_integerText i
  -- None of the characters that start another kind of value is a sign or a digit.
  have hne : ∀ other, other ≠ '-' → other.isDigit = false → c ≠ other := by
    rintro other hsign hdigit rfl
    rcases hc with rfl | hc
    · exact hsign rfl
    · rw [hc] at hdigit
      cases hdigit
  have hblank : isBlank c = false := by
    simp only [isBlank, Bool.or_eq_false_iff, decide_eq_false_iff_not]
    exact ⟨⟨⟨hne _ (by decide) (by decide), hne _ (by decide) (by decide)⟩,
      hne _ (by decide) (by decide)⟩, hne _ (by decide) (by decide)⟩
  rw [hcs, List.cons_append] at hread ⊢
  rw [value?_scalar hblank (hne _ (by decide) (by decide)) (hne _ (by decide) (by decide))]
  unfold scalar?
  split
  · next heq => exact absurd (List.cons.inj heq).1 (hne _ (by decide) (by decide))
  · next heq => exact absurd (List.cons.inj heq).1 (hne _ (by decide) (by decide))
  · next heq => exact absurd (List.cons.inj heq).1 (hne _ (by decide) (by decide))
  · next heq => exact absurd (List.cons.inj heq).1 (hne _ (by decide) (by decide))
  · rw [hread]
    rfl

end ClientStyle.Json
