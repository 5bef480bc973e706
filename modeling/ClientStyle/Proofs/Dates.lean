/-
Dates are read back from their texts.

A date is written as three numbers with zeros in front, which do not count when they are read. Month
and day have two digits in any case, but the digits of a year are bounded only if there are four of
them, and a longer year begins with a sign, behind which any number of digits is read. So each number
ends where its digits end, and different dates have different texts.
-/
import ClientStyle.Proofs.Steps
import ClientStyle.Release.Date
import Mathlib.Tactic.SplitIfs

set_option autoImplicit false

namespace ClientStyle.Date

/-! ## Padded numbers -/

variable {width n : Nat}

/-- A padded number is its decimal digits behind as many zeros as are missing. -/
theorem toList_padded (width n : Nat) : (padded width n).toList
    = List.replicate (width - (Nat.toDigits 10 n).length) '0' ++ Nat.toDigits 10 n :=
  String.toList_ofList

/-- Padding adds nothing but digits, so a reader of digits takes all of it. -/
theorem isDigit_of_mem_padded {c : Char} (h : c ∈ (padded width n).toList) : c.isDigit = true := by
  rw [toList_padded, List.mem_append] at h
  rcases h with h | h
  · rw [List.eq_of_mem_replicate h]
    rfl
  · exact Nat.isDigit_of_mem_toDigits (by decide) (by decide) h

/-- The digits of a number make it up again, and zeros in front do not count. -/
theorem numberOf_padded (width n : Nat) : numberOf (padded width n).toList = n := by
  -- The number is summed up from the left, so zeros in front leave it at zero.
  have hzeros (count : Nat) : numberOf (List.replicate count '0') = 0 := by
    induction count with
    | zero => rfl
    | succ count ih => exact ih
  have hvalue : Nat.ofDigitChars 10 (Nat.toDigits 10 n) 0 = n :=
    Nat.ofDigitChars_toDigits (by decide) (by decide)
  rw [toList_padded, numberOf, List.foldl_append, ← numberOf, hzeros]
  simpa only [Nat.ofDigitChars, Nat.mul_comm] using hvalue

/-- Even zero has a digit. -/
theorem padded_ne_nil (width n : Nat) : (padded width n).toList ≠ [] := by
  rw [toList_padded]
  exact List.append_ne_nil_of_right_ne_nil _ Nat.toDigits_ne_nil

/-- A number that fits in the width fills it exactly. -/
theorem length_padded (h : (Nat.toDigits 10 n).length ≤ width) :
    (padded width n).toList.length = width := by
  rw [toList_padded, List.length_append, List.length_replicate]
  exact Nat.sub_add_cancel h

/-- The form in which months and days meet the limit of the reader. -/
theorem length_padded_two (h : n < 100) : (padded 2 n).toList.length = 2 :=
  length_padded ((Nat.length_toDigits_le_iff (by decide) (by decide)).2 h)

/-- The form in which years without a sign do. -/
theorem length_padded_four (h : n < 10000) : (padded 4 n).toList.length = 4 :=
  length_padded ((Nat.length_toDigits_le_iff (by decide) (by decide)).2 h)

/-! ## Reading numbers -/

/-- A text that does not go on with a digit. -/
def EndsDigits (rest : List Char) : Prop := ∀ c, rest.head? = some c → c.isDigit = false

/-- The reader skips white space in front of each part of a date, but never a digit of it. -/
theorem isWhiteSpace_of_isDigit {c : Char} (h : c.isDigit = true) :
    Unicode.isWhiteSpace c = false := by
  have hrange : 48 ≤ c.toNat ∧ c.toNat ≤ 57 := Char.isDigit_iff_toNat.1 h
  simp only [Unicode.isWhiteSpace, Bool.or_eq_false_iff, Bool.and_eq_false_iff, decide_eq_false_iff_not,
    beq_eq_false_iff_ne]
  omega

/-- Nothing is skipped in front of a character that is no white space. -/
theorem skipBlanks_cons {c : Char} (h : Unicode.isWhiteSpace c = false) (cs : List Char) :
    skipBlanks (c :: cs) = c :: cs := List.dropWhile_cons_of_neg (by rw [h]; decide)

/-- No blanks are skipped in front of a number. -/
theorem skipBlanks_padded (width n : Nat) (rest : List Char) :
    skipBlanks ((padded width n).toList ++ rest) = (padded width n).toList ++ rest := by
  obtain ⟨c, cs, hcs⟩ := List.exists_cons_of_ne_nil (padded_ne_nil width n)
  have hc : c.isDigit = true := isDigit_of_mem_padded (by rw [hcs]; exact List.mem_cons_self ..)
  rw [hcs]
  exact skipBlanks_cons (isWhiteSpace_of_isDigit hc) _

/-- A number is read to the end of its digits, if that many may be read. -/
theorem digits_padded {most : Option Nat} (hmost : ∀ m ∈ most, (padded width n).toList.length ≤ m)
    {rest : List Char} (hrest : EndsDigits rest) :
    digits most ((padded width n).toList ++ rest) = .ok (n, rest) := by
  -- The digits end where the number does.
  have hstop : rest.takeWhile Char.isDigit = [] := by
    cases rest with
    | nil => rfl
    | cons c rest => exact List.takeWhile_cons_of_neg (Bool.eq_false_iff.1 (hrest c rfl))
  have htake : ((padded width n).toList ++ rest).takeWhile Char.isDigit
      = (padded width n).toList := by
    rw [List.takeWhile_append_of_pos fun _ => isDigit_of_mem_padded, hstop, List.append_nil]
  have hempty : (padded width n).toList.isEmpty = false :=
    List.isEmpty_eq_false_iff.2 (padded_ne_nil width n)
  obtain ⟨c, cs, hcs⟩ := List.exists_cons_of_ne_nil (padded_ne_nil width n)
  cases most with
  | none =>
    simp only [digits, htake, hempty, List.drop_left, numberOf_padded]
    rw [hcs]
    rfl
  | some m =>
    simp only [digits, htake, List.take_of_length_le (hmost m rfl), hempty, List.drop_left,
      numberOf_padded]
    rw [hcs]
    rfl

/-! ## Reading dates -/

/-- A hyphen ends the digits in front of it, as it does in a date. -/
theorem endsDigits_hyphen (rest : List Char) : EndsDigits ('-' :: rest) := by
  rintro c hc
  obtain rfl := Option.some.inj hc
  rfl

/-- The hyphen between two parts is read at once, since no blank was written in front of it. -/
theorem hyphen_skipBlanks (rest : List Char) : hyphen (skipBlanks ('-' :: rest)) = .ok rest := rfl

/-- A month or day is read back from two digits. The limits say that it is neither zero nor too large
for the reader, which checks both. -/
theorem upTo_padded {limit : Nat} (hpos : 1 ≤ n) (hn : n ≤ limit) (hlimit : limit < 100)
    {rest : List Char} (hrest : EndsDigits rest) :
    upTo limit (skipBlanks ((padded 2 n).toList ++ rest)) = .ok (n, rest) := by
  have hdigits : digits (some 2) ((padded 2 n).toList ++ rest) = .ok (n, rest) := by
    refine digits_padded (fun m hm => ?_) hrest
    obtain rfl := Option.some.inj hm
    exact Nat.le_of_eq (length_padded_two (Nat.lt_of_le_of_lt hn hlimit))
  rw [skipBlanks_padded, upTo, hdigits]
  exact if_pos ⟨hpos, hn⟩

/-- The limits of the parts of a date. -/
theorem bounds (d : Date) : (minYear ≤ d.year ∧ d.year ≤ maxYear) ∧
    (1 ≤ d.month ∧ d.month ≤ 12) ∧ 1 ≤ d.day ∧ d.day ≤ 31 := by
  -- Validity is stated with the days of the very month; the reader of a day only knows that none has
  -- more than 31.
  have hdays : daysIn d.year d.month ≤ 31 := by
    unfold daysIn
    split_ifs <;> decide
  have h := d.isDate
  simp only [exists?, Bool.and_eq_true, decide_eq_true_eq] at h
  omega

/-- The sign of a year. -/
def sign (year : Int) : List Char := if year < 0 then ['-'] else if 9999 < year then ['+'] else []

/-- A date as characters: sign, year, month and day, in the order in which the reader goes through
them. -/
theorem toList_text (d : Date) : d.text.toList = sign d.year ++ ((padded 4 d.year.natAbs).toList ++
    '-' :: ((padded 2 d.month).toList ++ '-' :: (padded 2 d.day).toList)) := by
  have hsign : (if d.year < 0 then "-" else if 9999 < d.year then "+" else "").toList
      = sign d.year := by
    unfold sign
    split_ifs <;> rfl
  simp [text, hsign]

/-- A date is written with digits, hyphens and a sign. -/
theorem mem_text {d : Date} {c : Char} (h : c ∈ d.text.toList) :
    c.isDigit = true ∨ c = '-' ∨ c = '+' := by
  simp only [toList_text, List.mem_append, List.mem_cons] at h
  rcases h with h | h | rfl | h | rfl | h
  · unfold sign at h
    split_ifs at h
    · exact .inr (.inl (List.mem_singleton.1 h))
    · exact .inr (.inr (List.mem_singleton.1 h))
    · cases h
  · exact .inl (isDigit_of_mem_padded h)
  · exact .inr (.inl rfl)
  · exact .inl (isDigit_of_mem_padded h)
  · exact .inr (.inl rfl)
  · exact .inl (isDigit_of_mem_padded h)

/-- A year is read to the hyphen behind it. -/
theorem readYear_text (d : Date) (rest : List Char) :
    readYear (skipBlanks (sign d.year ++ ((padded 4 d.year.natAbs).toList ++ '-' :: rest)))
      = .ok (d.year, '-' :: rest) := by
  obtain ⟨⟨hlow, hhigh⟩, -⟩ := d.bounds
  simp only [minYear, maxYear] at hlow hhigh
  have hlimit : -(yearLimit : Int) ≤ d.year ∧ d.year < yearLimit := by
    simp only [yearLimit]
    omega
  have hlong : digits none ((padded 4 d.year.natAbs).toList ++ '-' :: rest)
      = .ok (d.year.natAbs, '-' :: rest) := digits_padded (by rintro m ⟨⟩) (endsDigits_hyphen rest)
  unfold sign
  split_ifs with hneg hbig
  · -- A year below zero is written with its sign, and may then have any number of digits.
    have hyear : -(d.year.natAbs : Int) = d.year := by omega
    rw [List.singleton_append, skipBlanks_cons (c := '-') (by decide), readYear, bind_eq_ok_iff]
    refine ⟨(d.year, '-' :: rest), ?_, if_pos hlimit⟩
    rw [hlong]
    exact congrArg (fun year => Except.ok (year, '-' :: rest)) hyear
  · -- So does a year of more than four digits, with a plus.
    have hyear : (d.year.natAbs : Int) = d.year := by omega
    rw [List.singleton_append, skipBlanks_cons (c := '+') (by decide), readYear, bind_eq_ok_iff]
    refine ⟨(d.year, '-' :: rest), ?_, if_pos hlimit⟩
    rw [hlong]
    exact congrArg (fun year => Except.ok (year, '-' :: rest)) hyear
  · have hyear : (d.year.natAbs : Int) = d.year := by omega
    -- Any other year has four digits exactly, and the reader takes no more than four without a sign.
    have hshort : digits (some 4) ((padded 4 d.year.natAbs).toList ++ '-' :: rest)
        = .ok (d.year.natAbs, '-' :: rest) := by
      refine digits_padded (fun m hm => ?_) (endsDigits_hyphen rest)
      obtain rfl := Option.some.inj hm
      exact Nat.le_of_eq (length_padded_four (by omega))
    -- Without a sign a digit comes first, so the year is not taken for one with a sign.
    have hfirst (mark : Char) (hmark : mark.isDigit = false) (more : List Char) :
        (padded 4 d.year.natAbs).toList ++ '-' :: rest ≠ mark :: more := by
      obtain ⟨c, cs, hcs⟩ := List.exists_cons_of_ne_nil (padded_ne_nil 4 d.year.natAbs)
      have hc : c.isDigit = true := isDigit_of_mem_padded (by rw [hcs]; exact List.mem_cons_self ..)
      rintro heq
      rw [hcs] at heq
      cases heq
      rw [hmark] at hc
      cases hc
    rw [List.nil_append, skipBlanks_padded, readYear, bind_eq_ok_iff]
    · refine ⟨(d.year, '-' :: rest), ?_, if_pos hlimit⟩
      rw [hshort]
      exact congrArg (fun year => Except.ok (year, '-' :: rest)) hyear
    · exact hfirst '-' rfl
    · exact hfirst '+' rfl

/-- **A date is read back from its text.** -/
theorem parse_text_eq (d : Date) : parse d.text = .ok d := by
  obtain ⟨-, ⟨hmonth, hmonth'⟩, hday, hday'⟩ := d.bounds
  have hlast : upTo 31 (skipBlanks (padded 2 d.day).toList) = .ok (d.day, []) := by
    have h : upTo 31 (skipBlanks ((padded 2 d.day).toList ++ [])) = .ok (d.day, []) :=
      upTo_padded hday hday' (by decide) nofun
    rwa [List.append_nil] at h
  rw [parse, toList_text]
  -- One line for each step of the reader, up to the check that the date exists.
  refine bind_eq_ok_iff.2 ⟨_, readYear_text d _, ?_⟩
  refine bind_eq_ok_iff.2 ⟨_, hyphen_skipBlanks _, ?_⟩
  refine bind_eq_ok_iff.2 ⟨_, upTo_padded hmonth hmonth' (by decide) (endsDigits_hyphen _), ?_⟩
  refine bind_eq_ok_iff.2 ⟨_, hyphen_skipBlanks _, ?_⟩
  refine bind_eq_ok_iff.2 ⟨_, hlast, ?_⟩
  exact dif_pos d.isDate

/-- Different dates have different texts. -/
theorem text_inj {d d' : Date} : d.text = d'.text ↔ d = d' := by
  refine ⟨fun h => ?_, fun h => h ▸ rfl⟩
  have hparse := congrArg parse h
  rw [parse_text_eq, parse_text_eq] at hparse
  exact Except.ok.inj hparse

end ClientStyle.Date
