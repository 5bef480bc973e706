/-
Capitals and their lower-case forms.

Facts about every capital are read off the tables run by run. The tables are sorted, so whether two
of them have a code point in common, or whether one is part of another, takes one walk along both.
Below U+0080 the classes are settled without a table, and there the facts are checked one by one.

A capital is no lower-case letter and is its own upper case. Its lower-case form is itself, or one
lower-case letter; the only exception is the capital I with a dot, whose form is an i and a dot.
-/
import ClientStyle.Unicode.Class
import Mathlib.Data.List.Chain
import Mathlib.Data.List.TakeWhile

set_option autoImplicit false

namespace ClientStyle.Unicode

/-! ## Runs -/

namespace Run

variable {r s : Run} {rs ss : List Run} {n : Nat}

/-- The condition in arithmetic. `contains` computes with truth values, which keeps the evaluation of
large tables small. -/
theorem contains_iff :
    r.contains n = true ↔ r.first ≤ n ∧ n ≤ r.last ∧ (n - r.first) % r.step = 0 := by
  simp only [contains, Bool.and_eq_true, decide_eq_true_eq, beq_iff_eq, and_assoc]

/-- The code points of a run. -/
def points (r : Run) : List Nat :=
  (List.range ((r.last - r.first) / r.step + 1)).map (r.first + r.step * ·)

/-- The points of a run are all that it contains, which lets a question about a run be answered by
enumeration. -/
theorem mem_points (h : r.contains n = true) : n ∈ r.points := by
  obtain ⟨hfirst, hlast, hstep⟩ := contains_iff.1 h
  have hsum := Nat.div_add_mod (n - r.first) r.step
  refine List.mem_map.2 ⟨(n - r.first) / r.step, List.mem_range.2 ?_, by omega⟩
  exact Nat.lt_succ_of_le (Nat.div_le_div_right (by omega))

/-- The runs from the first one on that does not end in front of `r`. -/
def ahead (r : Run) (ss : List Run) : List Run := ss.dropWhile fun s => Nat.blt s.last r.first

/-- The runs up to the last one that does not begin behind `r`. -/
def near (r : Run) (ss : List Run) : List Run := ss.takeWhile fun s => Nat.ble s.first r.last

/-! ### Parts -/

/-- Whether each code point of a run is in one of sorted runs. -/
def isWithin (r : Run) (ss : List Run) : Bool :=
  r.points.all fun n => (r.near (r.ahead ss)).any (·.contains n)

/-- The search looks only where a run of the others can reach the points, but what it finds is in one
of the others. -/
theorem exists_contains_of_isWithin (h : r.isWithin ss = true) (hn : r.contains n = true) :
    ∃ s ∈ ss, s.contains n = true := by
  obtain ⟨s, hs, hcontains⟩ := List.any_eq_true.1 (List.all_eq_true.1 h n (mem_points hn))
  refine ⟨s, ?_, hcontains⟩
  -- `near` and `ahead` only leave runs away.
  exact (List.dropWhile_sublist _).subset ((List.takeWhile_sublist _).subset hs)

/-- Whether all code points of sorted runs are in other sorted runs. -/
def areWithin : List Run → List Run → Bool
  | [], _ => true
  | r :: rs, ss => r.isWithin (r.ahead ss) && areWithin rs (r.ahead ss)

/-- The walk over both lists answers the question for every run of the first one. What it leaves
behind in the second list is never needed again, so the induction is for any second list. -/
theorem exists_contains_of_areWithin (h : areWithin rs ss = true) (hr : r ∈ rs)
    (hn : r.contains n = true) : ∃ s ∈ ss, s.contains n = true := by
  induction rs generalizing ss with
  | nil => cases hr
  | cons r' rs ih =>
    obtain ⟨hfirst, hrest⟩ := Bool.and_eq_true_iff.1 h
    have hahead : ∃ s ∈ r'.ahead ss, s.contains n = true := by
      rcases List.mem_cons.1 hr with rfl | hr
      · exact exists_contains_of_isWithin hfirst hn
      · exact ih hrest hr
    obtain ⟨s, hs, hcontains⟩ := hahead
    exact ⟨s, (List.dropWhile_sublist _).subset hs, hcontains⟩

/-! ### Disjoint runs -/

/-- Whether all code points of a run are even, or all are odd. -/
def hasParity (r : Run) : Bool := r.step % 2 == 0 || r.first == r.last

/-- All points of a run with a parity have the parity of its first one. -/
theorem mod_two_eq (hr : r.hasParity = true) (hn : r.contains n = true) : n % 2 = r.first % 2 := by
  obtain ⟨hfirst, hlast, hstep⟩ := contains_iff.1 hn
  rw [hasParity, Bool.or_eq_true, beq_iff_eq, beq_iff_eq] at hr
  rcases hr with heven | heq
  · have hsum := Nat.div_add_mod (n - r.first) r.step
    have hdvd : 2 ∣ n - r.first := by
      rw [← hsum, hstep, Nat.add_zero]
      exact Nat.dvd_mul_right_of_dvd (Nat.dvd_of_mod_eq_zero heven) _
    omega
  · omega

/-- Whether two runs are seen to have no code point in common. -/
def isApart (r s : Run) : Bool :=
  Nat.blt r.last s.first || Nat.blt s.last r.first ||
    (r.hasParity && s.hasParity && (r.first + s.first) % 2 == 1)

/-- Runs that are seen to be apart are: they do not overlap, or one is even and the other one odd, as
the runs of capitals and small letters that take turns in a table are. -/
theorem contains_eq_false_of_isApart (h : r.isApart s = true) (hn : r.contains n = true) :
    s.contains n = false := by
  refine Bool.eq_false_iff.2 fun hs => ?_
  obtain ⟨hfirst, hlast, -⟩ := contains_iff.1 hn
  obtain ⟨hfirst', hlast', -⟩ := contains_iff.1 hs
  simp only [isApart, Bool.or_eq_true, Bool.and_eq_true, Nat.blt_eq, beq_iff_eq] at h
  rcases h with (h | h) | ⟨⟨hr, hs'⟩, hodd⟩
  · omega
  · omega
  · have := mod_two_eq hr hn
    have := mod_two_eq hs' hs
    omega

/-- Runs in the order of their first code points. -/
def Ascending (rs : List Run) : Prop := (rs.map (·.first)).IsChain (· ≤ ·)

instance : DecidablePred Ascending := fun rs =>
  inferInstanceAs (Decidable ((rs.map (·.first)).IsChain (· ≤ ·)))

/-- The order is stated of neighbours, which is quickly decided, and used of any two runs. -/
theorem Ascending.pairwise (h : Ascending rs) : rs.Pairwise fun r s => r.first ≤ s.first :=
  List.pairwise_map.1 (List.isChain_iff_pairwise.1 h)

/-- In ascending runs everything from the first one on that begins behind `n` begins behind `n`. -/
theorem lt_first_of_mem_dropWhile (hss : ss.Pairwise fun r s => r.first ≤ s.first)
    (hs : s ∈ ss.dropWhile fun s => Nat.ble s.first n) : n < s.first := by
  induction ss with
  | nil => cases hs
  | cons s' ss ih =>
    obtain ⟨hleast, hss⟩ := List.pairwise_cons.1 hss
    rw [List.dropWhile_cons] at hs
    split at hs
    · exact ih hss hs
    · next hbegins =>
      rw [Nat.ble_eq, Nat.not_le] at hbegins
      rcases List.mem_cons.1 hs with rfl | hs
      · exact hbegins
      · exact Nat.lt_of_lt_of_le hbegins (hleast s hs)

/-- Whether sorted runs have no code point in common with other sorted runs. -/
def areApart : List Run → List Run → Bool
  | [], _ => true
  | r :: rs, ss => (r.near (r.ahead ss)).all r.isApart && areApart rs (r.ahead ss)

/-- The walk over both lists looks at each run together with those near it only. The others do not
reach it: since both lists ascend, they end in front of it or begin behind it. -/
theorem contains_eq_false_of_pairwise (hrs : rs.Pairwise fun r s => r.first ≤ s.first)
    (hss : ss.Pairwise fun r s => r.first ≤ s.first) (h : areApart rs ss = true) (hr : r ∈ rs)
    (hs : s ∈ ss) (hn : r.contains n = true) : s.contains n = false := by
  induction rs generalizing ss with
  | nil => cases hr
  | cons r' rs ih =>
    obtain ⟨hnear, hrest⟩ := Bool.and_eq_true_iff.1 h
    obtain ⟨hleast, hrs⟩ := List.pairwise_cons.1 hrs
    obtain ⟨hfirst, hlast, -⟩ := contains_iff.1 hn
    have hbegins : r'.first ≤ r.first := by
      rcases List.mem_cons.1 hr with rfl | hr
      · exact Nat.le_refl _
      · exact hleast r hr
    -- The second list is what was left behind at the first run, and what is ahead of it.
    have hsplit : s ∈ (ss.takeWhile fun s => Nat.blt s.last r'.first) ++ r'.ahead ss := by
      rw [ahead, List.takeWhile_append_dropWhile]
      exact hs
    rcases List.mem_append.1 hsplit with hbehind | hahead
    · -- What was left behind ends in front of this run, and so of all that follow it.
      have hends : s.last < r'.first := by simpa using List.mem_takeWhile_imp hbehind
      refine Bool.eq_false_iff.2 fun hcontains => ?_
      have := (contains_iff.1 hcontains).2.1
      omega
    · -- Ahead there are the runs that were looked at, and those that begin too late to reach the
      -- first run.
      have hss := hss.sublist (List.dropWhile_sublist fun s => Nat.blt s.last r'.first)
      rcases List.mem_cons.1 hr with rfl | hr
      · have hsplit : s ∈ r.near (r.ahead ss) ++
            (r.ahead ss).dropWhile fun s => Nat.ble s.first r.last := by
          rw [near, List.takeWhile_append_dropWhile]
          exact hahead
        rcases List.mem_append.1 hsplit with hs | hfar
        · exact contains_eq_false_of_isApart (List.all_eq_true.1 hnear s hs) hn
        · have hbeyond := lt_first_of_mem_dropWhile hss hfar
          refine Bool.eq_false_iff.2 fun hcontains => ?_
          have := (contains_iff.1 hcontains).1
          omega
      · exact ih hrs hss hrest hr hahead

end Run

/-! ## Sets and maps -/

/-- A set has what one of its runs has. -/
theorem CodePointSet.contains_iff {s : CodePointSet} {n : Nat} :
    s.contains n = true ↔ ∃ r ∈ s.runs, r.contains n = true := List.any_eq_true

namespace MapRun

variable {r : MapRun} {n image : Nat}

/-- The code points that a run maps. -/
def source (r : MapRun) : Run := ⟨r.first, r.last, r.step⟩

/-- The code points that a run maps to. -/
def target (r : MapRun) : Run := ⟨r.image, r.image + (r.last - r.first), r.step⟩

/-- A run maps its points in steps of the same width, so they arrive at points of its target. -/
theorem target_contains (h : r.source.contains n = true) :
    r.target.contains (r.image + (n - r.first)) = true := by
  obtain ⟨hfirst, hlast, hstep⟩ := Run.contains_iff.1 h
  simp only [source] at hfirst hlast hstep
  refine Run.contains_iff.2 ⟨Nat.le_add_right _ _, ?_, ?_⟩
  · simp only [target]
    omega
  · simp only [target, Nat.add_sub_cancel_left]
    exact hstep

/-- A run that has an image for a code point maps it from its source to its target. -/
theorem of_image?_eq_some (h : r.image? n = some image) :
    r.source.contains n = true ∧ r.target.contains image = true := by
  unfold image? at h
  split at h
  · next hsource =>
    cases h
    exact ⟨hsource, target_contains hsource⟩
  · cases h

end MapRun

/-- A code point is expanded, or moved by a run, or kept. -/
theorem CodePointMap.apply_cases (m : CodePointMap) (n : Nat) :
    (n, m.apply n) ∈ m.expansions ∨
      (∃ r ∈ m.runs, r.source.contains n = true ∧
        ∃ image, m.apply n = [image] ∧ r.target.contains image = true) ∨
      m.apply n = [n] := by
  unfold apply
  split
  · next image hlookup =>
    -- The expansions come before the runs, and the first one of a code point counts.
    obtain ⟨before, after, hsplit, -⟩ := List.lookup_eq_some_iff.1 hlookup
    rw [hsplit]
    exact .inl (List.mem_append_right _ (List.mem_cons_self ..))
  · split
    · next image himage =>
      obtain ⟨r, hr, hrun⟩ := List.exists_of_findSome?_eq_some himage
      obtain ⟨hsource, htarget⟩ := MapRun.of_image?_eq_some hrun
      exact .inr (.inl ⟨r, hr, hsource, image, rfl, htarget⟩)
    · exact .inr (.inr rfl)

/-! ## The tables -/

/-- Lower-case letters are alphabetic. -/
theorem alphabeticSet_contains {n : Nat} (h : lowercaseSet.contains n = true) :
    alphabeticSet.contains n = true := by
  obtain ⟨r, hr, hn⟩ := CodePointSet.contains_iff.1 h
  have hwithin : Run.areWithin lowercaseSet.runs alphabeticSet.runs = true := by decide +kernel
  exact CodePointSet.contains_iff.2 (Run.exists_contains_of_areWithin hwithin hr hn)

/-- The order of the table of capitals, by evaluation, as that of each table below. -/
theorem uppercaseSet_ascending : Run.Ascending uppercaseSet.runs := by decide +kernel

/-- No character is in upper case and in lower case. -/
theorem uppercaseSet_contains_eq_false {n : Nat} (h : lowercaseSet.contains n = true) :
    uppercaseSet.contains n = false := by
  obtain ⟨r, hr, hn⟩ := CodePointSet.contains_iff.1 h
  have hlower : Run.Ascending lowercaseSet.runs := by decide +kernel
  -- The kernel walks over both tables once, instead of over all code points.
  have hapart : Run.areApart lowercaseSet.runs uppercaseSet.runs = true := by decide +kernel
  refine Bool.eq_false_iff.2 fun hcontains => ?_
  obtain ⟨s, hs, hn'⟩ := CodePointSet.contains_iff.1 hcontains
  have hnot := Run.contains_eq_false_of_pairwise hlower.pairwise uppercaseSet_ascending.pairwise
    hapart hr hs hn
  rw [hn'] at hnot
  cases hnot

/-- Capitals are their own upper case. -/
theorem upperMapping_apply {n : Nat} (h : uppercaseSet.contains n = true) :
    upperMapping.apply n = [n] := by
  obtain ⟨r, hr, hn⟩ := CodePointSet.contains_iff.1 h
  have hnone : ∀ ss, Run.Ascending ss → Run.areApart uppercaseSet.runs ss = true →
      ∀ s ∈ ss, ¬ s.contains n = true := by
    intro ss hss hapart s hs
    rw [Run.contains_eq_false_of_pairwise uppercaseSet_ascending.pairwise hss.pairwise hapart hr hs
      hn]
    exact Bool.false_ne_true
  rcases upperMapping.apply_cases n with hmem | ⟨s, hs, hsource, -⟩ | hself
  · -- An expansion is about one code point, which is a run by itself, so the same walk serves for
    -- both kinds of entries.
    have hself : (⟨n, n, 1⟩ : Run).contains n = true :=
      Run.contains_iff.2 ⟨Nat.le_refl _, Nat.le_refl _, Nat.mod_one _⟩
    exact absurd hself (hnone (upperMapping.expansions.map fun e => ⟨e.1, e.1, 1⟩)
      (by decide +kernel) (by decide +kernel) _ (List.mem_map.2 ⟨_, hmem, rfl⟩))
  · exact absurd hsource (hnone (upperMapping.runs.map (·.source)) (by decide +kernel)
      (by decide +kernel) _ (List.mem_map.2 ⟨s, hs, rfl⟩))
  · exact hself

/-- A code point has a single lower-case letter as its lower case, or is kept, or expanded. -/
theorem lowerMapping_apply_cases (n : Nat) : (n, lowerMapping.apply n) ∈ lowerMapping.expansions ∨
    (∃ image, lowerMapping.apply n = [image] ∧ lowercaseSet.contains image = true) ∨
    lowerMapping.apply n = [n] := by
  refine (lowerMapping.apply_cases n).imp_right (Or.imp_left ?_)
  rintro ⟨r, hr, -, image, happly, htarget⟩
  have hwithin : (lowerMapping.runs.all fun r => r.target.isWithin lowercaseSet.runs) = true := by
    decide +kernel
  refine ⟨image, happly, CodePointSet.contains_iff.2 ?_⟩
  exact Run.exists_contains_of_isWithin (List.all_eq_true.1 hwithin r hr) htarget

/-- Only the dot above has a dot above in its upper case. -/
theorem eq_of_mem_upperMapping_apply {n : Nat} (h : 0x307 ∈ upperMapping.apply n) : n = 0x307 := by
  rcases upperMapping.apply_cases n with hmem | ⟨r, hr, -, image, happly, htarget⟩ | hself
  · have hexpansions : ∀ e ∈ upperMapping.expansions, 0x307 ∉ e.2 := by decide +kernel
    exact absurd h (hexpansions _ hmem)
  · have hruns : ∀ r ∈ upperMapping.runs, r.target.last < 0x307 ∨ 0x307 < r.target.first := by
      decide +kernel
    obtain ⟨hfirst, hlast, -⟩ := Run.contains_iff.1 htarget
    rw [happly, List.mem_singleton] at h
    have := hruns r hr
    omega
  · rw [hself, List.mem_singleton] at h
    exact h.symm

/-! ## Characters -/

variable {c : Char}

/-- Evaluated tables have numbers where the mappings have characters; this is the way back. -/
theorem toNat_ofNat {n : Nat} (h : n.isValidChar) : (Char.ofNat n).toNat = n := by
  rw [Char.ofNat, dif_pos h]
  rfl

/-- A question about an ASCII character is one about numbers below 128, and these can all be tried. -/
theorem exists_of_isAscii (h : isAscii c = true) : ∃ n < 128, c = Char.ofNat n :=
  ⟨c.toNat, by simpa [isAscii] using h, (Char.ofNat_toNat c).symm⟩

/-- Small letters are alphanumeric, in ASCII by their ranges and elsewhere by the tables. -/
theorem isAlphanumeric_of_isLowercase (h : isLowercase c = true) : isAlphanumeric c = true := by
  have halphabetic : isAlphabetic c = true := by
    unfold isLowercase at h
    unfold isAlphabetic
    split at h
    · next hascii =>
      have halpha : c.isAlpha = true := Bool.or_eq_true_iff.2 (.inr h)
      rw [if_pos hascii, halpha]
    · next hascii => rw [if_neg hascii, alphabeticSet_contains h]
  rw [isAlphanumeric, halphabetic, Bool.true_or]

/-- No letter is both small and a capital, which nothing in the definitions alone rules out: two
tables say so. -/
theorem isUppercase_of_isLowercase (h : isLowercase c = true) : isUppercase c = false := by
  unfold isLowercase at h
  unfold isUppercase
  split at h
  · next hascii =>
    obtain ⟨n, hn, rfl⟩ := exists_of_isAscii hascii
    have hletters : ∀ n < 128, (Char.ofNat n).isLower = true → (Char.ofNat n).isUpper = false := by
      decide
    rw [if_pos hascii, hletters n hn h]
  · next hascii => rw [if_neg hascii, uppercaseSet_contains_eq_false h]

/-- A capital is its own upper case. -/
theorem toUpper_of_isUppercase (h : isUppercase c = true) : toUpper c = [c] := by
  unfold isUppercase at h
  unfold toUpper
  split at h
  · next hascii =>
    obtain ⟨n, hn, rfl⟩ := exists_of_isAscii hascii
    have hletters : ∀ n < 128, (Char.ofNat n).isUpper = true →
        (Char.ofNat n).toUpper = Char.ofNat n := by
      decide
    rw [if_pos hascii, hletters n hn h]
  · next hascii =>
    rw [if_neg hascii, upperMapping_apply h, List.map_singleton, Char.ofNat_toNat]

/-- The code points in the table of lower-case letters are those of lower-case letters. -/
theorem isLowercase_ofNat {n : Nat} (h : lowercaseSet.contains n = true) :
    isLowercase (Char.ofNat n) = true := by
  obtain ⟨r, hr, hn⟩ := CodePointSet.contains_iff.1 h
  obtain ⟨hfirst, hlast, -⟩ := Run.contains_iff.1 hn
  -- No run of the table meets the surrogates, so every point of it is a character.
  have hvalid : ∀ r ∈ lowercaseSet.runs, r.last < 0xD800 ∨ 0xDFFF < r.first ∧ r.last < 0x110000 := by
    decide +kernel
  have hvalue : (Char.ofNat n).toNat = n :=
    toNat_ofNat ((hvalid r hr).imp (by omega) (by omega))
  by_cases hascii : isAscii (Char.ofNat n) = true
  · have hsmall : n < 128 := by simpa [isAscii, hvalue] using hascii
    have hruns : ∀ r ∈ lowercaseSet.runs, 128 ≤ r.first ∨ 97 ≤ r.first ∧ r.last ≤ 122 := by
      decide +kernel
    have hletters : ∀ n < 128, 97 ≤ n → n ≤ 122 → (Char.ofNat n).isLower = true := by decide
    have := hruns r hr
    rw [isLowercase, if_pos hascii]
    exact hletters n hsmall (by omega) (by omega)
  · rw [isLowercase, if_neg hascii, hvalue]
    exact h

/-- The lower case of a character is the character, or one lower-case letter; only the capital I with
a dot has two characters, and one of them is the dot. -/
theorem toLower_cases (c : Char) : c = 'İ' ∧ toLower c = ['i', '\u0307'] ∨
    (∃ letter, toLower c = [letter] ∧ isLowercase letter = true) ∨ toLower c = [c] := by
  by_cases hascii : isAscii c = true
  · obtain ⟨n, hn, rfl⟩ := exists_of_isAscii hascii
    have hletters : ∀ n < 128, isLowercase (Char.ofNat n).toLower = true ∨
        (Char.ofNat n).toLower = Char.ofNat n := by
      decide
    rw [toLower, if_pos hascii]
    rcases hletters n hn with hlower | hself
    · exact .inr (.inl ⟨_, rfl, hlower⟩)
    · rw [hself]
      exact .inr (.inr rfl)
  · rw [toLower, if_neg hascii]
    rcases lowerMapping_apply_cases c.toNat with hmem | ⟨image, himage, hlower⟩ | hself
    · -- The table of lower cases has a single expansion, and it is that of the capital I with a dot.
      have hexpansions : lowerMapping.expansions = [(0x130, [0x69, 0x307])] := rfl
      rw [hexpansions, List.mem_singleton, Prod.mk.injEq] at hmem
      refine .inl ⟨?_, ?_⟩
      · rw [← Char.ofNat_toNat c, hmem.1]
      · rw [hmem.2]
        rfl
    · rw [himage]
      exact .inr (.inl ⟨_, rfl, isLowercase_ofNat hlower⟩)
    · rw [hself, List.map_singleton, Char.ofNat_toNat]
      exact .inr (.inr rfl)

/-- Upper case neither makes nor loses a dot above, so dots can be counted before and after. -/
theorem dot_mem_toUpper_iff : '\u0307' ∈ toUpper c ↔ c = '\u0307' := by
  constructor
  · intro h
    unfold toUpper at h
    split at h
    · next hascii =>
      obtain ⟨n, hn, rfl⟩ := exists_of_isAscii hascii
      have hnone : ∀ n < 128, '\u0307' ≠ (Char.ofNat n).toUpper := by decide
      exact absurd (List.mem_singleton.1 h) (hnone n hn)
    · obtain ⟨n, hn, heq⟩ := List.mem_map.1 h
      -- A number that is no character would be read as the zero character, which is no dot.
      have hvalid : n.isValidChar := by
        refine Decidable.byContradiction fun hnot => ?_
        rw [Char.ofNat, dif_neg hnot] at heq
        exact absurd heq (by decide)
      have hvalue : n = 0x307 := by
        rw [← toNat_ofNat hvalid, heq]
        rfl
      rw [hvalue] at hn
      rw [← Char.ofNat_toNat c, eq_of_mem_upperMapping_apply hn]
  · rintro rfl
    decide +kernel

end ClientStyle.Unicode
