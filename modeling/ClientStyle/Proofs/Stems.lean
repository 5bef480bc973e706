/-
The last name of a path, and its stem.

Behind the last name of a path there may be slashes, and dots that are steps of their own; in front of
it there is nothing or a slash. A name has a stem and an extension if a dot stands somewhere behind
its first character, and else it is its own stem. Both are said here about the characters alone, so
that whatever stands in front of the last name, and whatever the extension is, the stem is the same.
-/
import ClientStyle.Files.Path
import Mathlib.Data.List.DropRight

set_option autoImplicit false

namespace ClientStyle.Path

/-! ## The last name -/

/-- Characters that may stand behind the last name of a path: slashes, each with or without a dot
that is a step of its own. -/
inductive Trails : List Char → Prop
  | nil : Trails []
  | slash {cs : List Char} (h : Trails cs) : Trails ('/' :: cs)
  | dot {cs : List Char} (h : Trails cs) : Trails ('/' :: '.' :: cs)

/-- A single step that is a name: it is not idle and does not lead up. -/
structure IsOrdinary (name : List Char) : Prop where
  single : '/' ∉ name
  not_idle : isIdle name = false
  not_up : name ≠ ['.', '.']

instance (name : List Char) : Decidable (IsOrdinary name) :=
  decidable_of_iff ('/' ∉ name ∧ isIdle name = false ∧ name ≠ ['.', '.'])
    ⟨fun h => ⟨h.1, h.2.1, h.2.2⟩, fun h => ⟨h.single, h.not_idle, h.not_up⟩⟩

/-- A name between what stands in front of it and what stands behind is the last one of a path. -/
structure IsLast (before name after : List Char) : Prop where
  ordinary : IsOrdinary name
  front : before = [] ∨ before.getLast? = some '/'
  behind : Trails after

/-- The last step of a path is this name. -/
def EndsIn (path : String) (name : List Char) : Prop :=
  ∃ before after, path.toList = before ++ name ++ after ∧ IsLast before name after

/-! ## Steps in front -/

/-- Steps, each with a slash behind it, may stand in front of a name. -/
theorem front_flatMap (steps : List (List Char)) :
    steps.flatMap (· ++ ['/']) = [] ∨ (steps.flatMap (· ++ ['/'])).getLast? = some '/' := by
  rcases List.eq_nil_or_concat' steps with rfl | ⟨steps, last, rfl⟩
  · exact .inl rfl
  · refine .inr ?_
    rw [List.flatMap_append, List.flatMap_singleton, ← List.append_assoc, List.getLast?_concat]

/-- What stands in front of the last name is cut into whole steps. -/
theorem IsLast.exists_split {before name after : List Char} (h : IsLast before name after) :
    ∃ steps, Text.split '/' (before ++ name) = steps ++ [name] := by
  have hname := Text.split_of_not_mem h.ordinary.single
  rcases h.front with rfl | hslash
  · exact ⟨[], hname⟩
  · obtain ⟨dir, rfl⟩ := List.getLast?_eq_some_iff.1 hslash
    refine ⟨Text.split '/' dir, ?_⟩
    rw [List.append_assoc, List.singleton_append, Text.split_append_cons, hname]

/-! ## Idle steps -/

/-- Idle steps make up what may stand behind a name. -/
theorem trails_flatMap {steps : List (List Char)} (h : ∀ step ∈ steps, isIdle step = true) :
    Trails (steps.flatMap ('/' :: ·)) := by
  induction steps with
  | nil => exact .nil
  | cons step steps ih =>
    obtain ⟨hstep, hsteps⟩ := List.forall_mem_cons.1 h
    rw [List.flatMap_cons]
    simp only [isIdle, Bool.or_eq_true, decide_eq_true_eq] at hstep
    rcases hstep with rfl | rfl
    · exact .slash (ih hsteps)
    · exact .dot (ih hsteps)

/-- What may stand behind a name is cut into idle steps. -/
theorem Trails.exists_split {after : List Char} (h : Trails after) :
    ∃ steps, (∀ step ∈ steps, isIdle step = true) ∧
      ∀ cs, Text.split '/' (cs ++ after) = Text.split '/' cs ++ steps := by
  induction h with
  | nil => exact ⟨[], nofun, fun cs => by rw [List.append_nil, List.append_nil]⟩
  | @slash after _ ih =>
    obtain ⟨steps, hidle, hsplit⟩ := ih
    refine ⟨[] :: steps, List.forall_mem_cons.2 ⟨rfl, hidle⟩, fun cs => ?_⟩
    rw [Text.split_append_cons]
    exact congrArg (Text.split '/' cs ++ ·) (hsplit [])
  | @dot after _ ih =>
    obtain ⟨steps, hidle, hsplit⟩ := ih
    refine ⟨['.'] :: steps, List.forall_mem_cons.2 ⟨rfl, hidle⟩, fun cs => ?_⟩
    rw [Text.split_append_cons]
    exact congrArg (Text.split '/' cs ++ ·) (hsplit ['.'])

/-- Only idle steps are dropped. -/
theorem exists_of_dropIdle {steps before : List (List Char)} {name : List Char}
    (h : dropIdle steps = name :: before) :
    ∃ idle, (∀ step ∈ idle, isIdle step = true) ∧ steps = idle ++ name :: before := by
  fun_induction dropIdle steps with
  | case1 => cases h
  | case2 first => exact ⟨[], nofun, h⟩
  | case3 step rest _ hidle ih =>
    obtain ⟨idle, hall, rfl⟩ := ih h
    exact ⟨step :: idle, List.forall_mem_cons.2 ⟨hidle, hall⟩, rfl⟩
  | case4 step rest _ _ => exact ⟨[], nofun, h⟩

/-- Idle steps are dropped up to the first step that is not. -/
theorem dropIdle_append {idle : List (List Char)} (hidle : ∀ step ∈ idle, isIdle step = true)
    {name : List Char} (hname : isIdle name = false) (before : List (List Char)) :
    dropIdle (idle ++ name :: before) = name :: before := by
  induction idle with
  | nil =>
    cases before with
    | nil => rfl
    | cons step before => exact if_neg (Bool.eq_false_iff.1 hname)
  | cons step idle ih =>
    obtain ⟨hstep, hidle⟩ := List.forall_mem_cons.1 hidle
    obtain ⟨next, rest, hrest⟩ : ∃ next rest, idle ++ name :: before = next :: rest :=
      List.exists_cons_of_ne_nil (List.append_ne_nil_of_right_ne_nil idle (List.cons_ne_nil _ _))
    have hdrop : dropIdle (step :: next :: rest) = dropIdle (next :: rest) := if_pos hstep
    rw [List.cons_append, hrest, hdrop, ← hrest, ih hidle]

/-! ## Finding the last name -/

/-- The last name is what comes first from behind, once idle steps are dropped, if it does not lead
up. -/
theorem name?_eq_some_iff_backwards {path : String} {name : List Char} : name? path = some name ↔
    isIdle name = false ∧ name ≠ ['.', '.'] ∧ ∃ before, backwards path = name :: before := by
  unfold name?
  constructor
  · intro h
    split at h
    · cases h
    · next step before hsteps =>
      split at h
      · cases h
      · next hname =>
        cases h
        rw [Bool.or_eq_true, not_or, Bool.not_eq_true, decide_eq_true_eq] at hname
        exact ⟨hname.1, hname.2, before, hsteps⟩
  · rintro ⟨hidle, hup, before, hsteps⟩
    simp only [hsteps, hidle, hup, decide_false, Bool.or_false, Bool.false_eq_true, if_false]

/-- What is found as the last name of a path is its last name. -/
theorem name?_eq_some_iff {path : String} {name : List Char} :
    name? path = some name ↔ EndsIn path name := by
  rw [name?_eq_some_iff_backwards, backwards]
  constructor
  · rintro ⟨hidle, hup, before, hsteps⟩
    obtain ⟨idle, hall, hreverse⟩ := exists_of_dropIdle hsteps
    have hsplit : Text.split '/' path.toList = before.reverse ++ name :: idle.reverse := by
      rw [← List.reverse_inj, hreverse]
      simp
    have hmem : name ∈ Text.split '/' path.toList := by
      rw [hsplit]
      exact List.mem_append_right _ (List.mem_cons_self ..)
    -- Joined again, the steps are the characters of the path.
    have htext := Text.join_split '/' path.toList
    rw [hsplit, Text.join_append_cons] at htext
    have htrails := trails_flatMap fun step hstep => hall step (List.mem_reverse.1 hstep)
    exact ⟨_, _, htext.symm, ⟨Text.not_mem_of_mem_split hmem, hidle, hup⟩,
      front_flatMap before.reverse, htrails⟩
  · rintro ⟨before, after, htext, hlast⟩
    obtain ⟨idle, hall, hbehind⟩ := hlast.behind.exists_split
    obtain ⟨steps, hfront⟩ := hlast.exists_split
    refine ⟨hlast.ordinary.not_idle, hlast.ordinary.not_up, steps.reverse, ?_⟩
    rw [htext, hbehind, hfront]
    simp only [List.reverse_append, List.reverse_cons, List.reverse_nil, List.nil_append,
      List.cons_append]
    exact dropIdle_append (fun step hstep => hall step (List.mem_reverse.1 hstep))
      hlast.ordinary.not_idle _

/-- A name is the last name of the path that it is. -/
theorem IsOrdinary.endsIn {path : String} (h : IsOrdinary path.toList) : EndsIn path path.toList :=
  ⟨[], [], (List.append_nil _).symm, h, .inl rfl, .nil⟩

/-! ## Stems -/

/-- A name without its last extension, if it has one: a dot at its beginning does not begin an
extension. -/
inductive HasStem : List Char → List Char → Prop
  | extended {stem extension : List Char} (h : '.' ∉ extension) (hstem : stem ≠ []) :
      HasStem (stem ++ '.' :: extension) stem
  | bare {name : List Char} (h : '.' ∉ name.tail) : HasStem name name

/-- Looking for the last dot goes past all characters if none is a dot. -/
theorem ne_dot_of_mem_reverse {cs : List Char} (h : '.' ∉ cs) :
    ∀ c ∈ cs.reverse, (c != '.') = true :=
  fun _ hc => bne_iff_ne.2 fun hdot => h (hdot ▸ List.mem_reverse.1 hc)

/-- What is in front of the last dot and what is behind it. -/
theorem cutAtDot_append_dot {extension : List Char} (h : '.' ∉ extension) (stem : List Char) :
    cutAtDot (stem ++ '.' :: extension)
      = if stem = [] then ('.' :: extension, none) else (stem, some extension) := by
  have hafter : ((stem ++ '.' :: extension).reverse.takeWhile (· != '.')).reverse = extension := by
    have hreverse : (stem ++ '.' :: extension).reverse
        = extension.reverse ++ '.' :: stem.reverse := by simp
    rw [hreverse, List.takeWhile_append_of_pos (ne_dot_of_mem_reverse h),
      List.takeWhile_cons_of_neg (by decide), List.append_nil, List.reverse_reverse]
  have hlength : (stem ++ '.' :: extension).length = stem.length + (extension.length + 1) := by
    rw [List.length_append, List.length_cons]
  -- What is behind the dot is counted off from the end.
  have hbefore : (stem ++ '.' :: extension).take
      ((stem ++ '.' :: extension).length - extension.length - 1) = stem := by
    rw [hlength]
    exact List.take_left' (by omega)
  have hne : ¬ extension.length = (stem ++ '.' :: extension).length := by omega
  simp only [cutAtDot, hafter, hbefore, hne, false_or]
  split
  · next hnil => rw [hnil, List.nil_append]
  · rfl

theorem cutAtDot_of_not_mem {name : List Char} (h : '.' ∉ name) : cutAtDot name = (name, none) := by
  have hafter : (name.reverse.takeWhile (· != '.')).reverse = name := by
    rw [List.takeWhile_eq_self_iff.2 (ne_dot_of_mem_reverse h), List.reverse_reverse]
  simp only [cutAtDot, hafter, true_or, if_true]

/-- Cutting at the last dot leaves the stem. -/
theorem cutAtDot_eq_iff {name stem : List Char} : (cutAtDot name).1 = stem ↔ HasStem name stem := by
  constructor
  · rintro rfl
    by_cases hdot : '.' ∈ name
    · -- The last dot is the one without another behind it.
      obtain ⟨extension, stem, hreverse, hlast⟩ :=
        List.eq_append_cons_of_mem (List.mem_reverse.2 hdot)
      obtain rfl : name = stem.reverse ++ '.' :: extension.reverse := by
        rw [← List.reverse_inj, hreverse]
        simp
      have hext : '.' ∉ extension.reverse := fun hmem => hlast (List.mem_reverse.1 hmem)
      rw [cutAtDot_append_dot hext]
      split
      · next hnil =>
        rw [hnil]
        exact .bare hext
      · next hne => exact .extended hext hne
    · rw [cutAtDot_of_not_mem hdot]
      exact .bare fun htail => hdot (List.mem_of_mem_tail htail)
  · intro h
    cases h with
    | extended hext hstem => rw [cutAtDot_append_dot hext, if_neg hstem]
    | bare htail =>
      by_cases hdot : '.' ∈ name
      · -- The only dot is the one at the beginning.
        obtain ⟨c, rest, rfl⟩ := List.exists_cons_of_ne_nil (List.ne_nil_of_mem hdot)
        obtain rfl : '.' = c := (List.mem_cons.1 hdot).resolve_right htail
        exact congrArg Prod.fst (cutAtDot_append_dot htail [])
      · rw [cutAtDot_of_not_mem hdot]

/-- The stem of a path whose last step is a name. -/
theorem EndsIn.stem_eq {path : String} {name : List Char} (h : EndsIn path name) :
    stem path = String.ofList (cutAtDot name).1 := by
  rw [stem, name?_eq_some_iff.2 h]

/-- **A name is the stem of a path if and only if the last step of the path is a name with this
stem**: the path itself, which takes the place of a stem if there is no last name, is no name then. -/
theorem stem_eq_iff {path stem : String} (h : IsOrdinary stem.toList) :
    Path.stem path = stem ↔ ∃ name, EndsIn path name ∧ HasStem name stem.toList := by
  constructor
  · intro hstem
    cases hname : name? path with
    | some name =>
      have hlast := name?_eq_some_iff.1 hname
      refine ⟨name, hlast, cutAtDot_eq_iff.1 ?_⟩
      rw [← hstem, hlast.stem_eq, String.toList_ofList]
    | none =>
      obtain rfl : path = stem := by
        rw [← hstem, Path.stem, hname]
      cases hname.symm.trans (name?_eq_some_iff.2 h.endsIn)
  · rintro ⟨name, hlast, hstem⟩
    rw [hlast.stem_eq, cutAtDot_eq_iff.2 hstem, String.ofList_toList]

/-! ## Paths with the same stem -/

/-- The last name of a path is also the last one behind any directory. -/
theorem EndsIn.behind {path : String} {name : List Char} (h : EndsIn path name) (dir : String) :
    EndsIn (dir ++ "/" ++ path) name := by
  obtain ⟨before, after, htext, hlast⟩ := h
  refine ⟨dir.toList ++ '/' :: before, after, ?_, hlast.ordinary, .inr ?_, hlast.behind⟩
  · simp [String.toList_append, htext]
  · rcases hlast.front with rfl | hslash
    · exact List.getLast?_concat
    · rw [List.getLast?_append, List.getLast?_cons, hslash]
      rfl

/-- Two paths are the same but for the last extensions of their last names; the second extension is
not empty. -/
inductive Exchanged : String → String → Prop
  | intro {before stem extension extension' after : List Char}
      (h : IsLast before (stem ++ '.' :: extension) after) (hstem : stem ≠ [])
      (hextension : '.' ∉ extension) (hne : extension' ≠ []) (hdot : '.' ∉ extension')
      (hslash : '/' ∉ extension') :
      Exchanged (String.ofList (before ++ (stem ++ '.' :: extension) ++ after))
        (String.ofList (before ++ (stem ++ '.' :: extension') ++ after))

/-- A name with another extension is a name. -/
theorem IsOrdinary.exchange {stem extension extension' : List Char}
    (h : IsOrdinary (stem ++ '.' :: extension)) (hstem : stem ≠ []) (hne : extension' ≠ [])
    (hslash : '/' ∉ extension') : IsOrdinary (stem ++ '.' :: extension') := by
  -- A stem, a dot and an extension are more than the two characters of a step up.
  have hlength : 3 ≤ (stem ++ '.' :: extension').length := by
    have hstem' := List.length_pos_iff.2 hstem
    have hne' := List.length_pos_iff.2 hne
    rw [List.length_append, List.length_cons]
    omega
  have hshort : ∀ step : List Char, step.length ≤ 2 → stem ++ '.' :: extension' ≠ step := by
    rintro step hstep rfl
    omega
  refine ⟨?_, ?_, hshort _ (Nat.le_refl 2)⟩
  · have hsingle := h.single
    simp only [List.mem_append, List.mem_cons, not_or] at hsingle ⊢
    exact ⟨hsingle.1, by decide, hslash⟩
  · simp only [isIdle, Bool.or_eq_false_iff, decide_eq_false_iff_not]
    exact ⟨hshort [] (by decide), hshort ['.'] (by decide)⟩

/-- **The extension does not matter to the stem**, as long as there is one before and after. -/
theorem Exchanged.stem_eq {path path' : String} (h : Exchanged path path') :
    stem path' = stem path := by
  obtain @⟨before, stem, extension, extension', after, h, hstem, hextension, hne, hdot, hslash⟩ := h
  have hordinary := h.ordinary.exchange hstem hne hslash
  have hlast : EndsIn (String.ofList (before ++ (stem ++ '.' :: extension) ++ after))
      (stem ++ '.' :: extension) := ⟨before, after, String.toList_ofList, h⟩
  have hlast' : EndsIn (String.ofList (before ++ (stem ++ '.' :: extension') ++ after))
      (stem ++ '.' :: extension') :=
    ⟨before, after, String.toList_ofList, hordinary, h.front, h.behind⟩
  rw [hlast.stem_eq, hlast'.stem_eq, cutAtDot_append_dot hextension, cutAtDot_append_dot hdot,
    if_neg hstem, if_neg hstem]

end ClientStyle.Path
