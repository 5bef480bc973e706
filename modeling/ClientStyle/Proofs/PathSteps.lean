/-
Paths as lists of steps.

A path is cut at its slashes, and a path that is put together from parts is cut into the steps of
its parts. `descend` follows steps without looking at any files: it goes down by names, up by double
dots, and fails when it would go up from the place where it began. So a list of steps can be followed
exactly if no part of it at the beginning goes up more often than down, and then it leads below the
place where it began, whatever this place is.
-/
import ClientStyle.Files.Tree
import Mathlib.Data.List.Infix

set_option autoImplicit false

namespace ClientStyle

namespace Path

/-! ## Steps -/

/-- The steps of a path. Slashes in a row, at the beginning and at the end make no step. -/
def steps (path : String) : List String :=
  ((Text.split '/' path.toList).map String.ofList).filter (· != "")

/-- Whether a step goes down: it is neither idle nor a step up. -/
def isName (step : String) : Bool := step != "." && step != ".."

/-- Neither of the two steps that mean a place relative to another one is a name. -/
theorem isName_iff {step : String} : isName step = true ↔ step ≠ "." ∧ step ≠ ".." := by
  simp only [isName, Bool.and_eq_true, bne_iff_ne]

/-- The steps of two paths with a slash between them are those of the first and then those of the
second. -/
theorem steps_slash (before after : String) :
    steps (before ++ "/" ++ after) = steps before ++ steps after := by
  have htext : (before ++ "/" ++ after).toList = before.toList ++ '/' :: after.toList := by
    simp [String.toList_append]
  simp only [steps, htext, Text.split_append_cons, List.map_append, List.filter_append]

/-- The beginning of a path tells whether it is absolute. -/
theorem isAbsolute_append {before : String} (h : before ≠ "") (after : String) :
    isAbsolute (before ++ after) = isAbsolute before := by
  have hne : before.toList ≠ [] := fun hnil => h (String.toList_inj.1 (hnil.trans rfl))
  rw [isAbsolute, isAbsolute, String.toList_append, List.head?_append_of_ne_nil _ hne]

/-- The steps of a path that leads on from a directory. -/
theorem steps_join {base path : String} (h : isAbsolute path = false) :
    steps (join base path) = steps base ++ steps path := by
  unfold join
  rw [if_neg (by simp [h])]
  split
  · -- A directory without a name has no steps.
    next hlast =>
      have hbase : base = "" := by
        rw [List.getLast?_eq_none_iff] at hlast
        rw [← String.toList_inj, hlast]
        rfl
      rw [hbase]
      rfl
  · -- The slash at the end of the directory is the one between the two.
    next hlast =>
      obtain ⟨rest, hrest⟩ := List.getLast?_eq_some_iff.1 hlast
      have hbase : base = String.ofList rest ++ "/" ++ "" := by
        rw [← String.toList_inj, hrest]
        simp [String.toList_append]
      have hpath : base ++ path = String.ofList rest ++ "/" ++ path := by
        rw [hbase]
        simp
      rw [hpath, steps_slash, hbase, steps_slash]
      simp [steps, Text.split]
  · exact steps_slash base path

/-! ## Descending -/

/-- Follows steps from a place, which is told by the names on the way to it from where the descent
began, the last one first. There is no going up from where it began. -/
def descend (here : Location) : List String → Option Location
  | [] => some here
  | step :: rest =>
    if step = "." then descend here rest
    else if step = ".." then
      match here with
      | [] => none
      | _ :: above => descend above rest
    else descend (step :: here) rest

/-- Where a path leads, unless it leads up from where it begins. -/
def resolve? (path : String) : Option Location := descend [] (steps path)

/-- A list of steps is followed by following its parts, if the first of them leads anywhere. So a
descent that fails at the beginning fails. -/
theorem descend_append (here : Location) (first second : List String) :
    descend here (first ++ second) = (descend here first).bind (descend · second) := by
  induction first generalizing here with
  | nil => rfl
  | cons step first ih =>
    simp only [List.cons_append, descend]
    split
    · exact ih here
    · split
      · -- Going up from the place where the descent began fails on both sides.
        cases here with
        | nil => rfl
        | cons _ above => exact ih above
      · exact ih (step :: here)

/-- Steps that can be followed lead below any place that they are followed from. -/
theorem descend_below {here below : Location} {path : List String}
    (h : descend here path = some below) (base : Location) :
    descend (here ++ base) path = some (below ++ base) := by
  induction path generalizing here with
  | nil => cases h; rfl
  | cons step path ih =>
    unfold descend at h ⊢
    split at h
    · next hidle => rw [if_pos hidle]; exact ih h
    · next hidle =>
      rw [if_neg hidle]
      split at h
      · next hup =>
        rw [if_pos hup]
        -- With a name to leave, the step stays below the base. Without one it would have failed.
        cases here with
        | nil => cases h
        | cons _ above => exact ih h
      · next hup => rw [if_neg hup]; exact ih h

/-- Steps of which the last one is a name lead to that name, if they can be followed. -/
theorem descend_name {here below : Location} {path : List String} {name : String}
    (hname : isName name = true) (h : descend here (path ++ [name]) = some below) :
    ∃ parent, descend here path = some parent ∧ below = name :: parent := by
  obtain ⟨hidle, hup⟩ := isName_iff.1 hname
  rw [descend_append] at h
  obtain ⟨parent, hparent, hlast⟩ := Option.bind_eq_some_iff.1 h
  simp only [descend, if_neg hidle, if_neg hup, Option.some.injEq] at hlast
  exact ⟨parent, hparent, hlast.symm⟩

/-- **Which steps can be followed**: no part at the beginning goes up more often than down, counting
what lies above the place where it begins. -/
theorem isSome_descend_iff (here : Location) (path : List String) :
    (descend here path).isSome = true ↔
      ∀ start, start <+: path → start.count ".." ≤ here.length + start.countP isName := by
  induction path generalizing here with
  | nil =>
    simp only [descend, Option.isSome_some, List.prefix_nil, true_iff]
    rintro start rfl
    exact Nat.zero_le _
  | cons step path ih =>
    -- A beginning of the steps is empty, or the first step and then a beginning of the others.
    simp only [List.prefix_cons_iff]
    have hcons : ∀ bound : List String → Prop,
        (∀ start, start = [] ∨ (∃ t, start = step :: t ∧ t <+: path) → bound start) ↔
          bound [] ∧ ∀ t, t <+: path → bound (step :: t) := by
      intro bound
      constructor
      · intro h
        exact ⟨h [] (.inl rfl), fun t ht => h _ (.inr ⟨t, rfl, ht⟩)⟩
      · rintro ⟨hnil, hstep⟩ start (rfl | ⟨t, rfl, ht⟩)
        · exact hnil
        · exact hstep t ht
    rw [hcons]
    simp only [List.count_nil, Nat.zero_le, true_and, List.count_cons, List.countP_cons]
    unfold descend
    by_cases hidle : step = "."
    · subst hidle
      rw [if_pos rfl, ih]
      simp [isName]
    · rw [if_neg hidle]
      by_cases hup : step = ".."
      · subst hup
        rw [if_pos rfl]
        cases here with
        | nil =>
          simp only [Option.isSome_none, Bool.false_eq_true, false_iff, not_forall]
          exact ⟨[], List.nil_prefix, by simp [isName]⟩
        | cons _ above =>
          simp only
          rw [ih]
          simp [isName, Nat.add_right_comm]
      · have hname : isName step = true := isName_iff.2 ⟨hidle, hup⟩
        rw [if_neg hup, ih]
        simp [hname, hup, Nat.add_assoc, Nat.add_comm 1]

/-- A path leads below a folder, and not out of it on the way. -/
def StaysBelow (folder path : String) : Prop :=
  ∃ rest below, steps path = steps folder ++ rest ∧ descend [] rest = some below ∧ below ≠ []

/-- What stays below a folder leads below it. -/
theorem StaysBelow.resolve?_eq {folder path : String} {place : Location}
    (h : StaysBelow folder path) (hfolder : resolve? folder = some place) :
    ∃ below, below ≠ [] ∧ resolve? path = some (below ++ place) := by
  obtain ⟨rest, below, hsteps, hbelow, hne⟩ := h
  refine ⟨below, hne, ?_⟩
  rw [resolve?, hsteps, descend_append]
  unfold resolve? at hfolder
  rw [hfolder]
  exact descend_below hbelow place

end Path

end ClientStyle
