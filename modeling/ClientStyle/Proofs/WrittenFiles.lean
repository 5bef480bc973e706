/-
Where the files are that writing leaves.

Nothing that is written ever removes a directory, so a path that leads somewhere when its file is
written leads there for good. Hence every file that differs after a run of writing is at the end of
one of the paths, whether or not the run came to its end. Paths that lead below the root as lists of
steps lead below it in the tree, since a tree is followed through its directories step by step.
-/
import ClientStyle.Proofs.Output
import ClientStyle.Proofs.PathSteps

set_option autoImplicit false

namespace ClientStyle

namespace FileTree

variable {t t' t'' : FileTree} {l : Location} {path root : String} {content : Content}

/-! ## Directories stay -/

/-- Every directory of the first tree is one of the second. -/
def KeepsDirectories (t t' : FileTree) : Prop :=
  ∀ l, t.find? l = some .directory → t'.find? l = some .directory

theorem KeepsDirectories.refl (t : FileTree) : t.KeepsDirectories t := fun _ h => h

theorem KeepsDirectories.trans (h : t.KeepsDirectories t') (h' : t'.KeepsDirectories t'') :
    t.KeepsDirectories t'' := fun l hl => h' l (h l hl)

theorem Grown.keepsDirectories (h : t.Grown t') : t.KeepsDirectories t' := by
  intro l hl
  rcases h l with heq | ⟨-, hdirectory⟩
  · rw [heq, hl]
  · exact hdirectory

/-- A file is put at a place where no directory is. -/
theorem keepsDirectories_of_write (h : t.write path content = .ok t') : t.KeepsDirectories t' := by
  obtain ⟨l, -, hentry, rfl⟩ := write_eq_ok h
  exact fun l' hl' => directory_put hentry hl'

/-- Writing a file keeps directories, be it that new ones are made or that the file cannot be
written. -/
theorem keepsDirectories_writeBelow (t : FileTree) (path : String) (content : Content) :
    t.KeepsDirectories (t.writeBelow path content).tree := by
  unfold writeBelow
  extract_lets prepared
  have hprepared : t.KeepsDirectories prepared.tree := by
    unfold prepared
    split
    · exact (t.grown_makeDirectories _).keepsDirectories
    · exact .refl t
  split
  · exact hprepared
  · split
    · next hwrite => exact hprepared.trans (keepsDirectories_of_write hwrite)
    · exact hprepared

/-! ## Following steps -/

/-- A walk along two lists of steps is two walks. -/
theorem walk_append (t : FileTree) (here : Location) (first second : List String) :
    t.walk here (first ++ second) = (t.walk here first).bind (t.walk · second) := by
  induction first generalizing here with
  | nil => rfl
  | cons step first ih =>
    simp only [List.cons_append, walk]
    split
    · exact ih here
    · split
      · exact ih here.tail
      · split
        · rfl
        · -- Only a directory lets the walk go on.
          split
          · rfl
          · rfl
          · exact ih (step :: here)

/-- A walk goes where the steps lead, if they do not lead up from where it begins. -/
theorem walk_descend {here below base : Location} {steps : List String}
    (h : t.walk (here ++ base) steps = .ok l) (hsteps : Path.descend here steps = some below) :
    l = below ++ base := by
  induction steps generalizing here with
  | nil =>
    cases h
    cases hsteps
    rfl
  | cons step steps ih =>
    unfold walk at h
    unfold Path.descend at hsteps
    split at h
    · next hidle => rw [if_pos hidle] at hsteps; exact ih h hsteps
    · next hidle =>
      rw [if_neg hidle] at hsteps
      split at h
      · next hup =>
        rw [if_pos hup] at hsteps
        -- A step up leaves what is below the base, since the descent does not go above where it
        -- began.
        cases here with
        | nil => cases hsteps
        | cons _ above => exact ih h hsteps
      · next hup =>
        rw [if_neg hup] at hsteps
        split at h
        · cases h
        · split at h
          · cases h
          · cases h
          · exact ih h hsteps

/-- The steps of a path to a name. -/
theorem steps_of_destination {steps : List String} {name : String} {slash : Bool}
    (h : destination path = .child steps name slash) :
    Path.steps path = steps ++ [name] ∧ Path.isName name = true := by
  unfold destination at h
  dsimp only at h
  split at h
  · cases h
  · next last hlast =>
    split at h
    · cases h
    · next hdots =>
      cases h
      rw [not_or] at hdots
      refine ⟨?_, Path.isName_iff.2 hdots⟩
      obtain ⟨before, hbefore⟩ := List.getLast?_eq_some_iff.1 hlast
      rw [Path.steps, hbefore, List.dropLast_concat]

/-- **A path that leads below the root as it stands leads below it in a tree.** -/
theorem LeadsTo.below {below : Location} (h : t.LeadsTo (Path.join root path) l)
    (hpath : Path.isAbsolute path = false) (hbelow : Path.resolve? path = some below)
    (hne : below ≠ []) :
    ∃ here, t.walk [] (Path.steps root) = .ok here ∧ l = below ++ here := by
  obtain ⟨-, steps, name, hdestination, hwalk⟩ := h
  obtain ⟨parent, hparent, -, rfl⟩ := walkTo_eq_ok hwalk
  obtain ⟨hsteps, hname⟩ := steps_of_destination hdestination
  rw [Path.steps_join hpath] at hsteps
  -- The path has a last step of its own, so this is the name at the end.
  have hown : Path.steps path ≠ [] := by
    intro hnil
    rw [Path.resolve?, hnil] at hbelow
    cases hbelow
    exact hne rfl
  obtain ⟨before, last, hlast⟩ : ∃ before last, Path.steps path = before ++ [last] :=
    ⟨_, _, (List.dropLast_append_getLast hown).symm⟩
  rw [hlast, ← List.append_assoc] at hsteps
  obtain ⟨rfl, hsame⟩ := List.append_inj' hsteps rfl
  cases hsame
  rw [Path.resolve?, hlast] at hbelow
  obtain ⟨place, hplace, rfl⟩ := Path.descend_name hname hbelow
  rw [walk_append] at hparent
  -- The walk goes along the root first.
  obtain ⟨here, hhere, hrest⟩ := exists_of_bind_eq_ok hparent
  refine ⟨here, hhere, ?_⟩
  have hwalked : parent = place ++ here := walk_descend hrest hplace
  rw [hwalked]
  rfl

end FileTree

/-! ## All files of a run -/

namespace Artifact

variable {t : FileTree} {root : String}

/-- So does writing several files, up to the first that cannot be written. -/
theorem keepsDirectories_writeAll (t : FileTree) (root : String) (artifacts : List Artifact) :
    t.KeepsDirectories (writeAll t root artifacts).tree := by
  induction artifacts generalizing t with
  | nil => exact .refl t
  | cons a rest ih =>
    have hfirst : t.KeepsDirectories (a.writeOne t root).tree := t.keepsDirectories_writeBelow _ _
    cases hresult : (a.writeOne t root).result with
    | error cause => rw [writeAll_cons_of_error hresult]; exact hfirst
    | ok _ => rw [writeAll_cons_of_ok hresult]; exact hfirst.trans (ih _)

/-- **Every file that differs after writing is at the end of a path.** -/
theorem file?_writeAll (t : FileTree) (root : String) (artifacts : List Artifact) (l : Location) :
    (writeAll t root artifacts).tree.file? l = t.file? l ∨
      ∃ a ∈ artifacts, (writeAll t root artifacts).tree.LeadsTo (a.pathBelow root) l := by
  induction artifacts generalizing t with
  | nil => exact .inl rfl
  | cons a rest ih =>
    rcases t.writeBelow_cases (a.pathBelow root) (.text a.content) with
      ⟨hresult, place, hleads, -, hothers⟩ | ⟨⟨cause, hresult⟩, hgrown⟩
    · rw [writeAll_cons_of_ok hresult]
      rcases ih (a.writeOne t root).tree with hsame | ⟨b, hb, hpath⟩
      · by_cases hl : l = place
        · -- The path still leads there when the others are written.
          subst hl
          exact .inr ⟨a, List.mem_cons_self .., hleads.mono (keepsDirectories_writeAll _ root rest)⟩
        · exact .inl (hsame.trans (hothers l hl))
      · exact .inr ⟨b, List.mem_cons_of_mem _ hb, hpath⟩
    · rw [writeAll_cons_of_error hresult]
      exact .inl (hgrown.file?_eq l)

/-- Files whose paths lead below the root as they stand are written where their paths lead. -/
theorem below_of_file?_ne {artifacts : List Artifact}
    (hpaths : ∀ a ∈ artifacts, Path.isAbsolute a.path = false ∧
      ∃ below, below ≠ [] ∧ Path.resolve? a.path = some below) {l : Location}
    (hl : (writeAll t root artifacts).tree.file? l ≠ t.file? l) :
    ∃ a ∈ artifacts, ∃ here below,
      (writeAll t root artifacts).tree.walk [] (Path.steps root) = .ok here ∧
      Path.resolve? a.path = some below ∧ l = below ++ here := by
  rcases file?_writeAll t root artifacts l with hsame | ⟨a, ha, hleads⟩
  · exact absurd hsame hl
  · obtain ⟨hrelative, below, hne, hbelow⟩ := hpaths a ha
    obtain ⟨here, hhere, hplace⟩ := hleads.below hrelative hbelow hne
    exact ⟨a, ha, here, below, hhere, hbelow, hplace⟩

end Artifact

end ClientStyle
