/-
Trees of files under the operations that change them.

Making directories never changes a file, whether it succeeds, fails or stops halfway: the tree only
grows by directories. Writing puts one file at the location that its path leads to, and the path
leads there before and after, since a path is followed through directories only and no directory is
ever replaced.
-/
import ClientStyle.Files.Tree
import ClientStyle.Proofs.Steps

set_option autoImplicit false

namespace ClientStyle

namespace FileTree

variable {t t' t'' : FileTree} {l l' : Location} {e : Entry} {path : String} {content : Content}

/-! ## Entries -/

/-- What was put at a location is found there. The root is left out, since it is a directory whatever
was put. -/
theorem find?_put_self (h : l ≠ []) : (t.put l e).find? l = some e := by
  rw [find?, if_neg h, put, List.lookup_cons_self]

/-- Putting something at one location is not seen at any other, which is all that keeps the rest of a
tree as it was. -/
theorem find?_put_of_ne (h : l' ≠ l) : (t.put l e).find? l' = t.find? l' := by
  have hkept : (t.entries.filter (·.1 != l)).lookup l' = t.entries.lookup l' := by
    induction t.entries with
    | nil => rfl
    | cons first rest ih =>
      obtain ⟨place, entry⟩ := first
      -- An entry that is replaced stood at `l`, so it was not the one that is looked for.
      by_cases hplace : place = l
      · have hother : (l' == place) = false := by simpa [hplace] using h
        rw [List.filter_cons_of_neg (by simp [hplace]), ih, List.lookup_cons, hother]
      · rw [List.filter_cons_of_pos (by simp [hplace]), List.lookup_cons, List.lookup_cons, ih]
  have hother : (l' == l) = false := by simpa using h
  simp only [find?, put, List.lookup_cons, hother, hkept]

/-- The content of the file at a location, if there is a file. -/
def file? (t : FileTree) (l : Location) : Option Content :=
  match t.find? l with
  | some (.file content) => some content
  | _ => none

/-- A file that was put somewhere is the file there. -/
theorem file?_put_self (h : l ≠ []) : (t.put l (.file content)).file? l = some content := by
  rw [file?, find?_put_self h]

theorem file?_put_of_ne (h : l' ≠ l) : (t.put l e).file? l' = t.file? l' := by
  rw [file?, find?_put_of_ne h, file?]

/-! ## Growth by directories -/

/-- The second tree is the first one, perhaps with more directories. -/
def Grown (t t' : FileTree) : Prop :=
  ∀ l, t'.find? l = t.find? l ∨ (t.find? l = none ∧ t'.find? l = some .directory)

/-- No directory has to be made. -/
theorem Grown.refl (t : FileTree) : t.Grown t := fun _ => .inl rfl

theorem Grown.trans (h : t.Grown t') (h' : t'.Grown t'') : t.Grown t'' := by
  intro l
  rcases h l with heq | ⟨hnone, hdirectory⟩
  · -- unchanged by the first growth: the second one decides
    rcases h' l with heq' | ⟨hnone', hdirectory'⟩
    · exact .inl (heq'.trans heq)
    · exact .inr ⟨heq ▸ hnone', hdirectory'⟩
  · -- a new directory, which is not free any more
    rcases h' l with heq' | ⟨hnone', -⟩
    · exact .inr ⟨hnone, heq'.trans hdirectory⟩
    · rw [hdirectory] at hnone'
      cases hnone'

/-- Growth by directories changes no file. -/
theorem Grown.file?_eq (h : t.Grown t') (l : Location) : t'.file? l = t.file? l := by
  unfold file?
  rcases h l with heq | ⟨hnone, hdirectory⟩
  · rw [heq]
  · rw [hnone, hdirectory]

/-- A directory at a free location is growth. -/
theorem grown_put (hl : l ≠ []) (h : t.find? l = none) : t.Grown (t.put l .directory) := by
  intro l'
  by_cases heq : l' = l
  · subst heq
    exact .inr ⟨h, find?_put_self hl⟩
  · exact .inl (find?_put_of_ne heq)

/-! ## Following paths -/

/-- A location that a path leads to is a name in the directory in front of it, and the name is not too
long for one. Making directories, reading and writing all begin with this step. -/
theorem walkTo_eq_ok {steps : List String} {name : String} (h : t.walkTo steps name = .ok l) :
    ∃ parent, t.walk [] steps = .ok parent ∧ ¬ maxNameSize < name.utf8ByteSize ∧
      l = name :: parent := by
  obtain ⟨parent, hparent, hname⟩ := exists_of_bind_eq_ok h
  split at hname
  · cases hname
  · next hsize =>
    cases hname
    exact ⟨parent, hparent, hsize, rfl⟩

/-- A walk goes the same way through a tree that has all the directories of the first one. -/
theorem walk_mono (hdirectories : ∀ l, t.find? l = some .directory → t'.find? l = some .directory)
    {steps : List String} {here : Location} (h : t.walk here steps = .ok l) :
    t'.walk here steps = .ok l := by
  induction steps generalizing here with
  | nil => exact h
  | cons step rest ih =>
    -- The same branch is taken in both trees: only the last one looks at the tree, and it goes on
    -- through directories alone.
    unfold walk at h ⊢
    split
    · next hdot => exact ih (by rwa [if_pos hdot] at h)
    · next hdot =>
      rw [if_neg hdot] at h
      split
      · next hup => exact ih (by rwa [if_pos hup] at h)
      · next hup =>
        rw [if_neg hup] at h
        split
        · next hsize => rw [if_pos hsize] at h; cases h
        · next hsize =>
          rw [if_neg hsize] at h
          cases hentry : t.find? (step :: here) with
          | none => rw [hentry] at h; cases h
          | some entry =>
            cases entry with
            | file content => rw [hentry] at h; cases h
            | directory =>
              rw [hentry] at h
              rw [hdirectories _ hentry]
              exact ih h

/-- A path leads to a location where a file may be. -/
def LeadsTo (t : FileTree) (path : String) (l : Location) : Prop :=
  passable path = .ok () ∧
    ∃ steps name, destination path = .child steps name false ∧ t.walkTo steps name = .ok l

/-- No file is at the root: a path that leads to a file ends with a name. -/
theorem LeadsTo.ne_nil (h : t.LeadsTo path l) : l ≠ [] := by
  obtain ⟨-, steps, name, -, hwalk⟩ := h
  obtain ⟨parent, -, -, rfl⟩ := walkTo_eq_ok hwalk
  exact List.cons_ne_nil _ _

/-- A path leads to the same location in a tree that has all the directories of the first one. -/
theorem LeadsTo.mono
    (hdirectories : ∀ l, t.find? l = some .directory → t'.find? l = some .directory)
    (h : t.LeadsTo path l) : t'.LeadsTo path l := by
  obtain ⟨hpassable, steps, name, hdestination, hwalk⟩ := h
  refine ⟨hpassable, steps, name, hdestination, ?_⟩
  obtain ⟨parent, hparent, hsize, rfl⟩ := walkTo_eq_ok hwalk
  simp only [walkTo, walk_mono hdirectories hparent, bind, Except.bind, if_neg hsize]

/-! ## Reading and writing -/

/-- The file that a path leads to is read. -/
theorem read_of_leadsTo (h : t.LeadsTo path l) (hfile : t.file? l = some content) :
    t.read path = .ok content := by
  obtain ⟨hpassable, steps, name, hdestination, hwalk⟩ := h
  -- A directory at the location would have been an error, but it has no content either.
  have hentry : t.find? l = some (.file content) := by
    unfold file? at hfile
    split at hfile
    · next heq => cases hfile; exact heq
    · cases hfile
  simp only [read, hpassable, hdestination, hwalk, hentry, bind, Except.bind]
  rfl

/-- A file is written at the location that its path leads to, where no directory is. -/
theorem write_eq_ok (h : t.write path content = .ok t') :
    ∃ l, t.LeadsTo path l ∧ t.find? l ≠ some .directory ∧ t' = t.put l (.file content) := by
  obtain ⟨⟨⟩, hpassable, hwrite⟩ := exists_of_bind_eq_ok h
  split at hwrite
  · obtain ⟨_, -, herror⟩ := exists_of_bind_eq_ok hwrite
    cases herror
  · next steps name slash hdestination =>
    split at hwrite
    · -- a slash at the end: never written
      obtain ⟨_, -, herror⟩ := exists_of_bind_eq_ok hwrite
      cases herror
    · next hslash =>
      rw [Bool.not_eq_true] at hslash
      subst hslash
      obtain ⟨l, hwalk, hput⟩ := exists_of_bind_eq_ok hwrite
      split at hput
      · cases hput
      · next hentry =>
        cases hput
        exact ⟨l, ⟨hpassable, steps, name, hdestination, hwalk⟩, hentry, rfl⟩

/-- A directory is where it was after a file was put at a place without one. -/
theorem directory_put (hl : t.find? l ≠ some .directory) (h : t.find? l' = some .directory) :
    (t.put l e).find? l' = some .directory := by
  -- The only place that changed had no directory.
  have hne : l' ≠ l := by
    rintro rfl
    exact hl h
  rw [find?_put_of_ne hne, h]

/-- The second tree has a file of this content where the path leads, and else the files of the first
one. -/
def Updated (t t' : FileTree) (path : String) (content : Content) : Prop :=
  ∃ l, t'.LeadsTo path l ∧ t'.file? l = some content ∧ ∀ l', l' ≠ l → t'.file? l' = t.file? l'

/-- **Writing puts one file where its path leads.** -/
theorem updated_of_write (h : t.write path content = .ok t') : t.Updated t' path content := by
  obtain ⟨l, hleads, hentry, rfl⟩ := write_eq_ok h
  exact ⟨l, hleads.mono fun _ => directory_put hentry, file?_put_self hleads.ne_nil,
    fun l' hne => file?_put_of_ne hne⟩

/-- Directories that were made first make no difference. -/
theorem Grown.updated (hgrown : t.Grown t') (h : t'.Updated t'' path content) :
    t.Updated t'' path content := by
  obtain ⟨l, hleads, hfile, hothers⟩ := h
  exact ⟨l, hleads, hfile, fun l' hne => (hothers l' hne).trans (hgrown.file?_eq l')⟩

/-- What was written is read. -/
theorem Updated.read_eq (h : t.Updated t' path content) : t'.read path = .ok content := by
  obtain ⟨l, hleads, hfile, -⟩ := h
  exact read_of_leadsTo hleads hfile

/-! ## Making directories -/

/-- A directory is made at a location where nothing was. -/
theorem grown_of_makeDirectory (h : t.makeDirectory path = .ok t') : t.Grown t' := by
  obtain ⟨⟨⟩, -, hmake⟩ := exists_of_bind_eq_ok h
  split at hmake
  · obtain ⟨_, -, herror⟩ := exists_of_bind_eq_ok hmake
    cases herror
  · obtain ⟨l, hwalk, hput⟩ := exists_of_bind_eq_ok hmake
    obtain ⟨parent, -, -, rfl⟩ := walkTo_eq_ok hwalk
    split at hput
    · cases hput
    · next hentry =>
      cases hput
      exact grown_put (List.cons_ne_nil _ _) hentry

/-- **Making directories changes no file**, however it ends. -/
theorem grown_makeDirectoriesWithin (bound : Nat) (t : FileTree) (path : String) :
    t.Grown (makeDirectoriesWithin bound t path).tree := by
  induction bound generalizing path with
  | zero => exact .refl t
  | succ bound ih =>
    unfold makeDirectoriesWithin
    split
    · exact .refl t
    · split
      · next made hmade => exact grown_of_makeDirectory hmade
      · split
        · exact .refl t
        · next parent hparent =>
          -- The directory above may be there afterwards even if the last step fails.
          have habove := ih parent
          dsimp only
          split
          · exact habove
          · split
            · next made hmade => exact habove.trans (grown_of_makeDirectory hmade)
            · split
              · exact habove
              · exact habove
      · split
        · exact .refl t
        · exact .refl t

/-- The bound of the steps does not matter for what is kept. -/
theorem grown_makeDirectories (t : FileTree) (path : String) :
    t.Grown (t.makeDirectories path).tree :=
  grown_makeDirectoriesWithin _ t path

end FileTree

end ClientStyle
