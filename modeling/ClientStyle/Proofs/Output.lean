/-
Writing the files of a run.

Files are written one after the other, each as a whole or not at all. If one cannot be written, the
files are those that the earlier ones left, since the attempt itself leaves directories at most.
-/
import ClientStyle.Output
import ClientStyle.Proofs.Files
import ClientStyle.Release.Changelog

set_option autoImplicit false

namespace ClientStyle

/-! ## One file -/

namespace FileTree

/-- Either a file is written after directories were made, or nothing is left but directories. -/
theorem writeBelow_cases (t : FileTree) (path : String) (content : Content) :
    ((t.writeBelow path content).result = .ok () ∧
      t.Updated (t.writeBelow path content).tree path content) ∨
    (∃ cause, (t.writeBelow path content).result = .error cause) ∧
      t.Grown (t.writeBelow path content).tree := by
  unfold writeBelow
  extract_lets prepared
  -- Whether or not there is a directory to make, what is done before writing is growth.
  have hprepared : t.Grown prepared.tree := by
    unfold prepared
    split
    · exact t.grown_makeDirectories _
    · exact .refl t
  split
  · next cause _ => exact .inr ⟨⟨cause, rfl⟩, hprepared⟩
  · split
    · next written hwrite => exact .inl ⟨rfl, hprepared.updated (updated_of_write hwrite)⟩
    · next cause _ => exact .inr ⟨⟨cause, rfl⟩, hprepared⟩

end FileTree

/-! ## Several files -/

namespace Artifact

/-- Where an artifact is written below a root. -/
def pathBelow (a : Artifact) (root : String) : String := Path.join root a.path

variable {t : FileTree} {root : String} {artifacts rest : List Artifact} {a : Artifact}
  {cause : FileError}

/-- The outcome of writing one artifact below a root. -/
abbrev writeOne (a : Artifact) (t : FileTree) (root : String) : FileTree.Outcome Unit :=
  t.writeBelow (a.pathBelow root) (.text a.content)

/-- Writing ends at a file that cannot be written, and leaves what the attempt left. -/
theorem writeAll_cons_of_error (h : (a.writeOne t root).result = .error cause) :
    writeAll t root (a :: rest) = ⟨(a.writeOne t root).tree, .error cause⟩ := by
  unfold writeOne pathBelow at h
  conv => lhs; unfold writeAll
  dsimp only
  rw [h]
  rfl

/-- A file that is written comes first in the result, and the others are written to the tree with
it. -/
theorem writeAll_cons_of_ok (h : (a.writeOne t root).result = .ok ()) :
    writeAll t root (a :: rest) = ⟨(writeAll (a.writeOne t root).tree root rest).tree,
      (writeAll (a.writeOne t root).tree root rest).result.map (a.pathBelow root :: ·)⟩ := by
  unfold writeOne pathBelow at h
  conv => lhs; unfold writeAll
  dsimp only
  rw [h]
  rfl

/-- The result of writing files is the list of their paths in order. -/
theorem writeAll_eq_ok {paths : List String} (h : (writeAll t root artifacts).result = .ok paths) :
    paths = artifacts.map (·.pathBelow root) := by
  induction artifacts generalizing t paths with
  | nil => cases h; rfl
  | cons a rest ih =>
    cases hfirst : (a.writeOne t root).result with
    | error cause =>
      rw [writeAll_cons_of_error hfirst] at h
      cases h
    | ok _ =>
      rw [writeAll_cons_of_ok hfirst] at h
      cases hrest : (writeAll (a.writeOne t root).tree root rest).result with
      | error cause => rw [hrest] at h; cases h
      | ok others =>
        rw [hrest] at h
        cases h
        rw [ih hrest]
        rfl

/-- **Writing stops at the first file that cannot be written.** All files before it are written, and
what the attempt leaves is what writing leaves. -/
theorem writeAll_eq_error (h : (writeAll t root artifacts).result = .error cause) :
    ∃ before a after, artifacts = before ++ a :: after ∧
      (writeAll t root before).result = .ok (before.map (·.pathBelow root)) ∧
      (a.writeOne (writeAll t root before).tree root).result = .error cause ∧
      (writeAll t root artifacts).tree = (a.writeOne (writeAll t root before).tree root).tree := by
  induction artifacts generalizing t with
  | nil => cases h
  | cons a rest ih =>
    cases hfirst : (a.writeOne t root).result with
    | error e =>
      -- nothing was written before
      rw [writeAll_cons_of_error hfirst] at h ⊢
      cases h
      exact ⟨[], a, rest, rfl, rfl, hfirst, rfl⟩
    | ok _ =>
      rw [writeAll_cons_of_ok hfirst] at h ⊢
      cases hrest : (writeAll (a.writeOne t root).tree root rest).result with
      | ok others => rw [hrest] at h; cases h
      | error e =>
        rw [hrest] at h
        cases h
        -- The first file is written, so it belongs in front of the one that is not.
        obtain ⟨before, b, after, hsplit, hbefore, hb, htree⟩ := ih hrest
        refine ⟨a :: before, b, after, by rw [hsplit]; rfl, ?_⟩
        rw [writeAll_cons_of_ok hfirst, hbefore]
        exact ⟨rfl, hb, htree⟩

end Artifact

/-! ## The changelog -/

namespace Changelog

/-- Either the changelog is written into its directory, or nothing is left but directories. -/
theorem write_cases (c : Changelog) (t : FileTree) (directory : String) :
    ((c.write t directory).result = .ok (Path.join directory fileName) ∧
      t.Updated (c.write t directory).tree (Path.join directory fileName) (.text c.markdown)) ∨
    (∃ cause, (c.write t directory).result = .error cause) ∧
      t.Grown (c.write t directory).tree := by
  have hmade := t.grown_makeDirectories directory
  unfold write
  dsimp only
  split
  · next cause _ => exact .inr ⟨⟨cause, rfl⟩, hmade⟩
  · split
    · next written hwrite => exact .inl ⟨rfl, hmade.updated (FileTree.updated_of_write hwrite)⟩
    · next cause _ => exact .inr ⟨⟨cause, rfl⟩, hmade⟩

end Changelog

end ClientStyle
