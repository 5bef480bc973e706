/-
What batches of files leave when they are written one after the other.

Each file that is written replaces what was at one location and changes nothing else, and every path
that was written leads to its location for good. So a tree after writing is the tree before it,
overlaid by the files in the order in which they were written, where the last one at a location
counts. Overlays are put together: first of files to batches, which may stop early, and then of
batches to sequences of batches.
-/
import ClientStyle.Proofs.WrittenFiles

set_option autoImplicit false

namespace ClientStyle

/-! ## Locations of paths -/

namespace FileTree

variable {t t' : FileTree} {l l' : Location} {path : String}

/-- The location that a path leads to, if a file may be there. -/
def location? (t : FileTree) (path : String) : Option Location :=
  match passable path, destination path with
  | .ok _, .child steps name false => (t.walkTo steps name).toOption
  | _, _ => none

/-- The computed location is the one that the path leads to in the sense of `LeadsTo`. -/
theorem location?_eq_some_iff : t.location? path = some l ↔ t.LeadsTo path l := by
  constructor
  · intro h
    unfold location? at h
    split at h
    · next steps name hpassable hdestination =>
      refine ⟨hpassable, steps, name, hdestination, ?_⟩
      cases hwalk : t.walkTo steps name with
      | error e =>
        rw [hwalk] at h
        cases h
      | ok place =>
        rw [hwalk] at h
        cases h
        rfl
    · cases h
  · rintro ⟨hpassable, steps, name, hdestination, hwalk⟩
    simp only [location?, hpassable, hdestination, hwalk]
    rfl

/-- A path that leads somewhere leads there as long as no directory is removed. -/
theorem location?_eq_some_of_keepsDirectories (h : t.location? path = some l)
    (hkeeps : t.KeepsDirectories t') : t'.location? path = some l :=
  location?_eq_some_iff.2 ((location?_eq_some_iff.1 h).mono hkeeps)

end FileTree

/-! ## Overlays -/

namespace Artifact

variable {t t' t'' : FileTree} {root : String} {written others : List Artifact} {a : Artifact}
  {l : Location}

/-- The last file of a list whose path leads to a location. -/
def lastAt? (t : FileTree) (root : String) (l : Location) (written : List Artifact) :
    Option Artifact :=
  (written.filter fun a => t.location? (a.pathBelow root) = some l).getLast?

/-- The files that are listed later count first. -/
theorem lastAt?_append (t : FileTree) (root : String) (l : Location) (written others : List Artifact) :
    lastAt? t root l (written ++ others)
      = (lastAt? t root l others).or (lastAt? t root l written) := by
  rw [lastAt?, List.filter_append, List.getLast?_append]
  rfl

/-- The second tree is the first one, perhaps with more directories, after files were written below a
root in order. -/
structure Overlaid (root : String) (written : List Artifact) (t t' : FileTree) : Prop where
  /-- Every file was written somewhere. -/
  located : ∀ a ∈ written, ∃ l, t'.location? (a.pathBelow root) = some l
  /-- Each location has the last file that was written there, or what it had before. -/
  contents : ∀ l, t'.file? l =
    match lastAt? t' root l written with
    | some a => some (.text a.content)
    | none => t.file? l
  keepsDirectories : t.KeepsDirectories t'

theorem overlaid_of_grown (h : t.Grown t') : Overlaid root [] t t' where
  located := nofun
  contents l := h.file?_eq l
  keepsDirectories := h.keepsDirectories

/-- A file that is written is an overlay of one file. -/
theorem overlaid_of_updated (h : t.Updated t' (a.pathBelow root) (.text a.content))
    (hkeeps : t.KeepsDirectories t') : Overlaid root [a] t t' := by
  obtain ⟨place, hleads, hfile, hothers⟩ := h
  have hlocation := FileTree.location?_eq_some_iff.2 hleads
  refine ⟨List.forall_mem_singleton.2 ⟨place, hlocation⟩, fun l => ?_, hkeeps⟩
  rw [lastAt?, List.filter_singleton, hlocation]
  by_cases hl : l = place
  · subst hl
    simpa using hfile
  · have hne : ¬ place = l := fun heq => hl heq.symm
    simpa [hne] using hothers l hl

/-- Locations are the same when more files are written. -/
theorem lastAt?_of_keepsDirectories
    (hlocated : ∀ a ∈ written, ∃ l, t.location? (a.pathBelow root) = some l)
    (hkeeps : t.KeepsDirectories t') (l : Location) :
    lastAt? t' root l written = lastAt? t root l written := by
  have hsame : ∀ a ∈ written, t'.location? (a.pathBelow root) = t.location? (a.pathBelow root) := by
    intro a ha
    obtain ⟨place, hplace⟩ := hlocated a ha
    rw [hplace, FileTree.location?_eq_some_of_keepsDirectories hplace hkeeps]
  rw [lastAt?, lastAt?]
  refine congrArg List.getLast? (List.filter_congr fun a ha => ?_)
  rw [hsame a ha]

/-- **Overlays are put together by listing what was written.** -/
theorem Overlaid.append (h : Overlaid root written t t') (h' : Overlaid root others t' t'') :
    Overlaid root (written ++ others) t t'' where
  located := by
    intro a ha
    rcases List.mem_append.1 ha with ha | ha
    · obtain ⟨l, hl⟩ := h.located a ha
      exact ⟨l, FileTree.location?_eq_some_of_keepsDirectories hl h'.keepsDirectories⟩
    · exact h'.located a ha
  contents := by
    intro l
    rw [h'.contents l, h.contents l, lastAt?_append,
      lastAt?_of_keepsDirectories h.located h'.keepsDirectories]
    cases lastAt? t'' root l others with
    | some a => rfl
    | none => rfl
  keepsDirectories := h.keepsDirectories.trans h'.keepsDirectories

/-! ## One batch -/

/-- The files that are treated before the first one that fails, when each is treated in the tree that
the one before it left. -/
def upToFailure (treat : Artifact → FileTree → FileTree.Outcome Unit) (t : FileTree) :
    List Artifact → List Artifact
  | [] => []
  | a :: rest =>
    match (treat a t).result with
    | .ok _ => a :: upToFailure treat (treat a t).tree rest
    | .error _ => []

/-- The files of a batch that are written. -/
def landed (t : FileTree) (root : String) (batch : List Artifact) : List Artifact :=
  upToFailure (·.writeOne · root) t batch

theorem landed_cons_of_ok {rest : List Artifact} (h : (a.writeOne t root).result = .ok ()) :
    landed t root (a :: rest) = a :: landed (a.writeOne t root).tree root rest := by
  rw [landed, upToFailure, h, landed]

theorem landed_cons_of_error {rest : List Artifact} {cause : FileError}
    (h : (a.writeOne t root).result = .error cause) : landed t root (a :: rest) = [] := by
  rw [landed, upToFailure, h]

/-- Writing a batch is an overlay, however it ends. -/
theorem overlaid_writeAll (t : FileTree) (root : String) (batch : List Artifact) :
    Overlaid root (landed t root batch) t (writeAll t root batch).tree := by
  induction batch generalizing t with
  | nil => exact overlaid_of_grown (.refl t)
  | cons a rest ih =>
    rcases t.writeBelow_cases (a.pathBelow root) (.text a.content) with
      ⟨hresult, hupdated⟩ | ⟨⟨cause, hresult⟩, hgrown⟩
    · rw [writeAll_cons_of_ok hresult, landed_cons_of_ok hresult]
      exact (overlaid_of_updated hupdated (t.keepsDirectories_writeBelow _ _)).append (ih _)
    · rw [writeAll_cons_of_error hresult, landed_cons_of_error hresult]
      exact overlaid_of_grown hgrown

/-- All files of a batch that succeeds are written. -/
theorem landed_of_ok {batch : List Artifact} {paths : List String}
    (h : (writeAll t root batch).result = .ok paths) : landed t root batch = batch := by
  induction batch generalizing t paths with
  | nil => rfl
  | cons a rest ih =>
    cases hfirst : (a.writeOne t root).result with
    | error cause =>
      rw [writeAll_cons_of_error hfirst] at h
      cases h
    | ok _ =>
      rw [writeAll_cons_of_ok hfirst] at h
      obtain ⟨paths', hrest, -⟩ := exists_of_map_eq_ok h
      rw [landed_cons_of_ok hfirst, ih hrest]

/-- Of a batch that stops at a file, those before it are written. -/
theorem landed_append_cons {before after : List Artifact} {paths : List String} {cause : FileError}
    (hbefore : (writeAll t root before).result = .ok paths)
    (ha : (a.writeOne (writeAll t root before).tree root).result = .error cause) :
    landed t root (before ++ a :: after) = before := by
  induction before generalizing t paths with
  -- The first file cannot be written, so nothing is.
  | nil => exact landed_cons_of_error ha
  | cons b before ih =>
    cases hfirst : (b.writeOne t root).result with
    | error e =>
      rw [writeAll_cons_of_error hfirst] at hbefore
      cases hbefore
    | ok _ =>
      rw [writeAll_cons_of_ok hfirst] at hbefore ha
      obtain ⟨paths', hrest, -⟩ := exists_of_map_eq_ok hbefore
      rw [List.cons_append, landed_cons_of_ok hfirst, ih hrest ha]

/-- What becomes of a batch: either all of its files are written, or there is a first one that cannot
be, and the files are as if there had been only those before it. -/
structure Settles (root : String) (batch : List Artifact) (t : FileTree) : Prop where
  ok : ∀ paths, (writeAll t root batch).result = .ok paths →
    paths = batch.map (·.pathBelow root) ∧ landed t root batch = batch ∧
      Overlaid root batch t (writeAll t root batch).tree
  error : ∀ cause, (writeAll t root batch).result = .error cause →
    ∃ before a after, batch = before ++ a :: after ∧ landed t root batch = before ∧
      (writeAll t root before).result = .ok (before.map (·.pathBelow root)) ∧
      (a.writeOne (writeAll t root before).tree root).result = .error cause ∧
      (writeAll t root before).tree.Grown (writeAll t root batch).tree

theorem settles (root : String) (batch : List Artifact) (t : FileTree) : Settles root batch t where
  ok := by
    intro paths h
    have hlanded := landed_of_ok h
    have hoverlaid := overlaid_writeAll t root batch
    rw [hlanded] at hoverlaid
    exact ⟨writeAll_eq_ok h, hlanded, hoverlaid⟩
  error := by
    intro cause h
    obtain ⟨before, a, after, hsplit, hbefore, ha, htree⟩ := writeAll_eq_error h
    refine ⟨before, a, after, hsplit, ?_, hbefore, ha, ?_⟩
    · rw [hsplit]
      exact landed_append_cons hbefore ha
    · rw [htree]
      rcases FileTree.writeBelow_cases (writeAll t root before).tree (a.pathBelow root)
        (.text a.content) with ⟨hok, -⟩ | ⟨-, hgrown⟩
      · rw [hok] at ha
        cases ha
      · exact hgrown

/-! ## Sequences of batches -/

/-- The tree that batches leave, whether or not they succeed. -/
def leftBy (t : FileTree) (root : String) (batches : List (List Artifact)) : FileTree :=
  batches.foldl (fun t batch => (writeAll t root batch).tree) t

/-- The files of batches that are written. -/
def landedAll (t : FileTree) (root : String) : List (List Artifact) → List Artifact
  | [] => []
  | batch :: rest => landed t root batch ++ landedAll (writeAll t root batch).tree root rest

/-- Over a sequence of batches the overlays add up, by induction along the sequence. -/
theorem overlaid_leftBy (t : FileTree) (root : String) (batches : List (List Artifact)) :
    Overlaid root (landedAll t root batches) t (leftBy t root batches) := by
  induction batches generalizing t with
  | nil => exact overlaid_of_grown (.refl t)
  | cons batch rest ih => exact (overlaid_writeAll t root batch).append (ih _)

/-- **What batches of files leave.** Each batch of a sequence starts from the tree that the earlier ones
left. If it succeeds, it returns the paths of its files in order, each location has the last file of
the batch that was written there, and no other file is different. If it fails, the files are those that
the batch would have left without the file that cannot be written and those behind it; directories may
be there besides. After all batches, the files that were written count in order, over the first tree.
An empty batch leaves the tree as it is. -/
theorem writeAll_batches (t : FileTree) (root : String) (batches : List (List Artifact)) :
    (∀ earlier batch later, batches = earlier ++ batch :: later →
      Settles root batch (leftBy t root earlier)) ∧
    Overlaid root (landedAll t root batches) t (leftBy t root batches) ∧
    writeAll (leftBy t root batches) root [] = ⟨leftBy t root batches, .ok []⟩ :=
  ⟨fun _ batch _ _ => settles root batch _, overlaid_leftBy t root batches, rfl⟩

/-- A batch with two paths to one file, since a path may be spelled in another way. -/
def noteBatch : List Artifact := [⟨"notes", "1"⟩, ⟨"./notes", "2"⟩]

/-- A batch whose second file is to be below a file of `noteBatch`, which cannot be. -/
def logBatch : List Artifact := [⟨"log", "3"⟩, ⟨"notes/today", "4"⟩, ⟨"log", "5"⟩]

/-- The batch of notes succeeds and leaves its second file. The batch of logs, which comes next, stops
behind its first file and leaves that one. -/
theorem writeAll_batches_notes :
    (writeAll .empty "/out" noteBatch).result = .ok ["/out/notes", "/out/./notes"] ∧
    landed .empty "/out" noteBatch = noteBatch ∧
    Overlaid "/out" noteBatch .empty (leftBy .empty "/out" [noteBatch]) ∧
    (leftBy .empty "/out" [noteBatch]).file? ["notes", "out"] = some (.text "2") ∧
    (writeAll (leftBy .empty "/out" [noteBatch]) "/out" logBatch).result = .error .fileExists ∧
    Overlaid "/out" (noteBatch ++ [⟨"log", "3"⟩]) .empty
      (leftBy .empty "/out" [noteBatch, logBatch]) ∧
    (leftBy .empty "/out" [noteBatch, logBatch]).file? ["log", "out"] = some (.text "3") := by
  obtain ⟨hsettles, hoverlaid, -⟩ := writeAll_batches .empty "/out" [noteBatch, logBatch]
  have hok : (writeAll .empty "/out" noteBatch).result = .ok ["/out/notes", "/out/./notes"] := by
    decide +kernel
  have hsettled := (hsettles [] noteBatch [logBatch] rfl).ok _ hok
  have hlanded : landed .empty "/out" noteBatch = noteBatch := hsettled.2.1
  have hnotes : Overlaid "/out" noteBatch .empty (leftBy .empty "/out" [noteBatch]) := hsettled.2.2
  have hlandedAll : landedAll .empty "/out" [noteBatch, logBatch] = noteBatch ++ [⟨"log", "3"⟩] := by
    decide +kernel
  rw [hlandedAll] at hoverlaid
  refine ⟨hok, hlanded, hnotes, ?_, by decide +kernel, hoverlaid, ?_⟩
  · rw [hnotes.contents]
    decide +kernel
  · rw [hoverlaid.contents]
    decide +kernel

end Artifact

end ClientStyle
