/-
Suppressed templates.

Suppression goes through the entries of a set one by one and leaves each of them where it is or takes
it away. Which of the two is decided by the stem of a path alone, so directories and extensions do not
matter, and no entry that was left is taken away by a second suppression.
-/
import ClientStyle.Proofs.SortedMaps
import ClientStyle.Proofs.Stems
import ClientStyle.Templates.Set

set_option autoImplicit false

namespace ClientStyle

/-! ## Lists that are taken apart -/

/-- A list is taken apart into the entries that are kept and those that are dropped, both in their
order: every entry goes to one of the two. -/
inductive Parted {α : Type} (drops : α → Prop) : List α → List α → List α → Prop
  | nil : Parted drops [] [] []
  | keep {a : α} {all kept dropped : List α} (h : ¬ drops a) (rest : Parted drops all kept dropped) :
      Parted drops (a :: all) (a :: kept) dropped
  | drop {a : α} {all kept dropped : List α} (h : drops a) (rest : Parted drops all kept dropped) :
      Parted drops (a :: all) kept (a :: dropped)

/-- Two filters that are opposite to each other take a list apart. -/
theorem parted_filter {α : Type} {drops : α → Prop} {p : α → Bool} (h : ∀ a, p a = true ↔ drops a)
    (all : List α) : Parted drops all (all.filter (!p ·)) (all.filter p) := by
  induction all with
  | nil => exact .nil
  | cons a all ih =>
    -- The first entry goes to one side, and both filters go on with the others.
    cases ha : p a with
    | true =>
      rw [List.filter_cons_of_neg (by simp [ha]), List.filter_cons_of_pos ha]
      exact .drop ((h a).1 ha) ih
    | false =>
      rw [List.filter_cons_of_pos (by simp [ha]), List.filter_cons_of_neg (by simp [ha])]
      exact .keep (fun hdrops => by simp [(h a).2 hdrops] at ha) ih

/-! ## Decisions -/

/-- The last step of a path is a name, and its stem is one of these. -/
def Path.StemAmong (stems : List String) (path : String) : Prop :=
  ∃ name, Path.EndsIn path name ∧ ∃ stem ∈ stems, Path.HasStem name stem.toList

/-- The program compares stems. Whether the path has a last name at all need not be asked, since none
of the stems here could be a path without one. -/
theorem Path.stemAmong_iff {stems : List String} (h : ∀ stem ∈ stems, IsOrdinary stem.toList)
    {path : String} : StemAmong stems path ↔ Path.stem path ∈ stems := by
  constructor
  · rintro ⟨name, hlast, stem, hmem, hstem⟩
    rw [(stem_eq_iff (h stem hmem)).2 ⟨name, hlast, hstem⟩]
    exact hmem
  · intro hmem
    obtain ⟨name, hlast, hstem⟩ := (stem_eq_iff (h _ hmem)).1 rfl
    exact ⟨name, hlast, _, hmem, hstem⟩

/-- A supporting file is suppressed for the stem of its template. -/
theorem SupportingFile.isSuppressed_iff (f : SupportingFile) :
    f.isSuppressed = true ↔ Path.StemAmong suppressedNames f.template := by
  rw [Path.stemAmong_iff (by decide), isSuppressed, List.contains_iff_mem]

namespace TemplateSet

/-- A test of models is suppressed for the stem of its template. -/
theorem isSuppressedModelTest_iff (template : String) :
    isSuppressedModelTest template = true ↔ Path.StemAmong [suppressedModelTest] template := by
  rw [Path.stemAmong_iff (by decide), isSuppressedModelTest, decide_eq_true_iff,
    List.mem_singleton]

/-- Suppression does not tell two paths apart, neither as templates of supporting files nor as
templates of tests of models. -/
structure DecidedAlike (path path' : String) : Prop where
  supportingFiles : ∀ folder destination,
    SupportingFile.isSuppressed ⟨path', folder, destination⟩
      = SupportingFile.isSuppressed ⟨path, folder, destination⟩
  modelTests : isSuppressedModelTest path' = isSuppressedModelTest path

/-- The stem is all that either of the two decisions reads of a path. -/
theorem decidedAlike_of_stem_eq {path path' : String} (h : Path.stem path' = Path.stem path) :
    DecidedAlike path path' where
  supportingFiles folder destination := by
    rw [SupportingFile.isSuppressed, SupportingFile.isSuppressed, h]
  modelTests := by rw [isSuppressedModelTest, isSuppressedModelTest, h]

/-! ## Sets -/

/-- What was suppressed once is suppressed. -/
theorem suppress_suppress (t : TemplateSet) : t.suppress.suppress = t.suppress := by
  simp only [suppress, List.filter_filter, Bool.and_self]

/-- After suppression nothing is left to suppress. -/
theorem suppressed_suppress (t : TemplateSet) : t.suppress.suppressed = [] := by
  have hopposite {α : Type} (p : α → Bool) (all : List α) : (all.filter (!p ·)).filter p = [] := by
    rw [List.filter_filter, List.filter_eq_nil_iff]
    exact fun a _ => by cases p a <;> decide
  rw [suppressed, suppress, hopposite, hopposite]
  rfl

/-- **Suppression takes a set of templates apart without loss.** The supporting files and the tests of
models that it keeps and drops are those of the set in their order, and dropped are those for whose
path the last step is a name with a suppressed stem. It returns the dropped ones, first the supporting
files and then the tests sorted by name. Nothing is left for a second suppression. What directory a
path is in does not matter, and neither does which extension its last name has. -/
theorem suppress_parted (t : TemplateSet) :
    (∃ files tests,
      Parted (fun f => Path.StemAmong SupportingFile.suppressedNames f.template)
        t.supportingFiles t.suppress.supportingFiles files ∧
      Parted (fun m => Path.StemAmong [suppressedModelTest] m.1)
        t.modelTests t.suppress.modelTests tests ∧
      (NameMap.Sorted t.modelTests → NameMap.Sorted tests) ∧
      t.suppressed = files.map (·.template) ++ tests.map (·.1)) ∧
    t.suppress.suppress = t.suppress ∧ t.suppress.suppressed = [] ∧
    (∀ path name, Path.EndsIn path name → ∀ dir, DecidedAlike path (dir ++ "/" ++ path)) ∧
    (∀ path path', Path.Exchanged path path' → DecidedAlike path path') := by
  have hfiles := parted_filter SupportingFile.isSuppressed_iff t.supportingFiles
  have htests := parted_filter (fun m : String × String => isSuppressedModelTest_iff m.1) t.modelTests
  refine ⟨⟨_, _, hfiles, htests, fun hsorted => List.Pairwise.filter _ hsorted, rfl⟩,
    t.suppress_suppress, t.suppressed_suppress, ?_, ?_⟩
  · -- A directory in front leaves the last name alone, and so the stem.
    intro path name hlast dir
    exact decidedAlike_of_stem_eq ((hlast.behind dir).stem_eq.trans hlast.stem_eq.symm)
  · intro path path' hexchanged
    exact decidedAlike_of_stem_eq hexchanged.stem_eq

/-- A set with templates of both kinds; the file that is hidden has no extension. -/
def mixedTemplates : TemplateSet where
  supportingFiles := [
    ⟨"csharp/Configuration.mustache", "src", "Configuration.cs"⟩,
    ⟨"README.mustache", "", "README.md"⟩,
    ⟨".Configuration", "", ".config"⟩]
  modelTests := [("model_doc_test.mustache", ".md"), ("model_test.mustache", ".cs")]

/-- The configuration in its directory is suppressed, as it would be without the directory or with
another extension. -/
theorem suppress_parted_mixedTemplates :
    NameMap.Sorted mixedTemplates.modelTests ∧
    mixedTemplates.suppressed = ["csharp/Configuration.mustache", "model_test.mustache"] ∧
    mixedTemplates.suppress.suppressed = [] ∧
    Path.EndsIn "Configuration.mustache" "Configuration.mustache".toList ∧
    DecidedAlike "Configuration.mustache" "csharp/Configuration.mustache" ∧
    Path.Exchanged "csharp/Configuration.mustache" "csharp/Configuration.tera" ∧
    DecidedAlike "csharp/Configuration.mustache" "csharp/Configuration.tera" := by
  obtain ⟨-, -, hnothing, hbehind, hexchanged⟩ := suppress_parted mixedTemplates
  have hlast : Path.EndsIn "Configuration.mustache" "Configuration.mustache".toList :=
    Path.IsOrdinary.endsIn (by decide)
  have hexchange : Path.Exchanged "csharp/Configuration.mustache" "csharp/Configuration.tera" :=
    @Path.Exchanged.intro "csharp/".toList "Configuration".toList "mustache".toList "tera".toList []
      ⟨by decide, .inr rfl, .nil⟩ (by decide) (by decide) (by decide) (by decide) (by decide)
  exact ⟨by decide, by decide +kernel, hnothing, hlast, hbehind _ _ hlast "csharp", hexchange,
    hexchanged _ _ hexchange⟩

end TemplateSet

end ClientStyle
