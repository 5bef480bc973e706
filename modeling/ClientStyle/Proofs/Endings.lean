/-
How a run ends.

A run has five steps that can fail: reading the version, preparing the API with all fixtures, writing
the fixtures, and reading and writing the changelog. Each ending says which step failed, with which
report, and what the templates and the files are by then; the last one says that none failed. Every
run has exactly one ending, since a run that ends at a step got past all steps before it.
-/
import ClientStyle.Proofs.Groups
import Mathlib.Logic.ExistsUnique

set_option autoImplicit false

namespace ClientStyle

/-! ## Writing and keeping the changelog -/

namespace Run

variable {config : Config} {t : FileTree} {artifacts : List Artifact} {paths : List String}

/-- Writing stops at a fixture, and the changelog is not looked at again. -/
theorem write_of_stopped {cause : FileError}
    (h : (Artifact.writeAll t config.outputDir artifacts).result = .error cause) :
    write config true t artifacts
      = ((Artifact.writeAll t config.outputDir artifacts).tree, .error (.files cause)) := by
  simp only [write, h]

/-- All fixtures are written, and then the changelog cannot be read. -/
theorem write_of_unreadable {cause : Changelog.Error}
    (h : (Artifact.writeAll t config.outputDir artifacts).result = .ok paths)
    (hload : Changelog.load (Artifact.writeAll t config.outputDir artifacts).tree config.changelog
      = .error cause) :
    write config true t artifacts
      = ((Artifact.writeAll t config.outputDir artifacts).tree, .error (.changelog cause)) := by
  simp only [write, Changelog.persist, h, hload, if_true, Except.map]

/-- The changelog is read, and then cannot be written. -/
theorem write_of_unwritable {kept : Changelog} {cause : FileError}
    (h : (Artifact.writeAll t config.outputDir artifacts).result = .ok paths)
    (hload : Changelog.load (Artifact.writeAll t config.outputDir artifacts).tree config.changelog
      = .ok kept)
    (hkept : (kept.write (Artifact.writeAll t config.outputDir artifacts).tree
      config.outputDir).result = .error cause) :
    write config true t artifacts
      = ((kept.write (Artifact.writeAll t config.outputDir artifacts).tree config.outputDir).tree,
        .error (.files cause)) := by
  simp only [write, Changelog.persist, h, hload, hkept, if_true, Except.map, Except.mapError]

/-- Everything is written, and the path of the changelog comes last. These four are all that becomes
of writing; each is stated by what was found out on the way. -/
theorem write_of_kept {kept : Changelog} {path : String}
    (h : (Artifact.writeAll t config.outputDir artifacts).result = .ok paths)
    (hload : Changelog.load (Artifact.writeAll t config.outputDir artifacts).tree config.changelog
      = .ok kept)
    (hkept : (kept.write (Artifact.writeAll t config.outputDir artifacts).tree
      config.outputDir).result = .ok path) :
    write config true t artifacts
      = ((kept.write (Artifact.writeAll t config.outputDir artifacts).tree config.outputDir).tree,
        .ok (paths ++ [path])) := by
  simp only [write, Changelog.persist, h, hload, hkept, if_true, Except.map, Except.mapError]

end Run

/-! ## Jobs -/

/-- Everything that a run which keeps its changelog depends on. -/
structure Job where
  setup : Setup
  /-- What a framework makes of a description. -/
  extract : Document → Except Error Api
  document : Document
  templates : TemplateSet
  tree : FileTree

namespace Job

/-- The run of a job. -/
def run (j : Job) : Run := Run.generate j.setup j.extract true j.document j.templates j.tree

/-- The description that a framework is given. -/
def normal (j : Job) : Document := (Normal.normalize j.document).value

/-- The directory that is written to. -/
def root (j : Job) : String := j.setup.config.outputDir

/-- The changelog as it is read from some files. -/
def changelog (j : Job) (t : FileTree) : Except Changelog.Error Changelog :=
  Changelog.load t j.setup.config.changelog

/-- The outcome of writing fixtures for a job. -/
def written (j : Job) (fixtures : List Artifact) : FileTree.Outcome (List String) :=
  Artifact.writeAll j.tree j.root fixtures

/-! ## Preparation and persistence -/

/-- A framework extracts an API, and all its groups are reshaped, with these fixtures. -/
def Prepared (j : Job) (api : Api) (fixtures : List Artifact) : Prop :=
  j.extract j.normal = .ok api ∧
    Api.Fixtures j.setup.style api.models j.normal api.groups fixtures

/-- A framework fails, or the first group that is refused comes after any number of others. -/
inductive Unprepared (j : Job) : Error → Prop where
  | extraction {cause : Error} (failed : j.extract j.normal = .error cause) : Unprepared j cause
  | refusal {api : Api} {cause : MissingAction} (extracted : j.extract j.normal = .ok api)
      (refused : Api.Refused j.setup.style api.models j.normal api.groups cause) :
      Unprepared j (.missingAction cause)

/-- The changelog cannot be read again, or cannot be written. -/
inductive Unkept (j : Job) (t : FileTree) : Error → Prop where
  | unreadable {cause : Changelog.Error} (failed : j.changelog t = .error cause) :
      Unkept j t (.changelog cause)
  | unwritable {kept : Changelog} {cause : FileError} (read : j.changelog t = .ok kept)
      (failed : (kept.write t j.root).result = .error cause) : Unkept j t (.files cause)

/-- A job is either prepared or not. -/
theorem Prepared.not_unprepared {j : Job} {api : Api} {fixtures : List Artifact} {cause : Error}
    (h : j.Prepared api fixtures) : ¬ j.Unprepared cause := by
  obtain ⟨hextract, hfixtures⟩ := h
  rintro (hfailed | ⟨hextract', hrefused⟩)
  · rw [hextract] at hfailed
    cases hfailed
  · rw [hextract] at hextract'
    cases hextract'
    exact hfixtures.not_refused hrefused

/-- A job is prepared in one way. -/
theorem Prepared.unique {j : Job} {api api' : Api} {fixtures fixtures' : List Artifact}
    (h : j.Prepared api fixtures) (h' : j.Prepared api' fixtures') : fixtures = fixtures' := by
  obtain ⟨hextract, hfixtures⟩ := h
  obtain ⟨hextract', hfixtures'⟩ := h'
  rw [hextract] at hextract'
  cases hextract'
  exact hfixtures.unique hfixtures'

/-! ## Endings -/

/-- The places where a run can end. -/
inductive Ending where
  /-- There is no version. -/
  | noVersion
  /-- There is no API to write files for. -/
  | noApi
  /-- A fixture cannot be written. -/
  | stopped
  /-- The changelog cannot be kept with the fixtures. -/
  | unkept
  /-- Everything is written. -/
  | complete

/-- The number of an ending in the order of the steps. -/
def Ending.stage : Ending → Nat
  | .noVersion => 0
  | .noApi => 1
  | .stopped => 2
  | .unkept => 3
  | .complete => 4

/-- What an ending says about a run: why it ends there, what it reports, and what it leaves behind. -/
def EndsIn (j : Job) : Ending → Prop
  | .noVersion => ∃ cause, j.changelog j.tree = .error cause ∧
      j.run.result = .error (.changelog cause) ∧ j.run.templates = j.templates ∧
      j.run.tree = j.tree
  | .noApi => ∃ changelog cause, j.changelog j.tree = .ok changelog ∧ j.Unprepared cause ∧
      j.run.result = .error cause ∧ j.run.templates = j.templates.suppress ∧ j.run.tree = j.tree
  | .stopped => ∃ changelog api before a after paths cause, j.changelog j.tree = .ok changelog ∧
      j.Prepared api (before ++ a :: after) ∧ (j.written before).result = .ok paths ∧
      (a.writeOne (j.written before).tree j.root).result = .error cause ∧
      (j.written (before ++ a :: after)).result = .error cause ∧
      j.run.result = .error (.files cause) ∧ j.run.templates = j.templates.suppress ∧
      (j.written before).tree.Grown j.run.tree
  | .unkept => ∃ changelog api fixtures paths cause, j.changelog j.tree = .ok changelog ∧
      j.Prepared api fixtures ∧ (j.written fixtures).result = .ok paths ∧
      j.Unkept (j.written fixtures).tree cause ∧ j.run.result = .error cause ∧
      j.run.templates = j.templates.suppress ∧ (j.written fixtures).tree.Grown j.run.tree
  | .complete => ∃ changelog api fixtures paths kept generated,
      j.changelog j.tree = .ok changelog ∧ j.Prepared api fixtures ∧
      (j.written fixtures).result = .ok paths ∧ j.changelog (j.written fixtures).tree = .ok kept ∧
      j.run.result = .ok generated ∧ j.run.templates = j.templates.suppress ∧
      generated.artifacts = fixtures ∧
      generated.written = Api.fixturePaths j.root api.groups ++
        [Path.join j.root Changelog.fileName] ∧
      (j.written fixtures).tree.Updated j.run.tree (Path.join j.root Changelog.fileName)
        (.text kept.markdown) ∧
      j.run.tree.read (Path.join j.root Changelog.fileName) = .ok (.text kept.markdown)

/-! ## Every run ends -/

/-- Without a version nothing happens. -/
theorem run_of_no_version {j : Job} {cause : Changelog.Error}
    (h : j.changelog j.tree = .error cause) :
    j.run = ⟨.error (.changelog cause), j.templates, j.tree, []⟩ := by
  have hresolved : Changelog.resolve j.tree j.setup.config.changelog = .error cause :=
    Changelog.resolve_of_load_error h
  simp only [run, Run.generate, hresolved]

/-- What a run with a version does depends on the preparation: without it the run stops before any
file is touched, and with it the rest is writing. -/
theorem run_cases {j : Job} {changelog : Changelog} (h : j.changelog j.tree = .ok changelog) :
    (∃ cause, j.Unprepared cause ∧ j.run.result = .error cause ∧
      j.run.templates = j.templates.suppress ∧ j.run.tree = j.tree) ∨
    (∃ api fixtures context shaped, j.Prepared api fixtures ∧
      j.run.result = (Run.write j.setup.config true j.tree fixtures).2.map
        (fun written => ⟨context, shaped, fixtures, written⟩) ∧
      j.run.templates = j.templates.suppress ∧
      j.run.tree = (Run.write j.setup.config true j.tree fixtures).1) := by
  have hresolved : Changelog.resolve j.tree j.setup.config.changelog = .ok changelog.version :=
    Changelog.resolve_of_load h
  cases hextract : j.extract j.normal with
  | error cause =>
    -- The suppressed templates are changed in place before the framework is asked, so they stay.
    have hrun : j.run = ⟨.error cause, j.templates.suppress, j.tree, []⟩ := by
      unfold normal at hextract
      simp only [run, Run.generate, hresolved, hextract]
    rw [hrun]
    exact .inl ⟨cause, .extraction hextract, rfl, rfl, rfl⟩
  | ok api =>
    -- The groups are reshaped one after the other, up to the first that is refused.
    rcases Api.transformGroups_cases api.groups with
      ⟨shaped, fixtures, hfixtures, hvalue⟩ | ⟨cause, hrefused, hvalue⟩
    · refine .inr ⟨api, fixtures, j.setup.context.withVersion changelog.version,
        ⟨shaped, api.models.map Model.publish⟩, ⟨hextract, hfixtures⟩, ?_⟩
      unfold normal at hextract hvalue
      simp only [run, Run.generate, hresolved, hextract, Api.transform, Warned.map, hvalue]
      exact ⟨rfl, rfl, rfl⟩
    · refine .inl ⟨.missingAction cause, .refusal hextract hrefused, ?_⟩
      unfold normal at hextract hvalue
      simp only [run, Run.generate, hresolved, hextract, Api.transform, Warned.map, hvalue]
      exact ⟨rfl, rfl, rfl⟩

/-- **Every run has an ending.** -/
theorem exists_endsIn (j : Job) : ∃ ending, j.EndsIn ending := by
  cases hversion : j.changelog j.tree with
  | error cause =>
    refine ⟨.noVersion, cause, hversion, ?_⟩
    rw [run_of_no_version hversion]
    exact ⟨rfl, rfl, rfl⟩
  | ok changelog =>
    rcases run_cases hversion with ⟨cause, hunprepared, hresult, htemplates, htree⟩ |
      ⟨api, fixtures, context, shaped, hprepared, hresult, htemplates, htree⟩
    · exact ⟨.noApi, changelog, cause, hversion, hunprepared, hresult, htemplates, htree⟩
    · cases hwritten : (j.written fixtures).result with
      | error cause =>
        obtain ⟨before, a, after, rfl, hbefore, ha, hleft⟩ := Artifact.writeAll_eq_error hwritten
        rw [Run.write_of_stopped hwritten] at hresult htree
        -- The attempt at `a` is the last thing that happens to the files.
        have hgrown : (j.written before).tree.Grown j.run.tree := by
          rcases FileTree.writeBelow_cases (j.written before).tree (a.pathBelow j.root)
            (.text a.content) with ⟨hok, -⟩ | ⟨-, hgrown⟩
          · exact absurd (hok.symm.trans ha) (by simp)
          · rw [htree.trans hleft]
            exact hgrown
        exact ⟨.stopped, changelog, api, before, a, after, _, cause, hversion, hprepared, hbefore,
          ha, hwritten, hresult, htemplates, hgrown⟩
      | ok paths =>
        cases hkept : j.changelog (j.written fixtures).tree with
        | error cause =>
          rw [Run.write_of_unreadable hwritten hkept] at hresult htree
          exact ⟨.unkept, changelog, api, fixtures, paths, .changelog cause, hversion, hprepared,
            hwritten, .unreadable hkept, hresult, htemplates, htree ▸ .refl _⟩
        | ok kept =>
          rcases kept.write_cases (j.written fixtures).tree j.root with
            ⟨hwrite, hupdated⟩ | ⟨⟨cause, hwrite⟩, hgrown⟩
          · rw [Run.write_of_kept hwritten hkept hwrite] at hresult htree
            have hchangelog : (j.written fixtures).tree.Updated j.run.tree
                (Path.join j.root Changelog.fileName) (.text kept.markdown) := htree ▸ hupdated
            refine ⟨.complete, changelog, api, fixtures, paths, kept, _, hversion, hprepared,
              hwritten, hkept, hresult, htemplates, rfl, ?_, hchangelog, hchangelog.read_eq⟩
            rw [Artifact.writeAll_eq_ok hwritten, hprepared.2.paths]
          · rw [Run.write_of_unwritable hwritten hkept hwrite] at hresult htree
            exact ⟨.unkept, changelog, api, fixtures, paths, .files cause, hversion, hprepared,
              hwritten, .unwritable hkept hwrite, hresult, htemplates, htree ▸ hgrown⟩

/-! ## No run ends twice -/

/-- A run gets past the place of an ending. -/
def GetsPast (j : Job) : Ending → Prop
  | .noVersion => ∃ changelog, j.changelog j.tree = .ok changelog
  | .noApi => ∃ api fixtures, j.Prepared api fixtures
  | .stopped => ∃ api fixtures paths, j.Prepared api fixtures ∧
      (j.written fixtures).result = .ok paths
  | .unkept => ∃ generated, j.run.result = .ok generated
  | .complete => False

/-- A run that ends somewhere does not get past this place. -/
theorem EndsIn.not_getsPast {j : Job} {ending : Ending} (h : j.EndsIn ending) :
    ¬ j.GetsPast ending := by
  cases ending with
  | noVersion =>
    obtain ⟨cause, hversion, -⟩ := h
    rintro ⟨changelog, hchangelog⟩
    rw [hversion] at hchangelog
    cases hchangelog
  | noApi =>
    obtain ⟨-, cause, -, hunprepared, -⟩ := h
    rintro ⟨api, fixtures, hprepared⟩
    exact hprepared.not_unprepared hunprepared
  | stopped =>
    -- The job is prepared in one way, so it is the same fixtures that were all written and were not.
    obtain ⟨-, api, before, a, after, -, cause, -, hprepared, -, -, hwritten, -⟩ := h
    rintro ⟨api', fixtures, paths, hprepared', hpaths⟩
    rw [hprepared.unique hprepared', hpaths] at hwritten
    cases hwritten
  | unkept =>
    obtain ⟨-, -, -, -, cause, -, -, -, -, hresult, -⟩ := h
    rintro ⟨generated, hgenerated⟩
    rw [hresult] at hgenerated
    cases hgenerated
  | complete => exact id

/-- A run that ends somewhere got past all places before. -/
theorem EndsIn.getsPast {j : Job} {ending earlier : Ending} (h : j.EndsIn ending)
    (hlt : earlier.stage < ending.stage) : j.GetsPast earlier := by
  cases ending with
  | noVersion => exact absurd hlt (Nat.not_lt_zero _)
  | noApi =>
    obtain ⟨changelog, -, hversion, -⟩ := h
    cases earlier with
    | noVersion => exact ⟨changelog, hversion⟩
    | noApi | stopped | unkept | complete => exact absurd hlt (by decide)
  | stopped =>
    obtain ⟨changelog, api, before, a, after, -, -, hversion, hprepared, -⟩ := h
    cases earlier with
    | noVersion => exact ⟨changelog, hversion⟩
    | noApi => exact ⟨api, _, hprepared⟩
    | stopped | unkept | complete => exact absurd hlt (by decide)
  | unkept =>
    obtain ⟨changelog, api, fixtures, paths, -, hversion, hprepared, hwritten, -⟩ := h
    cases earlier with
    | noVersion => exact ⟨changelog, hversion⟩
    | noApi => exact ⟨api, fixtures, hprepared⟩
    | stopped => exact ⟨api, fixtures, paths, hprepared, hwritten⟩
    | unkept | complete => exact absurd hlt (by decide)
  | complete =>
    obtain ⟨changelog, api, fixtures, paths, -, generated, hversion, hprepared, hwritten, -,
      hresult, -⟩ := h
    cases earlier with
    | noVersion => exact ⟨changelog, hversion⟩
    | noApi => exact ⟨api, fixtures, hprepared⟩
    | stopped => exact ⟨api, fixtures, paths, hprepared, hwritten⟩
    | unkept => exact ⟨generated, hresult⟩
    | complete => exact absurd hlt (by decide)

/-- **A run has exactly one ending.** Without a version nothing happens at all; without an API and
all its fixtures the files stay as they are, and the templates are those that are not suppressed; if
a fixture cannot be written, the files are those that the fixtures before it left; if the changelog
cannot be kept, all fixtures are there; and otherwise the fixtures are written in the order of
groups, operations and responses, and the changelog after them. -/
theorem existsUnique_endsIn (j : Job) : ∃! ending, j.EndsIn ending := by
  obtain ⟨ending, hending⟩ := j.exists_endsIn
  refine ⟨ending, hending, fun other hother => ?_⟩
  -- A run that ends later got past the place where it is said to end.
  rcases Nat.lt_trichotomy other.stage ending.stage with hlt | heq | hgt
  · exact absurd (hending.getsPast hlt) hother.not_getsPast
  · cases other <;> cases ending <;> first | rfl | cases heq
  · exact absurd (hother.getsPast hgt) hending.not_getsPast

end Job

end ClientStyle
