/-
A run: from an API description to client files.

The version comes first: without it nothing happens. Then templates are suppressed, the description
is brought into normal form, a framework extracts operations and models from it, and these are
reshaped. Only when everything is there, files are written, and the changelog last of all.
-/
import ClientStyle.Context
import ClientStyle.Loading
import ClientStyle.Normal
import ClientStyle.Output
import ClientStyle.Templates.Set
set_option autoImplicit false

namespace ClientStyle

/-! ## Reshaping an API -/

namespace Api

/-- Reshapes groups one after the other until an operation of one has no action. Returns the groups
with the fixtures of all. -/
def transformGroups (style : Style) (models : List Model) (document : Document) :
    List OperationGroup → Warned (Except MissingAction (List OperationGroup × List Artifact))
  | [] => .silent (.ok ([], []))
  | g :: rest =>
    let first := g.transform style models document
    match first.value.2 with
    | .error e => ⟨.error e, first.warnings⟩
    | .ok artifacts =>
      let others := transformGroups style models document rest
      ⟨others.value.map fun done => (first.value.1 :: done.1, artifacts ++ done.2),
        first.warnings ++ others.warnings⟩

/-- Reshapes the groups against the models, and then the models. Returns the API with the fixtures
of all operations. -/
def transform (api : Api) (style : Style) (document : Document) :
    Warned (Except MissingAction (Api × List Artifact)) :=
  (transformGroups style api.models document api.groups).map fun result =>
    result.map fun (groups, artifacts) =>
      ({ groups, models := api.models.map Model.publish }, artifacts)

end Api

/-! ## Keeping the changelog -/

/-- Reads the changelog in a file and writes it into a directory. Returns the path of what was
written. -/
def Changelog.persist (t : FileTree) (source directory : String) :
    FileTree × Except ClientStyle.Error String :=
  match load t source with
  | .error e => (t, .error (.changelog e))
  | .ok changelog =>
    let kept := changelog.write t directory
    (kept.tree, kept.result.mapError .files)

/-! ## Runs -/

/-- What a run is set up with. -/
structure Setup where
  config : Config
  descriptions : Descriptions
  deriving Repr, Inhabited

namespace Setup

/-- The setup with the descriptions that the settings name. -/
def ofConfig (t : FileTree) (config : Config) : Except Error Setup := do
  let descriptions ← match config.descriptions with
    | some path => Descriptions.load t path
    | none => .ok .empty
  .ok { config, descriptions }

/-- What the shape of clients depends on. -/
def style (s : Setup) : Style :=
  ⟨s.config.target, s.descriptions, s.config.placeholderUri⟩

/-- The context of templates before the version is known. -/
def context (s : Setup) : Context := .ofPackage s.config.target s.config.packageName

end Setup

/-- The result of a run. -/
structure Generated where
  context : Context
  api : Api
  artifacts : List Artifact
  /-- The paths of the files that were written, in order. -/
  written : List String
  deriving Repr, Inhabited

/-- What a run leaves behind: its result or the reason why there is none, and the templates and
files in either case. -/
structure Run where
  result : Except Error Generated
  templates : TemplateSet
  tree : FileTree
  warnings : List Warning

namespace Run

/-- Writes the files of a run, and then the changelog if it is to be kept with them. Returns the
paths of all. The changelog is read once more, from the files as they are by then. -/
def write (config : Config) (keepChangelog : Bool) (t : FileTree) (artifacts : List Artifact) :
    FileTree × Except Error (List String) :=
  let output := Artifact.writeAll t config.outputDir artifacts
  match output.result with
  | .error e => (output.tree, .error (.files e))
  | .ok paths =>
    if keepChangelog then
      let kept := Changelog.persist output.tree config.changelog config.outputDir
      (kept.1, kept.2.map fun path => paths ++ [path])
    else (output.tree, .ok paths)

/-- Runs on an API description. A framework extracts the API from its normal form. -/
def generate (setup : Setup) (extract : Document → Except Error Api) (keepChangelog : Bool)
    (document : Document) (templates : TemplateSet) (t : FileTree) : Run :=
  match Changelog.resolve t setup.config.changelog with
  | .error e => ⟨.error (.changelog e), templates, t, []⟩
  | .ok version =>
    let templates := templates.suppress
    let document := (Normal.normalize document).value
    match extract document with
    | .error e => ⟨.error e, templates, t, []⟩
    | .ok api =>
      let transformed := api.transform setup.style document
      match transformed.value with
      | .error e => ⟨.error (.missingAction e), templates, t, transformed.warnings⟩
      | .ok (api, artifacts) =>
        let (tree, written) := write setup.config keepChangelog t artifacts
        let context := setup.context.withVersion version
        ⟨written.map fun written => { context, api, artifacts, written }, templates, tree,
          transformed.warnings⟩

end Run

end ClientStyle
