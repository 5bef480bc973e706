/-
Changelogs: the releases of a package, the latest one first.

A changelog has a release at least, and its releases are named by semantic versions. Both are part of
the type, so whatever holds a changelog has a version.
-/
import ClientStyle.Files.Tree
import ClientStyle.Release.Date
import ClientStyle.Release.Version
import ClientStyle.Yaml.Reading
set_option autoImplicit false

namespace ClientStyle

/-- A release with what changed in it. -/
structure Release where
  name : String
  date : Option Date
  changes : List String
  deriving DecidableEq, Repr, Inhabited

namespace Release

/-- Every member is written. -/
def toJson (r : Release) : Json :=
  .object [
    ("changes", Encode.list .string r.changes),
    ("date", Encode.nullable Date.toJson r.date),
    ("name", .string r.name)]

/-- Reads what `toJson` writes; a release may have no date and no changes. -/
def ofJson : Decoder Release := Decode.record "ChangelogEntry" <|
  Slots.made Release.mk
    |>.required "name" Decode.text
    |>.optional "date" Date.ofJson
    |>.orElse "changes" (Decode.list Decode.text) []

/-- Reads a release from a node of a YAML document. -/
def ofYaml : Yaml.NodeReader Release := Yaml.Reading.record <|
  Slots.made Release.mk
    |>.required "name" Yaml.Reading.text
    |>.orElse "date" (Yaml.Reading.optional (Yaml.Reading.scalar fun t => (Date.parse t).toOption)) none
    |>.orElse "changes" (Yaml.Reading.list Yaml.Reading.text) []

/-- The heading of a release. -/
def heading (r : Release) : String :=
  match r.date with
  | some date => "## [" ++ r.name ++ "] - " ++ date.text
  | none => "## [" ++ r.name ++ "]"

/-- The section of a release: its heading, and a line for each change. -/
def paragraph (r : Release) : String :=
  "\n" ++ r.heading ++ "\n" ++ String.join (r.changes.map fun change => "- " ++ change ++ "\n")

/-- The first release that is not named by a version, with the reason. -/
def firstFlaw? (releases : List Release) : Option (Release × Version.Error) :=
  releases.findSome? fun r =>
    match Version.parse r.name with
    | .ok _ => none
    | .error e => some (r, e)

/-- If no release is the first one with a flaw, none has any. -/
theorem isVersion_of_firstFlaw? {releases : List Release} (h : firstFlaw? releases = none) :
    ∀ r ∈ releases, Version.IsVersion r.name := by
  intro r hr
  have hnone := List.findSome?_eq_none_iff.1 h r hr
  cases hparse : Version.parse r.name with
  | ok v => exact ⟨v, hparse⟩
  | error e => rw [hparse] at hnone; cases hnone

end Release

/-- The releases of a package, the latest one first. -/
structure Changelog where
  releases : List Release
  ne_nil : releases ≠ []
  isVersion : ∀ r ∈ releases, Version.IsVersion r.name

namespace Changelog

/-! ## Failures -/

/-- Why there is no changelog. -/
inductive Error where
  | unreadable (path : String) (cause : FileError)
  | malformed
  | noVersions
  | invalidVersion (name : String) (cause : Version.Error)
  deriving DecidableEq, Repr

/-- The reason in words. -/
def Error.reason : Error → String
  | .unreadable path cause => "failed to read " ++ path ++ ": " ++ cause.message
  | .malformed => "failed to parse changelog"
  | .noVersions => "changelog has no versions"
  | .invalidVersion name cause => "invalid version '" ++ name ++ "': " ++ cause.message

/-- The report of an error. -/
def Error.message (e : Error) : String := "Changelog error: " ++ e.reason

/-! ## Construction -/

/-- The changelog with some releases, unless there are none or one of them is not named by a
version. -/
def ofReleases (releases : List Release) : Except Error Changelog :=
  if hne : releases = [] then .error .noVersions
  else
    match hflaw : Release.firstFlaw? releases with
    | some (r, cause) => .error (.invalidVersion r.name cause)
    | none => .ok ⟨releases, hne, Release.isVersion_of_firstFlaw? hflaw⟩

/-- Reads a changelog from a YAML text. -/
def parse (text : String) : Except Error Changelog :=
  match Yaml.Reading.ofText? (Yaml.Reading.list Release.ofYaml) text with
  | some releases => ofReleases releases
  | none => .error .malformed

/-- Reads a changelog from a file. -/
def load (t : FileTree) (path : String) : Except Error Changelog :=
  match t.readText path with
  | .ok text => parse text
  | .error cause => .error (.unreadable path cause)

/-- A changelog is encoded as the list of its releases. -/
def toJson (c : Changelog) : Json := Encode.list Release.toJson c.releases

/-- Decodes the list of releases, which have to make up a changelog. -/
def ofJson : Decoder Changelog := fun value => do
  let releases ← Decode.list Release.ofJson value
  match ofReleases releases with
  | .ok c => .ok c
  | .error e => .error (.rejected e.message)

/-! ## Use -/

/-- The latest release. -/
def latest (c : Changelog) : Release := c.releases.head c.ne_nil

/-- The name of the latest release. -/
def version (c : Changelog) : String := c.latest.name

/-- The version that the changelog in a file gives to its package. -/
def resolve (t : FileTree) (source : String) : Except Error String := (load t source).map version

/-- A package gets the version of the changelog that was loaded. -/
theorem resolve_of_load {t : FileTree} {source : String} {c : Changelog} (h : load t source = .ok c) :
    resolve t source = .ok c.version := by
  rw [resolve, h]
  rfl

/-- Whatever keeps the changelog from being loaded is what is reported for the package. -/
theorem resolve_of_load_error {t : FileTree} {source : String} {cause : Error}
    (h : load t source = .error cause) : resolve t source = .error cause := by
  rw [resolve, h]
  rfl

/-- What stands above the releases of a written changelog. -/
def title : String := "# Changelog\nAll changes to this project will be documented in this file.\n"

/-- The changelog as a document for readers. -/
def markdown (c : Changelog) : String := title ++ String.join (c.releases.map Release.paragraph)

/-- The name of the file that a changelog is written to. -/
def fileName : String := "CHANGELOG.md"

/-- Writes a changelog into a directory, which is made if it is missing, and returns the path of the
file. -/
def write (c : Changelog) (t : FileTree) (directory : String) : FileTree.Outcome String :=
  let made := t.makeDirectories directory
  match made.result with
  | .error e => ⟨made.tree, .error e⟩
  | .ok () =>
    let path := Path.join directory fileName
    match made.tree.write path (.text c.markdown) with
    | .ok written => ⟨written, .ok path⟩
    | .error e => ⟨made.tree, .error e⟩

end Changelog

end ClientStyle
