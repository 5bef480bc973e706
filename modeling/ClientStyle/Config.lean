/-
The settings of a run.

Settings are written in YAML. Paths in them that are not absolute are meant relative to the directory
of the file that holds them.
-/
import ClientStyle.Codec.Decode
import ClientStyle.Files.Path
import ClientStyle.Target
import ClientStyle.Text.Split
import ClientStyle.Yaml.Reading
set_option autoImplicit false

namespace ClientStyle

namespace Target

/-- A target is encoded as its identifier. -/
def toJson (target : Target) : Json := .string target.id

/-- Reads what `toJson` writes. -/
def ofJson : Decoder Target := Decode.variant (all.map id) ofId?

end Target

/-- The settings of a run. -/
structure Config where
  target : Target
  packageName : String
  /-- The directory that everything is written below. -/
  outputDir : String
  /-- The path of the changelog. -/
  changelog : String
  /-- The path of the table of descriptions, if there is one. -/
  descriptions : Option String
  /-- The resource identifier that tests use. -/
  placeholderUri : String
  deriving DecidableEq, Repr, Inhabited

namespace Config

/-- The resource identifier that tests use if the settings give none. -/
def defaultPlaceholderUri : String := "https://api.video"

/-! ## Encoding -/

/-- Every member is written. -/
def toJson (c : Config) : Json :=
  .object [
    ("changelog", .string c.changelog),
    ("descriptions", Json.ofText? c.descriptions),
    ("output_dir", .string c.outputDir),
    ("package_name", .string c.packageName),
    ("placeholder_uri", .string c.placeholderUri),
    ("target", c.target.toJson)]

/-- Reads what `toJson` writes. -/
def ofJson : Decoder Config := Decode.record "GeneratorConfig" <|
  Slots.made Config.mk
    |>.required "target" Target.ofJson
    |>.required "package_name" Decode.text
    |>.required "output_dir" Decode.path
    |>.required "changelog" Decode.path
    |>.optional "descriptions" Decode.path
    |>.orElse "placeholder_uri" Decode.text defaultPlaceholderUri

/-- Reads settings from a node of a YAML document. -/
def ofYaml : Yaml.NodeReader Config := Yaml.Reading.record <|
  Slots.made Config.mk
    |>.required "target" (Yaml.Reading.variant Target.ofId?)
    |>.required "package_name" Yaml.Reading.text
    |>.required "output_dir" Yaml.Reading.text
    |>.required "changelog" Yaml.Reading.text
    |>.orElse "descriptions" (Yaml.Reading.optional Yaml.Reading.text) none
    |>.orElse "placeholder_uri" Yaml.Reading.text defaultPlaceholderUri

/-! ## Validation -/

/-- Why settings cannot be used. -/
inductive Flaw where
  | noPackageName
  | noChangelog
  /-- The resource identifier for tests has no scheme. -/
  | relativeUri (uri : String)
  deriving DecidableEq, Repr

/-- The reason in words. -/
def Flaw.reason : Flaw → String
  | .noPackageName => "package_name cannot be empty"
  | .noChangelog => "changelog path cannot be empty"
  | .relativeUri uri => "placeholder_uri must be absolute, got '" ++ uri ++ "'"

/-- Whether a resource identifier has a scheme. -/
def hasScheme (uri : String) : Bool := Text.occursIn "://".toList uri.toList

/-- The first flaw of settings. -/
def flaw? (c : Config) : Option Flaw :=
  if Text.trim c.packageName = "" then some .noPackageName
  else if c.changelog = "" then some .noChangelog
  else if !hasScheme c.placeholderUri then some (.relativeUri c.placeholderUri)
  else none

/-! ## Paths -/

/-- The settings with their paths relative to a directory. -/
def resolve (c : Config) (directory : String) : Config :=
  { c with
    outputDir := Path.join directory c.outputDir
    changelog := Path.join directory c.changelog
    descriptions := c.descriptions.map (Path.join directory) }

end Config

end ClientStyle
