/-
Reading what a run needs from texts and files: settings, descriptions, and the API description.
-/
import ClientStyle.Error
import ClientStyle.Yaml.Value
set_option autoImplicit false

namespace ClientStyle

/-- The text of a file. -/
def FileTree.load (t : FileTree) (path : String) : Except Error String :=
  match t.readText path with
  | .ok text => .ok text
  | .error cause => .error (.files cause)

namespace Config

/-- Reads settings from a YAML text; they have to be usable. -/
def parse (text : String) : Except Error Config :=
  match Yaml.Reading.ofText? ofYaml text with
  | none => .error .yaml
  | some c =>
    match c.flaw? with
    | some cause => .error (.config cause)
    | none => .ok c

/-- Reads settings from a file, in whose directory their relative paths start. -/
def load (t : FileTree) (path : String) : Except Error Config := do
  let c ← parse (← t.load path)
  match Path.parent? path with
  | some directory => .ok (c.resolve directory)
  | none => .ok c

end Config

namespace Descriptions

/-- Reads a table of descriptions from a YAML text. -/
def parse (text : String) : Except Error Descriptions :=
  match Yaml.Reading.ofText? (Yaml.Reading.map (Yaml.Reading.map Yaml.Reading.text)) text with
  | some languages => .ok ⟨languages⟩
  | none => .error .yaml

/-- Reads a table of descriptions from a file. -/
def load (t : FileTree) (path : String) : Except Error Descriptions := do parse (← t.load path)

end Descriptions

namespace Document

/-- Reads an API description from a JSON text. -/
def ofJsonText (text : String) : Except Error Document :=
  match Json.read? text with
  | some document => .ok document
  | none => .error .json

/-- Reads an API description from a YAML text. -/
def ofYamlText (text : String) : Except Error Document :=
  match Yaml.value? text with
  | some document => .ok document
  | none => .error .yaml

/-- Reads an API description from a text in the format that an extension of its file tells. Without
a known extension both formats are tried. -/
def ofText (extension? : Option String) (path text : String) : Except Error Document :=
  if extension? = some "json" then ofJsonText text
  else if extension? = some "yaml" ∨ extension? = some "yml" then ofYamlText text
  else
    match ofJsonText text, ofYamlText text with
    | .ok document, _ => .ok document
    | .error _, .ok document => .ok document
    | .error _, .error _ => .error (.unknownFormat path)

/-- Reads an API description from a file. -/
def load (t : FileTree) (path : String) : Except Error Document := do
  ofText (Path.extension? path) path (← t.load path)

end Document

end ClientStyle
