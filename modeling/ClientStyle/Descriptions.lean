/-
Tables of texts that replace the descriptions of an API.

A table holds texts by language and key; the language is that of a target, or the one that stands in
for all. A key is the id of an operation, alone or with a part behind a dot.
-/
import ClientStyle.Codec.Decode
import ClientStyle.Target
set_option autoImplicit false

namespace ClientStyle

/-- Texts by language and key. -/
structure Descriptions where
  languages : NameMap (NameMap String)
  deriving DecidableEq, Repr, Inhabited

namespace Descriptions

/-- The table without texts. -/
def empty : Descriptions := ⟨[]⟩

/-- The language that stands in for all others. -/
def defaultLanguage : String := "default"

/-! ## Keys -/

/-- The key of an operation's notes. -/
def operationKey (id : String) : String := id

/-- The key of an operation's summary. -/
def summaryKey (id : String) : String := id ++ ".summary"

/-- The key of the sample code of an operation. -/
def sampleKey (id : String) : String := id ++ ".sample"

/-- The key of the description of a parameter. -/
def parameterKey (id baseName : String) : String := id ++ "." ++ baseName

/-! ## Entries -/

/-- Adds or replaces a text. -/
def insert (d : Descriptions) (language key text : String) : Descriptions :=
  ⟨d.languages.insert language (((d.languages.find? language).getD []).insert key text)⟩

/-- The text of one language under a key. -/
def textIn? (d : Descriptions) (language key : String) : Option String :=
  (d.languages.find? language).bind (·.find? key)

/-- The text under a key for a target: that of its own language, or else the default one. -/
def text? (d : Descriptions) (target : Target) (key : String) : Option String :=
  (d.textIn? target.id key).or (d.textIn? defaultLanguage key)

/-! ## Encoding -/

/-- The table as an object of objects. -/
def toJson (d : Descriptions) : Json :=
  .object (d.languages.map fun l => (l.1, .object (l.2.map fun t => (t.1, .string t.2))))

/-- Reads what `toJson` writes. -/
def ofJson : Decoder Descriptions := fun value =>
  (Decode.mapMembers (Decode.mapMembers Decode.text) value).map (⟨·⟩)

end Descriptions

end ClientStyle
