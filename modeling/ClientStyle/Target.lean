/-
The languages that clients are generated for, and the literals written in them.
-/
import ClientStyle.Unicode.Class
set_option autoImplicit false

namespace ClientStyle

/-- A language that clients are generated for. -/
inductive Target where
  | csharp
  | java
  deriving DecidableEq, Repr, Inhabited

namespace Target

/-! ## Names -/

/-- The identifier of a language, which is also its key in tables of descriptions. -/
def id : Target → String
  | .csharp => "csharp"
  | .java => "java"

/-- The name of a language in prose. -/
def displayName : Target → String
  | .csharp => "C#"
  | .java => "Java"

/-- Every language. -/
def all : List Target := [.csharp, .java]

/-- The language with an identifier, spelled exactly. -/
def ofId? (id : String) : Option Target := all.find? (·.id = id)

/-- A name that belongs to no language. -/
structure Unknown where
  name : String
  deriving DecidableEq, Repr

/-- The report of an unknown name. -/
def Unknown.message (e : Unknown) : String := "Invalid language: " ++ e.name

/-- The language of a name, in any mixture of cases. -/
def ofName (name : String) : Except Unknown Target :=
  let lowered := Unicode.lower name
  if lowered = "csharp" ∨ lowered = "c#" ∨ lowered = "cs" then .ok .csharp
  else if lowered = "java" then .ok .java
  else .error ⟨name⟩

/-! ## Comments and literals -/

/-- What continues a documentation comment on its next line. -/
def commentContinuation : Target → String
  | .csharp => "        /// "
  | .java => "     * "

/-- A list of strings, given its elements with quotes and commas. -/
def stringList (target : Target) (elements : String) : String :=
  match target with
  | .csharp => "new List<string> \x7b " ++ elements ++ " \x7d"
  | .java => "Arrays.asList(" ++ elements ++ ")"

/-- An empty list of elements of a type. -/
def emptyList (target : Target) (item : String) : String :=
  match target with
  | .csharp => "new List<" ++ item ++ ">()"
  | .java => "Collections.<" ++ item ++ ">emptyList()"

/-- A string. The text is taken as it stands. -/
def stringLiteral (_ : Target) (text : String) : String := "\"" ++ text ++ "\""

/-- A point in time. -/
def dateTime (target : Target) (text : String) : String :=
  match target with
  | .csharp => "DateTime.Parse(\"" ++ text ++ "\")"
  | .java => "OffsetDateTime.parse(\"" ++ text ++ "\")"

/-- A resource identifier. -/
def uri (target : Target) (text : String) : String :=
  match target with
  | .csharp => "new Uri(\"" ++ text ++ "\")"
  | .java => "URI.create(\"" ++ text ++ "\")"

/-- A file without content. -/
def emptyFile : Target → String
  | .csharp => "new MemoryStream()"
  | .java => "new File(\"\")"

/-- An integer. -/
def integerLiteral (_ : Target) : String := "123"

/-- A value of any other type, by its constructor without arguments. -/
def construct (_ : Target) (type : String) : String := "new " ++ type ++ "()"

end Target

end ClientStyle
