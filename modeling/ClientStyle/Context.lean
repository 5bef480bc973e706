/-
What all templates of a run can refer to: the package, and named properties.
-/
import ClientStyle.Config
import ClientStyle.Release.Guid
set_option autoImplicit false

namespace ClientStyle

/-- A package with named properties. -/
structure Context where
  target : Target
  packageName : String
  properties : NameMap Json
  deriving Repr, Inhabited

namespace Context

/-- A package without properties. -/
def ofPackage (target : Target) (packageName : String) : Context := ⟨target, packageName, []⟩

/-- Every member is written. -/
def toJson (c : Context) : Json :=
  .object [
    ("additional_properties", .object c.properties),
    ("package_name", .string c.packageName),
    ("target", c.target.toJson)]

/-- Reads what `toJson` writes. -/
def ofJson : Decoder Context := Decode.record "GenerationContext" <|
  Slots.made Context.mk
    |>.required "target" Target.ofJson
    |>.required "package_name" Decode.text
    |>.required "additional_properties" (Decode.mapMembers Decode.anyValue)

/-! ## Properties -/

/-- The name of the property that holds the version of the package. -/
def versionProperty : String := "artifactVersion"

/-- The name of the property that holds the identifier of the package. -/
def guidProperty : String := "packageGuid"

/-- Adds or replaces a property. -/
def add (c : Context) (name : String) (value : Json) : Context :=
  { c with properties := c.properties.insert name value }

/-- The value of a property. -/
def property? (c : Context) (name : String) : Option Json := c.properties.find? name

/-- Sets the version of the package, and the identifier that goes with it. -/
def withVersion (c : Context) (version : String) : Context :=
  (c.add versionProperty (.string version)).add guidProperty (.string (Guid.ofVersion version))

/-- The version of the package, if it is a text. -/
def version? (c : Context) : Option String := (c.property? versionProperty).bind Json.asString?

end Context

end ClientStyle
