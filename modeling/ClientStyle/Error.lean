/-
Everything that can go wrong in a run.
-/
import ClientStyle.Api.Transform
import ClientStyle.Config
import ClientStyle.Release.Changelog
set_option autoImplicit false

namespace ClientStyle

/-- Why a run, or a step of it, has no result. -/
inductive Error where
  | files (cause : FileError)
  /-- A YAML text is malformed, or does not hold what it should. -/
  | yaml
  /-- A JSON text is malformed, or does not hold what it should. -/
  | json
  | missingAction (cause : MissingAction)
  | changelog (cause : Changelog.Error)
  | config (cause : Config.Flaw)
  /-- A file without known extension is no API description in any format. -/
  | unknownFormat (path : String)
  /-- A framework cannot extract an API. -/
  | extraction (reason : String)
  deriving DecidableEq, Repr

/-- The report of an error. Malformed texts are reported without their cause. -/
def Error.message? : Error → Option String
  | .files cause => some ("I/O error: " ++ cause.message)
  | .yaml => none
  | .json => none
  | .missingAction cause => some cause.message
  | .changelog cause => some cause.message
  | .config cause => some ("Configuration error: " ++ cause.reason)
  | .unknownFormat path => some ("Configuration error: Failed to parse API description " ++ path)
  | .extraction reason => some ("Configuration error: " ++ reason)

end ClientStyle
