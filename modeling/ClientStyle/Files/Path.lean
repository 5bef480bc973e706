/-
Paths as texts: joining them, and taking them apart.

A path is a text with slashes between its steps. Empty steps, and steps that are a single dot, lead
nowhere: they count for nothing when a path is taken apart, except a dot at the beginning.
-/
import ClientStyle.Text.Split
set_option autoImplicit false

namespace ClientStyle.Path

/-! ## Joining -/

/-- Whether a path starts at the top rather than at some directory. -/
def isAbsolute (path : String) : Bool := path.toList.head? = some '/'

/-- The path that leads from a directory along a second path. An absolute path leads away from the
directory; else a slash is put between the two, unless there is one or the directory has no name. -/
def join (base path : String) : String :=
  if isAbsolute path then path
  else
    match base.toList.getLast? with
    | none => path
    | some '/' => base ++ path
    | some _ => base ++ "/" ++ path

/-! ## Taking apart -/

/-- Whether a step leads nowhere. -/
def isIdle (step : List Char) : Bool := step = [] || step = ['.']

/-- Drops idle steps from the end of a path whose steps are listed from the last to the first; the
first step stays in any case. -/
def dropIdle : List (List Char) → List (List Char)
  | [] => []
  | [first] => [first]
  | step :: before => if isIdle step then dropIdle before else step :: before

/-- The steps of a path from the last to the first, without idle ones at the end. -/
def backwards (path : String) : List (List Char) :=
  dropIdle (Text.split '/' path.toList).reverse

/-- The path of steps that are listed from the last to the first. -/
def ofBackwards (steps : List (List Char)) : String :=
  if steps = [[]] then "/" else String.ofList (Text.join ['/'] steps.reverse)

/-- The path without its last step; there is none for the top and the empty path. -/
def parent? (path : String) : Option String :=
  match backwards path with
  | [] => none
  | [step] => if step = [] then none else some ""
  | _ :: before => some (ofBackwards (dropIdle before))

/-- The last step of a path, if it is a name. -/
def name? (path : String) : Option (List Char) :=
  match backwards path with
  | [] => none
  | step :: _ => if isIdle step || step = ['.', '.'] then none else some step

/-! ## Names -/

/-- A name cut at its last dot, which belongs to neither part. A dot at the beginning is part of the
name and cuts nothing. -/
def cutAtDot (name : List Char) : List Char × Option (List Char) :=
  let after := (name.reverse.takeWhile (· != '.')).reverse
  let before := name.take (name.length - after.length - 1)
  -- There is no dot, or it stands at the beginning.
  if after.length = name.length ∨ before = [] then (name, none) else (before, some after)

/-- What follows the last dot of the last step. -/
def extension? (path : String) : Option String :=
  (name? path).bind fun name => (cutAtDot name).2.map String.ofList

/-- The last step up to its last dot; a path without name stands for itself. -/
def stem (path : String) : String :=
  match name? path with
  | some name => String.ofList (cutAtDot name).1
  | none => path

end ClientStyle.Path
