/-
Trees of files and directories, as a file system shows them.

A tree maps locations to entries; the top is a directory in any case. Operations take paths and
resolve them step by step as a system without links does. An operation that fails says why in the
system's words.
-/
import ClientStyle.Files.Path
import ClientStyle.NameMap
set_option autoImplicit false

namespace ClientStyle

/-! ## Failures -/

/-- Why an operation on files fails. -/
inductive FileError where
  | notFound
  | fileExists
  | notDirectory
  | isDirectory
  | nameTooLong
  /-- A path with a zero character cannot be passed to the system. -/
  | zeroCharacter
  /-- The content of a file is not encoded text. -/
  | notText
  deriving DecidableEq, Repr

/-- The words of the system. -/
def FileError.message : FileError → String
  | .notFound => "No such file or directory (os error 2)"
  | .fileExists => "File exists (os error 17)"
  | .notDirectory => "Not a directory (os error 20)"
  | .isDirectory => "Is a directory (os error 21)"
  | .nameTooLong => "File name too long (os error 36)"
  | .zeroCharacter => "file name contained an unexpected NUL byte"
  | .notText => "stream did not contain valid UTF-8"

/-! ## Entries -/

/-- The content of a file: a text, or bytes that are no encoded text. -/
inductive Content where
  | text (value : String)
  | binary (bytes : List UInt8)
  deriving DecidableEq, Repr

/-- The content that some bytes are. -/
def Content.ofBytes (bytes : List UInt8) : Content :=
  match String.fromUTF8? ⟨bytes.toArray⟩ with
  | some value => .text value
  | none => .binary bytes

/-- What is at a location. -/
inductive Entry where
  | file (content : Content)
  | directory
  deriving DecidableEq, Repr

/-- A place in a tree: the names on the way to it, the last one first. -/
abbrev Location := List String

/-- A tree of files and directories. -/
structure FileTree where
  entries : List (Location × Entry)
  deriving DecidableEq, Repr, Inhabited

namespace FileTree

/-- The tree with nothing below the top. -/
def empty : FileTree := ⟨[]⟩

/-- What is at a location. -/
def find? (t : FileTree) (l : Location) : Option Entry :=
  if l = [] then some .directory else t.entries.lookup l

/-- Puts an entry at a location, in the place of the one that was there. -/
def put (t : FileTree) (l : Location) (e : Entry) : FileTree :=
  ⟨(l, e) :: t.entries.filter (·.1 != l)⟩

/-! ## Resolving paths -/

/-- The largest size of a name, in bytes. -/
def maxNameSize : Nat := 255

/-- The location that a path names as seen from the outside: a directory by the steps to it, or a
name in a directory, with a mark whether a slash follows it. -/
inductive Destination where
  | directory (steps : List String)
  | child (steps : List String) (name : String) (slash : Bool)

/-- The destination of a path. -/
def destination (path : String) : Destination :=
  let parts := (Text.split '/' path.toList).map String.ofList
  let steps := parts.filter (· != "")
  match steps.getLast? with
  | none => .directory []
  | some last =>
    if last = "." ∨ last = ".." then .directory steps
    else .child steps.dropLast last (parts.getLast? == some "")

/-- Follows steps through directories. -/
def walk (t : FileTree) (here : Location) : List String → Except FileError Location
  | [] => .ok here
  | step :: rest =>
    if step = "." then t.walk here rest
    -- There is nothing above the top but the top.
    else if step = ".." then t.walk here.tail rest
    else if maxNameSize < step.utf8ByteSize then .error .nameTooLong
    else
      match t.find? (step :: here) with
      | none => .error .notFound
      | some (.file _) => .error .notDirectory
      | some .directory => t.walk (step :: here) rest

/-- Follows the steps to a name in a directory. -/
def walkTo (t : FileTree) (steps : List String) (name : String) : Except FileError Location := do
  let parent ← t.walk [] steps
  if maxNameSize < name.utf8ByteSize then .error .nameTooLong else .ok (name :: parent)

/-- The size in bytes from which on a path is too long. -/
def pathSizeLimit : Nat := 4096

/-- Refuses a path that cannot be passed to the system. -/
def passable (path : String) : Except FileError Unit :=
  if path.toList.contains '\x00' then .error .zeroCharacter
  else if pathSizeLimit ≤ path.utf8ByteSize then .error .nameTooLong
  else .ok ()

/-! ## Operations -/

/-- Whether a path leads to a directory. -/
def isDirectory (t : FileTree) (path : String) : Bool :=
  match passable path, destination path with
  | .error _, _ => false
  | .ok _, .directory steps => (t.walk [] steps).isOk
  | .ok _, .child steps name _ =>
    match t.walkTo steps name with
    | .ok l => t.find? l == some .directory
    | .error _ => false

/-- The content of a file. -/
def read (t : FileTree) (path : String) : Except FileError Content := do
  passable path
  match destination path with
  | .directory steps =>
    -- What is missing on the way is reported first.
    let _ ← t.walk [] steps
    .error .isDirectory
  | .child steps name slash =>
    let l ← t.walkTo steps name
    match t.find? l with
    | none => .error .notFound
    | some .directory => .error .isDirectory
    | some (.file content) => if slash then .error .notDirectory else .ok content

/-- The text of a file. -/
def readText (t : FileTree) (path : String) : Except FileError String := do
  match ← t.read path with
  | .text value => .ok value
  | .binary _ => .error .notText

/-- Makes a directory in a directory that is there already. -/
def makeDirectory (t : FileTree) (path : String) : Except FileError FileTree := do
  passable path
  match destination path with
  | .directory steps =>
    let _ ← t.walk [] steps
    .error .fileExists
  | .child steps name _ =>
    let l ← t.walkTo steps name
    match t.find? l with
    | some _ => .error .fileExists
    | none => .ok (t.put l .directory)

/-- Writes a file, in the place of the one that was there. -/
def write (t : FileTree) (path : String) (content : Content) : Except FileError FileTree := do
  passable path
  match destination path with
  | .directory steps =>
    let _ ← t.walk [] steps
    .error .isDirectory
  | .child steps name slash =>
    -- A slash at the end asks for a directory, whatever is there.
    if slash then
      let _ ← t.walk [] steps
      .error .isDirectory
    else
      let l ← t.walkTo steps name
      match t.find? l with
      | some .directory => .error .isDirectory
      | _ => .ok (t.put l (.file content))

/-- The outcome of an operation of several steps: the tree as it was left, and the result. -/
structure Outcome (α : Type) where
  tree : FileTree
  result : Except FileError α

/-- Makes a directory and the directories on the way to it, as far as they are missing. The path
without its last step is made first if the directory cannot be made at once; the first argument
bounds how often. -/
def makeDirectoriesWithin : Nat → FileTree → String → Outcome Unit
  | 0, t, _ => ⟨t, .error .notFound⟩
  | bound + 1, t, path =>
    if path = "" then ⟨t, .ok ()⟩
    else
      match t.makeDirectory path with
      | .ok made => ⟨made, .ok ()⟩
      | .error .notFound =>
        match Path.parent? path with
        | none => ⟨t, .error .notFound⟩
        | some parent =>
          let above := makeDirectoriesWithin bound t parent
          match above.result with
          | .error e => ⟨above.tree, .error e⟩
          | .ok () =>
            match above.tree.makeDirectory path with
            | .ok made => ⟨made, .ok ()⟩
            | .error e =>
              -- A path that goes up again may lead to a directory that was made on the way.
              if above.tree.isDirectory path then ⟨above.tree, .ok ()⟩
              else ⟨above.tree, .error e⟩
      -- A directory that is there already is no failure.
      | .error e => if t.isDirectory path then ⟨t, .ok ()⟩ else ⟨t, .error e⟩

/-- Makes a directory and the directories on the way to it, as far as they are missing. -/
def makeDirectories (t : FileTree) (path : String) : Outcome Unit :=
  makeDirectoriesWithin (path.length + 1) t path

/-- Writes a file, and makes the directories on the way to it. -/
def writeBelow (t : FileTree) (path : String) (content : Content) : Outcome Unit :=
  let prepared := match Path.parent? path with
    | some parent => t.makeDirectories parent
    | none => ⟨t, .ok ()⟩
  match prepared.result with
  | .error e => ⟨prepared.tree, .error e⟩
  | .ok () =>
    match prepared.tree.write path content with
    | .ok written => ⟨written, .ok ()⟩
    | .error e => ⟨prepared.tree, .error e⟩

/-! ## Listings -/

/-- The path from a directory to a location below it. -/
def pathBelow? (directory l : Location) : Option String :=
  let depth := l.length - directory.length
  if directory.length < l.length ∧ l.drop depth = directory then
    some (String.ofList (Text.join ['/'] ((l.take depth).reverse.map String.toList)))
  else none

/-- The texts of the files below a directory that are not in an earlier tree as they are now. -/
def changesSince (t before : FileTree) (directory : Location) : NameMap String :=
  t.entries.foldl (fun found e =>
    match e.2, pathBelow? directory e.1 with
    | .file (.text text), some path =>
      if before.find? e.1 = some e.2 then found else found.insert path text
    | _, _ => found) []

end FileTree

end ClientStyle
