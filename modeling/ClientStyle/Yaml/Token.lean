/-
The tokens of a YAML text.

Outside of braces the nesting of a text is in its indentation, and the reader of tokens makes it
explicit: it opens a list or map at the first item of a new column, and closes it when a line begins
further left. Whether a scalar is a key is known only at the colon behind it, so the reader keeps the
tokens that may turn out to be keys, and puts the key token in front of one afterwards.
-/
import ClientStyle.Text.Split
import ClientStyle.Yaml.Scalar
import ClientStyle.Yaml.Tag
set_option autoImplicit false

namespace ClientStyle.Yaml

/-- A token of a YAML text. -/
inductive Token where
  | version
  /-- What a handle of tags stands for. -/
  | handle (name : String) (start : Tag)
  | documentStart
  | documentEnd
  | listStart
  | mapStart
  | blockEnd
  | flowListStart
  | flowListEnd
  | flowMapStart
  | flowMapEnd
  | item
  | separator
  | key
  | value
  | anchor (name : String)
  | alias (name : String)
  /-- A tag, whose handle is empty if the suffix is all of it. -/
  | tag (handle : String) (suffix : Tag)
  | scalar (text : String) (plain : Bool)
  deriving DecidableEq, Repr

/-- A token that becomes a key if a colon follows on its line. -/
structure Candidate where
  /-- The number of tokens before it. -/
  position : Nat
  place : Place
  /-- Whether it has to be a key, since nothing else can begin in its column. -/
  required : Bool
  deriving Repr

/-- The largest distance between the beginning of a key and its colon, in bytes. -/
def maxKeySize : Nat := 1024

/-- Whether a colon at a place is too late for a candidate. -/
def Candidate.isStale (k : Candidate) (p : Place) : Bool :=
  k.place.line < p.line || k.place.offset + maxKeySize < p.offset

/-- A reader of tokens. -/
structure Lexer where
  cursor : Cursor
  /-- The tokens so far, the last one first. -/
  tokens : List Token
  /-- The columns of the open lists and maps outside of braces, the innermost first. -/
  columns : List Nat
  /-- The candidate for a key within the innermost braces. -/
  candidate : Option Candidate
  /-- The candidates around the braces, from the inside out. -/
  enclosing : List (Option Candidate)
  /-- Whether a key may begin here. -/
  keyAllowed : Bool
  deriving Repr

namespace Lexer

/-- The reader at the beginning of a text. -/
def start (text : List Char) : Lexer := ⟨.start text, [], [], none, [], true⟩

/-- Whether the place is within braces. -/
def inFlow (s : Lexer) : Bool := !s.enclosing.isEmpty

/-- The least column of what is nested in the innermost list or map outside of braces. -/
def indent (s : Lexer) : Nat := (s.columns.head?.map (· + 1)).getD 0

/-- Adds a token. -/
def emit (s : Lexer) (t : Token) : Lexer := { s with tokens := t :: s.tokens }

/-- Adds a token of some characters at the place. -/
def take (s : Lexer) (t : Token) (n : Nat) : Lexer :=
  { s with tokens := t :: s.tokens, cursor := s.cursor.forward n }

/-- Adds a token behind a number of tokens. -/
def emitAt (s : Lexer) (position : Nat) (t : Token) : Lexer :=
  -- The last token comes first in the list, so positions count from its end.
  let later := s.tokens.length - position
  { s with tokens := s.tokens.take later ++ t :: s.tokens.drop later }

/-! ## Candidates -/

/-- Forgets the candidate; one that has to be a key cannot be forgotten. -/
def dropCandidate? (s : Lexer) : Option Lexer :=
  if s.candidate.any (·.required) then none else some { s with candidate := none }

/-- A candidate that is not stale yet; one that has to be a key must not become stale. -/
def fresh? (p : Place) (k : Option Candidate) : Option (Option Candidate) :=
  match k with
  | some k => if k.isStale p then if k.required then none else some none else some (some k)
  | none => some none

/-- Forgets all stale candidates. -/
def dropStale? (s : Lexer) : Option Lexer := do
  let candidate ← fresh? s.cursor.place s.candidate
  let enclosing ← s.enclosing.mapM (fresh? s.cursor.place)
  some { s with candidate, enclosing }

/-- Makes the next token a candidate, if a key may begin here. -/
def addCandidate? (s : Lexer) : Option Lexer :=
  if s.keyAllowed then do
    let s ← s.dropCandidate?
    -- In the column of an open map nothing but its next key can begin.
    let required := !s.inFlow && s.columns.head? = some s.cursor.place.column
    some { s with candidate := some ⟨s.tokens.length, s.cursor.place, required⟩ }
  else some s

/-! ## Columns -/

/-- Opens a list or map in a column behind a number of tokens, unless there is one in the column or
the place is within braces. -/
def openAt (s : Lexer) (column position : Nat) (t : Token) : Lexer :=
  if s.inFlow || column < s.indent then s
  else { s.emitAt position t with columns := column :: s.columns }

/-- Closes open lists and maps in the columns from a number on. -/
def closeColumns (least : Nat) (tokens : List Token) : List Nat → List Token × List Nat
  | [] => (tokens, [])
  | column :: outer =>
    if least ≤ column then closeColumns least (.blockEnd :: tokens) outer
    else (tokens, column :: outer)

/-- Closes the lists and maps in the columns from a number on, except within braces. -/
def close (s : Lexer) (least : Nat) : Lexer :=
  if s.inFlow then s
  else
    let (tokens, columns) := closeColumns least s.tokens s.columns
    { s with tokens, columns }

/-! ## Blanks and comments -/

/-- Moves over blanks, comments and line breaks. A new line allows a key outside of braces, and where
a key is allowed there, tabs are no blanks. -/
def skipBlanks (inFlow keyAllowed inComment : Bool) (p : Place) : List Char → Bool × Cursor
  | [] => (keyAllowed, ⟨p, []⟩)
  | '\r' :: '\n' :: rest => skipBlanks inFlow (keyAllowed || !inFlow) false p.nextLine rest
  | c :: rest =>
    if (lineBreak? c).isSome then
      skipBlanks inFlow (keyAllowed || !inFlow) false p.nextLine rest
    else if inComment || c = ' ' || (c = '\t' && (inFlow || !keyAllowed)) ||
        (c = byteOrderMark && p.column = 0) then
      skipBlanks inFlow keyAllowed inComment (p.next c) rest
    else if c = '#' then skipBlanks inFlow keyAllowed true (p.next c) rest
    else (keyAllowed, ⟨p, c :: rest⟩)

/-- Moves to the next token. -/
def toToken (s : Lexer) : Lexer :=
  let (keyAllowed, cursor) :=
    skipBlanks s.inFlow s.keyAllowed false s.cursor.place s.cursor.rest
  { s with keyAllowed, cursor }

/-! ## Tokens -/

/-- The largest number of digits in a part of a version. -/
def maxVersionDigits : Nat := 9

/-- A part of a version at the beginning of a text, with the rest of the text. -/
def versionPart? (cs : List Char) : Option (Nat × List Char) :=
  let (digits, rest) := Json.digits cs
  if digits.isEmpty || maxVersionDigits < digits.length then none
  else some (Json.naturalOf digits, rest)

/-- The directive of a version, behind its name; the version is 1.1 or 1.2. -/
def version? (afterName : List Char) : Option (Token × List Char) := do
  let (major, afterMajor) ← versionPart? (afterName.dropWhile isBlank)
  let (minor, rest) ← versionPart? (← Text.afterStart? ['.'] afterMajor)
  if !afterName.head?.any isBlank || major != 1 || (minor != 1 && minor != 2) then none
  some (.version, rest)

/-- A directive: a version, or what a handle of tags stands for. There are no others. -/
def directive? (s : Lexer) : Option Lexer := do
  let s ← (s.close 0).dropCandidate?
  let (token, rest) ←
    match Text.afterStart? "%TAG".toList s.cursor.rest with
    | some afterName => (Tag.directive? afterName).map fun (name, start, rest) =>
      (Token.handle name start, rest)
    | none => version? (← Text.afterStart? "%YAML".toList s.cursor.rest)
  let cursor ← (s.cursor.forward (s.cursor.rest.length - rest.length)).endLine?
  some { s with tokens := token :: s.tokens, cursor, keyAllowed := false }

/-- A mark between documents. -/
def documentMark? (s : Lexer) (t : Token) : Option Lexer := do
  let s ← (s.close 0).dropCandidate?
  some { s.take t 3 with keyAllowed := false }

/-- The beginning of a list or map in braces. -/
def flowStart? (s : Lexer) (t : Token) : Option Lexer := do
  let s ← s.addCandidate?
  some { s.take t 1 with
    candidate := none, enclosing := s.candidate :: s.enclosing, keyAllowed := true }

/-- The end of a list or map in braces. -/
def flowEnd? (s : Lexer) (t : Token) : Option Lexer := do
  let s ← s.dropCandidate?
  -- The candidate from around the braces is the candidate again, since what is in braces may be a
  -- key.
  some { s.take t 1 with
    candidate := s.enclosing.head?.join, enclosing := s.enclosing.tail, keyAllowed := false }

/-- A comma between items. -/
def separator? (s : Lexer) : Option Lexer := do
  let s ← s.dropCandidate?
  some { s.take .separator 1 with keyAllowed := true }

/-- The dash in front of an item. -/
def item? (s : Lexer) : Option Lexer := do
  if !s.inFlow && !s.keyAllowed then none
  let s ← (s.openAt s.cursor.place.column s.tokens.length .listStart).dropCandidate?
  some { s.take .item 1 with keyAllowed := true }

/-- The question mark in front of a key. -/
def key? (s : Lexer) : Option Lexer := do
  if !s.inFlow && !s.keyAllowed then none
  let s ← (s.openAt s.cursor.place.column s.tokens.length .mapStart).dropCandidate?
  some { s.take .key 1 with keyAllowed := !s.inFlow }

/-- The colon behind a key, which tells that the candidate is one. -/
def value? (s : Lexer) : Option Lexer :=
  match s.candidate with
  | some k =>
    -- The token of the key goes in front of the candidate, and the beginning of the map in front of
    -- both, if this is its first key.
    let s := (s.emitAt k.position .key).openAt k.place.column k.position .mapStart
    some { s.take .value 1 with candidate := none, keyAllowed := false }
  | none =>
    if !s.inFlow && !s.keyAllowed then none
    else
      let s := s.openAt s.cursor.place.column s.tokens.length .mapStart
      some { s.take .value 1 with keyAllowed := !s.inFlow }

/-- An anchor or alias with its name. -/
def name? (s : Lexer) (t : String → Token) : Option Lexer := do
  let s ← s.addCandidate?
  let name := (s.cursor.rest.drop 1).takeWhile isNameChar
  let rest := s.cursor.rest.drop (name.length + 1)
  if name.isEmpty then none
  if isGapNext rest || rest.head?.any ("?:,]\x7d%@\x60".toList.contains ·) then
    some { s.take (t (String.ofList name)) (name.length + 1) with keyAllowed := false }
  else none

/-- A tag. Within braces a comma may follow at once. -/
def tag? (s : Lexer) : Option Lexer := do
  let s ← s.addCandidate?
  let (handle, suffix, rest) ← Tag.read? s.cursor.rest
  if isGapNext rest || (s.inFlow && rest.head? = some ',') then
    some { s.take (.tag handle suffix) (s.cursor.rest.length - rest.length) with
      keyAllowed := false }
  else none

/-- A block of lines. -/
def block? (s : Lexer) (folded : Bool) : Option Lexer := do
  let s ← s.dropCandidate?
  let (text, cursor) ← block folded s.indent (s.cursor.forward 1)
  some { s.emit (.scalar (String.ofList text) false) with cursor, keyAllowed := true }

/-- A scalar in quotes. -/
def quoted? (s : Lexer) (double : Bool) : Option Lexer := do
  let s ← s.addCandidate?
  let inside := s.cursor.forward 1
  let (text, cursor) ←
    if double then doubleQuoted .empty inside.place 0 inside.rest
    else singleQuoted .empty inside.place inside.rest
  some { s.emit (.scalar (String.ofList text) false) with cursor, keyAllowed := false }

/-- A plain scalar. A key may follow on the next line. -/
def plain? (s : Lexer) : Option Lexer := do
  let s ← s.addCandidate?
  let (text, broken, cursor) ← plain s.inFlow s.indent .empty s.cursor.place s.cursor.rest
  some { s.emit (.scalar (String.ofList text) true) with cursor, keyAllowed := broken }

/-- The characters that begin no plain scalar, or only in front of certain others. -/
def marks : List Char := "-?:,[]\x7b\x7d#&*!|>'\"%@\x60".toList

/-- Whether a plain scalar may begin with the next characters. -/
def beginsPlain (inFlow : Bool) (c : Char) (rest : List Char) : Bool :=
  (!isBlank c && !marks.contains c) || (c = '-' && !rest.head?.any isBlank) ||
    (!inFlow && (c = '?' || c = ':') && !isGapNext rest)

/-- Reads the token that begins with a character. -/
def next? (s : Lexer) (c : Char) (rest : List Char) : Option Lexer :=
  let gapNext := isGapNext rest
  let atLineStart := s.cursor.place.column = 0
  if atLineStart ∧ c = '%' then s.directive?
  else if atLineStart ∧ isDocumentMark (c :: rest) then
    s.documentMark? (if c = '-' then .documentStart else .documentEnd)
  else if c = '[' then s.flowStart? .flowListStart
  else if c = '\x7b' then s.flowStart? .flowMapStart
  else if c = ']' then s.flowEnd? .flowListEnd
  else if c = '\x7d' then s.flowEnd? .flowMapEnd
  else if c = ',' then s.separator?
  -- With anything but a gap behind them, these three may begin a plain scalar.
  else if c = '-' ∧ gapNext then s.item?
  else if c = '?' ∧ (s.inFlow ∨ gapNext) then s.key?
  else if c = ':' ∧ (s.inFlow ∨ gapNext) then s.value?
  else if c = '*' then s.name? .alias
  else if c = '&' then s.name? .anchor
  else if c = '!' then s.tag?
  else if c = '|' ∧ !s.inFlow then s.block? false
  else if c = '>' ∧ !s.inFlow then s.block? true
  else if c = '\'' then s.quoted? false
  else if c = '"' then s.quoted? true
  else if beginsPlain s.inFlow c rest then s.plain?
  else none

/-- Closes everything at the end of the text. -/
def finish? (s : Lexer) : Option (List Token) := do
  let s ← (s.close 0).dropCandidate?
  some s.tokens.reverse

/-- Reads all tokens. Every token takes up a character at least, so the first argument only has to
exceed the length of the text. -/
def run : Nat → Lexer → Option (List Token)
  | 0, _ => none
  | bound + 1, s => do
    let s ← s.toToken.dropStale?
    -- Whatever begins further left than an open list or map closes it.
    let s := s.close (s.cursor.place.column + 1)
    match s.cursor.rest with
    | [] => s.finish?
    | c :: rest => run bound (← s.next? c rest)

end Lexer

/-- The tokens of a text. -/
def Token.ofText? (text : String) : Option (List Token) :=
  let cs := text.toList
  if cs.all isAllowed then (Lexer.start cs).run (cs.length + 1) else none

end ClientStyle.Yaml
