/-
Places in a YAML text, and the classes of its characters.

What a character means in YAML depends on its column and its line, so readers carry the place along
with the rest of the text.
-/
set_option autoImplicit false

namespace ClientStyle.Yaml

/-! ## Characters -/

/-- Whether a character may stand in a YAML text at all. -/
def isAllowed (c : Char) : Bool :=
  c = '\t' || c = '\n' || c = '\r' || (' ' ≤ c && c ≤ '~') || c = '\x85' ||
    ('\xa0' ≤ c && c ≤ '\ufffd') || '\uffff' < c

/-- Spaces and tabs. -/
def isBlank (c : Char) : Bool := c = ' ' || c = '\t'

/-- The line break that a character stands for: a line feed for the usual ones, and itself for the
line and paragraph separators. -/
def lineBreak? (c : Char) : Option Char :=
  if c = '\n' || c = '\r' || c = '\x85' then some '\n'
  else if c = '\u2028' || c = '\u2029' then some c
  else none

/-- Whether nothing, a blank or a line break comes next. -/
def isGapNext : List Char → Bool
  | [] => true
  | c :: _ => isBlank c || (lineBreak? c).isSome

/-- The characters of names. -/
def isNameChar (c : Char) : Bool := c.isAlphanum || c = '_' || c = '-'

/-- The byte order mark. -/
def byteOrderMark : Char := '\ufeff'

/-- Whether a text begins with a mark between documents. -/
def isDocumentMark : List Char → Bool
  | '-' :: '-' :: '-' :: rest => isGapNext rest
  | '.' :: '.' :: '.' :: rest => isGapNext rest
  | _ => false

/-! ## Places -/

/-- A place in a text: its line, and its distance from the beginning of the line, counted in
characters and in bytes of the encoded text. -/
structure Place where
  line : Nat
  column : Nat
  offset : Nat
  deriving DecidableEq, Repr, Inhabited

namespace Place

/-- The place behind a character of a line. -/
def next (p : Place) (c : Char) : Place := ⟨p.line, p.column + 1, p.offset + c.utf8Size⟩

/-- The place behind some characters of a line. -/
def forward (p : Place) (cs : List Char) : Place := cs.foldl next p

/-- The beginning of the next line. -/
def nextLine (p : Place) : Place := ⟨p.line + 1, 0, 0⟩

end Place

/-- The rest of a text with its place. -/
structure Cursor where
  place : Place
  rest : List Char
  deriving Repr, Inhabited

namespace Cursor

/-- The beginning of a text. -/
def start (text : List Char) : Cursor := ⟨⟨0, 0, 0⟩, text⟩

/-- Moves over some characters of a line. -/
def forward (c : Cursor) (n : Nat) : Cursor :=
  ⟨c.place.forward (c.rest.take n), c.rest.drop n⟩

/-- Moves over the characters of a class, which are no line breaks. -/
def skipWhile (p : Char → Bool) (c : Cursor) : Cursor := c.forward (c.rest.takeWhile p).length

/-- Moves over the rest of a line. -/
def skipLine (c : Cursor) : Cursor := c.skipWhile fun d => (lineBreak? d).isNone

/-- Moves over a line break, if one comes next. -/
def skipBreak (c : Cursor) : Cursor :=
  match c.rest with
  | '\r' :: '\n' :: rest => ⟨c.place.nextLine, rest⟩
  | d :: rest => if (lineBreak? d).isSome then ⟨c.place.nextLine, rest⟩ else c
  | [] => c

/-- Moves over blanks and a comment, and over the line break behind them; nothing else may stand on
the rest of the line. -/
def endLine? (c : Cursor) : Option Cursor :=
  let blanks := c.skipWhile isBlank
  let bare := if blanks.rest.head? = some '#' then blanks.skipLine else blanks
  match bare.rest with
  | [] => some bare
  | d :: _ => if (lineBreak? d).isSome then some bare.skipBreak else none

end Cursor

end ClientStyle.Yaml
