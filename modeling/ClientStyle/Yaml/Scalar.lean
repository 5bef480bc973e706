/-
The texts of YAML scalars: plain, in quotes, and in blocks of lines.

A scalar may span lines. In plain and quoted ones the blanks around a line break are dropped, a
single line break becomes a space, and of several line breaks all but the first are kept. The lines
of a block are kept as they are, or joined in the same way where both are not indented any further.

A reader starts behind the mark that begins the scalar, and returns the text and the place behind
the scalar, or nothing if the scalar is malformed.
-/
import ClientStyle.Json.Reader
import ClientStyle.Yaml.Cursor
set_option autoImplicit false

namespace ClientStyle.Yaml

/-! ## Folding -/

/-- The blanks and line breaks behind a word, before it is known whether the scalar goes on. -/
structure Gap where
  /-- The blanks before the first line break. -/
  blanks : List Char
  /-- Whether the line was ended. -/
  broken : Bool
  /-- The first line break, unless it is escaped. -/
  first : Option Char
  /-- The line breaks after the first. -/
  more : List Char
  deriving Repr

namespace Gap

/-- The gap without characters. -/
def none : Gap := ⟨[], false, .none, []⟩

/-- Whether there are characters in a gap. -/
def isSome (g : Gap) : Bool := g.broken || !g.blanks.isEmpty

/-- The gap with one more blank, which counts only before the first line break. -/
def addBlank (g : Gap) (c : Char) : Gap :=
  if g.broken then g else { g with blanks := g.blanks ++ [c] }

/-- The gap with one more line break. -/
def addBreak (g : Gap) (c : Char) : Gap :=
  if g.broken then { g with more := g.more ++ [c] } else ⟨[], true, some c, []⟩

/-- What a gap contributes to the text. -/
def text (g : Gap) : List Char :=
  if g.broken then
    -- A single line feed becomes a space. Line breaks of other kinds stay.
    if g.first = some '\n' then if g.more.isEmpty then [' '] else g.more
    else g.first.toList ++ g.more
  else g.blanks

end Gap

/-- A text while it is read: the characters so far, the last one first, and the gap behind them. -/
structure Folded where
  read : List Char
  gap : Gap
  deriving Repr

namespace Folded

/-- The text without characters. -/
def empty : Folded := ⟨[], .none⟩

/-- Counts the gap as part of the text. -/
def closeGap (t : Folded) : List Char := t.gap.text.reverse ++ t.read

/-- Adds a character behind the gap. -/
def push (t : Folded) (c : Char) : Folded := ⟨c :: t.closeGap, .none⟩

/-- Adds a blank to the gap. -/
def addBlank (t : Folded) (c : Char) : Folded := { t with gap := t.gap.addBlank c }

/-- Adds a line break to the gap. -/
def addBreak (t : Folded) (c : Char) : Folded := { t with gap := t.gap.addBreak c }

/-- Adds a line break that is escaped and becomes no part of the text. -/
def addEscapedBreak (t : Folded) : Folded := ⟨t.closeGap, { Gap.none with broken := true }⟩

end Folded

/-! ## Plain scalars -/

/-- The marks of lists and maps in braces. -/
def isFlowMark (c : Char) : Bool := c = ',' || c = '[' || c = ']' || c = '\x7b' || c = '\x7d'

/-- Whether a plain scalar ends before a character that follows another character of it. -/
def endsPlain (inFlow : Bool) (c : Char) (rest : List Char) : Bool :=
  (c = ':' && isGapNext rest) || (inFlow && isFlowMark c)

/-- Whether a plain scalar ends before a character that follows a gap. -/
def endsPlainAfterGap (inFlow : Bool) (indent : Nat) (p : Place) (c : Char) (rest : List Char) :
    Bool :=
  c = '#' || (!inFlow && p.column < indent) || (p.column = 0 && isDocumentMark (c :: rest))

/-- Whether a colon is out of place: before a mark of a list or map in braces, within one. -/
def isStrayColon (inFlow : Bool) (c : Char) (rest : List Char) : Bool :=
  inFlow && c = ':' && rest.head?.any fun d => d = '?' || isFlowMark d

/-- A plain scalar whose lines have to be indented. The flag tells whether the line was ended behind
the scalar. -/
def plain (inFlow : Bool) (indent : Nat) (t : Folded) (p : Place) :
    List Char → Option (List Char × Bool × Cursor)
  | [] => some (t.read.reverse, t.gap.broken, ⟨p, []⟩)
  | '\r' :: '\n' :: rest => plain inFlow indent (t.addBreak '\n') p.nextLine rest
  | c :: rest =>
    match lineBreak? c with
    | some b => plain inFlow indent (t.addBreak b) p.nextLine rest
    | none =>
      if isBlank c then
        -- A tab indents nothing.
        if t.gap.broken && p.column < indent && c = '\t' then none
        else plain inFlow indent (t.addBlank c) (p.next c) rest
      else if t.gap.isSome && endsPlainAfterGap inFlow indent p c rest then
        some (t.read.reverse, t.gap.broken, ⟨p, c :: rest⟩)
      else if isStrayColon inFlow c rest then none
      else if endsPlain inFlow c rest then some (t.read.reverse, t.gap.broken, ⟨p, c :: rest⟩)
      else plain inFlow indent (t.push c) (p.next c) rest

/-! ## Quoted scalars -/

/-- A scalar in single quotes, in which a quote is written twice. -/
def singleQuoted (t : Folded) (p : Place) : List Char → Option (List Char × Cursor)
  | [] => none
  | '\'' :: '\'' :: rest => singleQuoted (t.push '\'') ((p.next '\'').next '\'') rest
  | '\r' :: '\n' :: rest => singleQuoted (t.addBreak '\n') p.nextLine rest
  | c :: rest =>
    match lineBreak? c with
    | some b => singleQuoted (t.addBreak b) p.nextLine rest
    | none =>
      if isBlank c then singleQuoted (t.addBlank c) (p.next c) rest
      else if p.column = 0 && isDocumentMark (c :: rest) then none
      else if c = '\'' then some (t.closeGap.reverse, ⟨p.next c, rest⟩)
      else singleQuoted (t.push c) (p.next c) rest

/-- The character with the code of some hexadecimal digits. -/
def charOfDigits? (width : Nat) (digits : List Char) : Option Char := do
  let values ← (digits.take width).mapM Json.hexValue?
  let code := values.foldl (· * 16 + ·) 0
  if values.length = width ∧ code.isValidChar then some (Char.ofNat code) else none

/-- The character that an escape stands for, and how many characters it takes up behind the
backslash. -/
def escape? : List Char → Option (Char × Nat)
  | [] => none
  | c :: rest =>
    match c with
    | '0' => some ('\x00', 1)
    | 'a' => some ('\x07', 1)
    | 'b' => some ('\x08', 1)
    | 't' => some ('\t', 1)
    | '\t' => some ('\t', 1)
    | 'n' => some ('\n', 1)
    | 'v' => some ('\x0b', 1)
    | 'f' => some ('\x0c', 1)
    | 'r' => some ('\r', 1)
    | 'e' => some ('\x1b', 1)
    | ' ' => some (' ', 1)
    | '"' => some ('"', 1)
    | '/' => some ('/', 1)
    | '\\' => some ('\\', 1)
    | 'N' => some ('\x85', 1)
    | '_' => some ('\xa0', 1)
    | 'L' => some ('\u2028', 1)
    | 'P' => some ('\u2029', 1)
    | 'x' => (charOfDigits? 2 rest).map (·, 3)
    | 'u' => (charOfDigits? 4 rest).map (·, 5)
    | 'U' => (charOfDigits? 8 rest).map (·, 9)
    | _ => none

/-- A scalar in double quotes. `taken` characters in front belong to an escape that is read
already. -/
def doubleQuoted (t : Folded) (p : Place) : Nat → List Char → Option (List Char × Cursor)
  | _, [] => none
  | taken + 1, c :: rest => doubleQuoted t (p.next c) taken rest
  | 0, '\r' :: '\n' :: rest => doubleQuoted (t.addBreak '\n') p.nextLine 0 rest
  | 0, '\\' :: '\r' :: '\n' :: rest => doubleQuoted t.addEscapedBreak p.nextLine 0 rest
  | 0, c :: rest =>
    match lineBreak? c with
    | some b => doubleQuoted (t.addBreak b) p.nextLine 0 rest
    | none =>
      if isBlank c then doubleQuoted (t.addBlank c) (p.next c) 0 rest
      else if p.column = 0 && isDocumentMark (c :: rest) then none
      else if c = '"' then some (t.closeGap.reverse, ⟨p.next c, rest⟩)
      else if c = '\\' then
        match rest with
        | d :: after =>
          -- The break is escaped, so the two lines are joined without a space.
          if (lineBreak? d).isSome then doubleQuoted t.addEscapedBreak p.nextLine 0 after
          else
            match escape? (d :: after) with
            | some (e, n) => doubleQuoted (t.push e) (p.next c) n (d :: after)
            | none => none
        | [] => none
      else doubleQuoted (t.push c) (p.next c) 0 rest

/-! ## Blocks of lines -/

/-- What becomes of the line breaks at the end of a block. -/
inductive Chomping where
  | strip
  | clip
  | keep
  deriving DecidableEq, Repr

/-- How a block is to be read. -/
structure BlockStyle where
  folded : Bool
  chomping : Chomping
  /-- By how much the block is indented, if it says so. -/
  indentation : Option Nat
  deriving DecidableEq, Repr

/-- The line breaks that a sign asks for. -/
def Chomping.ofSign? (c : Char) : Option Chomping :=
  if c = '+' then some .keep else if c = '-' then some .strip else none

/-- The indentation that a digit asks for. -/
def indentationOf? (c : Char) : Option Nat :=
  if '1' ≤ c && c ≤ '9' then some (c.toNat - '0'.toNat) else none

/-- The sign and the digit behind the mark of a block, in either order, and how many there are. -/
def blockStyle (folded : Bool) (rest : List Char) : BlockStyle × Nat :=
  match rest with
  | [] => (⟨folded, .clip, none⟩, 0)
  | c :: rest =>
    match Chomping.ofSign? c, indentationOf? c with
    | some sign, _ =>
      match rest.head?.bind indentationOf? with
      | some n => (⟨folded, sign, some n⟩, 2)
      | none => (⟨folded, sign, none⟩, 1)
    | none, some n =>
      match rest.head?.bind Chomping.ofSign? with
      | some sign => (⟨folded, sign, some n⟩, 2)
      | none => (⟨folded, .clip, some n⟩, 1)
    | none, none => (⟨folded, .clip, none⟩, 0)

/-- A block while it is read: the characters so far, the last one first, the break at the end of
the last line, the breaks of empty lines after it, and whether the last line begins with a blank. -/
structure Block where
  read : List Char
  lastBreak : Option Char
  emptyLines : List Char
  startsBlank : Bool
  deriving Repr

namespace Block

/-- Joins the line that begins with a character to what was read before. -/
def startLine (b : Block) (folded : Bool) (c : Char) : Block :=
  let joint :=
    -- Lines are joined unless one of them is indented further than the block.
    if folded && b.lastBreak = some '\n' && !b.startsBlank && !isBlank c then
      if b.emptyLines.isEmpty then [' '] else []
    else b.lastBreak.toList
  ⟨c :: (b.emptyLines.reverse ++ (joint ++ b.read)), none, [], isBlank c⟩

/-- The text of a block. -/
def text (b : Block) (chomping : Chomping) : List Char :=
  match chomping with
  | .strip => b.read.reverse
  | .clip => b.read.reverse ++ b.lastBreak.toList
  | .keep => b.read.reverse ++ b.lastBreak.toList ++ b.emptyLines

end Block

/-- Moves over the empty lines at the beginning of a block, and over the spaces in front of its
first line. Returns the breaks and the widest indentation. -/
def leadingLines (breaks : List Char) (widest : Nat) (p : Place) :
    List Char → Option (List Char × Nat × Cursor)
  | [] => some (breaks, max widest p.column, ⟨p, []⟩)
  | '\r' :: '\n' :: rest =>
    leadingLines (breaks ++ ['\n']) (max widest p.column) p.nextLine rest
  | c :: rest =>
    match lineBreak? c with
    | some b => leadingLines (breaks ++ [b]) (max widest p.column) p.nextLine rest
    | none =>
      if c = ' ' then leadingLines breaks widest (p.next c) rest
      else if c = '\t' then none
      else some (breaks, max widest p.column, ⟨p, c :: rest⟩)

/-- The lines of a block with a known indentation. The flag tells whether the place is in a line,
behind its indentation. -/
def blockLines (folded : Bool) (indent : Nat) (b : Block) (inLine : Bool) (p : Place) :
    List Char → Option (Block × Cursor)
  | [] => some (b, ⟨p, []⟩)
  | '\r' :: '\n' :: rest =>
    let b := if inLine then { b with lastBreak := some '\n' }
      else { b with emptyLines := b.emptyLines ++ ['\n'] }
    blockLines folded indent b false p.nextLine rest
  | c :: rest =>
    match lineBreak? c with
    | some d =>
      let b := if inLine then { b with lastBreak := some d }
        else { b with emptyLines := b.emptyLines ++ [d] }
      blockLines folded indent b false p.nextLine rest
    | none =>
      if inLine then blockLines folded indent { b with read := c :: b.read } true (p.next c) rest
      else if p.column = indent then
        blockLines folded indent (b.startLine folded c) true (p.next c) rest
      else if c = ' ' then blockLines folded indent b false (p.next c) rest
      else if c = '\t' then none
      else some (b, ⟨p, c :: rest⟩)

/-- A block behind its mark. `outer` is the least indentation that a block may have here. -/
def block (folded : Bool) (outer : Nat) (c : Cursor) : Option (List Char × Cursor) := do
  let (style, n) := blockStyle folded c.rest
  let body ← (c.forward n).endLine?
  let (breaks, indent, start) ←
    match style.indentation with
    | some n => some ([], (outer - 1) + n, body)
    -- The first line that is not empty shows how far the block is indented.
    | none => do
      let (breaks, widest, start) ← leadingLines [] 0 body.place body.rest
      some (breaks, max widest (max outer 1), start)
  let (b, after) ← blockLines folded indent ⟨[], none, breaks, false⟩ false start.place start.rest
  some (b.text style.chomping, after)

end ClientStyle.Yaml
