/-
The nodes of a YAML document.

A document is a tree of scalars, lists and maps. A node may carry an anchor, and an alias stands for
the last node of the document that carries its anchor. Anchors are numbered: the number of an anchor
is how many names were known when it appeared, and an alias takes the number that its name had last.
A node may also carry a tag, in which a handle stands for the beginning that a directive of the
document gives to it.
-/
import ClientStyle.NameMap
import ClientStyle.Yaml.Token
set_option autoImplicit false

namespace ClientStyle.Yaml

/-- What stands in front of a node. -/
structure Properties where
  anchor : Option Nat
  tag : Option Tag
  deriving DecidableEq, Repr, Inhabited

namespace Properties

/-- No properties. -/
def none : Properties := ⟨.none, .none⟩

/-- Whether there is a property. -/
def isSome (ps : Properties) : Bool := ps.anchor.isSome || ps.tag.isSome

/-- The properties of a scalar, for which a bare tag is none. -/
def ofScalar (ps : Properties) : Properties :=
  if ps.tag = some Tag.bare then { ps with tag := .none } else ps

end Properties

/-- A node of a document. -/
inductive Node where
  | alias (anchor : Nat)
  | scalar (properties : Properties) (text : String) (plain : Bool)
  | list (properties : Properties) (items : List Node)
  | map (properties : Properties) (entries : List (Node × Node))
  deriving Repr, Inhabited

namespace Node

/-- The node where nothing is written. -/
def blank : Node := .scalar .none "" true

/-- The anchor that a node carries. -/
def anchor? : Node → Option Nat
  | .alias _ => none
  | .scalar ps _ _ => ps.anchor
  | .list ps _ => ps.anchor
  | .map ps _ => ps.anchor

/-- The tag that a node carries. -/
def tag? : Node → Option Tag
  | .alias _ => none
  | .scalar ps _ _ => ps.tag
  | .list ps _ => ps.tag
  | .map ps _ => ps.tag

/-! ## Traversal -/

mutual

/-- The nodes below and including a node, in the order in which they begin. -/
def nodes : Node → List Node
  | .alias anchor => [.alias anchor]
  | .scalar ps text plain => [.scalar ps text plain]
  | .list ps items => .list ps items :: nodesOfItems items
  | .map ps entries => .map ps entries :: nodesOfEntries entries

/-- The nodes of the items of a list. -/
def nodesOfItems : List Node → List Node
  | [] => []
  | item :: rest => nodes item ++ nodesOfItems rest

/-- The nodes of the entries of a map. -/
def nodesOfEntries : List (Node × Node) → List Node
  | [] => []
  | (key, value) :: rest => nodes key ++ nodes value ++ nodesOfEntries rest

end

/-- The node that an alias of an anchor stands for. -/
def anchored? (root : Node) (anchor : Nat) : Option Node :=
  (root.nodes.filter (·.anchor? = some anchor)).getLast?

/-- How much a node weighs: lists and maps have a beginning and an end. -/
def weight : Node → Nat
  | .alias _ => 1
  | .scalar _ _ _ => 1
  | .list _ _ => 2
  | .map _ _ => 2

/-- The weight of a node and all nodes below it. -/
def totalWeight (root : Node) : Nat := (root.nodes.map weight).foldl (· + ·) 0

/-! ## Reading tokens -/

/-- The tokens that are left to read, the numbers of the anchors so far, and what the handles of tags
stand for. -/
structure TokenReader where
  tokens : List Token
  anchors : NameMap Nat
  handles : NameMap Tag
  deriving Repr

/-- A reader of tokens fails or returns what it read. -/
abbrev Parser (α : Type) := StateT TokenReader Option α

/-- The next token. -/
def peek? : Parser (Option Token) := do return (← get).tokens.head?

/-- Leaves the next token behind. -/
def skip : Parser Unit := modify fun r => { r with tokens := r.tokens.tail }

/-- Leaves the next token behind, which has to be a certain one. -/
def expect (t : Token) : Parser Unit := do
  if (← peek?) = some t then skip else failure

/-- The tag in front of a node. -/
def readTag : Parser (Option Tag) := do
  match ← peek? with
  | some (.tag "" suffix) =>
    skip
    return some suffix
  -- What the document says of a handle counts before what is known of it.
  | some (.tag handle suffix) =>
    match ((← get).handles ++ Tag.knownHandles).lookup handle with
    | some start =>
      skip
      return some (start ++ suffix)
    | none => failure
  | _ => return none

/-- The anchor in front of a node. -/
def readAnchor : Parser (Option Nat) := do
  match ← peek? with
  | some (.anchor name) =>
    -- A name that appears again is not counted again, so anchors of two names may have one number.
    let number := (← get).anchors.length
    modify fun r => { r with tokens := r.tokens.tail, anchors := r.anchors.insert name number }
    return some number
  | _ => return none

/-- The anchor and the tag in front of a node, in either order. -/
def readProperties : Parser Properties := do
  match ← readAnchor with
  | some anchor => return ⟨some anchor, ← readTag⟩
  | none =>
    match ← readTag with
    | some tag => return ⟨← readAnchor, some tag⟩
    | none => return .none

/-- The alias of an anchor that is known. -/
def readAlias (name : String) : Parser Node := do
  match (← get).anchors.find? name with
  | some anchor =>
    skip
    return .alias anchor
  | none => failure

/-- Whether a token ends an item or a part of an entry outside of braces. -/
def endsBlockPart (inMap : Bool) : Option Token → Bool
  | some .key | some .value => inMap
  | some .item => !inMap
  | some .blockEnd => true
  | _ => false

/-- Whether a token ends a part of an entry within braces. -/
def endsFlowPart (closing : Token) (t : Option Token) : Bool :=
  t = some .separator || t = some closing

mutual

/-- A node. Lists and maps without braces may be refused, and those without braces and indentation
may be admitted. As all readers of this block, it reads in at most so many steps as its first
argument says. -/
def node : Nat → Bool → Bool → Parser Node
  | 0, _, _ => failure
  | bound + 1, block, indentless => do
    match ← peek? with
    | some (.alias name) => readAlias name
    | _ =>
      let ps ← readProperties
      -- Properties on their own are those of a scalar without text.
      let bare : Parser Node := if ps.isSome then return .scalar ps "" true else failure
      match ← peek? with
      | some (.scalar text plain) =>
        skip
        return .scalar ps.ofScalar text plain
      | some .flowListStart =>
        skip
        return .list ps (← flowItems bound true)
      | some .flowMapStart =>
        skip
        return .map ps (← flowEntries bound true)
      | some .item => if indentless then return .list ps (← indentlessItems bound) else bare
      | some .listStart =>
        if block then
          skip
          return .list ps (← blockItems bound)
        else bare
      | some .mapStart =>
        if block then
          skip
          return .map ps (← blockEntries bound)
        else bare
      | _ => bare

/-- The items of a list without braces. -/
def blockItems : Nat → Parser (List Node)
  | 0 => failure
  | bound + 1 => do
    match ← peek? with
    | some .item =>
      skip
      let item ← if endsBlockPart false (← peek?) then pure blank else node bound true false
      return item :: (← blockItems bound)
    | some .blockEnd =>
      skip
      return []
    | _ => failure

/-- The items of a list that is not indented any further than the map around it. -/
def indentlessItems : Nat → Parser (List Node)
  | 0 => failure
  | bound + 1 => do
    match ← peek? with
    | some .item =>
      skip
      let next ← peek?
      let item ←
        if endsBlockPart false next || endsBlockPart true next then pure blank
        else node bound true false
      return item :: (← indentlessItems bound)
    | _ => return []

/-- The entries of a map without braces. -/
def blockEntries : Nat → Parser (List (Node × Node))
  | 0 => failure
  | bound + 1 => do
    match ← peek? with
    | some .key =>
      skip
      let key ← blockPart bound
      let value ←
        if (← peek?) = some .value then do
          skip
          blockPart bound
        else pure blank
      return (key, value) :: (← blockEntries bound)
    | some .blockEnd =>
      skip
      return []
    | _ => failure

/-- The key or value of an entry without braces. -/
def blockPart : Nat → Parser Node
  | 0 => failure
  | bound + 1 => do
    if endsBlockPart true (← peek?) then return blank else node bound true true

/-- The items of a list in braces. An item may be a map of a single entry, whose key has a mark in
front; if nothing follows the mark, the next token is lost. -/
def flowItems : Nat → Bool → Parser (List Node)
  | 0, _ => failure
  | bound + 1, first => do
    if (← peek?) = some .flowListEnd then
      skip
      return []
    if !first then expect .separator
    match ← peek? with
    | some .flowListEnd =>
      skip
      return []
    | some .key =>
      skip
      let next ← peek?
      let key ←
        -- The token that is skipped may be the colon that `flowValue` looks for.
        if next = some .value || endsFlowPart .flowListEnd next then do
          skip
          pure blank
        else node bound false false
      let value ← flowValue bound .flowListEnd
      return .map .none [(key, value)] :: (← flowItems bound false)
    | _ =>
      let item ← node bound false false
      return item :: (← flowItems bound false)

/-- The entries of a map in braces. -/
def flowEntries : Nat → Bool → Parser (List (Node × Node))
  | 0, _ => failure
  | bound + 1, first => do
    if (← peek?) = some .flowMapEnd then
      skip
      return []
    if !first then expect .separator
    match ← peek? with
    | some .flowMapEnd =>
      skip
      return []
    | some .key =>
      skip
      let next ← peek?
      let key ←
        if next = some .value || endsFlowPart .flowMapEnd next then pure blank
        else node bound false false
      let value ← flowValue bound .flowMapEnd
      return (key, value) :: (← flowEntries bound false)
    | _ =>
      let key ← node bound false false
      return (key, blank) :: (← flowEntries bound false)

/-- The value of an entry in braces, with the colon in front. -/
def flowValue : Nat → Token → Parser Node
  | 0, _ => failure
  | bound + 1, closing => do
    if (← peek?) = some .value then
      skip
      if endsFlowPart closing (← peek?) then return blank else node bound false false
    else return blank

end

/-- The directives in front of a document, of which no two are about the version or the same handle.
Returns whether there are any. -/
def directives (versioned : Bool) : Nat → Parser Bool
  | 0 => failure
  | bound + 1 => do
    match ← peek? with
    | some .version =>
      if versioned then failure
      skip
      let _ ← directives true bound
      return true
    | some (.handle name start) =>
      let handles := (← get).handles
      if handles.contains name then failure
      modify fun r => { r with tokens := r.tokens.tail, handles := handles.insert name start }
      let _ ← directives versioned bound
      return true
    | _ => return false

/-- Whether a token ends a document with nothing in it. -/
def endsDocument : Option Token → Bool
  | none | some .version | some (.handle _ _) | some .documentStart | some .documentEnd => true
  | _ => false

/-- A document: a node, possibly behind a mark and directives, and before marks. -/
def document (bound : Nat) : Parser Node := do
  if (← get).tokens.isEmpty then return blank
  let directed ← directives false bound
  let root ←
    if (← peek?) = some .documentStart then do
      skip
      if endsDocument (← peek?) then pure blank else node bound true false
    else if directed then failure
    else node bound true false
  -- Marks may follow, but no second document.
  modify fun r => { r with tokens := r.tokens.dropWhile (· = .documentEnd) }
  if (← get).tokens.isEmpty then return root else failure

/-- The root of the only document in a text. A step that reads no token comes after one that does, at
most three steps later, which bounds the steps by the number of tokens. -/
def ofText? (text : String) : Option Node := do
  let tokens ← Token.ofText? text
  let (root, _) ← document (3 * tokens.length + 4) |>.run ⟨tokens, [], []⟩
  some root

end Node

end ClientStyle.Yaml
