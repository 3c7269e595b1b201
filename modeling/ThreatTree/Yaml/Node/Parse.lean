import ThreatTree.Yaml.Token.Stream
import ThreatTree.Yaml.Typing

/-!
# From tokens to nodes

The grammar of nodes over tokens. A text holds at most one document. Tags are completed by the
handles of the document, a scalar without a tag is given its kind by its spelling, and aliases are
replaced by what they name. Names are given once, and an alias names what stands before it.
-/

namespace ThreatTree.Yaml

/-- What the parser has still to read and what has been named so far. -/
structure Parser where
  tokens : List Token
  /-- Why there are no more tokens. -/
  failure : Failure
  handles : List (String × String)
  /-- A node that is not complete yet is `enclosing`, with the number of collections it is in. -/
  anchors : List (String × Node)
  /-- The number of collections that the next token is in. -/
  depth : Nat

namespace Parser

/-- A part of the grammar. -/
abbrev Parse := StateT Parser (Except Failure)

def malformed {α : Type} : Parse α := throw Failure.malformed

/-- The next token. -/
def peek : Parse Token := do
  match (← get).tokens with
  | t :: _ => return t
  | [] => throw (← get).failure

/-- Passes over the next token. -/
def skip : Parse Unit := modify fun p => { p with tokens := p.tokens.drop 1 }

/-- Passes over the next token, which must be the given one. -/
def expect (t : Token) : Parse Unit := do
  if (← peek) = t then skip else malformed

/-! ### Names and tags -/

/-- What stands before a node: the name that it is given and its tag. -/
structure Properties where
  anchor : Option String
  tag : Option String

/-- The full name of a tag. -/
def completeTag (handle : Option String) (suffix : String) : Parse String := do
  match handle with
  | none => return suffix
  | some h =>
    match (← get).handles.find? (·.1 = h) with
    | some (_, replacement) => return replacement ++ suffix
    | none => malformed

/-- A name, if one is given here. -/
def anchor? : Parse (Option String) := do
  match (← peek) with
  | .anchor name => skip; return some name
  | _ => return none

/-- A tag, if one is given here. -/
def tag? : Parse (Option (Option String × String)) := do
  match (← peek) with
  | .tag handle suffix => skip; return some (handle, suffix)
  | _ => return none

/-- A name and a tag in either order. -/
def properties : Parse Properties := do
  let before ← anchor?
  let tag ← tag?
  let anchor ← if before.isNone && tag.isSome then anchor? else pure before
  let tag ← match tag with
    | some (handle, suffix) => some <$> completeTag handle suffix
    | none => pure none
  return ⟨anchor, tag⟩

/-- The tag that leaves the kind of a node to its spelling. -/
def unspecific : String := "!"

/-- The kind of a collection. -/
def collectionTag (tag : Option String) (otherwise : Tag) : Tag :=
  match tag.filter (· ≠ unspecific) with
  | some name => Tag.ofName name
  | none => otherwise

/-- The kind of a scalar. -/
def scalarTag (tag : Option String) (plain : Bool) (text : String) : Tag :=
  match tag with
  | some name => if name = unspecific then Typing.tagOf text else Tag.ofName name
  | none => if plain then Typing.tagOf text else .str

/-- Refuses a name that is given already. -/
def checkAnchor (anchor : Option String) : Parse Unit := do
  match anchor with
  | some name => if (← get).anchors.any (·.1 = name) then malformed
  | none => return ()

/-- The node with a name. -/
def named (name : String) : Parse Node := do
  match (← get).anchors.find? (·.1 = name) with
  -- What is still open is known by its level, which is seen from here as a distance.
  | some (_, .enclosing depth isMapping) =>
    return .enclosing ((← get).depth - depth - 1) isMapping
  | some (_, node) => return node
  | none => malformed

/-- Gives a node its name. A later node of the name takes the place of an earlier one. -/
def define (anchor : Option String) (node : Node) : Parse Unit :=
  match anchor with
  | some name => modify fun p => { p with anchors := (name, node) :: p.anchors }
  | none => return ()

/-- The scalar that stands where nothing is written. -/
def emptyScalar : Node := .scalar .null ""

/-- A scalar with its properties. -/
def scalarNode (props : Properties) (plain : Bool) (text : String) : Parse Node := do
  checkAnchor props.anchor
  let node := Node.scalar (scalarTag props.tag plain text) text
  define props.anchor node
  return node

/-- The depth to which collections can be nested. -/
def deepest : Nat := 490

/-- Reads what stands in a collection. -/
def inside {α : Type} (read : Parse α) : Parse α := do
  if deepest ≤ (← get).depth then throw .tooDeep
  modify fun p => { p with depth := p.depth + 1 }
  let a ← read
  modify fun p => { p with depth := p.depth - 1 }
  return a

/-- A sequence with its properties, whose entries `read` reads. -/
def sequenceNode (props : Properties) (read : Parse (List Node)) : Parse Node := do
  checkAnchor props.anchor
  -- Named before the entries are read, since one of them may refer back to the whole.
  define props.anchor (.enclosing (← get).depth false)
  let node := Node.sequence (collectionTag props.tag .seq) (← inside read)
  define props.anchor node
  return node

/-- A mapping with its properties, whose entries `read` reads. -/
def mappingNode (props : Properties) (read : Parse (List (Node × Node))) : Parse Node := do
  checkAnchor props.anchor
  define props.anchor (.enclosing (← get).depth true)
  let node := Node.mapping (collectionTag props.tag .map) (← inside read)
  define props.anchor node
  return node

/-! ### Nodes -/

mutual

/-- A node. Block collections may begin here if `block` says so, and a block sequence that is not
indented further than its key if `compact` does. -/
def node : Nat → Bool → Bool → Parse Node
  | 0, _, _ => malformed
  | fuel + 1, block, compact => do
    if let .alias name ← peek then
      skip
      named name
    else
      let props ← properties
      let t ← peek
      if compact && t = .blockEntry then sequenceNode props (compactEntries fuel)
      else
        match t with
        | .scalar plain text => skip; scalarNode props plain text
        | .flowSequenceStart => sequenceNode props (do skip; flowEntries fuel true)
        | .flowMappingStart => mappingNode props (do skip; flowPairs fuel true)
        | .blockSequenceStart =>
          if block then sequenceNode props (do skip; blockEntries fuel) else bare props
        | .blockMappingStart =>
          if block then mappingNode props (do skip; blockPairs fuel) else bare props
        | _ => bare props

/-- A node of which only the properties are written. -/
def bare (props : Properties) : Parse Node := do
  if props.anchor.isNone && props.tag.isNone then malformed
  scalarNode props true ""

/-- A node, or the empty scalar if one of the tokens `ends` comes next. -/
def nodeUnless : Nat → Bool → Bool → List Token → Parse Node
  | 0, _, _, _ => malformed
  | fuel + 1, block, compact, ends => do
    if ends.contains (← peek) then return emptyScalar else node fuel block compact

/-- The entries of a block sequence. -/
def blockEntries : Nat → Parse (List Node)
  | 0 => malformed
  | fuel + 1 => do
    if (← peek) = .blockEntry then
      skip
      let item ← nodeUnless fuel true false [.blockEntry, .blockEnd]
      return item :: (← blockEntries fuel)
    else
      expect .blockEnd
      return []

/-- The entries of a block sequence that is not indented further than its key. -/
def compactEntries : Nat → Parse (List Node)
  | 0 => malformed
  | fuel + 1 => do
    if (← peek) = .blockEntry then
      skip
      let item ← nodeUnless fuel true false [.blockEntry, .key, .value, .blockEnd]
      return item :: (← compactEntries fuel)
    else return []

/-- The entries of a block mapping. -/
def blockPairs : Nat → Parse (List (Node × Node))
  | 0 => malformed
  | fuel + 1 => do
    if (← peek) = .key then
      skip
      let ends := [.key, .value, .blockEnd]
      let key ← nodeUnless fuel true true ends
      let value ← if (← peek) = .value then do
          skip
          nodeUnless fuel true true ends
        else pure emptyScalar
      return (key, value) :: (← blockPairs fuel)
    else
      expect .blockEnd
      return []

/-- The entries of a flow sequence. An entry with a colon is a mapping of one pair. -/
def flowEntries : Nat → Bool → Parse (List Node)
  | 0, _ => malformed
  | fuel + 1, first => do
    if (← peek) = .flowSequenceEnd then
      skip
      return []
    else
      if !first then expect .flowEntry
      match (← peek) with
      | .key =>
        let pair ← inside do
          skip
          let key ← nodeUnless fuel false false [.value, .flowEntry, .flowSequenceEnd]
          return (key, ← flowValue fuel [.flowEntry, .flowSequenceEnd])
        return .mapping .map [pair] :: (← flowEntries fuel false)
      -- The last comma may have nothing behind it.
      | .flowSequenceEnd =>
        skip
        return []
      | _ =>
        let item ← node fuel false false
        return item :: (← flowEntries fuel false)

/-- The entries of a flow mapping. -/
def flowPairs : Nat → Bool → Parse (List (Node × Node))
  | 0, _ => malformed
  | fuel + 1, first => do
    if (← peek) = .flowMappingEnd then
      skip
      return []
    else
      if !first then expect .flowEntry
      match (← peek) with
      | .key =>
        skip
        let key ← nodeUnless fuel false false [.value, .flowEntry, .flowMappingEnd]
        let value ← flowValue fuel [.flowEntry, .flowMappingEnd]
        return (key, value) :: (← flowPairs fuel false)
      | .flowMappingEnd =>
        skip
        return []
      | _ =>
        let key ← node fuel false false
        return (key, emptyScalar) :: (← flowPairs fuel false)

/-- The value of a pair in a flow collection. -/
def flowValue : Nat → List Token → Parse Node
  | 0, _ => malformed
  | fuel + 1, ends => do
    if (← peek) = .value then
      skip
      nodeUnless fuel false false ends
    else return emptyScalar

end

/-! ### Documents -/

/-- The handles that every document knows. -/
def defaultHandles : List (String × String) := [("!", "!"), ("!!", Tag.base)]

/-- The directives in front of a document. `version` says whether one has given the version. -/
def directives : Nat → Bool → List (String × String) → Parse (List (String × String))
  | 0, _, _ => malformed
  | fuel + 1, version, handles => do
    match (← peek) with
    | .directive (.version major _) =>
      skip
      if version || major ≠ 1 then malformed
      directives fuel true handles
    | .directive (.tag handle replacement) =>
      skip
      if handles.any (·.1 = handle) then malformed
      directives fuel version (handles ++ [(handle, replacement)])
    | .directive .reserved =>
      skip
      directives fuel version handles
    | _ => return handles ++ defaultHandles

/-- Passes over marks that end a document. -/
def skipEnds : Nat → Parse Unit
  | 0 => return ()
  | fuel + 1 => do
    if (← peek) = .documentEnd then
      skip
      skipEnds fuel

/-- The node of a document that begins with its mark, after its directives. -/
def explicitDocument (fuel : Nat) : Parse Node := do
  let handles ← directives fuel false []
  expect .documentStart
  modify fun p => { p with handles := handles }
  match (← peek) with
  | .directive _ | .documentStart | .documentEnd | .streamEnd => return emptyScalar
  | _ => node fuel true false

/-- The node of a text: nothing, or one document. -/
def document (fuel : Nat) : Parse (Option Node) := do
  match (← peek) with
  | .streamEnd => return none
  | .directive _ | .documentStart => finish (← explicitDocument fuel)
  | _ => finish (← node fuel true false)
where
  /-- Nothing but marks may stand behind a document. -/
  finish (n : Node) : Parse (Option Node) := do
    skipEnds fuel
    expect .streamEnd
    return some n

end Parser

/-- The node of a text, if it has one. Each level of the grammar takes two steps for a token at
most, so there is fuel enough. -/
def Node.ofText? (s : String) : Except Failure (Option Node) := do
  let stream := Stream.ofText s
  let start : Parser :=
    ⟨stream.tokens, stream.failure.getD .malformed, Parser.defaultHandles, [], 0⟩
  let (node, _) ← (Parser.document (4 * stream.tokens.length + 16)).run start
  return node

end ThreatTree.Yaml
