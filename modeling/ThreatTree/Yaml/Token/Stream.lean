import ThreatTree.Yaml.Token.Basic
import ThreatTree.Yaml.Token.Property
import ThreatTree.Yaml.Token.Scalar

/-!
# Token streams

A text as its tokens. Two things are not decided where they stand: a block collection begins and
ends by indentation alone, and a key is known to be one only at the colon behind it. So the reader
keeps the columns of the open block collections, and for each level of flow collections the last
place where a key could begin; at a colon a key token is put there afterwards. Such a key is short:
one line and at most 1024 characters.

A text that is refused somewhere still has the tokens before that place: `Stream.tokens` are those
that do not wait for anything behind it.
-/

namespace ThreatTree.Yaml

open Scan

/-- A place where a key without a mark of its own may begin. -/
structure KeyPlace where
  /-- How many tokens stand before it. -/
  token : Nat
  /-- Whether nothing but a key may begin here. -/
  required : Bool
  index : Nat
  line : Nat
  column : Nat

/-- The state of the reader between two tokens. -/
structure Lexer where
  cursor : Cursor
  tokens : Array Token
  /-- How many flow collections are open. -/
  flow : Nat
  /-- The column of the innermost block collection, `-1` outside all of them. -/
  indent : Int
  /-- The columns of the block collections around that one. -/
  outer : List Int
  /-- Whether a key without a mark may begin at the next token. -/
  allowKey : Bool
  /-- The places where a key may have begun, by level of flow collections. -/
  keys : List (Nat × KeyPlace)

namespace Lexer

/-- The state before a text. -/
def start (cs : List Char) : Lexer := ⟨Cursor.start cs, #[], 0, -1, [], true, []⟩

/-- A step of the reader. -/
abbrev Step := StateT Lexer (Except Failure)

/-- A step that reads at the cursor. -/
def scan {α : Type} (s : Scan α) : Step α := do
  let (a, cursor) ← s.run (← get).cursor
  modify fun l => { l with cursor := cursor }
  return a

def push (t : Token) : Step Unit := modify fun l => { l with tokens := l.tokens.push t }

/-- Puts a token in front of the `n`-th one. -/
def insert (n : Nat) (t : Token) : Step Unit :=
  modify fun l =>
    { l with tokens := (l.tokens.toList.take n ++ t :: l.tokens.toList.drop n).toArray }

def setAllowKey (b : Bool) : Step Unit := modify fun l => { l with allowKey := b }

def inFlow : Step Bool := do return 0 < (← get).flow

/-! ### Keys -/

/-- Forgets the place of a key on the current level. A place where only a key may begin must not be
forgotten. -/
def forgetKey : Step Unit := do
  let l ← get
  if l.keys.any fun (level, k) => level = l.flow && k.required then throw .malformed
  set { l with keys := l.keys.filter (·.1 ≠ l.flow) }

/-- Remembers the current place as one where a key may begin. -/
def saveKey : Step Unit := do
  if (← get).allowKey then
    forgetKey
    modify fun l =>
      let p := l.cursor
      let required := l.flow = 0 && l.indent = p.column
      { l with keys := (l.flow, ⟨l.tokens.size, required, p.index, p.line, p.column⟩) :: l.keys }

/-- Whether a place is too far back for a key that ends at the cursor. -/
def isStale (l : Lexer) (k : KeyPlace) : Bool :=
  k.line ≠ l.cursor.line || 1024 < l.cursor.index - k.index

/-- Forgets the places that are too far back for a key. -/
def forgetStaleKeys : Step Unit := do
  let l ← get
  if l.keys.any fun (_, k) => l.isStale k && k.required then throw .malformed
  set { l with keys := l.keys.filter fun (_, k) => !l.isStale k }

/-! ### Indentation -/

/-- Closes the block collections that are indented further than `column`. -/
def unwind (column : Int) : Step Unit :=
  modify fun l =>
    if 0 < l.flow then l
    else
      let closed := ((l.indent :: l.outer).takeWhile (column < ·)).length
      let rest := (l.indent :: l.outer).drop closed
      { l with
        tokens := l.tokens ++ Array.replicate closed Token.blockEnd
        indent := rest.headD (-1)
        outer := rest.drop 1 }

/-- Opens a block collection at a column, if none is open there. -/
def openBlock (column : Nat) : Step Bool := do
  let l ← get
  if l.indent < column then
    set { l with indent := column, outer := l.indent :: l.outer }
    return true
  else return false

/-- Opens a block collection here in front of a mark; where no key may begin, a mark may not stand
either. -/
def openBlockHere (t : Token) : Step Unit := do
  if !(← inFlow) then
    if !(← get).allowKey then throw .malformed
    if (← openBlock (← get).cursor.column) then push t

/-! ### Tokens -/

/-- Passes over blanks, comments and line ends. Outside flow collections a key may begin on each new
line. -/
def skipToToken : Nat → Step Unit
  | 0 => return ()
  | fuel + 1 => do
    let l ← get
    if l.cursor.index = 0 && l.cursor.rest.head? = some byteOrderMark then scan (skip 1)
    scan skipComment
    if (← scan (nextIs isBreak)) then
      let _ ← scan lineBreak
      if !(← inFlow) then setAllowKey true
      skipToToken fuel

/-- Takes the next `n` characters as a token. -/
def mark (n : Nat) (t : Token) : Step Unit := do
  scan (skip n)
  push t

/-- A line or a mark that belongs to no document. -/
def outside (read : Step Unit) : Step Unit := do
  unwind (-1)
  forgetKey
  setAllowKey false
  read

/-- The opening bracket of a flow collection. -/
def openFlow (t : Token) : Step Unit := do
  -- Before the level rises: the whole collection may turn out to be a key.
  saveKey
  modify fun l => { l with flow := l.flow + 1, allowKey := true }
  mark 1 t

/-- The closing bracket of a flow collection. One without an opening bracket has no place. -/
def closeFlow (t : Token) : Step Unit := do
  forgetKey
  if !(← inFlow) then throw .malformed
  modify fun l => { l with flow := l.flow - 1, allowKey := false }
  mark 1 t

/-- A comma. -/
def flowEntry : Step Unit := do
  setAllowKey true
  forgetKey
  mark 1 .flowEntry

/-- The hyphen of an entry. -/
def blockEntry : Step Unit := do
  openBlockHere .blockSequenceStart
  setAllowKey true
  forgetKey
  mark 1 .blockEntry

/-- The question mark of a key. -/
def explicitKey : Step Unit := do
  openBlockHere .blockMappingStart
  setAllowKey (!(← inFlow))
  forgetKey
  mark 1 .key

/-- The colon of a value. If a key may have begun before it, that was a key. -/
def value : Step Unit := do
  let l ← get
  match l.keys.find? (·.1 = l.flow) with
  | some (_, k) =>
    set { l with keys := l.keys.filter (·.1 ≠ l.flow) }
    insert k.token .key
    -- The mapping begins where its first key does, so its mark goes in front of that of the key.
    if !(← inFlow) then
      if (← openBlock k.column) then insert k.token .blockMappingStart
    setAllowKey false
  | none =>
    openBlockHere .blockMappingStart
    setAllowKey (!(← inFlow))
    forgetKey
  mark 1 .value

/-- A word that a key may begin with and no key comes right behind. -/
def word (read : Scan Token) : Step Unit := do
  saveKey
  setAllowKey false
  push (← scan read)

/-- A plain scalar. A key may begin behind it if a line ends there. -/
def plainScalar : Step Unit := do
  saveKey
  let l ← get
  let (text, broken) ← scan (Scalar.plain (0 < l.flow) (l.indent + 1))
  setAllowKey broken
  push (.scalar true (String.ofList text))

/-- A block scalar. -/
def blockScalar (folded : Bool) : Step Unit := do
  setAllowKey true
  forgetKey
  let text ← scan (Scalar.block folded (← get).indent)
  push (.scalar false (String.ofList text))

/-- The characters that no plain scalar begins with. -/
def isIndicator (c : Char) : Bool := "-?:,[]\x7b\x7d#&*!|>'\"%@\x60".toList.contains c

/-- Whether a plain scalar begins with `c`, where `next` comes after it. -/
def beginsPlain (flow : Bool) (c : Char) (next : Option Char) : Bool :=
  !(isGap c || isIndicator c) ||
    (!next.all isGap && (c = '-' || (!flow && (c = '?' || c = ':'))))

/-- The token that begins with `c`. -/
def token (c : Char) : Step Unit := do
  let l ← get
  let p := l.cursor
  let flow := 0 < l.flow
  -- Three of a kind at the start of a line, alone.
  let atMark := p.column = 0 && p.rest.take 3 = [c, c, c] && (p.rest[3]?).all isGap
  let gapNext := (p.rest[1]?).all isGap
  if c = '%' && p.column = 0 then outside (do push (.directive (← scan Property.directive)))
  else if c = '-' && atMark then outside (mark 3 .documentStart)
  else if c = '.' && atMark then outside (mark 3 .documentEnd)
  else if c = '[' then openFlow .flowSequenceStart
  else if c = '\x7b' then openFlow .flowMappingStart
  else if c = ']' then closeFlow .flowSequenceEnd
  else if c = '\x7d' then closeFlow .flowMappingEnd
  else if c = ',' then flowEntry
  else if c = '-' && gapNext then blockEntry
  else if c = '?' && (flow || gapNext) then explicitKey
  else if c = ':' && (flow || gapNext) then value
  else if c = '*' then word (do return .alias (← Property.name))
  else if c = '&' then word (do return .anchor (← Property.name))
  else if c = '!' then word (do let (h, s) ← Property.tag; return .tag h s)
  else if c = '|' && !flow then blockScalar false
  else if c = '>' && !flow then blockScalar true
  else if c = '\'' then word (do return .scalar false (String.ofList (← Scalar.quoted false)))
  else if c = '"' then word (do return .scalar false (String.ofList (← Scalar.quoted true)))
  else if beginsPlain flow c p.rest[1]? then plainScalar
  else throw .malformed

/-- The next token with the block collections that begin or end before it. Says whether the text
goes on. -/
def next : Step Bool := do
  skipToToken ((← get).cursor.rest.length + 1)
  forgetStaleKeys
  unwind (← get).cursor.column
  match (← get).cursor.rest.head? with
  | some c => token c; return true
  | none =>
    unwind (-1)
    forgetKey
    push .streamEnd
    return false

end Lexer

/-- The tokens of a text, and why it is refused behind them if it is. -/
structure Stream where
  tokens : List Token
  failure : Option Failure

namespace Stream

/-- The tokens that wait for nothing: those before the first place where a key may have begun. -/
def settled (l : Lexer) : List Token :=
  let places := (l.keys.map (·.2)).filter (!l.isStale ·)
  l.tokens.toList.take (places.foldl (fun n k => min n k.token) l.tokens.size)

/-- The tokens from a state on. -/
def ofLexer : Nat → Lexer → Stream
  | 0, l => ⟨settled l, some .malformed⟩
  | fuel + 1, l =>
    match Lexer.next.run l with
    | .ok (true, l') => ofLexer fuel l'
    | .ok (false, l') => ⟨l'.tokens.toList, none⟩
    | .error e => ⟨settled l, some e⟩

/-- The tokens of a text. -/
def ofText (s : String) : Stream :=
  let cs := s.toList
  if cs.all isAllowed then ofLexer (cs.length + 2) (Lexer.start cs)
  else ⟨[], some .malformed⟩

end Stream
end ThreatTree.Yaml
