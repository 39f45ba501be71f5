import Plugboard.Table
import Plugboard.Yaml.Token

/-!
Reading YAML: the nodes that tokens stand for. A node may have a name, to which references lead, and
a tag, whose handle stands for the start of tags.
-/
namespace Plugboard.Yaml

/-- What is left to read, and what was read so far. -/
structure Reading where
  tokens : List Token
  /-- What the handles of tags stand for. -/
  handles : Table String String
  /-- The number of each name. A name that is given again gets a new number; as this is the count of
  different names, the next new name gets the same. -/
  names : Table String Nat
  /-- For each number, which of all named nodes it leads to. -/
  places : Table Nat Nat
  /-- How many named nodes have begun. -/
  begun : Nat
  /-- The named nodes that were read whole. -/
  done : List (Nat × Node)

/-- A step of reading; it may find that the tokens are no document. -/
abbrev Read (α : Type) := StateT Reading Option α

namespace Read

/-- The next token, none standing for the end. -/
def peek : Read (Option Token) := return (← get).tokens.head?

def skip : Read Unit := modify fun r => { r with tokens := r.tokens.tail }

def sees (t : Token) : Read Bool := return (← peek) == some t

/-- Skips a token if it is the next one. -/
def skipIf (t : Token) : Read Bool := do
  if ← sees t then
    skip
    return true
  else return false

/-- Whether the next token is one of some. -/
def seesAny (ts : List Token) : Read Bool :=
  return ((← peek).map ts.contains).getD false

/-- Skips a token that has to be the next one. -/
def expect (t : Token) : Read Unit := do
  if !(← skipIf t) then failure

end Read

open Read

/-! ## Properties -/

/-- A name and a tag in front of a node. -/
structure Properties where
  anchor : Option String
  tag : Option String

def readAnchor : Read (Option String) := do
  match ← peek with
  | some (.anchor name) =>
    skip
    return some name
  | _ => return none

/-- A tag in full; a handle has to be known. -/
def readTagOf : Read (Option String) := do
  match ← peek with
  | some (.tag handle suffix) =>
    skip
    if handle.isEmpty then return some suffix
    else
      match Table.get? handle (← get).handles with
      | some start => return some (start ++ suffix)
      | none => failure
  | _ => return none

/-- A name and a tag, in either order. -/
def readProperties : Read Properties := do
  match ← readAnchor with
  | some name => return ⟨some name, ← readTagOf⟩
  | none =>
    let tag ← readTagOf
    return ⟨← readAnchor, tag⟩

/-- Gives a node that begins its name. -/
def begin (anchor : Option String) : Read (Option Nat) := do
  match anchor with
  | none => return none
  | some name =>
    let r ← get
    let number := r.names.length
    set { r with
      names := Table.put name number r.names
      places := Table.put number r.begun r.places
      begun := r.begun + 1 }
    return some r.begun

/-- Ends a node, named or not. -/
def finish (place : Option Nat) (node : Node) : Read Node := do
  if let some n := place then modify fun r => { r with done := (n, node) :: r.done }
  return node

/-- A whole scalar. -/
def readScalarNode (p : Properties) (style : Style) (text : String) : Read Node := do
  let place ← begin p.anchor
  finish place (.scalar style p.tag text)

/-- The properties of a scalar that is written; a lone exclamation mark is no tag for it. -/
def Properties.ofWritten (p : Properties) : Properties :=
  { p with tag := p.tag.filter (· != "!") }

/-! ## Nodes -/

mutual

/-- A node. `block` allows collections without brackets, and `indentless` a list that is not
indented. A name or a tag may stand alone. -/
def readNode (fuel : Nat) (block indentless : Bool) : Read Node :=
  match fuel with
  | 0 => failure
  | fuel + 1 => do
    if let some (.reference name) ← peek then
      skip
      match Table.get? name (← get).names with
      | some number => return .reference number
      | none => failure
    let p ← readProperties
    match ← peek with
    | some (.scalar style text) =>
      skip
      readScalarNode p.ofWritten style text
    | some .bracketOpen =>
      skip
      let place ← begin p.anchor
      finish place (.list (← readFlowItems fuel true))
    | some .braceOpen =>
      skip
      let place ← begin p.anchor
      finish place (.mapping (← readFlowPairs fuel true))
    | some .listStart =>
      if block then
        skip
        let place ← begin p.anchor
        finish place (.list (← readItems fuel))
      else readProperty p
    | some .mappingStart =>
      if block then
        skip
        let place ← begin p.anchor
        finish place (.mapping (← readPairs fuel))
      else readProperty p
    | some .item =>
      if indentless then
        let place ← begin p.anchor
        finish place (.list (← readIndentlessItems fuel))
      else readProperty p
    | _ => readProperty p

/-- A name or a tag with nothing behind it. -/
def readProperty (p : Properties) : Read Node := do
  if p.anchor.isSome || p.tag.isSome then readScalarNode p .plain "" else failure

/-- A node, unless the next token is one of those that show that there is none. -/
def readUnless (fuel : Nat) (block indentless : Bool) (ends : List Token) : Read Node :=
  match fuel with
  | 0 => failure
  | fuel + 1 => do
    if ← seesAny ends then return .nothing else readNode fuel block indentless

/-- The items of a list by lines, to its end. -/
def readItems (fuel : Nat) : Read (List Node) :=
  match fuel with
  | 0 => failure
  | fuel + 1 => do
    if ← skipIf .item then
      let item ← readUnless fuel true false [.item, .blockEnd]
      return item :: (← readItems fuel)
    else
      expect .blockEnd
      return []

/-- The items of a list that stands in the column of its mapping. -/
def readIndentlessItems (fuel : Nat) : Read (List Node) :=
  match fuel with
  | 0 => failure
  | fuel + 1 => do
    if ← skipIf .item then
      let item ← readUnless fuel true false [.item, .key, .value, .blockEnd]
      return item :: (← readIndentlessItems fuel)
    else return []

/-- The pairs of a mapping by lines, to its end. Each begins with its key. -/
def readPairs (fuel : Nat) : Read (List (Node × Node)) :=
  match fuel with
  | 0 => failure
  | fuel + 1 => do
    if ← skipIf .key then
      let ends := [Token.key, .value, .blockEnd]
      let key ← readUnless fuel true true ends
      let value ← if ← skipIf .value then readUnless fuel true true ends else pure .nothing
      return (key, value) :: (← readPairs fuel)
    else
      expect .blockEnd
      return []

/-- The items of a list in brackets, to its end. An item with the mark of a key is a mapping of one
pair. -/
def readFlowItems (fuel : Nat) (first : Bool) : Read (List Node) :=
  match fuel with
  | 0 => failure
  | fuel + 1 => do
    if ← skipIf .bracketClose then return []
    if !first then expect .comma
    if ← skipIf .key then
      let pair ← readLonePair fuel
      return .mapping [pair] :: (← readFlowItems fuel false)
    if ← skipIf .bracketClose then return []
    let item ← readNode fuel false false
    return item :: (← readFlowItems fuel false)

/-- The pair of an item of a list in brackets, behind the mark of its key. Where there is no key,
what stands in its place is passed over. -/
def readLonePair (fuel : Nat) : Read (Node × Node) :=
  match fuel with
  | 0 => failure
  | fuel + 1 => do
    let key ←
      if ← seesAny [.value, .comma, .bracketClose] then
        skip
        pure Node.nothing
      else readNode fuel false false
    let value ←
      if ← skipIf .value then readUnless fuel false false [.comma, .bracketClose]
      else pure .nothing
    return (key, value)

/-- The pairs of a mapping in braces, to its end. -/
def readFlowPairs (fuel : Nat) (first : Bool) : Read (List (Node × Node)) :=
  match fuel with
  | 0 => failure
  | fuel + 1 => do
    if ← skipIf .braceClose then return []
    if !first then expect .comma
    if ← skipIf .key then
      let key ← readUnless fuel false false [.value, .comma, .braceClose]
      let value ←
        if ← skipIf .value then readUnless fuel false false [.comma, .braceClose]
        else pure .nothing
      return (key, value) :: (← readFlowPairs fuel false)
    if ← skipIf .braceClose then return []
    let key ← readNode fuel false false
    return (key, .nothing) :: (← readFlowPairs fuel false)

end

/-! ## Documents -/

/-- The handles that every document knows. -/
def usualHandles : Table String String := [("!", "!"), ("!!", "tag:yaml.org,2002:")]

/-- Reads the directives in front of a document, whose handles go before the usual ones. The version
has to be 1.1 or 1.2, and nothing may be told twice. -/
def readDirectives (versioned : Bool) (own : Table String String) :
    List Token → Option (Table String String × List Token)
  | .version major minor :: rest =>
    if versioned || major != 1 || !(minor == 1 || minor == 2) then none
    else readDirectives true own rest
  | .handle name start :: rest =>
    if (Table.get? name own).isSome then none
    else readDirectives versioned (own ++ [(name, start)]) rest
  | rest => some (own ++ usualHandles, rest)

/-- The node behind the start of a document, which may be missing. -/
def readContent (fuel : Nat) : Read Node := do
  match ← peek with
  | none | some .documentStart | some .documentEnd | some (.version _ _) | some (.handle _ _) =>
    return .nothing
  | some _ => readNode fuel true false

/-- The node of a document that has one, directives and marks included. -/
def readRoot (fuel : Nat) (tokens : List Token) : Read Node := do
  match tokens.head? with
  | some (.version _ _) | some (.handle _ _) | some .documentStart =>
    match readDirectives false [] tokens with
    | some (handles, .documentStart :: rest) => do
      modify fun r => { r with handles := handles, tokens := rest }
      readContent fuel
    | _ => failure
  | _ => readNode fuel true false

/-- Reads a text with at most one document in it; marks of the end may follow. -/
def parse? (s : String) : Option Document := do
  let tokens ← Token.ofText? s
  if tokens.isEmpty then some ⟨none, []⟩
  else
    let start : Reading := ⟨tokens, usualHandles, [], [], 0, []⟩
    let (node, r) ← (readRoot (4 * tokens.length + 8) tokens).run start
    if r.tokens.all (· == .documentEnd) then
      some ⟨some node, r.places.filterMap fun p => (r.done.lookup p.2).map fun n => (p.1, n)⟩
    else none

end Plugboard.Yaml
