import Plugboard.Text.Utf8
import Plugboard.Yaml.Basic
import Plugboard.Yaml.Scalar

/-!
The tokens of a YAML text: its scalars, names, tags and indicators, and marks for the collections
that only their indentation shows. A key on one line is seen to be one when its colon comes, so the
mark of a key is put in front of tokens that were there before.
-/
namespace Plugboard.Yaml

inductive Token
  | documentStart
  | documentEnd
  | version (major minor : Nat)
  | handle (name start : String)
  | listStart
  | mappingStart
  | blockEnd
  | bracketOpen
  | bracketClose
  | braceOpen
  | braceClose
  | comma
  | item
  | key
  | value
  | anchor (name : String)
  | reference (name : String)
  | tag (handle suffix : String)
  | scalar (style : Style) (text : String)
  deriving Repr, DecidableEq

/-! ## Words -/

def isNameChar (c : Char) : Bool :=
  ('0' ≤ c && c ≤ '9') || c.isAlpha || c == '_' || c == '-'

/-- A name behind the indicator of a name or of a reference to one. -/
def readName (c : Cursor) : Option (String × Cursor) :=
  let (name, c) := c.takeWhile isNameChar
  let ends := Cursor.blankOrEnd c.rest || c.sees "?:,]\x7d%@`".toList.contains
  if name.isEmpty || !ends then none else some (String.ofList name, c)

def isTagChar (c : Char) : Bool :=
  isNameChar c || ";/?:@&=+$.!~*'()".toList.contains c

/-- The length in bytes of a character that begins with a byte. -/
def octetWidth? (b : Nat) : Option Nat :=
  if b < 0x80 then some 1
  else if b < 0xC0 then none
  else if b < 0xE0 then some 2
  else if b < 0xF0 then some 3
  else if b < 0xF8 then some 4
  else none

/-- A byte written as a percent escape. -/
def readOctet (c : Cursor) : Option (Nat × Cursor) :=
  match c.rest with
  | '%' :: a :: b :: _ => do
    let x ← Json.hexValue a
    let y ← Json.hexValue b
    some (16 * x + y, c.skip 3)
  | _ => none

/-- The further bytes of a character. -/
def readOctets : Nat → Cursor → Option (List Nat × Cursor)
  | 0, c => some ([], c)
  | n + 1, c => do
    let (b, c) ← readOctet c
    if 0x80 ≤ b && b < 0xC0 then
      let (bs, c) ← readOctets n c
      some (b :: bs, c)
    else none

/-- The bytes of a tag or of the start of tags; `wide` allows the characters of lists too. -/
def readTagBytes (wide : Bool) (fuel : Nat) (c : Cursor) : Option (List Nat × Cursor) :=
  match fuel, c.peek with
  | 0, _ => none
  | _, none => some ([], c)
  | fuel + 1, some x =>
    if x == '%' then do
      let (b, c) ← readOctet c
      let (bs, c) ← readOctets ((← octetWidth? b) - 1) c
      let (more, c) ← readTagBytes wide fuel c
      some (b :: bs ++ more, c)
    else if isTagChar x || (wide && [',', '[', ']'].contains x) then do
      let (more, c) ← readTagBytes wide fuel c.next
      some (Text.charBytes x ++ more, c)
    else some ([], c)

/-- The text of a tag, which a zero byte ends. Whatever is not UTF-8 in it equals no known tag. -/
def tagText (bytes : List Nat) : String := Text.ofUtf8Lossy (bytes.takeWhile (· != 0))

/-- A part of a tag; `written` says whether something of it stands before. -/
def readTagPart (wide written : Bool) (c : Cursor) : Option (String × Cursor) := do
  let (bytes, after) ← readTagBytes wide (c.rest.length + 1) c
  if bytes.isEmpty && !written then none else some (tagText bytes, after)

/-- An exclamation mark, a name, and an exclamation mark if there is one: a handle, if the last is
there or nothing else. -/
def readHandle (c : Cursor) : Option (List Char × Cursor) :=
  if c.seesChar '!' then
    let (name, after) := c.next.takeWhile isNameChar
    if after.seesChar '!' then some ('!' :: name ++ ['!'], after.next)
    else some ('!' :: name, after)
  else none

/-- A tag: verbatim between angle brackets, behind a handle, or local. A lone exclamation mark has
no handle. -/
def readTag (c : Cursor) : Option (Token × Cursor) := do
  if c.next.seesChar '<' then
    let (suffix, c) ← readTagPart true false (c.skip 2)
    if c.seesChar '>' then some (.tag "" suffix, c.next) else none
  else
    let (head, after) ← readHandle c
    if 2 ≤ head.length && head.getLast? == some '!' then
      let (suffix, c) ← readTagPart false false after
      some (.tag (String.ofList head) suffix, c)
    else
      let (rest, c) ← readTagPart false true after
      let suffix := String.ofList (head.drop 1) ++ rest
      some (if suffix.isEmpty then .tag "" "!" else .tag "!" suffix, c)

/-! ## Directives -/

/-- The longest number of a version, in digits. -/
def longestVersion : Nat := 9

def readVersionPart (c : Cursor) : Option (Nat × Cursor) :=
  let (digits, c) := c.takeWhile fun x => '0' ≤ x && x ≤ '9'
  if digits.isEmpty || longestVersion < digits.length then none
  else some (digits.foldl (fun n x => 10 * n + (x.toNat - 48)) 0, c)

/-- A directive from its percent sign to the end of its line. -/
def readDirective (c : Cursor) : Option (Token × Cursor) := do
  let (name, c) := c.next.takeWhile isNameChar
  if !Cursor.blankOrEnd c.rest then none
  else
    let c := c.skipWhile isBlank
    if name == "YAML".toList then
      let (major, c) ← readVersionPart c
      if !c.seesChar '.' then none
      else
        let (minor, c) ← readVersionPart c.next
        some (.version major minor, (← c.toLineEnd?).next)
    else if name == "TAG".toList then
      let (head, c) ← readHandle c
      if (2 ≤ head.length && head.getLast? != some '!') || !c.sees isBlank then none
      else
        let (start, c) ← readTagPart true false (c.skipWhile isBlank)
        if !Cursor.blankOrEnd c.rest then none
        else some (.handle (String.ofList head) start, (← c.toLineEnd?).next)
    else none

/-! ## Scanning -/

/-- A token that would be a key if a colon came. -/
structure PossibleKey where
  /-- The number of tokens before it. -/
  count : Nat
  index : Nat
  line : Nat
  column : Nat
  /-- Whether it stands where only a key can stand. -/
  required : Bool

structure Scanner where
  cursor : Cursor
  /-- The tokens so far, the last one first. -/
  tokens : List Token
  /-- The columns of the open collections without brackets, the innermost one first. -/
  columns : List Nat
  /-- The possible key within the innermost brackets. -/
  key : Option PossibleKey
  /-- The possible keys outside of them, one for each pair of brackets. -/
  outerKeys : List (Option PossibleKey)
  keyAllowed : Bool

namespace Scanner

def start (c : Cursor) : Scanner := ⟨c, [], [], none, [], true⟩

/-- Whether the place is inside brackets. -/
def inFlow (s : Scanner) : Bool := !s.outerKeys.isEmpty

def push (t : Token) (s : Scanner) : Scanner := { s with tokens := t :: s.tokens }

def goTo (c : Cursor) (s : Scanner) : Scanner := { s with cursor := c }

def allowKey (allowed : Bool) (s : Scanner) : Scanner := { s with keyAllowed := allowed }

/-- Puts a token behind the first `count` ones. -/
def insert (count : Nat) (t : Token) (s : Scanner) : Scanner :=
  { s with tokens := s.tokens.insertIdx (s.tokens.length - count) t }

/-! ### Indentation -/

/-- Whether a column lies deeper than all open collections. -/
def isDeeper (column : Nat) (s : Scanner) : Bool :=
  match s.columns with
  | [] => true
  | n :: _ => n < column

/-- Opens a collection at a column, unless it is open or the place is inside brackets. -/
def openAt (column count : Nat) (t : Token) (s : Scanner) : Scanner :=
  if !s.inFlow && s.isDeeper column then
    { s.insert count t with columns := column :: s.columns }
  else s

/-- Closes collections while `p` holds for their columns. -/
def closeWhile (p : Nat → Bool) (s : Scanner) : Scanner :=
  if s.inFlow then s
  else
    let closed := s.columns.takeWhile p
    { s with
      columns := s.columns.drop closed.length
      tokens := List.replicate closed.length .blockEnd ++ s.tokens }

/-! ### Keys -/

/-- How far a key may reach, in bytes. -/
def keyReach : Nat := 1024

/-- Gives up a possible key; one that is required cannot be given up. -/
def dropKey (s : Scanner) : Option Scanner :=
  match s.key with
  | some k => if k.required then none else some { s with key := none }
  | none => some s

/-- Whether a key can still have its colon at a place: on its line, and not too far. -/
def reaches (c : Cursor) (k : PossibleKey) : Bool :=
  c.line ≤ k.line && c.index ≤ k.index + keyReach

def refreshKey (c : Cursor) : Option PossibleKey → Option (Option PossibleKey)
  | none => some none
  | some k => if reaches c k then some (some k) else if k.required then none else some none

/-- Gives up all keys that are too far back. -/
def refreshKeys (s : Scanner) : Option Scanner := do
  some { s with
    key := ← refreshKey s.cursor s.key
    outerKeys := ← s.outerKeys.mapM (refreshKey s.cursor) }

/-- Notes that the next token may be a key. -/
def noteKey (s : Scanner) : Option Scanner := do
  if s.keyAllowed then
    let c := s.cursor
    let s ← s.dropKey
    some { s with
      key := some ⟨s.tokens.length, c.index, c.line, c.column,
        !s.inFlow && s.columns.head? == some c.column⟩ }
  else some s

/-! ### Tokens -/

/-- Skips blanks, comments and line breaks. Outside brackets a new line allows a key, and a tab is
no blank where a key is allowed. A byte-order mark at the start of the text takes a column. -/
def toToken : Nat → Scanner → Scanner
  | 0, s => s
  | fuel + 1, s =>
    let c := s.cursor
    let c := if c.index == 0 && c.sees (·.toNat == 0xFEFF) then c.next else c
    let c := c.skipWhile fun x => x == ' ' || ((s.inFlow || !s.keyAllowed) && x == '\t')
    let c := if c.seesChar '#' then c.skipLine else c
    if c.sees isBreak then toToken fuel ((s.goTo c.next).allowKey (s.keyAllowed || !s.inFlow))
    else s.goTo c

/-- A mark at the start of a line: a directive, or the start or end of a document. -/
def lineMark (t : Token) (c : Cursor) (s : Scanner) : Option Scanner := do
  let s ← (s.closeWhile fun _ => true).dropKey
  some ((s.push t).goTo c |>.allowKey false)

def openBracket (t : Token) (s : Scanner) : Option Scanner := do
  let s ← s.noteKey
  some { s.push t with
    cursor := s.cursor.next, outerKeys := s.key :: s.outerKeys, key := none, keyAllowed := true }

/-- A closing bracket; whether there is one to close is not looked at here. -/
def closeBracket (t : Token) (s : Scanner) : Option Scanner := do
  let s ← s.dropKey
  let (key, outerKeys) := match s.outerKeys with
    | [] => (s.key, [])
    | k :: more => (k, more)
  some { s.push t with
    cursor := s.cursor.next, outerKeys := outerKeys, key := key, keyAllowed := false }

def comma (s : Scanner) : Option Scanner := do
  let s ← s.dropKey
  some ((s.push .comma).goTo s.cursor.next |>.allowKey true)

/-- The indicator of an item, or of a key with a mark of its own. -/
def indicator (opening t : Token) (s : Scanner) : Option Scanner := do
  if !s.inFlow && !s.keyAllowed then none
  else
    let s ← (s.openAt s.cursor.column s.tokens.length opening).dropKey
    some (s.push t |>.goTo s.cursor.next)

/-- The colon of a value. With a possible key before it, that is one. -/
def colon (s : Scanner) : Option Scanner :=
  match s.key with
  | some k =>
    let s := (s.insert k.count .key).openAt k.column k.count .mappingStart
    some { s.push .value with cursor := s.cursor.next, key := none, keyAllowed := false }
  | none =>
    if !s.inFlow && !s.keyAllowed then none
    else
      let s := s.openAt s.cursor.column s.tokens.length .mappingStart
      some ((s.push .value).goTo s.cursor.next |>.allowKey !s.inFlow)

/-- A token that may be a key or stand in front of one. -/
def word (read : Scanner → Option (Token × Cursor)) (s : Scanner) : Option Scanner := do
  let s ← s.noteKey
  let (t, c) ← read s
  some ((s.push t).goTo c |>.allowKey false)

def readScalar (q : Char) (s : Scanner) : Option (Token × Cursor) :=
  (readQuoted q (s.cursor.rest.length + 1) s.cursor.next).map fun p =>
    (.scalar .quoted (String.ofList p.1), p.2)

/-- A tag with a blank or the end behind it; in brackets a comma will do. -/
def readWholeTag (s : Scanner) : Option (Token × Cursor) := do
  let (t, c) ← readTag s.cursor
  if Cursor.blankOrEnd c.rest || (s.inFlow && c.seesChar ',') then some (t, c) else none

/-- A plain scalar; if it ends on a new line, a key may follow. -/
def plain (s : Scanner) : Option Scanner := do
  let s ← s.noteKey
  let least := match s.columns with
    | [] => 0
    | n :: _ => n + 1
  let (text, c, late) ← readPlain s.inFlow least (s.cursor.rest.length + 1) s.cursor
  some ((s.push (.scalar .plain (String.ofList text))).goTo c |>.allowKey late)

/-- A block of lines, behind which a key may follow. -/
def block (s : Scanner) : Option Scanner := do
  let s ← s.dropKey
  let (literal, text, c) ← readBlock s.columns.head? s.cursor
  let style := if literal then Style.literal else .quoted
  some ((s.push (.scalar style (String.ofList text))).goTo c |>.allowKey true)

/-- The next token, which begins with `x`. -/
def token (x : Char) (s : Scanner) : Option Scanner :=
  let c := s.cursor
  if c.column == 0 && x == '%' then do
    let (t, c) ← readDirective c
    s.lineMark t c
  else if c.atStartMarker then s.lineMark .documentStart (c.skip 3)
  else if c.atEndMarker then s.lineMark .documentEnd (c.skip 3)
  else if x == '[' then s.openBracket .bracketOpen
  else if x == '\x7b' then s.openBracket .braceOpen
  else if x == ']' then s.closeBracket .bracketClose
  else if x == '\x7d' then s.closeBracket .braceClose
  else if x == ',' then s.comma
  else if c.atIndicator '-' then (s.indicator .listStart .item).map (allowKey true)
  else if x == '?' && (s.inFlow || c.atIndicator '?') then
    (s.indicator .mappingStart .key).map (allowKey !s.inFlow)
  else if x == ':' && (s.inFlow || c.atIndicator ':') then s.colon
  else if x == '*' then s.word fun s => (readName s.cursor.next).map fun p => (.reference p.1, p.2)
  else if x == '&' then s.word fun s => (readName s.cursor.next).map fun p => (.anchor p.1, p.2)
  else if x == '!' then s.word readWholeTag
  else if (x == '|' || x == '>') && !s.inFlow then s.block
  else if x == '\'' || x == '"' then s.word (readScalar x)
  else if startsPlain s.inFlow c then s.plain
  else none

/-- All tokens up to the end of the text. -/
def run : Nat → Scanner → Option (List Token)
  | 0, _ => none
  | fuel + 1, s => do
    let s ← (s.toToken (s.cursor.rest.length + 1)).refreshKeys
    let column := s.cursor.column
    let s := s.closeWhile fun n => column < n
    match s.cursor.peek with
    | none => do
      let s ← (s.closeWhile fun _ => true).dropKey
      some s.tokens.reverse
    | some x => run fuel (← s.token x)

end Scanner

/-- The tokens of a text. -/
def Token.ofText? (s : String) : Option (List Token) :=
  let cs := s.toList
  if cs.all isAllowed then
    let c := Cursor.start (evenBreaks cs)
    Scanner.run (c.rest.length + 2) (.start c)
  else none

end Plugboard.Yaml
