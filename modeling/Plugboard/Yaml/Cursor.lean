/-!
A place in a YAML text, with its line and column, and what can be seen from there. Line breaks have
been made alike before: a line feed, or one of the two separators that Unicode has for lines.
-/
namespace Plugboard.Yaml

def isBlank (c : Char) : Bool := c == ' ' || c == '\t'

def isBreak (c : Char) : Bool := c == '\n' || c.toNat == 0x2028 || c.toNat == 0x2029

def isBlankOrBreak (c : Char) : Bool := isBlank c || isBreak c

/-- Makes line breaks alike. -/
def evenBreaks : List Char → List Char
  | [] => []
  | '\r' :: '\n' :: rest => '\n' :: evenBreaks rest
  | c :: rest => (if c == '\r' || c.toNat == 0x85 then '\n' else c) :: evenBreaks rest

/-- Whether a character may stand in a document at all. -/
def isAllowed (c : Char) : Bool :=
  c == '\t' || c == '\n' || c == '\r' || (0x20 ≤ c.toNat && c.toNat ≤ 0x7E) || c.toNat == 0x85 ||
    (0xA0 ≤ c.toNat && c.toNat ≤ 0xFFFD) || 0x10000 ≤ c.toNat

structure Cursor where
  rest : List Char
  /-- How many bytes lie before, as UTF-8. -/
  index : Nat
  line : Nat
  column : Nat

namespace Cursor

def start (cs : List Char) : Cursor := ⟨cs, 0, 0, 0⟩

def peek (c : Cursor) : Option Char := c.rest.head?

def atEnd (c : Cursor) : Bool := c.rest.isEmpty

/-- Whether the next character satisfies `p`. -/
def sees (p : Char → Bool) (c : Cursor) : Bool := (c.peek.map p).getD false

def seesChar (x : Char) (c : Cursor) : Bool := c.peek == some x

/-- One character further. -/
def next (c : Cursor) : Cursor :=
  match c.rest with
  | [] => c
  | x :: rest =>
    if isBreak x then ⟨rest, c.index + x.utf8Size, c.line + 1, 0⟩
    else ⟨rest, c.index + x.utf8Size, c.line, c.column + 1⟩

def skip (n : Nat) (c : Cursor) : Cursor := Nat.repeat next n c

/-- The characters up to the first one that does not satisfy `p`, and the place behind them. -/
def takeWhile (p : Char → Bool) (c : Cursor) : List Char × Cursor :=
  let taken := c.rest.takeWhile p
  (taken, c.skip taken.length)

def skipWhile (p : Char → Bool) (c : Cursor) : Cursor := (c.takeWhile p).2

/-- Goes to the end of the line. -/
def skipLine (c : Cursor) : Cursor := c.skipWhile fun x => !isBreak x

/-- A blank, a line break, or the end. -/
def blankOrEnd : List Char → Bool
  | [] => true
  | c :: _ => isBlankOrBreak c

/-- A line break or the end. -/
def atLineEnd (c : Cursor) : Bool := c.atEnd || c.sees isBreak

/-- Whether a character stands here with a blank, a break or the end behind it. -/
def atIndicator (x : Char) (c : Cursor) : Bool :=
  match c.rest with
  | [] => false
  | y :: rest => x == y && blankOrEnd rest

def atWord (word : List Char) (c : Cursor) : Bool :=
  c.column == 0 && word.isPrefixOf c.rest && blankOrEnd (c.rest.drop word.length)

def atStartMarker (c : Cursor) : Bool := c.atWord ['-', '-', '-']

def atEndMarker (c : Cursor) : Bool := c.atWord ['.', '.', '.']

def atMarker (c : Cursor) : Bool := c.atStartMarker || c.atEndMarker

/-- What may stand between a directive or the head of a block and the end of its line. -/
def toLineEnd? (c : Cursor) : Option Cursor :=
  let c := c.skipWhile isBlank
  let c := if c.seesChar '#' then c.skipLine else c
  if c.atLineEnd then some c else none

end Cursor
end Plugboard.Yaml
