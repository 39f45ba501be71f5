import Plugboard.Json.Reader
import Plugboard.Yaml.Basic
import Plugboard.Yaml.Cursor

/-!
Reading scalars: in quotes, plain, and as blocks of lines. Where a scalar goes on over several
lines, a single line break is read as a space and further ones stand for themselves.
-/
namespace Plugboard.Yaml

/-- What a run of line breaks inside a scalar is read as. -/
def foldBreaks : List Char → List Char
  | [] => []
  | ['\n'] => [' ']
  | '\n' :: more => more
  | cs => cs

/-- What a run of blanks and line breaks inside a scalar is read as. -/
def foldRun (run : List Char) : List Char :=
  let breaks := run.filter isBreak
  if breaks.isEmpty then run else foldBreaks breaks

/-! ## Quoted scalars -/

/-- The characters of the escapes with one letter. -/
def shortEscapes : List (Char × Nat) :=
  [('0', 0), ('a', 7), ('b', 8), ('t', 9), ('\t', 9), ('n', 0xA), ('v', 0xB), ('f', 0xC),
   ('r', 0xD), ('e', 0x1B), (' ', 0x20), ('"', 0x22), ('/', 0x2F), ('\\', 0x5C), ('N', 0x85),
   ('_', 0xA0), ('L', 0x2028), ('P', 0x2029)]

/-- The number of digits of the escapes by number. -/
def longEscapes : List (Char × Nat) := [('x', 2), ('u', 4), ('U', 8)]

def hexNumber? (cs : List Char) : Option Nat :=
  cs.foldlM (fun n c => (Json.hexValue c).map (16 * n + ·)) 0

/-- The character of an escape, with the place behind it. -/
def readEscape (c : Cursor) : Option (Char × Cursor) := do
  let x ← c.peek
  match shortEscapes.lookup x with
  | some n => some (Char.ofNat n, c.next)
  | none => do
    let digits ← longEscapes.lookup x
    let c := c.next
    let cs := c.rest.take digits
    let n ← hexNumber? cs
    if cs.length == digits && decide n.isValidChar then some (Char.ofNat n, c.skip digits)
    else none

/-- The rest of a scalar in quotes. -/
def readQuoted (q : Char) (fuel : Nat) (c : Cursor) : Option (List Char × Cursor) :=
  match fuel with
  | 0 => none
  | fuel + 1 => do
    let x ← c.peek
    let onward := fun (s : List Char) (c : Cursor) =>
      (readQuoted q fuel c).map fun p => (s ++ p.1, p.2)
    if c.atMarker then none
    else if x == q then
      if q == '\'' && c.next.peek == some q then onward [q] (c.skip 2)
      else some ([], c.next)
    else if x == '\\' && q == '"' then
      match c.next.peek with
      | none => none
      | some y =>
        if isBreak y then
          let (run, c) := (c.skip 2).takeWhile isBlankOrBreak
          onward (run.filter isBreak) c
        else do
          let (d, c) ← readEscape c.next
          onward [d] c
    else if isBlankOrBreak x then
      let (run, c) := c.takeWhile isBlankOrBreak
      onward (foldRun run) c
    else onward [x] c.next

/-! ## Plain scalars -/

def isFlowIndicator (c : Char) : Bool := ",[]\x7b\x7d".toList.contains c

/-- The characters that begin something else. -/
def indicators : List Char := "-?:,[]\x7b\x7d#&*!|>'\"%@`".toList

/-- Whether a plain scalar begins here. -/
def startsPlain (flow : Bool) (c : Cursor) : Bool :=
  match c.rest with
  | [] => false
  | x :: rest =>
    if isBlankOrBreak x then false
    else if !indicators.contains x then true
    else if x == '-' then !(rest.head?.map isBlank).getD false
    else !flow && (x == '?' || x == ':') && !Cursor.blankOrEnd rest

/-- One stretch of a plain scalar without blanks. -/
def readStretch (flow : Bool) : List Char → Option (List Char)
  | [] => some []
  | x :: rest =>
    if isBlankOrBreak x then some []
    else if flow && x == ':' && (rest.head?.map fun y => isFlowIndicator y || y == '?').getD false
    then none
    else if x == ':' && Cursor.blankOrEnd rest then some []
    else if flow && isFlowIndicator x then some []
    else (readStretch flow rest).map (x :: ·)

/-- Whether a tab stands in the indentation of one of the lines that a run goes over. -/
def tabbedIndent (indent : Nat) (c : Cursor) : List Char → Bool → Bool
  | [], _ => false
  | x :: rest, crossed =>
    (crossed && x == '\t' && decide (c.column < indent)) ||
      tabbedIndent indent c.next rest (crossed || isBreak x)

/-- A plain scalar, the place behind it, and whether that is on a new line. Outside brackets its
further lines are indented by at least `indent`. -/
def readPlain (flow : Bool) (indent : Nat) (fuel : Nat) (c : Cursor) :
    Option (List Char × Cursor × Bool) :=
  match fuel with
  | 0 => none
  | fuel + 1 =>
    if c.atMarker || c.seesChar '#' then some ([], c, false)
    else do
      let stretch ← readStretch flow c.rest
      let c := c.skip stretch.length
      let (run, after) := c.takeWhile isBlankOrBreak
      let crossed := run.any isBreak
      if run.isEmpty then some (stretch, c, false)
      else if tabbedIndent indent c run false then none
      else if !flow && decide (after.column < indent) then some (stretch, after, crossed)
      else do
        let (more, last, late) ← readPlain flow indent fuel after
        if more.isEmpty then some (stretch, last, late || crossed)
        else some (stretch ++ foldRun run ++ more, last, late)

/-! ## Blocks of lines -/

/-- What is kept of the breaks at the end of a block. -/
inductive Chomping
  | strip
  | clip
  | keep
  deriving Repr, DecidableEq

def chomping? (c : Char) : Option Chomping :=
  if c == '-' then some .strip else if c == '+' then some .keep else none

def increment? (c : Char) : Option Nat := if '1' ≤ c && c ≤ '9' then some (c.toNat - 48) else none

/-- The indicators behind the first character of a block, in either order. -/
def readBlockHead (c : Cursor) : Chomping × Option Nat × Cursor :=
  match c.peek.bind chomping? with
  | some chomping =>
    match c.next.peek.bind increment? with
    | some n => (chomping, some n, c.skip 2)
    | none => (chomping, none, c.next)
  | none =>
    match c.peek.bind increment? with
    | none => (.clip, none, c)
    | some n =>
      match c.next.peek.bind chomping? with
      | some chomping => (chomping, some n, c.skip 2)
      | none => (.clip, some n, c.next)

/-- Skips empty lines of a block. `indent` is none while it has to be found. Gives the breaks, the
widest column seen, and the place of the next text. -/
def skipEmptyLines (indent : Option Nat) (fuel : Nat) (widest : Nat) (c : Cursor) :
    Option (List Char × Nat × Cursor) :=
  match fuel with
  | 0 => none
  | fuel + 1 =>
    let inside := fun (column : Nat) => (indent.map fun n => decide (column < n)).getD true
    let spaces := (c.rest.takeWhile (· == ' ')).length
    let wanted := match indent with
      | none => spaces
      | some n => min spaces (n - c.column)
    let c := c.skip wanted
    let widest := max widest c.column
    match c.peek with
    | none => some ([], widest, c)
    | some x =>
      if x == '\t' && inside c.column then none
      else if isBreak x then
        (skipEmptyLines indent fuel widest c.next).map fun p => (x :: p.1, p.2)
      else some ([], widest, c)

/-- The lines of a block. `pending` is the break before the line, `empty` the breaks of empty lines
behind it; `blank` says whether the line before began with a blank. -/
def readBlockLines (literal : Bool) (indent : Nat) (chomping : Chomping) (fuel : Nat)
    (pending empty : List Char) (blank : Bool) (c : Cursor) : Option (List Char × Cursor) :=
  match fuel with
  | 0 => none
  | fuel + 1 =>
    if c.column != indent || c.atEnd then
      let tail := match chomping with
        | .strip => []
        | .clip => pending
        | .keep => pending ++ empty
      some (tail, c)
    else do
      let here := (c.peek.map isBlank).getD false
      let folds := !literal && pending == ['\n'] && !blank && !here
      let before := if folds then (if empty.isEmpty then [' '] else empty) else pending ++ empty
      let (text, c) := c.takeWhile fun x => !isBreak x
      let pending := (c.peek.map fun x => [x]).getD []
      let (empty, _, c) ← skipEmptyLines (some indent) (c.rest.length + 1) 0 c.next
      let (more, c) ← readBlockLines literal indent chomping fuel pending empty here c
      some (before ++ text ++ more, c)

/-- A block of lines below collections the innermost of which has column `parent`, none at the top.
Says whether the lines are kept as they are. -/
def readBlock (parent : Option Nat) (c : Cursor) : Option (Bool × List Char × Cursor) := do
  let literal := c.seesChar '|'
  let (chomping, increment, c) := readBlockHead c.next
  let c ← c.toLineEnd?
  let least := (parent.map (· + 1)).getD 0
  let given := increment.map fun n => (parent.getD 0) + n
  let (empty, widest, c) ← skipEmptyLines given (c.rest.length + 1) 0 c.next
  let indent := given.getD (max 1 (max least widest))
  let (text, c) ← readBlockLines literal indent chomping (c.rest.length + 2) [] empty false c
  some (literal, text, c)

end Plugboard.Yaml
