import Plugboard.Json.Reader
import Plugboard.Toml.Basic

/-!
Reading TOML. A document is a run of lines: blank ones, headers, and keys with values. Every reader
takes some text and gives what it has read together with the rest.
-/
namespace Plugboard.Toml

/-! ## Blanks and comments -/

def isBlank (c : Char) : Bool := c == ' ' || c == '\t'

def skipBlanks (cs : List Char) : List Char := cs.dropWhile isBlank

/-- A character that may stand in a comment or a string. -/
def isPlain (c : Char) : Bool := c == '\t' || (0x20 ≤ c.toNat && c.toNat != 0x7F)

/-- The text after a line break. -/
def afterBreak? : List Char → Option (List Char)
  | '\n' :: rest => some rest
  | '\r' :: '\n' :: rest => some rest
  | _ => none

def isLineEnd (cs : List Char) : Bool := cs.isEmpty || (afterBreak? cs).isSome

/-- Skips a comment, up to the end of its line. -/
def skipComment (cs : List Char) : Option (List Char) :=
  match cs with
  | '#' :: rest =>
    let rest := rest.dropWhile isPlain
    if isLineEnd rest then some rest else none
  | cs => some cs

/-- The text of the next line, when nothing but a comment is left of this one. -/
def endLine (cs : List Char) : Option (List Char) := do
  let rest ← skipComment (skipBlanks cs)
  if rest.isEmpty then some [] else afterBreak? rest

/-- Skips blanks, line breaks and comments; `fuel` is more than the number of lines. -/
def skipLines : Nat → List Char → Option (List Char)
  | 0, _ => none
  | fuel + 1, cs => do
    let rest ← skipComment (skipBlanks cs)
    match afterBreak? rest with
    | some rest => skipLines fuel rest
    | none => some rest

/-! ## Strings -/

/-- Reads so many hexadecimal digits on top of a number. -/
def readHex : Nat → Nat → List Char → Option (Nat × List Char)
  | 0, n, cs => some (n, cs)
  | _ + 1, _, [] => none
  | k + 1, n, c :: rest => do readHex k (16 * n + (← Json.hexValue c)) rest

def readScalar (digits : Nat) (cs : List Char) : Option (Char × List Char) := do
  let (n, rest) ← readHex digits 0 cs
  if h : n.isValidChar then some (Char.ofNatAux n h, rest) else none

/-- The character of an escape, after the backslash. -/
def readEscape : List Char → Option (Char × List Char)
  | 'b' :: rest => some (Char.ofNat 0x8, rest)
  | 't' :: rest => some ('\t', rest)
  | 'n' :: rest => some ('\n', rest)
  | 'f' :: rest => some (Char.ofNat 0xC, rest)
  | 'r' :: rest => some ('\r', rest)
  | '"' :: rest => some ('"', rest)
  | '\\' :: rest => some ('\\', rest)
  | 'u' :: rest => readScalar 4 rest
  | 'U' :: rest => readScalar 8 rest
  | _ => none

/-- The rest of a string in double quotes on one line. -/
def readBasic (fuel : Nat) (cs : List Char) : Option (List Char × List Char) :=
  match fuel, cs with
  | 0, _ => none
  | _, [] => none
  | fuel + 1, c :: rest =>
    if c == '"' then some ([], rest)
    else if c == '\\' then do
      let (d, rest) ← readEscape rest
      let (s, rest) ← readBasic fuel rest
      some (d :: s, rest)
    else if isPlain c then (readBasic fuel rest).map fun p => (c :: p.1, p.2)
    else none

/-- The rest of a string in single quotes on one line. -/
def readLiteral (cs : List Char) : Option (List Char × List Char) :=
  let body := cs.takeWhile fun c => c != '\''
  match cs.drop body.length with
  | _ :: rest => if body.all isPlain then some (body, rest) else none
  | [] => none

/-- Quotes at the end of a string of several lines: the last three close it, up to two stand for
themselves. -/
def closeMany (q : Char) (cs : List Char) : Option (List Char × List Char) :=
  let run := (cs.takeWhile (· == q)).length
  if run < 3 then none
  else some (List.replicate (min run 5 - 3) q, cs.drop (min run 5))

def trimFirstBreak (cs : List Char) : List Char := (afterBreak? cs).getD cs

/-- Skips blanks and line breaks. -/
def skipBlankLines : List Char → List Char
  | '\r' :: '\n' :: rest => skipBlankLines rest
  | c :: rest => if isBlank c || c == '\n' then skipBlankLines rest else c :: rest
  | [] => []

/-- Skips the line break and all blanks and breaks after a backslash at the end of a line. -/
def skipFolded (cs : List Char) : Option (List Char) :=
  match afterBreak? (skipBlanks cs) with
  | none => none
  | some rest => some (skipBlankLines rest)

/-- The rest of a string of several lines; only one in double quotes has escapes. -/
def readMany (q : Char) (fuel : Nat) (cs : List Char) : Option (List Char × List Char) :=
  match fuel with
  | 0 => none
  | fuel + 1 =>
    match closeMany q cs with
    | some (s, rest) => some (s, rest)
    | none =>
      match cs with
      | [] => none
      | c :: rest =>
        if c == '\\' && q == '"' then
          match skipFolded rest with
          | some rest => readMany q fuel rest
          | none => do
            let (d, rest) ← readEscape rest
            let (s, rest) ← readMany q fuel rest
            some (d :: s, rest)
        else
          match afterBreak? (c :: rest) with
          | some rest => (readMany q fuel rest).map fun p => ('\n' :: p.1, p.2)
          | none =>
            if isPlain c then (readMany q fuel rest).map fun p => (c :: p.1, p.2) else none

/-- A string on one line, after its first quote. -/
def readLine (q : Char) (cs : List Char) : Option (String × List Char) :=
  (if q == '"' then readBasic (cs.length + 1) cs else readLiteral cs).map fun p =>
    (String.ofList p.1, p.2)

def readString (cs : List Char) : Option (String × List Char) :=
  match cs with
  | a :: b :: c :: rest =>
    if a == b && b == c then
      (readMany a (rest.length + 1) (trimFirstBreak rest)).map fun p => (String.ofList p.1, p.2)
    else readLine a (b :: c :: rest)
  | a :: rest => readLine a rest
  | [] => none

/-! ## Keys -/

def isBareKeyChar (c : Char) : Bool :=
  Text.isDigit c || c.isAlpha || c == '-' || c == '_'

def readSimpleKey (cs : List Char) : Option (String × List Char) :=
  match cs with
  | '"' :: rest => readLine '"' rest
  | '\'' :: rest => readLine '\'' rest
  | cs =>
    let name := cs.takeWhile isBareKeyChar
    if name.isEmpty then none else some (String.ofList name, cs.dropWhile isBareKeyChar)

/-- How many keys a path may have, and how many lists and tables may stand inside each other. -/
def maxDepth : Nat := 79

/-- One or more keys with dots between them, and the blanks around them. -/
def readKeys (fuel : Nat) (cs : List Char) : Option (List String × List Char) :=
  match fuel with
  | 0 => none
  | fuel + 1 => do
    let (k, rest) ← readSimpleKey (skipBlanks cs)
    match skipBlanks rest with
    | '.' :: rest => do
      let (ks, rest) ← readKeys fuel rest
      some (k :: ks, rest)
    | rest => some ([k], rest)

/-- A path of keys. -/
def readPath (cs : List Char) : Option (List String × List Char) :=
  (readKeys (cs.length + 1) cs).filter fun p => p.1.length ≤ maxDepth

/-- The keys before the last one, and the last one. -/
def splitKey (ks : List String) : Option (List String × String) :=
  ks.getLast?.map fun k => (ks.dropLast, k)

/-! ## Numbers and dates -/

/-- Digits in which single underscores may stand between two digits. -/
def digits? (isDigit : Char → Bool) : List Char → Option (List Char)
  | [] => none
  | [c] => if isDigit c then some [c] else none
  | c :: '_' :: rest => if isDigit c then (digits? isDigit rest).map (c :: ·) else none
  | c :: rest => if isDigit c then (digits? isDigit rest).map (c :: ·) else none

def numberInBase (base : Nat) (ds : List Char) : Nat :=
  ds.foldl (fun n c => base * n + (Json.hexValue c).getD 0) 0

/-- A whole number of 64 bits with a sign. -/
def inRange (i : Int) : Bool :=
  decide (-0x8000000000000000 ≤ i) && decide (i ≤ 0x7FFFFFFFFFFFFFFF)

def based? (base : Nat) (isDigit : Char → Bool) (cs : List Char) : Option Int := do
  let ds ← digits? isDigit cs
  let i : Int := numberInBase base ds
  if inRange i then some i else none

/-- Whole numbers do not begin with a zero, unless they are zero. -/
def decimal? (cs : List Char) : Option (List Char) := do
  let ds ← digits? Text.isDigit cs
  if ds.length > 1 && ds.head? == some '0' then none else some ds

def unsigned (cs : List Char) : List Char := Text.unsigned cs

def integer? (cs : List Char) : Option Int :=
  match cs with
  | '0' :: 'x' :: rest => based? 16 (fun c => (Json.hexValue c).isSome) rest
  | '0' :: 'o' :: rest => based? 8 (fun c => '0' ≤ c && c ≤ '7') rest
  | '0' :: 'b' :: rest => based? 2 (fun c => c == '0' || c == '1') rest
  | cs => do
    let n : Int := numberInBase 10 (← decimal? (unsigned cs))
    let i := if cs.head? == some '-' then -n else n
    if inRange i then some i else none

def isExponentMark (c : Char) : Bool := c == 'e' || c == 'E'

/-- An exponent with its mark; nothing is none. -/
def exponent? : List Char → Option (Option Int)
  | [] => some none
  | _ :: cs => do
    let n : Int := numberInBase 10 (← digits? Text.isDigit (unsigned cs))
    some (some (if cs.head? == some '-' then -n else n))

/-- A number with a fraction or an exponent. -/
def float? (cs : List Char) : Option Numeral := do
  let body := unsigned cs
  let mantissa := body.takeWhile fun c => !isExponentMark c
  let whole := mantissa.takeWhile (· != '.')
  let fraction := mantissa.drop whole.length
  let exponent := body.drop mantissa.length
  if fraction.isEmpty && exponent.isEmpty then none
  else
    let fraction ← if fraction.isEmpty then some [] else digits? Text.isDigit (fraction.drop 1)
    some ⟨cs.head? == some '-', numberInBase 10 (← decimal? whole), fraction.map Text.digit,
      ← exponent? exponent⟩

/-- Whether a word is a number with a fraction or an exponent, or infinite, or not a number. Only a
negative number may be too large. -/
def isFloat (cs : List Char) : Bool :=
  let body := unsigned cs
  body == "inf".toList || body == "nan".toList ||
    (match float? cs with
    | some n => n.negative || n.fits
    | none => false)

/-- The number of exactly so many digits at the start. -/
def fixed (n : Nat) (cs : List Char) : Option (Nat × List Char) :=
  let ds := cs.take n
  if ds.length == n && ds.all Text.isDigit then some (numberInBase 10 ds, cs.drop n) else none

def leapYear (y : Nat) : Bool := (y % 4 == 0 && y % 100 != 0) || y % 400 == 0

def daysIn (year month : Nat) : Nat :=
  if month == 2 then (if leapYear year then 29 else 28)
  else if [4, 6, 9, 11].contains month then 30 else 31

def readDate (cs : List Char) : Option (List Char) := do
  let (year, rest) ← fixed 4 cs
  let (month, rest) ← fixed 2 (← Json.after? ['-'] rest)
  let (day, rest) ← fixed 2 (← Json.after? ['-'] rest)
  if 1 ≤ month && month ≤ 12 && 1 ≤ day && day ≤ daysIn year month then some rest else none

def readClock (cs : List Char) : Option (Nat × List Char) := do
  let (hour, rest) ← fixed 2 cs
  let (minute, rest) ← fixed 2 (← Json.after? [':'] rest)
  if hour ≤ 23 && minute ≤ 59 then some (minute, rest) else none

def readTime (cs : List Char) : Option (List Char) := do
  let (_, rest) ← readClock cs
  let (second, rest) ← fixed 2 (← Json.after? [':'] rest)
  if second > 60 then none
  else
    match rest with
    | '.' :: rest =>
      if (rest.takeWhile Text.isDigit).isEmpty then none
      else some (rest.dropWhile Text.isDigit)
    | rest => some rest

/-- Nothing, or an offset from universal time. -/
def isOffset : List Char → Bool
  | [] => true
  | ['Z'] => true
  | ['z'] => true
  | c :: rest => (c == '+' || c == '-') && (match readClock rest with
    | some (_, []) => true
    | _ => false)

/-- Whether a word is a date, a time, or both. -/
def isDate (cs : List Char) : Bool :=
  match readTime cs with
  | some rest => rest.isEmpty
  | none =>
    match readDate cs with
    | none => false
    | some [] => true
    | some (c :: rest) => (c == 'T' || c == 't' || c == ' ') && (match readTime rest with
      | some rest => isOffset rest
      | none => false)

def isWordChar (c : Char) : Bool := isBareKeyChar c || c == '+' || c == '.' || c == ':'

/-- A word; a blank between a date and a time belongs to it. -/
def readWord (cs : List Char) : List Char × List Char :=
  let word := cs.takeWhile isWordChar
  let rest := cs.dropWhile isWordChar
  match readDate word, rest with
  | some [], ' ' :: d :: more =>
    if Text.isDigit d then
      (word ++ ' ' :: (d :: more).takeWhile isWordChar, (d :: more).dropWhile isWordChar)
    else (word, rest)
  | _, _ => (word, rest)

def ofWord? (word : List Char) : Option Value :=
  match integer? word with
  | some i => some (.integer i)
  | none =>
    if word == "true".toList || word == "false".toList || isFloat word || isDate word then
      some .other
    else none

/-! ## Values -/

mutual

/-- A value, with at most `depth` lists and tables inside each other. -/
def readValue (fuel depth : Nat) (cs : List Char) : Option (Value × List Char) :=
  match fuel with
  | 0 => none
  | fuel + 1 =>
    match cs, depth with
    | '"' :: _, _ => (readString cs).map fun p => (.string p.1, p.2)
    | '\'' :: _, _ => (readString cs).map fun p => (.string p.1, p.2)
    | '[' :: _, 0 => none
    | '[' :: rest, depth + 1 => (readItems fuel depth rest).map fun rest => (.other, rest)
    | '\x7b' :: _, 0 => none
    | '\x7b' :: rest, depth + 1 =>
      match skipBlanks rest with
      | '\x7d' :: rest => some (.other, rest)
      | rest => (readPairs fuel depth ⟨.declared, []⟩ rest).map fun rest => (.other, rest)
    | cs, _ =>
      let (word, rest) := readWord cs
      (ofWord? word).map fun v => (v, rest)

/-- The items of a list up to its closing bracket. -/
def readItems (fuel depth : Nat) (cs : List Char) : Option (List Char) :=
  match fuel with
  | 0 => none
  | fuel + 1 =>
    match skipLines (cs.length + 1) cs with
    | none => none
    | some (']' :: rest) => some rest
    | some rest =>
      match readValue fuel depth rest with
      | none => none
      | some (_, rest) =>
        match skipLines (rest.length + 1) rest with
        | some (',' :: rest) => readItems fuel depth rest
        | some (']' :: rest) => some rest
        | _ => none

/-- The pairs of a table on one line, up to its closing brace. -/
def readPairs (fuel depth : Nat) (t : Open) (cs : List Char) : Option (List Char) :=
  match fuel with
  | 0 => none
  | fuel + 1 =>
    match readPath cs with
    | none => none
    | some (ks, rest) =>
      match rest with
      | '=' :: rest =>
        match readValue fuel depth (skipBlanks rest) with
        | none => none
        | some (v, rest) =>
          match splitKey ks with
          | none => none
          | some (path, k) =>
            match addPair path k v t, skipBlanks rest with
            | some t, ',' :: rest => readPairs fuel depth t rest
            | some _, '\x7d' :: rest => some rest
            | _, _ => none
      | _ => none

end

/-! ## Documents -/

/-- A document that is being read: its tables, and the path of the table that is open. -/
structure Document where
  root : Open
  path : List String

namespace Document

def empty : Document := ⟨⟨.declared, []⟩, []⟩

/-- Opens a table by its header. -/
def header (d : Document) (element : Bool) (ks : List String) : Option Document := do
  let (path, k) ← splitKey ks
  let root ← change false (if element then declareElement k else declare k) path d.root
  some ⟨root, ks⟩

def pair (d : Document) (ks : List String) (v : Value) : Option Document := do
  let (path, k) ← splitKey ks
  let root ← change false (addPair path k v) d.path d.root
  some { d with root := root }

end Document

/-- A header after its first bracket; two brackets are for an element of a list. -/
def readHeader (cs : List Char) : Option ((Bool × List String) × List Char) := do
  let (element, body) := match cs with
    | '[' :: rest => (true, rest)
    | rest => (false, rest)
  let (ks, rest) ← readPath body
  let rest ← Json.after? (if element then [']', ']'] else [']']) rest
  some ((element, ks), rest)

/-- One line of a document. -/
def readEntry (d : Document) (cs : List Char) : Option (Document × List Char) :=
  match cs with
  | [] => some (d, [])
  | '#' :: _ => some (d, cs)
  | '[' :: rest => do
    let ((element, ks), rest) ← readHeader rest
    some (← d.header element ks, rest)
  | cs =>
    if (afterBreak? cs).isSome then some (d, cs)
    else do
      let (ks, rest) ← readPath cs
      let rest ← Json.after? ['='] rest
      let (v, rest) ← readValue (rest.length + 2) maxDepth (skipBlanks rest)
      some (← d.pair ks v, rest)

/-- All lines of a document; `fuel` is more than their number. -/
def readEntries : Nat → Document → List Char → Option Document
  | _, d, [] => some d
  | 0, _, _ => none
  | fuel + 1, d, cs => do
    let (d, rest) ← readEntry d (skipBlanks cs)
    readEntries fuel d (← endLine rest)

/-- Drops a byte-order mark. -/
def withoutMark : List Char → List Char
  | c :: rest => if c.toNat == 0xFEFF then rest else c :: rest
  | [] => []

/-- The entries of a document. -/
def parse? (s : String) : Option Entries :=
  let cs := withoutMark s.toList
  (readEntries (cs.length + 1) .empty cs).map fun d => d.root.entries

end Plugboard.Toml
