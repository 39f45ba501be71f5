import Plugboard.Double
import Plugboard.Json.Basic

/-!
Reading JSON in two steps. First the text is read for its form alone: `Written` keeps what stands
there, even a member that comes twice or a string with half a surrogate pair. What is kept of it
is then turned into a `Json` value, where such faults count; what is skipped may have them.
-/
namespace Plugboard

inductive Written
  | null
  | bool (b : Bool)
  | number (n : Numeral)
  | string (s : Option String)
  | array (items : List Written)
  | object (members : List (Option String × Written))
  deriving Inhabited

namespace Json

/-! ## Blanks, words and numbers -/

def isSpace (c : Char) : Bool := c == ' ' || c == '\n' || c == '\t' || c == '\r'

def skipSpace (cs : List Char) : List Char := cs.dropWhile isSpace

/-- The text after a given start. -/
def after? : List Char → List Char → Option (List Char)
  | [], cs => some cs
  | _ :: _, [] => none
  | p :: ps, c :: cs => if p == c then after? ps cs else none

def natOfDigits (ds : List Char) : Nat := ds.foldl (fun n d => 10 * n + Text.digitValue d) 0

/-- The digits after a point. -/
def readFraction : List Char → Option (List (Fin 10) × List Char)
  | '.' :: rest =>
    let ds := rest.takeWhile Text.isDigit
    if ds.isEmpty then none else some (ds.map Text.digit, rest.dropWhile Text.isDigit)
  | cs => some ([], cs)

def readExponent : List Char → Option (Option Int × List Char)
  | [] => some (none, [])
  | c :: rest =>
    if c == 'e' || c == 'E' then
      let (negative, body) :=
        match rest with
        | '+' :: r => (false, r)
        | '-' :: r => (true, r)
        | r => (false, r)
      let ds := body.takeWhile Text.isDigit
      if ds.isEmpty then none
      else
        let n : Int := natOfDigits ds
        some (some (if negative then -n else n), body.dropWhile Text.isDigit)
    else some (none, c :: rest)

/-- A number: no leading zeros, a digit on both sides of a point. -/
def readNumeral (cs : List Char) : Option (Numeral × List Char) := do
  let (negative, body) :=
    match cs with
    | '-' :: rest => (true, rest)
    | rest => (false, rest)
  let ds := body.takeWhile Text.isDigit
  if ds.isEmpty || (ds.length > 1 && ds.head? == some '0') then none
  else
    let (fraction, rest) ← readFraction (body.dropWhile Text.isDigit)
    let (exponent, rest) ← readExponent rest
    some (⟨negative, natOfDigits ds, fraction, exponent⟩, rest)

/-! ## Strings -/

def hexValue (c : Char) : Option Nat :=
  if Text.isDigit c then some (Text.digitValue c)
  else if 'a' ≤ c && c ≤ 'f' then some (c.toNat - 'a'.toNat + 10)
  else if 'A' ≤ c && c ≤ 'F' then some (c.toNat - 'A'.toNat + 10)
  else none

def hex4 : List Char → Option (Nat × List Char)
  | a :: b :: c :: d :: rest => do
    let a ← hexValue a
    let b ← hexValue b
    let c ← hexValue c
    let d ← hexValue d
    some (((a * 16 + b) * 16 + c) * 16 + d, rest)
  | _ => none

/-- The character of a one-letter escape. -/
def shortEscape (c : Char) : Option Char :=
  match c with
  | '"' => some '"'
  | '\\' => some '\\'
  | '/' => some '/'
  | 'b' => some (Char.ofNat 0x8)
  | 'f' => some (Char.ofNat 0xC)
  | 'n' => some '\n'
  | 'r' => some '\r'
  | 't' => some '\t'
  | _ => none

/-- Reads up to the closing quote. The numbers in `units` are characters, last one first, and
halves of surrogate pairs. -/
def readUnits (fuel : Nat) (units : List Nat) (cs : List Char) : Option (List Nat × List Char) :=
  match fuel, cs with
  | 0, _ => none
  | _, [] => none
  | fuel + 1, c :: rest =>
    if c == '"' then some (units, rest)
    else if c.toNat < 0x20 then none
    else if c == '\\' then
      match rest with
      | [] => none
      | 'u' :: rest =>
        match hex4 rest with
        | none => none
        | some (n, rest) => readUnits fuel (n :: units) rest
      | e :: rest =>
        match shortEscape e with
        | none => none
        | some d => readUnits fuel (d.toNat :: units) rest
    else readUnits fuel (c.toNat :: units) rest

def isHighHalf (n : Nat) : Bool := 0xD800 ≤ n && n ≤ 0xDBFF

def isLowHalf (n : Nat) : Bool := 0xDC00 ≤ n && n ≤ 0xDFFF

/-- Joins surrogate pairs, reading the numbers from the last to the first. -/
def joinUnits (done : List Char) : List Nat → Option (List Char)
  | [] => some done
  | [n] => if isHighHalf n || isLowHalf n then none else some (Char.ofNat n :: done)
  | n :: m :: rest =>
    if isLowHalf n then
      if isHighHalf m then
        joinUnits (Char.ofNat (0x10000 + (m - 0xD800) * 0x400 + (n - 0xDC00)) :: done) rest
      else none
    else if isHighHalf n then none
    else joinUnits (Char.ofNat n :: done) (m :: rest)

def readString (cs : List Char) : Option (Option String × List Char) :=
  (readUnits (cs.length + 1) [] cs).map fun p => ((joinUnits [] p.1).map String.ofList, p.2)

/-! ## Values -/

mutual

def readValue (fuel : Nat) (cs : List Char) : Option (Written × List Char) :=
  match fuel with
  | 0 => none
  | fuel + 1 =>
    match skipSpace cs with
    | '\x7b' :: rest =>
      match skipSpace rest with
      | '\x7d' :: rest => some (.object [], rest)
      | rest => (readMembers fuel rest).map fun p => (.object p.1, p.2)
    | '[' :: rest =>
      match skipSpace rest with
      | ']' :: rest => some (.array [], rest)
      | rest => (readItems fuel rest).map fun p => (.array p.1, p.2)
    | '"' :: rest => (readString rest).map fun p => (.string p.1, p.2)
    | 'n' :: rest => (after? "ull".toList rest).map fun r => (.null, r)
    | 't' :: rest => (after? "rue".toList rest).map fun r => (.bool true, r)
    | 'f' :: rest => (after? "alse".toList rest).map fun r => (.bool false, r)
    | cs => (readNumeral cs).map fun p => (.number p.1, p.2)

/-- The items up to the closing bracket, of which there is at least one. -/
def readItems (fuel : Nat) (cs : List Char) : Option (List Written × List Char) :=
  match fuel with
  | 0 => none
  | fuel + 1 =>
    match readValue fuel cs with
    | none => none
    | some (v, rest) =>
      match skipSpace rest with
      | ',' :: rest => (readItems fuel rest).map fun p => (v :: p.1, p.2)
      | ']' :: rest => some ([v], rest)
      | _ => none

/-- The members up to the closing brace, of which there is at least one. -/
def readMembers (fuel : Nat) (cs : List Char) :
    Option (List (Option String × Written) × List Char) :=
  match fuel with
  | 0 => none
  | fuel + 1 =>
    match skipSpace cs with
    | '"' :: rest =>
      match readString rest with
      | none => none
      | some (k, rest) =>
        match skipSpace rest with
        | ':' :: rest =>
          match readValue fuel rest with
          | none => none
          | some (v, rest) =>
            match skipSpace rest with
            | ',' :: rest => (readMembers fuel rest).map fun p => ((k, v) :: p.1, p.2)
            | '\x7d' :: rest => some ([(k, v)], rest)
            | _ => none
        | _ => none
    | _ => none

end

/-- The one value that a text consists of. -/
def written? (s : String) : Option Written :=
  let cs := s.toList
  match readValue (2 * cs.length + 2) cs with
  | some (w, rest) => if (skipSpace rest).isEmpty then some w else none
  | none => none

/-! ## From what is written to a value -/

mutual

/-- The value of what is written, with at most `depth` lists and objects inside each other. -/
def ofWritten? (depth : Nat) : Written → Option Json
  | .null => some .null
  | .bool b => some (.bool b)
  | .number n => n.held?.map .number
  | .string s => s.map .string
  | .array items =>
    match depth with
    | 0 => none
    | depth + 1 => (ofItems? depth items).map .array
  | .object members =>
    match depth with
    | 0 => none
    | depth + 1 => (ofMembers? depth members).map .object

def ofItems? (depth : Nat) : List Written → Option (List Json)
  | [] => some []
  | w :: rest => do
    let j ← ofWritten? depth w
    let js ← ofItems? depth rest
    some (j :: js)

/-- Of two members with one key the later one counts. -/
def ofMembers? (depth : Nat) (members : List (Option String × Written)) :
    Option (List (String × Json)) :=
  match members with
  | [] => some []
  | (k, w) :: rest => do
    let k ← k
    let j ← ofWritten? depth w
    let js ← ofMembers? depth rest
    some (if js.any (fun m => m.1 == k) then js else (k, j) :: js)

end

/-- How many lists and objects may stand inside each other. -/
def maxDepth : Nat := 127

def parse? (s : String) : Option Json := (written? s).bind (ofWritten? maxDepth)

end Json
end Plugboard
