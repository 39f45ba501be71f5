import Plugboard.Json.Basic
import Plugboard.Text.Quoted

/-!
Writing JSON without any blanks. Characters above ASCII stand for themselves.
-/
namespace Plugboard.Json

def hexDigit (n : Nat) : Char := (Nat.digitChar (n % 16))

/-- A character inside a string: a quote, a backslash and controls are escaped. -/
def escapeChar (c : Char) : List Char :=
  if c == '"' then ['\\', '"']
  else if c == '\\' then ['\\', '\\']
  else if c == '\n' then ['\\', 'n']
  else if c == '\r' then ['\\', 'r']
  else if c == '\t' then ['\\', 't']
  else if c.toNat == 0x8 then ['\\', 'b']
  else if c.toNat == 0xC then ['\\', 'f']
  else if c.toNat < 0x20 then
    ['\\', 'u', '0', '0', hexDigit (c.toNat / 16), hexDigit c.toNat]
  else [c]

def writeString (s : String) : List Char := '"' :: s.toList.flatMap escapeChar ++ ['"']

def writeNat (n : Nat) : List Char := Nat.toDigits 10 n

def writeNumeral (n : Numeral) : List Char :=
  (if n.negative then ['-'] else []) ++ writeNat n.whole ++
    (if n.fraction.isEmpty then [] else '.' :: n.fraction.map fun d => Nat.digitChar d.val) ++
    match n.exponent with
    | none => []
    | some (.ofNat e) => 'e' :: writeNat e
    | some (.negSucc e) => 'e' :: '-' :: writeNat (e + 1)

mutual

def write : Json → List Char
  | .null => "null".toList
  | .bool true => "true".toList
  | .bool false => "false".toList
  | .number n => writeNumeral n
  | .string s => writeString s
  | .array items => '[' :: writeItems items
  | .object members => '\x7b' :: writeMembers members

/-- The items with commas between them, and the closing bracket. -/
def writeItems : List Json → List Char
  | [] => [']']
  | [j] => write j ++ [']']
  | j :: rest => write j ++ ',' :: writeItems rest

/-- The members with commas between them, and the closing brace. -/
def writeMembers : List (String × Json) → List Char
  | [] => ['\x7d']
  | [(k, j)] => writeString k ++ ':' :: write j ++ ['\x7d']
  | (k, j) :: rest => writeString k ++ ':' :: write j ++ ',' :: writeMembers rest

end

def compact (j : Json) : String := String.ofList (write j)

end Plugboard.Json
