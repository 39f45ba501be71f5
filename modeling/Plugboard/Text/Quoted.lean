import Plugboard.Text.Blank
import Plugboard.Text.PrintTable

/-!
Texts in double quotes, as diagnostics show them. A quote, a backslash and the usual control
characters have a short escape; whatever cannot be seen by itself is written by its number.
-/
namespace Plugboard.Text

/-- The number in lower-case hexadecimal without leading zeros. -/
def hex (n : Nat) : List Char := Nat.toDigits 16 n

/-- Whether a character is written by its number. -/
def isHidden (c : Char) : Bool :=
  if c.toNat ≤ 0x7E then c.toNat < 0x20
  else within hiddenRanges c || within combiningRanges c

def escapeChar (c : Char) : List Char :=
  if c == '"' then ['\\', '"']
  else if c == '\\' then ['\\', '\\']
  else if c == '\n' then ['\\', 'n']
  else if c == '\r' then ['\\', 'r']
  else if c == '\t' then ['\\', 't']
  else if c.toNat == 0 then ['\\', '0']
  else if isHidden c then ['\\', 'u', '\x7b'] ++ hex c.toNat ++ ['\x7d']
  else [c]

def quote (s : String) : String :=
  String.ofList ('"' :: s.toList.flatMap escapeChar ++ ['"'])

/-! ## Shapes of diagnostics -/

/-- Items between brackets, parted by commas. -/
def bracketed (items : List String) : String := "[" ++ ", ".intercalate items ++ "]"

/-- Fields of a named record; `more` says that some are left out. -/
def record (name : String) (fields : List (String × String)) (more : Bool) : String :=
  let parts := fields.map (fun f => f.1 ++ ": " ++ f.2) ++ (if more then [".."] else [])
  name ++ " \x7b " ++ ", ".intercalate parts ++ " \x7d"

def optional : Option String → String
  | none => "None"
  | some s => "Some(" ++ s ++ ")"

def flag (b : Bool) : String := if b then "true" else "false"

end Plugboard.Text
