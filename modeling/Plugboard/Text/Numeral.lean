import Plugboard.Text.Blank

/-!
Numbers written as text: which texts are numbers at all, and the whole numbers up to a limit.
-/
namespace Plugboard.Text

def isDigit (c : Char) : Bool := '0' ≤ c && c ≤ '9'

def digitValue (c : Char) : Nat := c.toNat - '0'.toNat

def digit (c : Char) : Fin 10 := Fin.ofNat 10 (digitValue c)

/-! ## Real numbers -/

/-- What may follow the digits of a number: nothing, or an exponent with at least one digit. -/
def isExponent : List Char → Bool
  | [] => true
  | e :: rest =>
    (e == 'e' || e == 'E') &&
      match rest with
      | [] => false
      | s :: ds => if s == '+' || s == '-' then !ds.isEmpty && ds.all isDigit
                   else rest.all isDigit

/-- Digits with an optional point, a digit on at least one side of it, and an optional exponent. -/
def isDecimal (cs : List Char) : Bool :=
  let whole := cs.takeWhile isDigit
  match cs.dropWhile isDigit with
  | '.' :: rest =>
    (!whole.isEmpty || !(rest.takeWhile isDigit).isEmpty) && isExponent (rest.dropWhile isDigit)
  | rest => !whole.isEmpty && isExponent rest

def unsigned : List Char → List Char
  | c :: rest => if c == '+' || c == '-' then rest else c :: rest
  | [] => []

/-- A real number: an optional sign, then a decimal, or infinity or not-a-number by name. -/
def isNumber (s : String) : Bool :=
  let body := unsigned s.toList
  let word := body.map Char.toLower
  word == "inf".toList || word == "infinity".toList || word == "nan".toList || isDecimal body

/-! ## Whole numbers -/

inductive WholeError
  | empty
  | invalidDigit
  | tooLarge
  deriving Repr, DecidableEq

def WholeError.message : WholeError → String
  | .empty => "cannot parse integer from empty string"
  | .invalidDigit => "invalid digit found in string"
  | .tooLarge => "number too large to fit in target type"

/-- Reads digits on top of `n`; the first character that fails decides the error. -/
def readDigits (limit : Nat) (n : Nat) : List Char → Except WholeError Nat
  | [] => .ok n
  | c :: rest =>
    if isDigit c then
      let m := 10 * n + digitValue c
      if m ≤ limit then readDigits limit m rest else .error .tooLarge
    else .error .invalidDigit

/-- A whole number up to `limit`, with an optional plus sign. -/
def readWhole (limit : Nat) (s : String) : Except WholeError Nat :=
  match s.toList with
  | [] => .error .empty
  | ['+'] => .error .invalidDigit
  | '+' :: rest => readDigits limit 0 rest
  | cs => readDigits limit 0 cs

/-- The largest number of 32 bits. -/
def max32 : Nat := 0xFFFFFFFF

/-- The largest number of 64 bits. -/
def max64 : Nat := 0xFFFFFFFFFFFFFFFF

end Plugboard.Text
