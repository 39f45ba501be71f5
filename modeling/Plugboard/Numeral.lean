import Plugboard.Text.Numeral

/-!
Decimal numbers as they are written: which of them are too large for a double, which of them are whole
numbers of 64 bits, and what 64 bits hold of the digits of the others.
-/
namespace Plugboard

/-- A decimal number: sign, whole part, digits after the point, power of ten. -/
structure Numeral where
  negative : Bool
  whole : Nat
  fraction : List (Fin 10)
  exponent : Option Int
  deriving Repr, DecidableEq

namespace Numeral

def ofNat (n : Nat) : Numeral := ⟨false, n, [], none⟩

def ofInt (i : Int) : Numeral := ⟨decide (i < 0), i.natAbs, [], none⟩

/-- The whole number without sign that this is written as, if it is written as one. -/
def nat? (n : Numeral) : Option Nat :=
  if n.negative || !n.fraction.isEmpty || n.exponent.isSome then none else some n.whole

/-- The least number that a double would round to infinity. -/
def doubleLimit : Nat := Nat.pow 2 1024 - Nat.pow 2 970

/-- The decimal digits of a number, the first one first. -/
def digitsOf (n : Nat) : List (Fin 10) := (Nat.toDigits 10 n).map Text.digit

/-- The number with these digits behind its own. -/
def withDigits (n : Nat) (ds : List (Fin 10)) : Nat := ds.foldl (fun v d => 10 * v + d.val) n

/-- The number without its point: all digits in one, and the power of ten that goes with them. -/
def scaled (n : Numeral) : Nat × Int :=
  (withDigits n.whole n.fraction, n.exponent.getD 0 - n.fraction.length)

/-- Whether the number without its sign is rounded to a finite double. -/
def fits (n : Numeral) : Bool :=
  let (digits, power) := n.scaled
  let size := (Nat.toDigits 10 digits).length + power
  if digits == 0 || size < 309 then true
  else if size > 309 then false
  else if 0 ≤ power then digits * Nat.pow 10 power.toNat < doubleLimit
  else digits < doubleLimit * Nat.pow 10 (-power).toNat

/-- Takes digits on top of a number for as long as it stays within 64 bits; gives it together with
how many digits were left. -/
def takeDigits (n : Nat) : List (Fin 10) → Nat × Nat
  | [] => (n, 0)
  | d :: ds => if 10 * n + d ≤ Text.max64 then takeDigits (10 * n + d) ds else (n, ds.length + 1)

/-- Like `scaled`, with no more digits than 64 bits hold. The whole part and the fraction each leave
out what comes after the first digit that is too much. -/
def shortened (n : Numeral) : Nat × Int :=
  let (digits, wholeLeft) := takeDigits 0 (digitsOf n.whole)
  let (digits, fractionLeft) := takeDigits digits n.fraction
  (digits, n.exponent.getD 0 + wholeLeft - (n.fraction.length - fractionLeft : Nat))

/-- Whether the number is written as a whole one, and 64 bits hold it. A zero with a sign is not. -/
def isWhole (n : Numeral) : Bool :=
  n.fraction.isEmpty && n.exponent.isNone &&
    if n.negative then 0 < n.whole && n.whole ≤ Nat.pow 2 63 else n.whole ≤ Text.max64

end Numeral
end Plugboard
