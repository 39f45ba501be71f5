import Plugboard.Text.Numeral

/-!
Punycode (RFC 3492): a label of a domain name in ASCII letters, digits and hyphens. Characters above
ASCII are written in ascending order, each as its distance from the one before in digits of base 36
whose thresholds follow an adapting bias.
-/
namespace Plugboard.Http.Punycode

def digit (d : Nat) : Char :=
  if d < 26 then Char.ofNat ('a'.toNat + d) else Char.ofNat ('0'.toNat + d - 26)

/-- The threshold of the digit at position `k`. -/
def threshold (k bias : Nat) : Nat :=
  if k ≤ bias then 1 else if bias + 26 ≤ k then 26 else k - bias

theorem threshold_pos (k bias : Nat) : 1 ≤ threshold k bias := by
  grind [threshold]

def shrink (delta k : Nat) : Nat × Nat :=
  if 455 < delta then shrink (delta / 35) (k + 36) else (delta, k)
termination_by delta
decreasing_by exact Nat.div_lt_self (by omega) (by omega)

/-- The bias after a distance was written, `count` characters being done. -/
def adapt (delta count : Nat) (first : Bool) : Nat :=
  let d := if first then delta / 700 else delta / 2
  let r := shrink (d + d / count) 0
  r.2 + 36 * r.1 / (r.1 + 38)

/-- A distance in digits, least significant first. -/
def distance (bias k q : Nat) : List Char :=
  let t := threshold k bias
  if q < t then [digit q]
  else digit (t + (q - t) % (36 - t)) :: distance bias (k + 36) ((q - t) / (36 - t))
termination_by q
decreasing_by
  have := threshold_pos k bias
  exact Nat.lt_of_le_of_lt (Nat.div_le_self _ _) (by omega)

structure Progress where
  out : List Char
  delta : Nat
  bias : Nat
  done : Nat

/-- Looks at one character of the label while those numbered `m` are being written. -/
def visit (plain m : Nat) (s : Progress) (c : Char) : Progress :=
  if c.toNat < m then { s with delta := s.delta + 1 }
  else if c.toNat == m then
    ⟨s.out ++ distance s.bias 36 s.delta, 0, adapt s.delta (s.done + 1) (s.done == plain),
      s.done + 1⟩
  else s

def insertAscending (n : Nat) : List Nat → List Nat
  | [] => [n]
  | m :: rest => if n < m then n :: m :: rest else if n == m then m :: rest
                 else m :: insertAscending n rest

/-- Writes the characters numbered by the list, `last` being the number before. -/
def writeAll (label : List Char) (plain : Nat) : Nat → List Nat → Progress → Progress
  | _, [], s => s
  | last, m :: rest, s =>
    let s := { s with delta := s.delta + (m - last) * (s.done + 1) }
    let s := label.foldl (visit plain m) s
    writeAll label plain (m + 1) rest { s with delta := s.delta + 1 }

def encode (label : List Char) : List Char :=
  let basic := label.filter fun c => c.toNat < 0x80
  let above := label.filter fun c => 0x80 ≤ c.toNat
  let above := above.foldr (fun c l => insertAscending c.toNat l) []
  let start := if basic.isEmpty then [] else basic ++ ['-']
  (writeAll label basic.length 0x80 above ⟨start, 0, 72, basic.length⟩).out

/-! ## Reading -/

/-- The value of a digit. -/
def digitValue? (c : Char) : Option Nat :=
  if 'a' ≤ c && c ≤ 'z' then some (c.toNat - 'a'.toNat)
  else if '0' ≤ c && c ≤ '9' then some (c.toNat - '0'.toNat + 26)
  else none

/-- Numbers from here on are too large to be read. -/
def tooLarge : Nat := 0x100000000

/-- Reads a distance; `weight` is what the next digit counts, `sum` what the ones before make. -/
def readDistance (bias k weight sum : Nat) : List Char → Option (Nat × List Char)
  | [] => none
  | c :: rest => do
    let d ← digitValue? c
    let sum := sum + d * weight
    let t := threshold k bias
    if tooLarge ≤ sum then none
    else if d < t then some (sum, rest)
    else if tooLarge ≤ weight * (36 - t) then none
    else readDistance bias (k + 36) (weight * (36 - t)) sum rest

/-- Puts the characters that the distances tell into a text. `m` is the number of the last one and
`place` the place behind it. -/
def insertAll (fuel m place bias : Nat) (out cs : List Char) : Option (List Char) :=
  match fuel, cs with
  | _, [] => some out
  | 0, _ => none
  | fuel + 1, cs => do
    let (moved, rest) ← readDistance bias 36 1 place cs
    let bias := adapt (moved - place) (out.length + 1) (place == 0)
    let m := m + moved / (out.length + 1)
    let place := moved % (out.length + 1)
    if decide m.isValidChar then
      insertAll fuel m (place + 1) bias (out.take place ++ Char.ofNat m :: out.drop place) rest
    else none

/-- The text that a label stands for; the part before the last hyphen is written as it is. -/
def decode? (label : List Char) : Option (List Char) :=
  let after := (label.reverse.takeWhile (· != '-')).reverse
  let before := label.take (label.length - after.length - 1)
  if before.isEmpty then insertAll label.length 0x80 0 72 [] label
  else insertAll label.length 0x80 0 72 before after

end Plugboard.Http.Punycode
