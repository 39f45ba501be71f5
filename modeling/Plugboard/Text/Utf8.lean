import Plugboard.Text.Blank

/-!
UTF-8: the bytes of a text, and the text of some bytes. Reading has two forms: a strict one that
refuses what is not UTF-8, and a lenient one that puts U+FFFD for each broken stretch.
-/
namespace Plugboard.Text

def isTail (b : Nat) : Bool := 0x80 ≤ b && b ≤ 0xBF

/-- The bytes that may come second after a given first one, and how many follow in all. -/
def leadShape (b : Nat) : Option (Nat × Nat × Nat) :=
  if 0xC2 ≤ b && b ≤ 0xDF then some (1, 0x80, 0xBF)
  else if b == 0xE0 then some (2, 0xA0, 0xBF)
  else if 0xE1 ≤ b && b ≤ 0xEC then some (2, 0x80, 0xBF)
  else if b == 0xED then some (2, 0x80, 0x9F)
  else if 0xEE ≤ b && b ≤ 0xEF then some (2, 0x80, 0xBF)
  else if b == 0xF0 then some (3, 0x90, 0xBF)
  else if 0xF1 ≤ b && b ≤ 0xF3 then some (3, 0x80, 0xBF)
  else if b == 0xF4 then some (3, 0x80, 0x8F)
  else none

/-- One step of reading: a character or a broken stretch, and how many bytes it took. -/
def nextChar : List Nat → Option Char × Nat
  | [] => (none, 1)
  | a :: rest =>
    if a ≤ 0x7F then (some (Char.ofNat a), 1)
    else
      match leadShape a, rest with
      | none, _ => (none, 1)
      | some _, [] => (none, 1)
      | some (n, lo, hi), b :: more =>
        if !(lo ≤ b && b ≤ hi) then (none, 1)
        else if n == 1 then (some (Char.ofNat (a % 0x20 * 0x40 + b % 0x40)), 2)
        else
          match more with
          | [] => (none, 2)
          | c :: more =>
            if !isTail c then (none, 2)
            else if n == 2 then
              (some (Char.ofNat ((a % 0x10 * 0x40 + b % 0x40) * 0x40 + c % 0x40)), 3)
            else
              match more with
              | [] => (none, 3)
              | d :: _ =>
                if !isTail d then (none, 3)
                else
                  let n := ((a % 0x08 * 0x40 + b % 0x40) * 0x40 + c % 0x40) * 0x40 + d % 0x40
                  (some (Char.ofNat n), 4)

/-- Characters and broken stretches in order; `fuel` is at least the number of bytes. -/
def readUtf8 : Nat → List Nat → List (Option Char)
  | 0, _ => []
  | _, [] => []
  | fuel + 1, bytes =>
    let (c, taken) := nextChar bytes
    c :: readUtf8 fuel (bytes.drop taken)

/-- The text of some bytes, if they are UTF-8. -/
def ofUtf8? (bytes : List Nat) : Option String :=
  ((readUtf8 bytes.length bytes).mapM id).map String.ofList

/-- The text of some bytes, with U+FFFD for each stretch that is not UTF-8. -/
def ofUtf8Lossy (bytes : List Nat) : String :=
  String.ofList ((readUtf8 bytes.length bytes).map fun c => c.getD (Char.ofNat 0xFFFD))

/-- The bytes of a character. -/
def charBytes (c : Char) : List Nat :=
  let n := c.toNat
  if n ≤ 0x7F then [n]
  else if n ≤ 0x7FF then [0xC0 + n / 0x40, 0x80 + n % 0x40]
  else if n ≤ 0xFFFF then [0xE0 + n / 0x1000, 0x80 + n / 0x40 % 0x40, 0x80 + n % 0x40]
  else
    [0xF0 + n / 0x40000, 0x80 + n / 0x1000 % 0x40, 0x80 + n / 0x40 % 0x40, 0x80 + n % 0x40]

def toUtf8 (cs : List Char) : List Nat := cs.flatMap charBytes

end Plugboard.Text
