/-!
Tables of characters written as lines of text. All numbers are hexadecimal. A table of ranges has
words such as `41` and `41-5A`. In a table of rows each word is the text of one character, its
characters parted by points; a word such as `C0:41.300` begins a row at `C0`, and the words after it
are for `C1`, `C2` and so on.
-/
namespace Plugboard.Text.Chart

/-- The value of a hexadecimal digit in upper case. -/
def digit (c : Char) : Nat := if c.isDigit then c.toNat - 48 else c.toNat - 55

def number (cs : List Char) : Nat := cs.foldl (fun n c => 16 * n + digit c) 0

def words (lines : List String) : List (List Char) := lines.flatMap fun s => s.toList.splitOn ' '

/-- The ranges of a table, ends included. -/
def ranges (lines : List String) : List (Nat × Nat) :=
  (words lines).map fun w =>
    match w.splitOn '-' with
    | [first, last] => (number first, number last)
    | _ => (number w, number w)

/-- Texts for characters that follow one another. -/
structure Row where
  first : Nat
  texts : List (List Char)
  deriving Repr, DecidableEq

def text (w : List Char) : List Char := (w.splitOn '.').map fun n => Char.ofNat (number n)

/-- Puts a word in front of what was read behind it: the texts of a row whose beginning is still to
come, and the rows after that one. -/
def addWord (w : List Char) (behind : List (List Char) × List Row) :
    List (List Char) × List Row :=
  match w.splitOn ':' with
  | [first, t] => ([], ⟨number first, text t :: behind.1⟩ :: behind.2)
  | _ => (text w :: behind.1, behind.2)

def rows (lines : List String) : List Row := ((words lines).foldr addWord ([], [])).2

/-- The text for a character. -/
def lookup? (rows : List Row) (c : Char) : Option (List Char) :=
  rows.findSome? fun r => if r.first ≤ c.toNat then r.texts[c.toNat - r.first]? else none

/-- Each character that has a text, with it. -/
def entries (rows : List Row) : List (Char × List Char) :=
  rows.flatMap fun r => r.texts.zipIdx.map fun p => (Char.ofNat (r.first + p.2), p.1)

end Plugboard.Text.Chart
