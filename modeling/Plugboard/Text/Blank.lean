/-!
Blank characters and what it means to trim a text. Blank is Unicode's White_Space, so the
no-break and ideographic spaces are blank while U+200B, U+FEFF and U+001C are not.
-/
namespace Plugboard.Text

/-- Whether a character lies in one of some ranges of numbers, ends included. -/
def within (ranges : List (Nat × Nat)) (c : Char) : Bool :=
  ranges.any fun r => r.1 ≤ c.toNat && c.toNat ≤ r.2

def blankRanges : List (Nat × Nat) :=
  [(0x9, 0xD), (0x20, 0x20), (0x85, 0x85), (0xA0, 0xA0), (0x1680, 0x1680), (0x2000, 0x200A),
   (0x2028, 0x2029), (0x202F, 0x202F), (0x205F, 0x205F), (0x3000, 0x3000)]

def isBlank (c : Char) : Bool := within blankRanges c

/-- Drops characters from the end while they satisfy `p`. -/
def dropEndWhile (p : Char → Bool) (cs : List Char) : List Char :=
  (cs.reverse.dropWhile p).reverse

/-- Drops characters from both ends while they satisfy `p`. -/
def stripChars (p : Char → Bool) (cs : List Char) : List Char :=
  dropEndWhile p (cs.dropWhile p)

def trimChars (cs : List Char) : List Char := stripChars isBlank cs

def trim (s : String) : String := String.ofList (trimChars s.toList)

/-- A text with nothing but blanks in it. -/
def allBlank (s : String) : Bool := s.toList.all isBlank

/-- Drops every `c` at the start. -/
def trimStartOf (c : Char) (s : String) : String := String.ofList (s.toList.dropWhile (· == c))

/-- Drops every `c` at the end. -/
def trimEndOf (c : Char) (s : String) : String := String.ofList (dropEndWhile (· == c) s.toList)

/-- Drops every `c` at both ends. -/
def trimOf (c : Char) (s : String) : String := String.ofList (stripChars (· == c) s.toList)

/-- Whether `p` is what the text starts with. -/
def startsWith (p s : String) : Bool := p.toList.isPrefixOf s.toList

/-! ## Laws -/

theorem dropEndWhile_append_singleton (p : Char → Bool) (cs : List Char) (c : Char) :
    dropEndWhile p (cs ++ [c]) = if p c then dropEndWhile p cs else cs ++ [c] := by
  by_cases h : p c <;> simp [dropEndWhile, h]

end Plugboard.Text
