import Plugboard.Text.Blank
import Plugboard.Text.CompositeTable

/-!
The composed form of a text: a letter and its marks become one character where there is one for
them. The text is taken apart first and its marks are put in order, so that texts that look alike
have one composed form.
-/
namespace Plugboard.Text

/-- The class of a character: zero for one that stands by itself. -/
def markClass (c : Char) : Nat :=
  ((markClasses.find? fun k => within k.2 c).map (·.1)).getD 0

/-! ## Hangul

A syllable has a leading consonant, a vowel and perhaps a trailing consonant; its number tells
which. -/

def firstSyllable : Nat := 0xAC00

def firstLeading : Nat := 0x1100

def firstVowel : Nat := 0x1161

/-- The number before the first trailing consonant: it stands for having none. -/
def noTrailing : Nat := 0x11A7

def leadingCount : Nat := 19

def vowelCount : Nat := 21

def trailingCount : Nat := 28

/-- The letters of a syllable. -/
def syllableParts? (c : Char) : Option (List Char) :=
  let n := c.toNat - firstSyllable
  if firstSyllable ≤ c.toNat && n < leadingCount * vowelCount * trailingCount then
    let trailing := n % trailingCount
    let rest := n / trailingCount
    let leading := firstLeading + rest / vowelCount
    let vowel := firstVowel + rest % vowelCount
    some ([Char.ofNat leading, Char.ofNat vowel] ++
      if trailing == 0 then [] else [Char.ofNat (noTrailing + trailing)])
  else none

/-- The syllable of a consonant and a vowel, or of a syllable without and a trailing consonant. -/
def syllable? (a b : Char) : Option Char :=
  let leading := a.toNat - firstLeading
  let vowel := b.toNat - firstVowel
  let open_ := a.toNat - firstSyllable
  let trailing := b.toNat - noTrailing
  if firstLeading ≤ a.toNat && leading < leadingCount && firstVowel ≤ b.toNat && vowel < vowelCount
  then some (Char.ofNat (firstSyllable + (leading * vowelCount + vowel) * trailingCount))
  else if firstSyllable ≤ a.toNat && open_ < leadingCount * vowelCount * trailingCount &&
      open_ % trailingCount == 0 && noTrailing < b.toNat && trailing < trailingCount then
    some (Char.ofNat (a.toNat + trailing))
  else none

/-! ## Taking apart and putting together -/

/-- As deep as composites contain one another. -/
def compositeDepth : Nat := 4

def decomposeChar : Nat → Char → List Char
  | 0, c => [c]
  | depth + 1, c =>
    match syllableParts? c, Chart.lookup? compositeRows c with
    | some parts, _ => parts
    | none, some [a, b] => decomposeChar depth a ++ [b]
    | none, _ => [c]

def compositePairs : List (List Char × Char) :=
  (Chart.entries compositeRows).map fun e => (e.2, e.1)

/-- The one character for two. -/
def composite? (a b : Char) : Option Char :=
  (syllable? a b).or (compositePairs.lookup [a, b])

/-- Puts a character in front of ordered ones: a mark goes behind those of lower classes. -/
def placeMark (c : Char) : List Char → List Char
  | [] => [c]
  | d :: rest =>
    if markClass d != 0 && markClass d < markClass c then d :: placeMark c rest else c :: d :: rest

def orderMarks (cs : List Char) : List Char := cs.foldr placeMark []

/-- Composes what follows a character that stands by itself. `kept` are the marks behind it that
found no composite, the nearest to the end first; a mark finds one only if all of those have lower
classes. -/
def composeAfter (base : Char) (kept : List Char) : List Char → List Char
  | [] => base :: kept.reverse
  | c :: rest =>
    let free := match kept with
      | [] => true
      | d :: _ => markClass d < markClass c
    match if free then composite? base c else none with
    | some x => composeAfter x kept rest
    | none =>
      if markClass c == 0 then base :: kept.reverse ++ composeAfter c [] rest
      else composeAfter base (c :: kept) rest

/-- The composed form of a text in order. Marks at its start have nothing to stand on. -/
def composeOrdered : List Char → List Char
  | [] => []
  | c :: rest => if markClass c == 0 then composeAfter c [] rest else c :: composeOrdered rest

def compose (cs : List Char) : List Char :=
  composeOrdered (orderMarks (cs.flatMap (decomposeChar compositeDepth)))

end Plugboard.Text
