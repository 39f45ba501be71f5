import Plugboard.Text.Blank
import Plugboard.Text.CaseTable

/-!
Lower case of a whole text. Each character has its own lower-case form, with two exceptions:
U+0130 becomes an i with a dot above, and a capital sigma that ends a word becomes a final sigma.
-/
namespace Plugboard.Text

/-- The lower-case number of a character above ASCII, by the first run that names it. -/
def lowerByRuns : List CaseRun → Nat → Nat
  | [], n => n
  | r :: rest, n =>
    if r.first ≤ n && n ≤ r.last then
      if (n - r.first) % r.step == 0 then ((n : Int) + r.shift).toNat else lowerByRuns rest n
    else lowerByRuns rest n

/-- The lower-case form of a character wherever it stands. -/
def lowerChar (c : Char) : List Char :=
  if c.toNat ≤ 0x7F then [c.toLower]
  else if c.toNat == 0x130 then ['i', Char.ofNat 0x307]
  else [Char.ofNat (lowerByRuns caseRuns c.toNat)]

/-- Whether the nearest character that counts is a cased letter. -/
def casedAhead (cs : List Char) : Bool :=
  match cs.dropWhile (within caseIgnorableRanges) with
  | [] => false
  | c :: _ => within casedRanges c

/-- Lowers the rest of a text, `before` being what was read so far, nearest character first. -/
def lowerFrom (before : List Char) : List Char → List Char
  | [] => []
  | c :: rest =>
    let here :=
      if c == 'Σ' then
        if casedAhead before && !casedAhead rest then ['ς'] else ['σ']
      else lowerChar c
    here ++ lowerFrom (c :: before) rest

def lowerChars (cs : List Char) : List Char := lowerFrom [] cs

def lower (s : String) : String := String.ofList (lowerChars s.toList)

/-- Whether `part` occurs in a text as a run of neighbouring characters. -/
def occursIn (part : List Char) : List Char → Bool
  | [] => part.isEmpty
  | c :: rest => part.isPrefixOf (c :: rest) || occursIn part rest

/-- Equality of two texts up to the case of ASCII letters. -/
def sameAsciiLetters (a b : String) : Bool :=
  a.toList.map Char.toLower == b.toList.map Char.toLower

/-! ## Laws -/

theorem occursIn_iff (part cs : List Char) : occursIn part cs = true ↔ part <:+: cs := by
  induction cs with
  | nil => cases part <;> simp [occursIn]
  | cons c rest ih =>
    simp only [occursIn, Bool.or_eq_true, ih, List.isPrefixOf_iff_prefix]
    exact List.infix_cons_iff.symm

end Plugboard.Text
