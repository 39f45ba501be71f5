import Plugboard.Http.DomainTable
import Plugboard.Http.LabelTable
import Plugboard.Http.Punycode
import Plugboard.Text.Composite

/-!
Domain names. A name is brought to its one form by mapping and composing its characters. Its labels
have to be well formed, and those with characters beyond ASCII are written in Punycode.
-/
namespace Plugboard.Http.Domain

open Text (within)

def isAscii (c : Char) : Bool := c.toNat < 0x80

/-! ## Characters -/

/-- What a character of a name stands for; none if it is refused. -/
def mapChar (c : Char) : Option (List Char) :=
  if isAscii c then some [c.toLower]
  else if within ignoredInNames c then some []
  else if within refusedInNames c then none
  else some ((Text.Chart.lookup? mappedInNames c).getD [c])

/-- The one form of a text in a name. -/
def mapText (cs : List Char) : Option (List Char) :=
  (cs.mapM mapChar).map fun parts => Text.compose parts.flatten

/-- Whether a text already has the form that it would be brought to. -/
def isMapped (cs : List Char) : Bool :=
  (cs.all fun c => mapChar c == some [c]) && Text.compose cs == cs

/-- ASCII characters that no name may contain. -/
def isForbidden (c : Char) : Bool :=
  c.toNat ≤ 0x20 || c.toNat == 0x7F || "#/:<>?@[\\]^|%".toList.contains c

/-! ## Joiners -/

def zeroWidthNonJoiner : Char := Char.ofNat 0x200C

def zeroWidthJoiner : Char := Char.ofNat 0x200D

/-- The class of the marks that suppress a vowel and join consonants. -/
def viramaClass : Nat := 9

/-- Whether the nearest character that joining does not pass over is in some ranges. -/
def meets (ranges : List (Nat × Nat)) (cs : List Char) : Bool :=
  match cs.dropWhile (within transparentRanges) with
  | [] => false
  | c :: _ => within ranges c

/-- Whether a joiner may stand between two texts, the one before it from its end. -/
def mayJoin (joiner : Char) (before after : List Char) : Bool :=
  (before.head?.map fun c => Text.markClass c == viramaClass).getD false ||
    (joiner == zeroWidthNonJoiner && meets joinsOnwardRanges before && meets joinsBackRanges after)

/-- Whether all joiners of a label stand where they may. -/
def joinsWell (before : List Char) : List Char → Bool
  | [] => true
  | c :: rest =>
    ((c != zeroWidthNonJoiner && c != zeroWidthJoiner) || mayJoin c before rest) &&
      joinsWell (c :: before) rest

/-! ## Direction -/

inductive Direction
  | leftToRight
  | rightToLeft
  | arabicNumber
  | europeanNumber
  | nonspacing
  | neutral
  deriving Repr, DecidableEq

def direction (c : Char) : Direction :=
  if isAscii c then
    if c.isAlpha then .leftToRight else if c.isDigit then .europeanNumber else .neutral
  else if within rightToLeftRanges c then .rightToLeft
  else if within arabicNumberRanges c then .arabicNumber
  else if within europeanNumberRanges c then .europeanNumber
  else if within nonspacingRanges c then .nonspacing
  else if within neutralRanges c then .neutral
  else .leftToRight

def Direction.isRightward (d : Direction) : Bool := d == .rightToLeft || d == .arabicNumber

/-- Whether a label can be shown in a name some of whose letters go from right to left: it goes in
one direction, begins with a letter of it and ends with a letter or a number. -/
def readsWell (label : List Char) : Bool :=
  let ds := label.map direction
  let end_ := (ds.reverse.dropWhile (· == .nonspacing)).head?
  match ds.head? with
  | none => true
  | some .leftToRight =>
    (ds.all fun d => !d.isRightward) &&
      (end_ == some .leftToRight || end_ == some .europeanNumber)
  | some .rightToLeft =>
    (ds.all fun d => d != .leftToRight) &&
      (end_ == some .rightToLeft || end_ == some .europeanNumber || end_ == some .arabicNumber) &&
      !(ds.contains .europeanNumber && ds.contains .arabicNumber)
  | some _ => false

/-! ## Labels -/

/-- A label as it is written in a name, and the text that it stands for. -/
structure Label where
  written : List Char
  shown : List Char
  deriving Repr, DecidableEq

/-- What a label in Punycode begins with. -/
def encodedMark : List Char := "xn--".toList

/-- The longest label that is encoded, and the longest that is decoded. -/
def longestShown : Nat := 1000

def longestWritten : Nat := 2000

/-- Whether the text of a label beyond ASCII is well formed. -/
def isWellFormed (shown : List Char) : Bool :=
  !((shown.head?.map (within markRanges)).getD false) && joinsWell [] shown

def readLabel (cs : List Char) : Option Label :=
  if encodedMark.isPrefixOf cs then
    let code := cs.drop encodedMark.length
    if longestWritten < code.length then none
    else
      match Punycode.decode? code with
      | none => none
      | some shown =>
        if !shown.all isAscii && isMapped shown && isWellFormed shown then some ⟨cs, shown⟩
        else none
  else if cs.all isAscii then some ⟨cs, cs⟩
  else if isWellFormed cs && cs.length ≤ longestShown then
    some ⟨encodedMark ++ Punycode.encode cs, cs⟩
  else none

/-- A name in ASCII, if it is a name. -/
def read? (cs : List Char) : Option (List Char) := do
  let cs ← mapText cs
  if cs.any isForbidden then none
  else
    let labels ← (cs.splitOn '.').mapM readLabel
    let mixed := labels.any fun l => l.shown.any fun c => (direction c).isRightward
    if mixed && !(labels.all fun l => readsWell l.shown) then none
    else some (['.'].intercalate (labels.map Label.written))

end Plugboard.Http.Domain
