import Plugboard.Http.Domain
import Plugboard.Http.UrlError
import Plugboard.Json.Reader
import Plugboard.Text.Utf8

/-!
Hosts of addresses: domain names, addresses of four numbers and addresses in brackets, each in the
one form that stands for it. Where the scheme does not ask for such a host, it is any text.
-/
namespace Plugboard.Http

/-- The parts of a text between the characters that satisfy `p`. -/
def splitAt (p : Char → Bool) : List Char → List (List Char)
  | [] => [[]]
  | c :: rest =>
    match splitAt p rest with
    | [] => [[c]]
    | part :: parts => if p c then [] :: part :: parts else (c :: part) :: parts

/-- The parts with a separator between each two. -/
def joinWith (sep : Char) : List (List Char) → List Char
  | [] => []
  | [p] => p
  | p :: rest => p ++ sep :: joinWith sep rest

/-- The bytes of a text whose percent escapes are undone. -/
def percentDecode : List Char → List Nat
  | '%' :: a :: b :: rest =>
    match Json.hexValue a, Json.hexValue b with
    | some x, some y => (x * 16 + y) :: percentDecode rest
    | _, _ => 0x25 :: percentDecode (a :: b :: rest)
  | c :: rest => Text.charBytes c ++ percentDecode rest
  | [] => []

/-! ## Four numbers -/

def isHexDigit (c : Char) : Bool := (Json.hexValue c).isSome

/-- A number with the base that its first characters tell. -/
def readPart (cs : List Char) : Option Nat :=
  match cs with
  | [] => none
  | '0' :: x :: rest =>
    if x == 'x' || x == 'X' then
      if rest.all isHexDigit then some (rest.foldl (fun n c => 16 * n + (Json.hexValue c).getD 0) 0)
      else none
    else if (x :: rest).all fun c => '0' ≤ c && c ≤ '7' then
      some ((x :: rest).foldl (fun n c => 8 * n + Text.digitValue c) 0)
    else none
  | _ => if cs.all Text.isDigit then some (Json.natOfDigits cs) else none

def dropLastEmpty (parts : List (List Char)) : List (List Char) :=
  if parts.length > 1 && parts.getLast? == some [] then parts.dropLast else parts

/-- Whether the last part of a name is a number, so that the whole must be an address. -/
def endsInNumber (name : List Char) : Bool :=
  match (dropLastEmpty (splitAt (· == '.') name)).getLast? with
  | none => false
  | some part =>
    (!part.isEmpty && part.all Text.isDigit) ||
      (part.length ≥ 2 && (part.take 2 == ['0', 'x'] || part.take 2 == ['0', 'X']) &&
        (part.drop 2).all isHexDigit)

/-- All parts but the last are bytes; the last one fills what is left of the four. -/
def address4 (name : List Char) : Option (List Char) := do
  let parts := dropLastEmpty (splitAt (· == '.') name)
  if parts.length > 4 then none
  else
    let numbers ← parts.mapM readPart
    let firsts := numbers.dropLast
    let last ← numbers.getLast?
    if firsts.all (· ≤ 255) && last < Nat.pow 256 (5 - numbers.length) then
      let whole := (firsts.zipIdx.foldl (fun n p => n + p.1 * Nat.pow 256 (3 - p.2)) 0) + last
      let bytes := [whole / 0x1000000, whole / 0x10000 % 0x100, whole / 0x100 % 0x100,
        whole % 0x100]
      some (joinWith '.' (bytes.map (Nat.toDigits 10)))
    else none

/-! ## Addresses in brackets -/

/-- A group of up to four hexadecimal digits. -/
def readGroup (cs : List Char) : Option Nat :=
  if cs.isEmpty || cs.length > 4 || !cs.all isHexDigit then none
  else some (cs.foldl (fun n c => 16 * n + (Json.hexValue c).getD 0) 0)

def readByte (cs : List Char) : Option Nat :=
  if cs.isEmpty || cs.length > 3 || !cs.all Text.isDigit || (cs.length > 1 && cs.head? == some '0')
  then none
  else
    let n := Json.natOfDigits cs
    if n ≤ 255 then some n else none

/-- Groups parted by colons; the last may be four bytes in decimal, which make two groups. -/
def readGroups : List (List Char) → Option (List Nat)
  | [] => some []
  | [last] =>
    if last.contains '.' then do
      match ← (splitAt (· == '.') last).mapM readByte with
      | [a, b, c, d] => some [a * 256 + b, c * 256 + d]
      | _ => none
    else (readGroup last).map ([·])
  | g :: rest => do
    let n ← readGroup g
    let ns ← readGroups rest
    some (n :: ns)

/-- Splits at the first pair of colons. -/
def splitDouble : List Char → Option (List Char × List Char)
  | ':' :: ':' :: rest => some ([], rest)
  | c :: rest => (splitDouble rest).map fun p => (c :: p.1, p.2)
  | [] => none

def groupsOf (cs : List Char) : Option (List Nat) :=
  if cs.isEmpty then some [] else readGroups (splitAt (· == ':') cs)

def readAddress6 (cs : List Char) : Option (List Nat) := do
  match splitDouble cs with
  | none =>
    let groups ← groupsOf cs
    if groups.length == 8 then some groups else none
  | some (left, right) =>
    if left.contains '.' then none
    else
      let a ← groupsOf left
      let b ← groupsOf right
      if a.length + b.length ≤ 7 then
        some (a ++ List.replicate (8 - a.length - b.length) 0 ++ b)
      else none

/-- How many zeros a list starts with. -/
def leadingZeros (l : List Nat) : Nat := (l.takeWhile (· == 0)).length

/-- Where the first of the longest runs of zeros starts, and its length. -/
def longestZeros (at_ : Nat) (best : Nat × Nat) : List Nat → Nat × Nat
  | [] => best
  | n :: rest =>
    let here := leadingZeros (n :: rest)
    longestZeros (at_ + 1) (if here > best.2 then (at_, here) else best) rest

/-- The longest run of at least two zeros is left out. -/
def writeAddress6 (groups : List Nat) : List Char :=
  let hex (l : List Nat) := joinWith ':' (l.map (Nat.toDigits 16))
  let (start, size) := longestZeros 0 (0, 0) groups
  if size < 2 then hex groups
  else hex (groups.take start) ++ [':', ':'] ++ hex (groups.drop (start + size))

/-! ## Hosts -/

/-- A host in brackets, if the text begins as one. -/
def readBracketed? (cs : List Char) : Option (Except UrlError (List Char)) :=
  match cs with
  | '[' :: rest =>
    if rest.getLast? == some ']' then
      match readAddress6 rest.dropLast with
      | some groups => some (.ok ('[' :: writeAddress6 groups ++ [']']))
      | none => some (.error .badAddress6)
    else some (.error .badAddress6)
  | _ => none

/-- The one form of the host of a web address. A name that ends in a number has to be an address. -/
def readHost (cs : List Char) : Except UrlError (List Char) :=
  match readBracketed? cs with
  | some result => result
  | none =>
    match (Text.ofUtf8? (percentDecode cs)).bind fun s => Domain.read? s.toList with
    | none => .error .badName
    | some name =>
      if name.isEmpty then .error .emptyHost
      else if endsInNumber name then
        match address4 name with
        | some host => .ok host
        | none => .error .badAddress4
      else .ok name

/-! ## Percent escapes -/

def hexUpper (n : Nat) : Char := (Nat.digitChar (n % 16)).toUpper

def percentByte (b : Nat) : List Char := ['%', hexUpper (b / 16), hexUpper b]

/-- Escapes the characters that `bad` names, controls, and everything above ASCII. -/
def percentEncode (bad : List Char) (cs : List Char) : List Char :=
  cs.flatMap fun c =>
    if c.toNat < 0x20 || c.toNat > 0x7E || bad.contains c then
      (Text.charBytes c).flatMap percentByte
    else [c]

def badInHost : List Char := Char.ofNat 0 :: "\t\n\r #/:<>?@[\\]^|".toList

/-- The host of an address that is not a web address. -/
def readOpaqueHost (cs : List Char) : Except UrlError (List Char) :=
  match readBracketed? cs with
  | some result => result
  | none =>
    if cs.any badInHost.contains then .error .badHostCharacter
    else .ok (percentEncode [] cs)

end Plugboard.Http
