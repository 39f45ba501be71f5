import Plugboard.Http.Host

/-!
Addresses with a scheme. Reading one brings it to its one form: scheme and host in lower case, a
`portNumber` only where it is not the usual one of the scheme, no dot segments in the path, and
every character that may not stand in its place written as percent escapes. What follows the scheme
is a host and a path for web addresses, a file and perhaps a host for files, and for other schemes
either a host and a path, a path alone, or any text.
-/
namespace Plugboard.Http

structure Authority where
  user : String
  password : Option String
  host : String
  portNumber : Option Nat
  deriving Repr, DecidableEq

structure Url where
  scheme : String
  authority : Option Authority
  path : String
  query : Option String
  fragment : Option String
  deriving Repr, DecidableEq

/-! ## Schemes -/

inductive SchemeKind
  | web (usual : Nat)
  | file
  | other
  deriving Repr, DecidableEq

def schemeKind (scheme : String) : SchemeKind :=
  match [("http", 80), ("ws", 80), ("https", 443), ("wss", 443), ("ftp", 21)].lookup scheme with
  | some n => .web n
  | none => if scheme == "file" then .file else .other

namespace SchemeKind

def isOther : SchemeKind → Bool
  | .other => true
  | _ => false

/-- Whether a character parts the segments of a path. -/
def isSlash (k : SchemeKind) (c : Char) : Bool := c == '/' || (!k.isOther && c == '\\')

end SchemeKind

def isSchemeChar (c : Char) : Bool :=
  Text.isDigit c || c.isAlpha || c == '+' || c == '-' || c == '.'

/-- Splits off the scheme in lower case. -/
def readScheme (cs : List Char) : Option (String × List Char) :=
  let name := cs.takeWhile isSchemeChar
  match name, cs.dropWhile isSchemeChar with
  | c :: _, ':' :: rest =>
    if c.isAlpha then some (String.ofList (name.map Char.toLower), rest) else none
  | _, _ => none

/-! ## Percent escapes -/

def badInFragment : List Char := " \"<>`".toList

def badInPath : List Char := badInFragment ++ ['#', '?', '\x7b', '\x7d']

def badInQuery (k : SchemeKind) : List Char :=
  " \"#<>".toList ++ (if k.isOther then [] else ['\''])

def badInUser : List Char := badInPath ++ "/:;=@[\\]^|".toList

/-! ## Paths -/

def isSingleDot (seg : List Char) : Bool :=
  let s := seg.map Char.toLower
  s == ".".toList || s == "%2e".toList

def isDoubleDot (seg : List Char) : Bool :=
  let s := seg.map Char.toLower
  s == "..".toList || s == ".%2e".toList || s == "%2e.".toList || s == "%2e%2e".toList

/-- Whether a segment begins as the name of a drive does. -/
def startsWithDrive : List Char → Bool
  | c :: d :: rest =>
    c.isAlpha && (d == ':' || d == '|') && (rest.isEmpty || rest.head? == some '\\')
  | _ => false

def isDrive (seg : List Char) : Bool := seg.length == 2 && startsWithDrive seg

/-- The form of a segment; in the path of a file the name of a drive ends in a colon. -/
def writeSegment (k : SchemeKind) (seg : List Char) : List Char :=
  if k == .file && isDrive seg then seg.take 1 ++ [':'] else percentEncode badInPath seg

/-- Takes the segment before away, unless there is none or it is a drive. -/
def leaveSegment (closed : List (List Char)) : List (List Char) :=
  if closed.length < 2 || (closed.getLast?.map startsWithDrive).getD false then closed
  else closed.dropLast

/-- Adds a segment that a slash closes. A single dot stands for nothing, two dots take away the
segment before. -/
def closeSegment (k : SchemeKind) (closed : List (List Char)) (seg : List Char) :
    List (List Char) :=
  if isDoubleDot seg then leaveSegment closed
  else if isSingleDot seg then closed
  else closed ++ [writeSegment k seg]

/-- The text of a path whose last segment no slash closes. -/
def endPath (k : SchemeKind) (closed : List (List Char)) (seg : List Char) : List Char :=
  let all := if isDoubleDot seg then leaveSegment closed ++ [[]]
    else if isSingleDot seg then closed ++ [[]]
    else closed ++ [writeSegment k seg]
  joinWith '/' all

/-- The text of a path, from its first slash on, given what follows that slash. -/
def readPath (k : SchemeKind) (cs : List Char) : List Char :=
  let segs := splitAt k.isSlash cs
  let path := endPath k (segs.dropLast.foldl (closeSegment k) [[]]) (segs.getLast?.getD [])
  if k == .file then '/' :: path.dropWhile (· == '/') else path

/-- Whether a path of a file names a drive. -/
def namesDrive (cs : List Char) : Bool := (splitAt SchemeKind.file.isSlash cs).any isDrive

/-- What follows a first slash, which need not be there. -/
def afterSlash (k : SchemeKind) : List Char → List Char
  | [] => []
  | c :: rest => if k.isSlash c then rest else c :: rest

/-! ## Hosts -/

/-- Splits at the last character that satisfies `p`. -/
def splitLast (p : Char → Bool) (cs : List Char) : Option (List Char × List Char) :=
  let after := (cs.reverse.takeWhile fun c => !p c).reverse
  match (cs.reverse.dropWhile fun c => !p c) with
  | [] => none
  | _ :: before => some (before.reverse, after)

/-- Splits at the first colon outside brackets; the colon goes with what follows it. -/
def splitPort (inside : Bool) : List Char → List Char × List Char
  | [] => ([], [])
  | c :: rest =>
    if c == ':' && !inside then ([], c :: rest)
    else
      let (host, after) := splitPort (c == '[' || (inside && c != ']')) rest
      (c :: host, after)

/-- Reads the digits behind the colon of a host, with what follows them. -/
def readPort (k : SchemeKind) : List Char → Except UrlError (Option Nat × List Char)
  | ':' :: rest =>
    let digits := rest.takeWhile Text.isDigit
    let after := rest.dropWhile Text.isDigit
    let n := Json.natOfDigits digits
    if 65535 < n || !(after.isEmpty || after.head? == some '\\') then .error .badPortNumber
    else if digits.isEmpty || k == .web n then .ok (none, after)
    else .ok (some n, after)
  | after => .ok (none, after)

/-- Splits off what follows the first character equal to `mark`. -/
def splitMark (mark : Char) (cs : List Char) : List Char × Option (List Char) :=
  match cs.dropWhile (· != mark) with
  | [] => (cs, none)
  | _ :: rest => (cs.takeWhile (· != mark), some rest)

/-- The name and the password in front of a host; an empty password is none. -/
def readUser (cs : List Char) : String × Option String :=
  let (user, password) := splitMark ':' cs
  (String.ofList (percentEncode badInUser user),
    (password.filter (!·.isEmpty)).map fun p => String.ofList (percentEncode badInUser p))

/-- Reads an authority, with what follows the number of a host that has one. `more` says whether
anything comes behind the authority. -/
def readAuthority (k : SchemeKind) (cs : List Char) (more : Bool) :
    Except UrlError (Authority × List Char) := do
  let (userText, hostPort) := (splitLast (· == '@') cs).elim ([], cs) id
  let nobody := hostPort.length + 1 == cs.length
  if nobody && hostPort.isEmpty && more then throw .emptyHost
  let (user, password) := readUser userText
  let (hostText, portText) := splitPort false hostPort
  if hostText.isEmpty then
    if !k.isOther || !portText.isEmpty || !user.isEmpty || password.isSome then throw .emptyHost
    return (⟨"", none, "", none⟩, [])
  let host ← if k.isOther then readOpaqueHost hostText else readHost hostText
  let (portNumber, after) ← readPort k portText
  return (⟨user, password, String.ofList host, portNumber⟩, after)

/-! ## Reading -/

/-- What follows the scheme, without query and fragment. -/
structure Body where
  authority : Option Authority
  path : List Char

/-- Reads a web address, or another one with an authority, behind the slashes. -/
def readHosted (k : SchemeKind) (cs : List Char) (more : Bool) : Except UrlError Body := do
  let rest := cs.dropWhile fun c => !k.isSlash c
  let (authority, after) ←
    readAuthority k (cs.takeWhile fun c => !k.isSlash c) (more || !rest.isEmpty)
  let rest := after ++ rest
  return ⟨some authority,
    if k.isOther && rest.isEmpty then [] else readPath k (afterSlash k rest)⟩

/-- The host of a file, none standing for the machine at hand. -/
def readFileHost (cs : List Char) : Except UrlError String := do
  if cs.isEmpty then return ""
  let host := String.ofList (← readHost cs)
  return if host == "localhost" then "" else host

/-- Reads the address of a file. A path that names a drive has no host. -/
def readFile (cs : List Char) : Except UrlError Body := do
  let k := SchemeKind.file
  let atHand : Authority := ⟨"", none, "", none⟩
  match cs with
  | a :: b :: rest =>
    if k.isSlash a && k.isSlash b then
      let hostText := rest.takeWhile fun c => !k.isSlash c
      if isDrive hostText then return ⟨some atHand, readPath k rest⟩
      let host ← readFileHost hostText
      let path := afterSlash k (rest.drop hostText.length)
      return ⟨some { atHand with host := if namesDrive path then "" else host }, readPath k path⟩
    else return ⟨some atHand, readPath k (afterSlash k cs)⟩
  | _ => return ⟨some atHand, readPath k (afterSlash k cs)⟩

/-- Reads an address of another scheme. A path alone must not look like a host. -/
def readOther (cs : List Char) (more : Bool) : Except UrlError Body :=
  match cs with
  | '/' :: '/' :: rest => readHosted .other rest more
  | '/' :: rest =>
    let path := readPath .other rest
    .ok ⟨none, if ['/', '/'].isPrefixOf path then '/' :: '.' :: path else path⟩
  | _ => .ok ⟨none, percentEncode [] cs⟩

def isTrimmedFromUrl (c : Char) : Bool := c.toNat ≤ 0x20

def isSkippedInUrl (c : Char) : Bool := c == '\t' || c == '\n' || c == '\r'

namespace Url

/-- Reads an address; one without a scheme is none. -/
def parse (s : String) : Except UrlError Url := do
  let cs := (Text.stripChars isTrimmedFromUrl s.toList).filter fun c => !isSkippedInUrl c
  let (cs, fragment) := splitMark '#' cs
  let (cs, query) := splitMark '?' cs
  match readScheme cs with
  | none => throw .noScheme
  | some (scheme, rest) =>
    let k := schemeKind scheme
    let more := query.isSome || fragment.isSome
    let body ← match k with
      | .web _ => readHosted k (rest.dropWhile k.isSlash) more
      | .file => readFile rest
      | .other => readOther rest more
    return {
      scheme := scheme
      authority := body.authority
      path := String.ofList body.path
      query := query.map fun q => String.ofList (percentEncode (badInQuery k) q)
      fragment := fragment.map fun f => String.ofList (percentEncode badInFragment f) }

end Url

/-! ## Writing and changing -/

/-- The name and the password with the sign that parts them from the host. -/
def Authority.credentials (a : Authority) : String :=
  match a.password with
  | some p => a.user ++ ":" ++ p ++ "@"
  | none => if a.user.isEmpty then "" else a.user ++ "@"

def Authority.text (a : Authority) : String :=
  a.credentials ++ a.host ++ (a.portNumber.map fun p => ":" ++ toString p).getD ""

namespace Url

def text (u : Url) : String :=
  u.scheme ++ ":" ++ ((u.authority.map fun a => "//" ++ a.text).getD "") ++ u.path ++
    (u.query.map fun q => "?" ++ q).getD "" ++ (u.fragment.map fun f => "#" ++ f).getD ""

def host (u : Url) : String := (u.authority.map Authority.host).getD ""

def hasHost (u : Url) : Bool := !u.host.isEmpty

/-- The address that a server sees: without the fragment. -/
def requested (u : Url) : Url := { u with fragment := none }

/-- Whether requests can be sent there. -/
def isHttp (u : Url) : Bool := u.scheme == "http" || u.scheme == "https"

/-- The longest address that can be sent, in bytes. -/
def longestSent : Nat := 65534

/-- Whether the address can be sent: it is not too long, and its host has no character that an
address may hold but a request may not. -/
def isSendable (u : Url) : Bool :=
  (Text.toUtf8 u.text.toList).length ≤ longestSent &&
    !u.host.toList.any fun c => "\"`\x7b\x7d".toList.contains c

end Url
end Plugboard.Http
