import Plugboard.Numeral
import Plugboard.Settings

/-!
JSON values. A number stands as the decimal that it is written as; one that was read is a whole number
of 64 bits or the shortest decimal of a double. An object is a list of members; one that was read has
each key once.
-/
namespace Plugboard

inductive Json
  | null
  | bool (b : Bool)
  | number (n : Numeral)
  | string (s : String)
  | array (items : List Json)
  | object (members : List (String × Json))
  deriving Repr, Inhabited

namespace Json

def ofNat (n : Nat) : Json := .number (.ofNat n)

def ofInt (i : Int) : Json := .number (.ofInt i)

def ofSettings (s : Settings) : Json := .object (s.entries.map fun e => (e.1, .string e.2))

def ofOption : Option Json → Json
  | none => .null
  | some j => j

def member? (j : Json) (k : String) : Option Json :=
  match j with
  | .object members => (members.find? (fun m => m.1 == k)).map (·.2)
  | _ => none

def string? : Json → Option String
  | .string s => some s
  | _ => none

end Json
end Plugboard
