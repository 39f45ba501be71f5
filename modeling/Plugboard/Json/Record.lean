import Plugboard.Json.Reader

/-!
Records written in JSON. A record is an object with a member for each field, or a list of the fields
in their order. Members with other names are passed over; a field given twice is a fault.
-/
namespace Plugboard.Json

/-- The members called `name`. -/
def membersCalled (name : String) (members : List (Option String × Written)) : List Written :=
  (members.filter fun m => m.1 == some name).map (·.2)

/-- What is written for each of some fields, none for a field that is left out. -/
def fields? (names : List String) : Written → Option (List (Option Written))
  | .object members =>
    if members.any (fun m => m.1.isNone) then none
    else names.mapM fun n =>
      match membersCalled n members with
      | [] => some none
      | [w] => some (some w)
      | _ => none
  | .array items =>
    if items.length ≤ names.length then
      some (items.map some ++ List.replicate (names.length - items.length) none)
    else none
  | _ => none

/-- The one of some values that is written by its name, as a string or as the key of a null. -/
def variant? {α : Type} (named : String → Option α) : Written → Option α
  | .string (some s) => named s
  | .object [(some s, .null)] => named s
  | _ => none

def text? : Written → Option String
  | .string s => s
  | _ => none

def truth? : Written → Option Bool
  | .bool b => some b
  | _ => none

/-- Settings are an object of strings; of two members with one key the later one counts. -/
def settings? : Written → Option Settings
  | .object members => do
    let entries ← members.mapM fun m => do
      let k ← m.1
      let v ← text? m.2
      some (k, v)
    some (Settings.ofList entries)
  | _ => none

/-- A field that may be left out. -/
def optionalField {α : Type} (read : Written → Option α) (default : α) :
    Option Written → Option α
  | none => some default
  | some w => read w

/-- A field that must be there. -/
def requiredField {α : Type} (read : Written → Option α) : Option Written → Option α
  | none => none
  | some w => read w

/-- Null means none. -/
def nullable {α : Type} (read : Written → Option α) : Written → Option (Option α)
  | .null => some none
  | w => (read w).map some

end Plugboard.Json
