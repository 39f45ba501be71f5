import Plugboard.Settings
import Plugboard.Table
import Plugboard.Text.Numeral
import Plugboard.Text.Quoted

/-!
Schemas: which settings a plugin understands and which values each of them may have. A check lists
every violation in the order of the fields; keys that no field names are allowed.
-/
namespace Plugboard

inductive FieldType
  | string
  | number
  | boolean
  | select (options : List String)
  | secret
  deriving Repr, DecidableEq

/-- A check of a plugin's own: the text of its objection, if it has one. -/
abbrev Validator := String → Option String

structure Field where
  type : FieldType
  label : String
  required : Bool
  default : Option String
  validator : Option Validator

/-- Why a value is not accepted. -/
inductive Objection
  | missing
  | notANumber
  | notABoolean
  | notAnOption (options : List String)
  | rejected (text : String)
  deriving Repr, DecidableEq

structure Violation where
  key : String
  objection : Objection
  deriving Repr, DecidableEq

def Objection.message : Objection → String
  | .missing => "value is required"
  | .notANumber => "value must be a number"
  | .notABoolean => "value must be 'true' or 'false'"
  | .notAnOption options => "value must be one of " ++ Text.bracketed (options.map Text.quote)
  | .rejected text => text

def Violation.message (v : Violation) : String :=
  "config key '" ++ v.key ++ "': " ++ v.objection.message

namespace FieldType

/-- What the type itself has against a value. Only a select compares the value untrimmed. -/
def objection? (t : FieldType) (value : String) : Option Objection :=
  match t with
  | .string => none
  | .secret => none
  | .number => if Text.isNumber (Text.trim value) then none else some .notANumber
  | .boolean =>
    if Text.trim value == "true" || Text.trim value == "false" then none else some .notABoolean
  | .select options => if options.contains value then none else some (.notAnOption options)

def describe : FieldType → String
  | .string => "String"
  | .number => "Number"
  | .boolean => "Boolean"
  | .select options => "Select(" ++ Text.bracketed (options.map Text.quote) ++ ")"
  | .secret => "Secret"

end FieldType

namespace Field

/-- An optional field without a default. -/
def plain (type : FieldType) (label : String) : Field := ⟨type, label, false, none, none⟩

/-- The type speaks first; the validator sees the value untrimmed. -/
def objection? (f : Field) (value : String) : Option Objection :=
  match f.type.objection? value with
  | some o => some o
  | none => (f.validator.bind fun check => check value).map .rejected

/-- What is wrong with the value given for the field. A blank value counts as none. -/
def check (f : Field) (value : Option String) : Option Objection :=
  match value with
  | some v =>
    if Text.allBlank v then (if f.required && f.default.isNone then some .missing else none)
    else f.objection? v
  | none => if f.required && f.default.isNone then some .missing else none

def describe (f : Field) : String :=
  Text.record "ConfigField" [("field_type", f.type.describe), ("label", Text.quote f.label),
    ("required", Text.flag f.required), ("default", Text.optional (f.default.map Text.quote)),
    ("has_validator", Text.flag f.validator.isSome)] false

end Field

structure Schema where
  fields : Table String Field

namespace Schema

def empty : Schema := ⟨[]⟩

/-- A field whose key is taken goes to the place of the one before. -/
def field (s : Schema) (k : String) (f : Field) : Schema := ⟨Table.put k f s.fields⟩

def ofList (l : List (String × Field)) : Schema := l.foldl (fun s p => s.field p.1 p.2) empty

def get? (s : Schema) (k : String) : Option Field := Table.get? k s.fields

def size (s : Schema) : Nat := s.fields.length

/-- The default of every field that has one. -/
def defaults (s : Schema) : Settings :=
  Settings.ofList (s.fields.filterMap fun p => p.2.default.map fun d => (p.1, d))

/-- Everything that is wrong with some settings, in the order of the fields. -/
def violations (s : Schema) (values : Settings) : List Violation :=
  s.fields.filterMap fun p => (p.2.check (values.get? p.1)).map fun o => ⟨p.1, o⟩

def accepts (s : Schema) (values : Settings) : Bool := (s.violations values).isEmpty

def describe (s : Schema) : String :=
  Text.record "ConfigSchema" [("fields", Text.bracketed (s.fields.map fun p =>
    "(" ++ Text.quote p.1 ++ ", " ++ p.2.describe ++ ")"))] false

end Schema

/-! ## Validators by rule -/

namespace Validator

def reject (text : String) : Validator := fun _ => some text

/-- At most so many characters. -/
def maxChars (n : Nat) : Validator := fun v =>
  if v.length ≤ n then none else some ("too long: " ++ toString v.length ++ " > " ++ toString n)

def startsWith (p : String) : Validator := fun v =>
  if Text.startsWith p v then none else some ("'" ++ v ++ "' must start with '" ++ p ++ "'")

end Validator
end Plugboard
