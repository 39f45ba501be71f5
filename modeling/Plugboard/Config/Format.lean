import Plugboard.Json.Record
import Plugboard.Storage.Error
import Plugboard.Text.Lowercase
import Plugboard.Text.Utf8
import Plugboard.Toml.Reader
import Plugboard.Yaml.Reader

/-!
The formats of a configuration file. Each of them gives the four fields of the configuration in its
own way; the rest is the same for all.
-/
namespace Plugboard

inductive Format
  | json
  | yaml
  | toml
  deriving Repr, DecidableEq

namespace Format

def all : List Format := [json, yaml, toml]

/-- The name of the format, which is also the extension of its files. -/
def name : Format → String
  | .json => "json"
  | .yaml => "yaml"
  | .toml => "toml"

/-- The format of the files with an extension, whose case does not matter. -/
def ofExtension? (ext : String) : Option Format :=
  let ext := Text.lower ext
  if ext == "yml" then some .yaml else all.find? fun f => f.name == ext

/-! ## Paths -/

/-- The parts of a path; empty ones and single dots do not count. -/
def pathParts (path : String) : List (List Char) :=
  (path.toList.splitOn '/').filter fun part => !part.isEmpty && part != ['.']

/-- What follows the last dot of a name, unless the name begins with its only dot. -/
def extension? (name : List Char) : Option (List Char) :=
  let tail := (name.reverse.takeWhile (· != '.')).reverse
  if name.length ≤ tail.length + 1 then none else some tail

/-- The format of a file by the extension in its path. -/
def ofPath? (path : String) : Option Format :=
  match (pathParts path).getLast? with
  | none => none
  | some name =>
    if name == ['.', '.'] then none
    else (extension? name).bind fun ext => ofExtension? (String.ofList ext)

end Format

namespace HostConfig

/-! ## JSON -/

def jsonForm : Form Written where
  isNull? := fun w => some (match w with | .null => true | _ => false)
  text? := Json.text?
  whole? := fun
    | .number n => n.nat?.filter (· ≤ Text.max64)
    | _ => none

def ofJson? (text : String) : Option HostConfig := do
  ofFields? jsonForm (← Json.fields? fieldNames (← Json.written? text))

/-! ## YAML -/

/-- A number in a base, with nothing in front of its digits. -/
def digitsIn (base : Nat) (cs : List Char) : Option Nat := do
  if cs.isEmpty then none
  else
    let n ← cs.foldlM (fun n c => do
      let d ← Json.hexValue c
      if d < base then some (base * n + d) else none) 0
    if n ≤ Text.max64 then some n else none

/-- A whole number as plain scalars write it: perhaps a plus, then digits, of which only zero
itself begins with a zero, or a mark for another base. -/
def yamlNumber? (text : String) : Option Nat :=
  let body := match text.toList with
    | '+' :: rest => rest
    | cs => cs
  match body with
  | '0' :: 'x' :: rest => digitsIn 16 rest
  | '0' :: 'o' :: rest => digitsIn 8 rest
  | '0' :: 'b' :: rest => digitsIn 2 rest
  | ['0'] => some 0
  | '0' :: _ => none
  | cs => digitsIn 10 cs

def yamlForm : Form Yaml.Node where
  isNull? := Yaml.Node.isNull?
  text? := Yaml.Node.text?
  whole? := fun
    | .scalar .plain _ text => yamlNumber? text
    | .scalar .literal (some "tag:yaml.org,2002:int") text => yamlNumber? text
    | _ => none

/-- The fields of a mapping; a field given twice is a fault. -/
def yamlFields? (d : Yaml.Document) (entries : List (Yaml.Node × Yaml.Node)) :
    Option (List (Option Yaml.Node)) := do
  let named ← entries.mapM fun e => (d.follow e.1).text?.map fun k => (k, d.follow e.2)
  fieldNames.mapM fun name =>
    match (named.filter fun e => e.1 == name).map (·.2) with
    | [] => some none
    | [v] => some (some v)
    | _ => none

def ofYaml? (text : String) : Option HostConfig := do
  let d ← Yaml.parse? text
  match d.root with
  | none => some default
  | some (.mapping entries) => do ofFields? yamlForm (← yamlFields? d entries)
  | some node => if node.isNothing then some default else none

/-! ## TOML -/

def tomlForm : Form Toml.Node where
  isNull? := fun _ => some false
  text? := fun
    | .value (.string s) => some s
    | _ => none
  whole? := fun
    | .value (.integer (.ofNat n)) => some n
    | _ => none

def ofToml? (text : String) : Option HostConfig := do
  let entries ← Toml.parse? text
  ofFields? tomlForm (fieldNames.map fun name => Table.get? name entries)

/-! ## Any format -/

def read? (f : Format) (text : String) : Option HostConfig :=
  match f with
  | .json => ofJson? text
  | .yaml => ofYaml? text
  | .toml => ofToml? text

/-- The checked configuration that a text in some format stands for. -/
def parse (f : Format) (text : String) : Except StorageError HostConfig :=
  match read? f text with
  | none => .error (.malformed f.name)
  | some c =>
    match c.check with
    | .error fault => .error (.invalidConfig fault)
    | .ok () => .ok c

/-- The configuration in the file at a path, where `read` gives the bytes of files. -/
def load (read : String → Except FileError (List Nat)) (path : String) :
    Except StorageError HostConfig :=
  match Format.ofPath? path with
  | none => .error (.unsupportedFormat path)
  | some f =>
    match read path with
    | .error e => .error (.unreadable "read_host_config" path e)
    | .ok bytes =>
      match Text.ofUtf8? bytes with
      | none => .error (.unreadable "read_host_config" path .notUtf8)
      | some text => parse f text

end HostConfig
end Plugboard
