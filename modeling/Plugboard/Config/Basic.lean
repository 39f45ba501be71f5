import Plugboard.Text.Blank

/-!
The settings of the host itself: where its backend is, below which path plugins reach it, how long
a request may take, and the token of the session.
-/
namespace Plugboard

structure HostConfig where
  baseUrl : String
  apiRoot : String
  timeout : Option Nat
  token : Option String
  deriving Repr, DecidableEq

/-- What is wrong with a configuration. -/
inductive ConfigFault
  | badBaseUrl (url : String)
  | emptyApiRoot
  deriving Repr, DecidableEq

def ConfigFault.message : ConfigFault → String
  | .badBaseUrl url => "api_base_url must be an http(s) URL, got '" ++ url ++ "'"
  | .emptyApiRoot => "plugin_api_namespace must not be empty"

namespace HostConfig

def default : HostConfig := ⟨"http://localhost:8000", "plugins", none, none⟩

/-- Whether a text starts like a web address. -/
def isWebAddress (s : String) : Bool :=
  Text.startsWith "http://" s || Text.startsWith "https://" s

/-- The base address is looked at first, without the blanks around it. -/
def check (c : HostConfig) : Except ConfigFault Unit :=
  if !isWebAddress (Text.trim c.baseUrl) then .error (.badBaseUrl c.baseUrl)
  else if (Text.trimOf '/' c.apiRoot).isEmpty then .error .emptyApiRoot
  else .ok ()

/-- A path of the backend below the base address. -/
def apiUrl (c : HostConfig) (path : String) : String :=
  Text.trimEndOf '/' c.baseUrl ++ "/" ++ Text.trimStartOf '/' path

/-- The address a plugin's endpoint stands for. Web addresses stand for themselves. -/
def endpointUrl (c : HostConfig) (plugin endpoint : String) : String :=
  if isWebAddress endpoint then endpoint
  else c.apiUrl (Text.trimOf '/' c.apiRoot ++ "/" ++ plugin ++ "/" ++ Text.trimStartOf '/' endpoint)

/-- A value of the environment, unless it is blank. -/
def filled (value : Option String) : Option String := value.filter fun v => !Text.allBlank v

/-- The environment goes before the configuration. -/
def withEnvironment (c : HostConfig) (lookup : String → Option String) : HostConfig :=
  { c with
    baseUrl := (filled (lookup "PANELHOST_API_URL")).getD c.baseUrl
    token := (filled (lookup "PANELHOST_TOKEN")).or c.token }

/-- The names of the fields in a file, in their order. -/
def fieldNames : List String :=
  ["api_base_url", "plugin_api_namespace", "request_timeout_secs", "token"]

/-- How the fields of a file are read from one kind of document. -/
structure Form (Doc : Type) where
  /-- Whether a field is there but stands for no value. -/
  isNull? : Doc → Option Bool
  text? : Doc → Option String
  /-- A whole number of at most 64 bits. -/
  whole? : Doc → Option Nat

namespace Form

variable {Doc : Type}

/-- A field that keeps its default when it is left out. -/
def field {α : Type} (default : α) (read : Doc → Option α) : Option Doc → Option α
  | none => some default
  | some d => read d

/-- A field that may stand for no value. -/
def nullable {α : Type} (form : Form Doc) (read : Doc → Option α) (d : Doc) :
    Option (Option α) := do
  if ← form.isNull? d then some none else (read d).map some

end Form

/-- The configuration with these fields, in their order. -/
def ofFields? {Doc : Type} (form : Form Doc) : List (Option Doc) → Option HostConfig
  | [base, root, timeout, token] => do
    let base ← Form.field default.baseUrl form.text? base
    let root ← Form.field default.apiRoot form.text? root
    let timeout ← Form.field none (form.nullable form.whole?) timeout
    let token ← Form.field none (form.nullable form.text?) token
    some ⟨base, root, timeout, token⟩
  | _ => none

end HostConfig
end Plugboard
