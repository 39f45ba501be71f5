import Plugboard.Json.Record
import Plugboard.Json.Writer

/-!
Events: notices about a plugin, with their names and their JSON form.
-/
namespace Plugboard

inductive EventType
  | enabled
  | disabled
  | configUpdated
  | error
  deriving Repr, DecidableEq

inductive EventError
  | unknownType (text : String)
  deriving Repr, DecidableEq

def EventError.message : EventError → String
  | .unknownType s => "Unknown plugin event type '" ++ s ++ "'"

namespace EventType

def all : List EventType := [enabled, disabled, configUpdated, error]

def name : EventType → String
  | .enabled => "plugin:enabled"
  | .disabled => "plugin:disabled"
  | .configUpdated => "plugin:config-updated"
  | .error => "plugin:error"

def ofName? (s : String) : Option EventType := all.find? fun t => t.name == s

def parse (s : String) : Except EventError EventType :=
  match ofName? s with
  | some t => .ok t
  | none => .error (.unknownType s)

end EventType

structure Event where
  type : EventType
  plugin : String
  payload : Option Json

namespace Event

def enabled (plugin : String) : Event := ⟨.enabled, plugin, none⟩

def disabled (plugin : String) : Event := ⟨.disabled, plugin, none⟩

/-- Carries the settings as they are after the update. -/
def configUpdated (plugin : String) (settings : Settings) : Event :=
  ⟨.configUpdated, plugin, some (Json.ofSettings settings)⟩

def error (plugin : String) (payload : Json) : Event := ⟨.error, plugin, some payload⟩

/-- The `error` text of the payload. -/
def errorMessage (e : Event) : Option String := do
  let payload ← e.payload
  let message ← payload.member? "error"
  message.string?

/-- An event without a payload has no payload member. -/
def toJson (e : Event) : Json :=
  .object ([("type", .string e.type.name), ("pluginName", .string e.plugin)] ++
    (match e.payload with
    | none => []
    | some p => [("payload", p)]))

/-- A null payload is read as none. -/
def ofWritten? (w : Written) : Option Event := do
  match ← Json.fields? ["type", "pluginName", "payload"] w with
  | [type, plugin, payload] =>
    let type ← Json.requiredField (Json.variant? EventType.ofName?) type
    let plugin ← Json.requiredField Json.text? plugin
    let payload ←
      Json.optionalField (Json.nullable (Json.ofWritten? (Json.maxDepth - 1))) none payload
    some ⟨type, plugin, payload⟩
  | _ => none

def parse? (s : String) : Option Event := (Json.written? s).bind ofWritten?

end Event
end Plugboard
