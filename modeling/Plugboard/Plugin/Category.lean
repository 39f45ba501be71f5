import Plugboard.Json.Record
import Plugboard.Plugin.Name
import Plugboard.Text.Lowercase

/-!
The closed set of plugin categories.
-/
namespace Plugboard

inductive Category
  | integration
  | utility
  | communication
  | analytics
  | other
  deriving Repr, DecidableEq, Inhabited

namespace Category

def all : List Category := [integration, utility, communication, analytics, other]

def name : Category → String
  | .integration => "integration"
  | .utility => "utility"
  | .communication => "communication"
  | .analytics => "analytics"
  | .other => "other"

def caption : Category → String
  | .integration => "Integration"
  | .utility => "Utility"
  | .communication => "Communication"
  | .analytics => "Analytics"
  | .other => "Other"

/-- Blanks around the name and the case of its letters do not matter. -/
def parse (s : String) : Except PluginError Category :=
  match all.find? fun c => Text.sameAsciiLetters c.name (Text.trim s) with
  | some c => .ok c
  | none => .error (.unknownCategory s)

def ofWritten? : Written → Option Category :=
  Json.variant? fun s => all.find? fun c => c.name == s

end Category
end Plugboard
