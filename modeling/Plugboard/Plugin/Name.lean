import Plugboard.Text.Quoted

/-!
Plugin names, and what is wrong with a plugin that is refused. A name is a lower-case ASCII letter
followed by such letters, digits and hyphens.
-/
namespace Plugboard

/-- Why a definition is refused. -/
inductive Defect
  | missingName
  | malformedName
  | missingDisplayName
  | missingComponentLoader
  deriving Repr, DecidableEq

def Defect.message : Defect → String
  | .missingName => "name is required"
  | .malformedName => "name must match ^[a-z][a-z0-9-]*$"
  | .missingDisplayName => "displayName is required"
  | .missingComponentLoader => "loadComponent is required"

inductive PluginError
  | invalidDefinition (plugin : String) (defect : Defect)
  | notRegistered (plugin : String)
  | unknownCategory (text : String)
  deriving Repr, DecidableEq

def PluginError.message : PluginError → String
  | .invalidDefinition p d => "Invalid plugin definition for '" ++ p ++ "': " ++ d.message
  | .notRegistered p => "Plugin '" ++ p ++ "' is not registered"
  | .unknownCategory s => "Invalid plugin category '" ++ s ++ "'"

namespace PluginName

def isLetter (c : Char) : Bool := 'a' ≤ c && c ≤ 'z'

def isFollower (c : Char) : Bool := isLetter c || ('0' ≤ c && c ≤ '9') || c == '-'

def isValidChars : List Char → Bool
  | [] => false
  | c :: rest => isLetter c && rest.all isFollower

def isValid (s : String) : Bool := isValidChars s.toList

def check (s : String) : Except PluginError Unit :=
  if s.isEmpty then .error (.invalidDefinition "<unnamed>" .missingName)
  else if isValid s then .ok ()
  else .error (.invalidDefinition s .malformedName)

end PluginName
end Plugboard
