import Plugboard.Config.Basic
import Plugboard.Http.Message
import Plugboard.Plugin.Name

/-!
The ways a store can fail, and the ways a configuration can fail to be read.
-/
namespace Plugboard

/-- Why a file could not be read. -/
inductive FileError
  | notFound
  | notADirectory
  | isADirectory
  | notUtf8
  | otherwise (text : String)
  deriving Repr, DecidableEq

def FileError.message : FileError → String
  | .notFound => "No such file or directory (os error 2)"
  | .notADirectory => "Not a directory (os error 20)"
  | .isADirectory => "Is a directory (os error 21)"
  | .notUtf8 => "stream did not contain valid UTF-8"
  | .otherwise text => text

inductive StorageError
  | transport (operation : String) (cause : Http.TransportError)
  | status (operation : String) (code : Nat) (body : String)
  | unauthorized
  | invalidName (plugin : String) (cause : PluginError)
  | unreadable (operation path : String) (cause : FileError)
  | malformed (format : String)
  | unsupportedFormat (path : String)
  | invalidConfig (fault : ConfigFault)
  | failed (operation message : String)
  deriving Repr, DecidableEq

namespace StorageError

/-- What is said about a document that does not have the form it should have. -/
def malformedText : String := "the document does not have the expected form"

def message : StorageError → String
  | .transport op cause =>
    "Request '" ++ op ++ "' could not reach the backend: " ++ cause.message
  | .status op code body =>
    "Request '" ++ op ++ "' failed with status " ++ toString code ++ ": " ++ body
  | .unauthorized => "Not authenticated"
  | .invalidName plugin cause => "Refusing to address plugin '" ++ plugin ++ "': " ++ cause.message
  | .unreadable op path cause =>
    "I/O error during operation '" ++ op ++ "' on path '" ++ path ++ "': " ++ cause.message
  | .malformed format => "Deserialization from '" ++ format ++ "' failed: " ++ malformedText
  | .unsupportedFormat path => "Unsupported configuration format: " ++ path
  | .invalidConfig fault => "Invalid configuration: " ++ fault.message
  | .failed op text => "Storage operation '" ++ op ++ "' failed: " ++ text

/-- The errors it came from, outermost first. -/
def causes : StorageError → List String
  | .transport _ cause => cause.chain
  | .invalidName _ cause => [cause.message]
  | .unreadable _ _ cause => [cause.message]
  | .malformed _ => [malformedText]
  | _ => []

end StorageError

end Plugboard
