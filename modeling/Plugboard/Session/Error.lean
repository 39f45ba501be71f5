import Plugboard.Storage.Error

/-!
The ways a call of a session can fail.
-/
namespace Plugboard

/-- Why a call of a session was refused or failed. -/
inductive SessionError
  | notAuthenticated
  | storage (cause : StorageError)
  | rejected (endpoint : String) (status : Nat) (body : String)
  | transport (endpoint : String) (cause : Http.TransportError)
  deriving Repr, DecidableEq

namespace SessionError

def message : SessionError → String
  | .notAuthenticated => "Not authenticated"
  | .storage cause => "Failed to persist plugin state: " ++ cause.message
  | .rejected endpoint status body =>
    "API call to '" ++ endpoint ++ "' failed with status " ++ toString status ++ ": " ++ body
  | .transport endpoint cause =>
    "API call to '" ++ endpoint ++ "' could not be sent: " ++ cause.message

def causes : SessionError → List String
  | .storage cause => cause.message :: cause.causes
  | .transport _ cause => cause.chain
  | _ => []

end SessionError

end Plugboard
