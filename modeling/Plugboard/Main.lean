import Plugboard.CommandLine.Run

/-!
The program: reads the arguments, the environment and the configuration file, and prints what a run
leaves behind. It has no backend within its reach.
-/
namespace Plugboard.CommandLine

def fileError : IO.Error → FileError
  | .noFileOrDirectory _ _ _ => .notFound
  | .inappropriateType _ 20 _ => .notADirectory
  | .inappropriateType _ 21 _ => .isADirectory
  | .illegalOperation 21 _ => .isADirectory
  | e => .otherwise (toString e)

def readBytes (path : String) : IO (Except FileError (List Nat)) := do
  try
    let bytes ← IO.FS.readBinFile path
    return .ok (bytes.toList.map UInt8.toNat)
  catch e => return .error (fileError e)

def surroundings (args : List String) : IO Surroundings := do
  let url ← IO.getEnv "PANELHOST_API_URL"
  let token ← IO.getEnv "PANELHOST_TOKEN"
  let file ← match wantedFile args with
    | some path => readBytes path
    | none => pure (.error .notFound)
  return {
    environment := fun name =>
      if name == "PANELHOST_API_URL" then url
      else if name == "PANELHOST_TOKEN" then token
      else none
    bytesAt := fun _ => file
    backend := .unreachable }

end Plugboard.CommandLine

open Plugboard.CommandLine in
def main (args : List String) : IO UInt32 := do
  let report := run (← surroundings args) args
  report.out.forM IO.println
  report.err.forM IO.eprintln
  return report.code.toUInt32
