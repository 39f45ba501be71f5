import Plugboard.Storage.Error
import Plugboard.Table
import Plugboard.Text.Utf8

/-!
A tree of files, and what a path leads to in it.
-/
namespace Plugboard

inductive FileNode
  | file (bytes : List Nat)
  | directory (entries : List (String × FileNode))

namespace FileNode

def parts (path : String) : List String :=
  (path.toList.splitOn '/').map String.ofList

def isStep (part : String) : Bool := !part.isEmpty && part != "."

/-- The entries of a directory; a file has none. -/
def entries : FileNode → Table String FileNode
  | .file _ => []
  | .directory entries => entries

/-- Puts a node at the end of a path, with the directories on the way. -/
def place (node : FileNode) : List String → FileNode → FileNode
  | [], _ => node
  | name :: rest, tree =>
    .directory (Table.put name
      (place node rest ((Table.get? name tree.entries).getD (.directory []))) tree.entries)

/-- The tree with some files; none for the bytes means a directory. -/
def ofList (files : List (String × Option (List Nat))) : FileNode :=
  files.foldl (fun tree f =>
    let node := match f.2 with
      | some bytes => .file bytes
      | none => .directory []
    place node ((parts f.1).filter isStep) tree) (.directory [])

/-- The longest name, in bytes. -/
def longestName : Nat := 255

/-- The longest path, in bytes. -/
def longestPath : Nat := 4095

def nameTooLong : FileError := .otherwise "File name too long (os error 36)"

/-- Follows a path from a node. `above` are the directories that it was reached through, the nearest
one first; above the first one nothing is known. -/
def follow (above : List FileNode) (here : FileNode) : List String → Except FileError FileNode
  | [] => .ok here
  | part :: rest =>
    match here with
    | .file _ => .error .notADirectory
    | .directory entries =>
      if !isStep part then follow above here rest
      else if part == ".." then
        match above with
        | [] => .error .notFound
        | up :: more => follow more up rest
      else if longestName < part.utf8ByteSize then
        .error nameTooLong
      else
        match Table.get? part entries with
        | none => .error .notFound
        | some node => follow (here :: above) node rest

/-- The bytes of the file at a path. -/
def read (tree : FileNode) (path : String) : Except FileError (List Nat) :=
  if path.toList.contains (Char.ofNat 0) then
    .error (.otherwise "file name contained an unexpected NUL byte")
  else if longestPath < path.utf8ByteSize then .error nameTooLong
  else if path.isEmpty || Text.startsWith "/" path then .error .notFound
  else
    match follow [] tree (parts path) with
    | .error e => .error e
    | .ok (.directory _) => .error .isADirectory
    | .ok (.file bytes) => .ok bytes

end FileNode
end Plugboard
