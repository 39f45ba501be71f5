import Plugboard.Storage.Call
import Plugboard.Table

/-!
A store in memory. It knows the users that were put into it, counts what is asked of it, and can be
told to let its next call fail.
-/
namespace Plugboard

structure MemoryStore where
  users : Table String (List Entry)
  failNext : Option String
  fetches : Nat
  writes : Nat

namespace MemoryStore

def empty : MemoryStore := ⟨[], none, 0, 0⟩

def entries? (m : MemoryStore) (token : String) : Option (List Entry) :=
  Table.get? token m.users

/-- Gives a user these entries and no others. -/
def seed (m : MemoryStore) (token : String) (entries : List Entry) : MemoryStore :=
  { m with users := Table.put token entries m.users }

def snapshot (m : MemoryStore) (token : String) : List Entry := (m.entries? token).getD []

/-- The failure that the next call was told to have, and the store without it. -/
def takeFailure (m : MemoryStore) (operation : String) : Option StorageError × MemoryStore :=
  (m.failNext.map fun text => .failed operation text, { m with failNext := none })

/-- A fetch is counted even when it fails. -/
def fetch (m : MemoryStore) (token : String) : Except StorageError (List Entry) × MemoryStore :=
  match { m with fetches := m.fetches + 1 }.takeFailure StoreCall.fetchOperation with
  | (some e, m) => (.error e, m)
  | (none, m) =>
    match m.entries? token with
    | some entries => (.ok entries, m)
    | none => (.error .unauthorized, m)

/-- Changes the first entry of the plugin, or a new one behind all others. -/
def applyWrite (w : Write) : List Entry → Entry × List Entry
  | [] => let e := w.apply (Entry.new w.plugin false); (e, [e])
  | e :: rest =>
    if e.plugin = w.plugin then (w.apply e, w.apply e :: rest)
    else let (written, rest) := applyWrite w rest; (written, e :: rest)

/-- A write is counted once it is done. -/
def write (m : MemoryStore) (token : String) (w : Write) :
    Except StorageError Entry × MemoryStore :=
  match m.takeFailure w.operation with
  | (some e, m) => (.error e, m)
  | (none, m) =>
    match m.entries? token with
    | none => (.error .unauthorized, m)
    | some entries =>
      let (written, entries) := applyWrite w entries
      (.ok written, { m.seed token entries with writes := m.writes + 1 })

/-! ## Laws -/

theorem entries?_seed (m : MemoryStore) (token other : String) (entries : List Entry) :
    (m.seed token entries).entries? other =
      if token = other then some entries else m.entries? other :=
  Table.get?_put token other entries m.users

end MemoryStore
end Plugboard
