import Plugboard.Failure

/-!
Runs: calls that change a state, may end in a panic, and may nest so deeply that they are given up.
A panic keeps what was changed before it.
-/
namespace Plugboard

abbrev Run (σ : Type) := ExceptT Panic (StateT σ Option)

namespace Run

variable {σ α β : Type}

/-- How a run ends that starts in `s`; none when it is given up. -/
def start (m : Run σ α) (s : σ) : Option (Except Panic α × σ) := m.run.run s

/-- Gives the run up. -/
def exhausted : Run σ α := fun _ => none

/-- A panic becomes a result. -/
def contain (m : Run σ α) : Run σ (Except Panic α) := fun s =>
  (start m s).map fun r => (.ok r.1, r.2)

/-- Ends as a contained run did. -/
def resume : Except Panic α → Run σ α
  | .ok a => pure a
  | .error p => throw p

/-- A run on the second part of a state. -/
def below (m : Run σ β) : Run (α × σ) β := fun s =>
  (start m s.2).map fun r => (r.1, (s.1, r.2))

/-- A run that has a first part of its own beside the state. What is left of that part is handed
back, after a panic too. -/
def beside (m : Run (α × σ) β) (a : α) : Run σ (Except Panic β × α) := fun s =>
  (start m (a, s)).map fun r => (.ok (r.1, r.2.1), r.2.2)

/-- Runs `m` beside each item in turn, up to the first panic. -/
def each (m : Run (α × σ) β) : List α → Run σ (Except Panic (List β) × List α)
  | [] => pure (.ok [], [])
  | a :: rest => do
    match ← beside m a with
    | (.error p, a) => pure (.error p, a :: rest)
    | (.ok b, a) => do
      let (bs, rest) ← each m rest
      pure (bs.map (b :: ·), a :: rest)

/-! ## Laws -/

@[simp] theorem start_pure (a : α) (s : σ) : start (pure a) s = some (.ok a, s) := rfl

@[simp] theorem start_throw (p : Panic) (s : σ) :
    start (throw p : Run σ α) s = some (.error p, s) := rfl

@[simp] theorem start_get (s : σ) : start (get : Run σ σ) s = some (.ok s, s) := rfl

@[simp] theorem start_set (s t : σ) : start (set t : Run σ PUnit) s = some (.ok ⟨⟩, t) := rfl

@[simp] theorem start_modify (f : σ → σ) (s : σ) :
    start (modify f : Run σ PUnit) s = some (.ok ⟨⟩, f s) := rfl

@[simp] theorem start_exhausted (s : σ) : start (exhausted : Run σ α) s = none := rfl

theorem start_bind (m : Run σ α) (f : α → Run σ β) (s : σ) :
    start (m >>= f) s =
      match start m s with
      | none => none
      | some (.error p, t) => some (.error p, t)
      | some (.ok a, t) => start (f a) t := by
  simp only [start, ExceptT.run_bind, StateT.run_bind]
  cases h : m.run.run s with
  | none => rfl
  | some r => rcases r with ⟨r | a, t⟩ <;> rfl

@[simp] theorem start_contain (m : Run σ α) (s : σ) :
    start (contain m) s = (start m s).map fun r => (.ok r.1, r.2) := rfl

@[simp] theorem start_below (m : Run σ β) (s : α × σ) :
    start (below m) s = (start m s.2).map fun r => (r.1, (s.1, r.2)) := rfl

@[simp] theorem start_beside (m : Run (α × σ) β) (a : α) (s : σ) :
    start (beside m a) s = (start m (a, s)).map fun r => (.ok (r.1, r.2.1), r.2.2) := rfl

end Run
end Plugboard
