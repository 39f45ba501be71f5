import Plugboard.Event
import Plugboard.Text.Quoted

/-!
The bus: who listens to which events. Handlers are numbered from 1 in the order they came, and a
number is never given twice.
-/
namespace Plugboard

/-- What a subscriber keeps to take its handler away again. -/
structure Subscription where
  id : Nat
  type : EventType
  deriving Repr, DecidableEq

/-- A listener at its place on the bus. -/
structure Handler (L : Type) where
  id : Nat
  type : EventType
  listener : L

structure Bus (L : Type) where
  handlers : List (Handler L)
  lastId : Nat
  ordered : handlers.Pairwise (fun a b => a.id < b.id)
  bounded : ∀ h ∈ handlers, h.id ≤ lastId

namespace Bus

variable {L : Type}

def empty : Bus L := ⟨[], 0, .nil, by simp⟩

def add (b : Bus L) (type : EventType) (listener : L) : Bus L where
  handlers := b.handlers ++ [⟨b.lastId + 1, type, listener⟩]
  lastId := b.lastId + 1
  ordered := by
    refine List.pairwise_append.2 ⟨b.ordered, by simp, fun x hx y hy => ?_⟩
    simp only [List.mem_singleton] at hy
    have := b.bounded x hx
    subst hy
    exact Nat.lt_succ_of_le this
  bounded := by
    intro h hm
    rcases List.mem_append.1 hm with hm | hm
    · exact Nat.le_succ_of_le (b.bounded h hm)
    · simp only [List.mem_singleton] at hm
      subst hm
      exact Nat.le_refl _

/-- Adds a listener for the events of a type, as the last one. -/
def on (b : Bus L) (type : EventType) (listener : L) : Subscription × Bus L :=
  (⟨b.lastId + 1, type⟩, b.add type listener)

def keep (b : Bus L) (p : Handler L → Bool) : Bus L where
  handlers := b.handlers.filter p
  lastId := b.lastId
  ordered := b.ordered.filter p
  bounded := fun h hm => b.bounded h (List.mem_filter.1 hm).1

/-- Whether a handler is the one that a subscription was handed out for. -/
def isFor (s : Subscription) (h : Handler L) : Bool := h.id == s.id && h.type == s.type

def has (b : Bus L) (s : Subscription) : Bool := b.handlers.any (isFor s)

/-- Takes away the handler of a subscription; says whether it was still there. -/
def off (b : Bus L) (s : Subscription) : Bool × Bus L :=
  (b.has s, b.keep fun h => !isFor s h)

/-- The handlers for the events of a type, in the order they came. -/
def handlersFor (b : Bus L) (type : EventType) : List (Handler L) :=
  b.handlers.filter fun h => h.type == type

def count (b : Bus L) (type : EventType) : Nat := (b.handlersFor type).length

/-- Takes all handlers away. Numbers go on where they were. -/
def clear (b : Bus L) : Bus L := ⟨[], b.lastId, .nil, by simp⟩

def describe (b : Bus L) : String :=
  Text.record "EventBus" [("handler_count", toString b.handlers.length),
    ("next_handler_id", toString b.lastId)] false

/-! ## Laws -/

@[simp] theorem handlers_empty : (empty : Bus L).handlers = [] := rfl

@[simp] theorem handlers_on (b : Bus L) (type : EventType) (listener : L) :
    (b.on type listener).2.handlers = b.handlers ++ [⟨b.lastId + 1, type, listener⟩] := rfl

@[simp] theorem handlers_off (b : Bus L) (s : Subscription) :
    (b.off s).2.handlers = b.handlers.filter fun h => !isFor s h := rfl

@[simp] theorem handlers_clear (b : Bus L) : b.clear.handlers = [] := rfl

end Bus
end Plugboard
