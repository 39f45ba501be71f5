import Plugboard.Code
import Plugboard.Json.Writer

/-!
Scripted plugins: plugin code put together from a list of actions. Actions run in order until one
fails; most of them leave a note of what came of them.
-/
namespace Plugboard

/-- An action, followed by the rest of the code. Init hooks have a context. -/
abbrev Action := Option Context → Code → Code

namespace Action

/-- Leaves a note and goes on. -/
def noting (n : Note) (rest : Code) : Code := .ask (.note n) fun _ => rest

def say (j : Json) : Action := fun _ rest => noting (.said j) rest

def fail (f : Fault) : Action := fun _ _ => .fail f

def panic (p : Panic) : Action := fun _ _ => .panic p

def emit (e : Event) : Action := fun _ rest =>
  .ask (.emit e) fun n => noting (.emitted n) rest

def subscribe (label : String) (type : EventType) (handler : Event → Code) : Action :=
  fun _ rest => .ask (.subscribe label type handler) fun s => noting (.subscribed s) rest

def unsubscribe (label : String) : Action := fun _ rest =>
  .ask (.unsubscribe label) fun found => noting (.unsubscribed found) rest

/-- Registers a definition that is made with a fresh owner for its counters. -/
def register (make : Nat → Definition Code) : Action := fun _ rest =>
  .ask .fresh fun owner => .ask (.register (make owner)) fun r => noting (.registered r) rest

def unregister (plugin : String) : Action := fun _ rest =>
  .ask (.unregister plugin) fun name => noting (.unregistered name) rest

def look (session : String) : Action := fun _ rest =>
  .ask (.look session) fun view => noting (.saw view) rest

def detach (session : String) : Action := fun _ rest => .ask (.detach session) fun _ => rest

def setToken (session : String) (token : Option String) : Action := fun _ rest =>
  .ask (.setToken session token) fun _ => rest

/-- A refused call fails the code that made it. -/
def refused (e : SessionError) : Code := .fail ⟨e.message, e.causes⟩

def update (changes : Settings) : Action := fun c rest =>
  match c with
  | none => rest
  | some c => .ask (.update c changes) fun
    | .ok settings => noting (.updated settings) rest
    | .error e => refused e

def callApi (endpoint : String) (r : ApiRequest) : Action := fun c rest =>
  match c with
  | none => rest
  | some c => .ask (.callApi c endpoint r) fun
    | .ok j => noting (.answered j) rest
    | .error e => refused e

/-- Actions one after the other, then the rest. -/
def sequence (actions : List Action) (c : Option Context) (rest : Code) : Code :=
  actions.foldr (fun a k => a c k) rest

end Action

namespace Script

/-- The one of some items for the n-th time; the last one is for all later times. -/
def nth {α : Type} : List α → Nat → Option α
  | [], _ => none
  | [a], _ => some a
  | a :: _, 0 => some a
  | _ :: rest, n + 1 => nth rest n

/-- What a loader does. -/
structure Load where
  /-- A panic before the loader hands over its work. -/
  atCall : Option Panic
  panic : Option Panic
  actions : List Action
  fault : Option Fault

/-- What a component renders when nothing goes wrong. -/
inductive Body
  | text (s : String)
  | setting (key : String)
  | summary

structure Render where
  panic : Option Panic
  actions : List Action
  fault : Option Fault
  body : Body

def Load.quiet : Load := ⟨none, none, [], none⟩

def Render.summary : Render := ⟨none, [], none, .summary⟩

/-- First a panic, then the actions, then an error, and in the end the text. -/
def course (panic : Option Panic) (actions : List Action) (fault : Option Fault)
    (c : Option Context) (text : String) : Code :=
  match panic with
  | some p => .panic p
  | none => Action.sequence actions c (match fault with
    | some f => .fail f
    | none => .done text)

def Body.render (c : Context) : Body → String
  | .text s => s
  | .setting key => (c.settings.get? key).getD "(none)"
  | .summary =>
    c.plugin ++ "|" ++ c.token.getD "(no token)" ++ "|" ++ Json.compact (Json.ofSettings c.settings)

/-- A component by its loads and renders; one without loads loads without a note. -/
structure Piece where
  loads : Option (List Load)
  renders : List Render

def Piece.plain : Piece := ⟨none, []⟩

/-- The loader of a component whose counters have this owner and whose notes have this tag. -/
def loader (tag : String) (owner : Nat) : Option (List Load) → Code
  | none => .later .skip
  | some loads => .ask (.count ⟨owner, tag ++ " loads"⟩) fun n =>
    let l := (nth loads n).getD .quiet
    Action.noting (.loaded tag n) (match l.atCall with
      | some p => .panic p
      | none => .later (course l.panic l.actions l.fault none ""))

def renderer (tag : String) (owner : Nat) (renders : List Render) (c : Context) : Code :=
  .ask (.count ⟨owner, tag ++ " renders"⟩) fun n =>
    let r := (nth renders n).getD .summary
    Action.noting (.rendered tag n)
      (course r.panic r.actions r.fault none (r.body.render c))

def Piece.component (p : Piece) (tag : String) (owner : Nat) : Component Code :=
  ⟨loader tag owner p.loads, renderer tag owner p.renders⟩

/-- An init hook: a note, then perhaps a panic before it hands over its work, then the actions. -/
def initHook (atCall : Option Panic) (actions : List Action) (c : Context) : Code :=
  Action.noting (.initialised c) (match atCall with
    | some p => .panic p
    | none => .later (Action.sequence actions (some c) .skip))

def destroyHook (plugin : String) (actions : List Action) : Code :=
  Action.noting (.destroyed plugin) (Action.sequence actions none .skip)

/-- An event handler; a quiet one leaves no note of its events. -/
def handler (label : String) (quiet : Bool) (actions : List Action) (e : Event) : Code :=
  let body := Action.sequence actions none .skip
  if quiet then body else Action.noting (.handled label e) body

/-- The plugin of a scripted definition. -/
structure Plugin where
  base : Definition Code
  panel : Option Piece
  settings : Option Piece
  init : Option (Option Panic × List Action)
  destroy : Option (List Action)

def Plugin.definition (p : Plugin) (owner : Nat) : Definition Code :=
  { p.base with
    panel := p.panel.map fun piece => piece.component p.base.name owner
    settings := p.settings.map fun piece => piece.component (p.base.name ++ "/settings") owner
    init := p.init.map fun hook => initHook hook.1 hook.2
    destroy := p.destroy.map fun actions => destroyHook p.base.name actions }

end Script
end Plugboard
