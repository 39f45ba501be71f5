import Plugboard.Proofs.Journal

/-!
Events on the bus while handlers change it. A handler may subscribe others, take any of them away,
clear the bus, emit events in its turn and panic; the journal has all of it in order.

* `Roster`: who listens. `Happening.enrol`: what a request changes of it.
* `Plays`, `Heard`: how a journal reads in which every event goes to the handlers that listen when
  it is published, to each of them once and in their order, however deep events nest.
* `server_broadcasts`: whatever is served writes such a journal, by induction on the depth.
* `broadcast_exact`: so does an event, and what comes back is the number of its handlers.
-/
namespace Plugboard

open Run

/-! ## Who listens -/

structure Roster where
  handlers : List (Handler Listener)
  lastId : Nat
  /-- The subscriptions that plugin code has kept. -/
  labels : Table String Subscription

namespace Roster

/-- The handlers for the events of a type. -/
def listening (r : Roster) (type : EventType) : List (Handler Listener) :=
  r.handlers.filter fun x => x.type == type

/-- A new handler comes last and has a new number. -/
def subscribe (r : Roster) (label : String) (type : EventType) (body : Event → Code) : Roster where
  handlers := r.handlers ++ [⟨r.lastId + 1, type, .code body⟩]
  lastId := r.lastId + 1
  labels := Table.put label ⟨r.lastId + 1, type⟩ r.labels

def unsubscribe (r : Roster) (label : String) : Roster where
  handlers :=
    match Table.get? label r.labels with
    | none => r.handlers
    | some s => r.handlers.filter fun x => !Bus.isFor s x
  lastId := r.lastId
  labels := Table.erase label r.labels

def clear (r : Roster) : Roster := { r with handlers := [] }

end Roster

/-- What a request changes of who listens. -/
def Op.enrol {a : Answer} : Op Code a → Roster → Roster
  | .subscribe label type body, r => r.subscribe label type body
  | .unsubscribe label, r => r.unsubscribe label
  | .clearBus, r => r.clear
  | .clearRegistry, r => r.clear
  | _, r => r

def Happening.enrol : Happening → Roster → Roster
  | .asked op, r => op.enrol r
  | _, r => r

/-- What belongs to the way of an event to its handlers. -/
def Happening.IsDelivery : Happening → Prop
  | .published _ | .delivered _ _ => True
  | _ => False

def Host.roster (h : Host) : Roster := ⟨h.bus.handlers, h.bus.lastId, h.subscriptions⟩

/-! ## How a journal reads -/

/-- A handler takes an event: a mark is silent, and code is run then. Its panic is only logged. -/
inductive Handler.Takes (x : Handler Listener) (e : Event) :
    Roster → List Happening → Roster → Prop
  | mark {r panel plugin} (hx : x.listener = .mark panel plugin) : Takes x e r [] r
  | quiet {body depth h h' ending l} (hx : x.listener = .code body)
      (run : start (Host.player depth (body e)) h = some (.ok ending, h'))
      (hl : h'.journal = h.journal ++ l) : Takes x e h.roster l h'.roster
  | loud {body depth h h' panic l} (hx : x.listener = .code body)
      (run : start (Host.player depth (body e)) h = some (.error panic, h'))
      (hl : h'.journal = h.journal ++ l) :
      Takes x e h.roster (l ++ [.logged .error (Host.handlerPanic x.id e panic)]) h'.roster

mutual

/-- A stretch of the journal, with who listens before and after it. Deliveries come in whole passes
of an event, and a pass is over those who listen when the event is published. -/
inductive Plays : Roster → List Happening → Roster → Prop
  | nil {r} : Plays r [] r
  | other {r x} (hx : ¬ x.IsDelivery) : Plays r [x] (x.enrol r)
  | pass {r r' e l} (hl : Heard e r (r.listening e.type) l r') : Plays r (.published e :: l) r'
  | append {r r' r'' l l'} (hl : Plays r l r') (hl' : Plays r' l' r'') : Plays r (l ++ l') r''

/-- A pass of an event over handlers: one delivery to each of them, in their order, and after it
what the handler does. -/
inductive Heard : Event → Roster → List (Handler Listener) → List Happening → Roster → Prop
  | nil {e r} : Heard e r [] [] r
  | cons {e r r' r'' x xs l l'} (hx : x.Takes e r l r') (hl : Plays r l r')
      (hl' : Heard e r' xs l' r'') : Heard e r (x :: xs) (.delivered x.id e :: (l ++ l')) r''

end

/-- Who listens after a stretch of the journal. -/
def Roster.after (r : Roster) (l : List Happening) : Roster := l.foldl (fun r x => x.enrol r) r

theorem Roster.after_append (r : Roster) (l l' : List Happening) :
    r.after (l ++ l') = (r.after l).after l' :=
  List.foldl_append

/-- Deliveries change nothing themselves. -/
theorem Plays.eq_after {r r' : Roster} {l : List Happening} (hl : Plays r l r') :
    r' = r.after l := by
  refine @Plays.rec (fun r l r' _ => r' = r.after l) (fun _ r _ l r' _ => r' = r.after l)
    ?nil ?other ?pass ?append ?none ?cons r l r' hl
  case nil | none | other => intros; rfl
  case pass =>
    intro r r' e l _ ih
    exact ih
  case append =>
    intro r r' r'' l l' _ _ ih ih'
    rw [Roster.after_append, ← ih, ih']
  case cons =>
    intro e r r' r'' x xs l l' _ _ _ ih ih'
    change r'' = r.after (l ++ l')
    rw [Roster.after_append, ← ih, ih']

/-- What changes nothing of who listens, and delivers nothing, may be anywhere. -/
theorem plays_of_still {r : Roster} {l : List Happening}
    (hl : ∀ x ∈ l, ¬ x.IsDelivery ∧ x.enrol r = r) : Plays r l r := by
  induction l with
  | nil => exact .nil
  | cons x l ih =>
    obtain ⟨hx, hr⟩ := hl x List.mem_cons_self
    have hfirst : Plays r [x] (x.enrol r) := .other hx
    rw [hr] at hfirst
    exact hfirst.append (ih fun y hy => hl y (List.mem_cons_of_mem _ hy))

namespace Host

/-- The journal has grown by such a stretch, which leads from who listened to who listens. -/
def Broadcasts (h h' : Host) : Prop :=
  ∃ l, h'.journal = h.journal ++ l ∧ Plays h.roster l h'.roster

instance : Std.Refl Broadcasts := ⟨fun _ => ⟨[], (List.append_nil _).symm, .nil⟩⟩

instance : IsTrans Host Broadcasts where
  trans _ _ _ := by
    rintro ⟨l, hl, hp⟩ ⟨l', hl', hp'⟩
    exact ⟨l ++ l', by rw [hl', hl, List.append_assoc], hp.append hp'⟩

theorem broadcasts_of_happening {h h' : Host} (x : Happening) (hx : ¬ x.IsDelivery)
    (hj : h'.journal = h.journal ++ [x]) (hr : h'.roster = x.enrol h.roster) : Broadcasts h h' :=
  ⟨[x], hj, hr ▸ .other hx⟩

theorem Aside.roster {h h' : Host} (ha : Aside h h') : h'.roster = h.roster := by
  rw [Host.roster, Host.roster, ha.bus, ha.subscriptions]

theorem broadcasts_of_aside (h h' : Host) (ha : Aside h h') : Broadcasts h h' := by
  obtain ⟨l, hl, hall⟩ := ha.journal
  refine ⟨l, hl, ha.roster ▸ plays_of_still fun x hx => ?_⟩
  have haside := hall x hx
  cases x with
  | asked | published | delivered | entered => exact haside.elim
  | _ => exact ⟨id, rfl⟩

theorem record_broadcasts {x : Happening} (hx : ¬ x.IsDelivery) (hr : ∀ r, x.enrol r = r) :
    Along Broadcasts (record x) :=
  along_modify fun h => broadcasts_of_happening x hx rfl (hr h.roster).symm

/-! ## Passes -/

/-- A pass is given up at one of its handlers: those before it had the event, and the code of this
one is given up. -/
def GivenUp (depth : Nat) (e : Event) (xs : List (Handler Listener)) (h : Host) : Prop :=
  ∃ before x after body l, ∃ k : Host, xs = before ++ x :: after ∧ x.listener = .code body ∧
    k.journal = h.journal ++ l ∧ Heard e h.roster before l k.roster ∧
    start (player depth (body e)) (k.recorded (.delivered x.id e)) = none

variable {depth : Nat}

/-- How a run ends that takes an event over handlers. -/
def Passes (depth : Nat) (e : Event) (xs : List (Handler Listener)) (h : Host) :
    Option (Except Panic PUnit × Host) → Prop
  | none => GivenUp depth e xs h
  | some (r, h') => r = .ok ⟨⟩ ∧ ∃ l, h'.journal = h.journal ++ l ∧
      Heard e h.roster xs l h'.roster

/-- One handler: its delivery, and then what it does, unless that is given up. -/
theorem start_deliver (hplay : ∀ code, Along Broadcasts (player depth code)) (e : Event)
    (x : Handler Listener) (h : Host) :
    match start (deliver (player depth) e x) h with
    | none => ∃ body, x.listener = .code body ∧
        start (player depth (body e)) (h.recorded (.delivered x.id e)) = none
    | some (r, h') => r = .ok ⟨⟩ ∧ ∃ l, h'.journal = h.journal ++ .delivered x.id e :: l ∧
        x.Takes e h.roster l h'.roster ∧ Plays h.roster l h'.roster := by
  have hrecord : start (record (.delivered x.id e)) h =
      some (.ok ⟨⟩, h.recorded (.delivered x.id e)) := rfl
  rw [deliver, start_bind, hrecord]
  dsimp only
  cases hx : x.listener with
  | mark panel plugin =>
    have htakes : x.Takes e h.roster [] h.roster := .mark hx
    dsimp only
    by_cases hplugin : e.plugin = plugin
    · rw [if_pos hplugin, start_modify]
      exact ⟨rfl, [], rfl, htakes, .nil⟩
    · rw [if_neg hplugin, start_pure]
      exact ⟨rfl, [], rfl, htakes, .nil⟩
  | code body =>
    dsimp only
    rw [start_bind, start_contain]
    match run : start (player depth (body e)) (h.recorded (.delivered x.id e)) with
    | none => exact ⟨body, rfl, run⟩
    | some (.ok ending, h') =>
      obtain ⟨l, hl, hp⟩ := hplay (body e) _ _ _ run
      have htakes : x.Takes e (h.recorded (.delivered x.id e)).roster l h'.roster :=
        .quiet hx run hl
      refine ⟨rfl, l, ?_, htakes, hp⟩
      rw [hl, recorded, List.append_assoc, List.singleton_append]
    | some (.error panic, h') =>
      obtain ⟨l, hl, hp⟩ := hplay (body e) _ _ _ run
      let line : Happening := .logged .error (handlerPanic x.id e panic)
      have hline : Plays h'.roster [line] (h'.recorded line).roster := .other id
      have htakes : x.Takes e (h.recorded (.delivered x.id e)).roster (l ++ [line])
        h'.roster := .loud hx run hl
      have hjournal : (h'.recorded line).journal =
          h.journal ++ .delivered x.id e :: (l ++ [line]) := by
        rw [recorded, hl, recorded, List.append_assoc, List.append_assoc, List.singleton_append]
      exact ⟨rfl, l ++ [line], hjournal, htakes, hp.append hline⟩

theorem Passes.cons {e : Event} {x : Handler Listener} {xs : List (Handler Listener)}
    {h h₁ : Host} {l : List Happening} {o : Option (Except Panic PUnit × Host)}
    (hl : h₁.journal = h.journal ++ .delivered x.id e :: l)
    (hx : x.Takes e h.roster l h₁.roster) (hp : Plays h.roster l h₁.roster)
    (hrest : Passes depth e xs h₁ o) : Passes depth e (x :: xs) h o := by
  match o with
  | none =>
    obtain ⟨before, y, after, body, l', k, rfl, hy, hl', hheard, hnone⟩ := hrest
    refine ⟨x :: before, y, after, body, .delivered x.id e :: (l ++ l'), k, rfl, hy, ?_,
      .cons hx hp hheard, hnone⟩
    rw [hl', hl, List.append_assoc, List.cons_append]
  | some (r, h₂) =>
    obtain ⟨hr, l', hl', hheard⟩ := hrest
    refine ⟨hr, .delivered x.id e :: (l ++ l'), ?_, .cons hx hp hheard⟩
    rw [hl', hl, List.append_assoc, List.cons_append]

/-- A pass is over the handlers it was begun with, whatever they do to the bus. -/
theorem start_deliveries (hplay : ∀ code, Along Broadcasts (player depth code)) (e : Event)
    (xs : List (Handler Listener)) (h : Host) :
    Passes depth e xs h (start (xs.forM (deliver (player depth) e)) h) := by
  induction xs generalizing h with
  | nil => exact ⟨rfl, [], (List.append_nil _).symm, .nil⟩
  | cons x xs ih =>
    have hfirst := start_deliver hplay e x h
    have hcons : (x :: xs).forM (deliver (player depth) e) =
      deliver (player depth) e x >>= fun _ => xs.forM (deliver (player depth) e) := rfl
    rw [hcons, start_bind]
    match run : start (deliver (player depth) e x) h with
    | none =>
      rw [run] at hfirst
      obtain ⟨body, hx, hnone⟩ := hfirst
      exact ⟨[], x, xs, body, [], h, rfl, hx, (List.append_nil _).symm, .nil, hnone⟩
    | some (r, h₁) =>
      rw [run] at hfirst
      obtain ⟨rfl, l, hl, hx, hp⟩ := hfirst
      exact (ih h₁).cons hl hx hp

/-- An event goes to those who listen when it is published. -/
theorem start_emit (hplay : ∀ code, Along Broadcasts (player depth code)) (e : Event) (h : Host) :
    match start (emit (player depth) e) h with
    | none => GivenUp depth e (h.roster.listening e.type) (h.recorded (.published e))
    | some (r, h') => r = .ok (h.roster.listening e.type).length ∧
        ∃ l, h'.journal = h.journal ++ .published e :: l ∧
          Heard e h.roster (h.roster.listening e.type) l h'.roster := by
  have hpass := start_deliveries hplay e (h.roster.listening e.type) (h.recorded (.published e))
  have hemit : start (emit (player depth) e) h =
      start ((h.roster.listening e.type).forM (deliver (player depth) e) >>= fun _ =>
        pure (h.roster.listening e.type).length) (h.recorded (.published e)) := rfl
  rw [hemit, start_bind]
  match run : start ((h.roster.listening e.type).forM (deliver (player depth) e))
      (h.recorded (.published e)) with
  | none =>
    rw [run] at hpass
    exact hpass
  | some (r, h') =>
    rw [run] at hpass
    obtain ⟨rfl, l, hl, hheard⟩ := hpass
    refine ⟨rfl, l, ?_, hheard⟩
    rw [hl, recorded, List.append_assoc, List.singleton_append]

theorem emit_broadcasts (hplay : ∀ code, Along Broadcasts (player depth code)) (e : Event) :
    Along Broadcasts (emit (player depth) e) := by
  intro h r h' run
  have hpass := start_emit hplay e h
  rw [run] at hpass
  obtain ⟨-, l, hl, hheard⟩ := hpass
  exact ⟨.published e :: l, hl, .pass hheard⟩

/-! ## Requests -/

section
variable {a : Answer}

/-- A request that changes nothing of who listens. -/
theorem serve_broadcasts_of_same {op : Op Code a} (hop : ∀ r, op.enrol r = r)
    (hb : Along Broadcasts (fulfil (player depth) op)) :
    Along Broadcasts (serve (player depth) op) :=
  along_bind (record_broadcasts id hop) fun _ => hb

/-- Who listens when a handler was taken away by its label. -/
theorem roster_unsubscribed (label : String) (h : Host) :
    roster { h with
      bus := (Table.get? label h.subscriptions).elim h.bus fun s => (h.bus.off s).2
      subscriptions := Table.erase label h.subscriptions } = h.roster.unsubscribe label := by
  unfold Roster.unsubscribe roster
  cases Table.get? label h.subscriptions <;> rfl

theorem register_broadcasts (d : Definition Code) : Along Broadcasts (register d) := by
  intro h
  refine (register_ends d h).mono fun _ h' hr => ?_
  rcases hr with ⟨_, -, -, rfl⟩ | ⟨_, registry, -, -, ha⟩
  · exact Std.Refl.refl _
  · exact broadcasts_of_aside { h with registry := registry } h' ha

variable (hplay : ∀ code, Along Broadcasts (player depth code))
include hplay

theorem unregister_broadcasts (plugin : String) :
    Along Broadcasts (unregister (player depth) plugin) := by
  intro h
  refine (unregister_ends broadcasts_of_aside (emit_broadcasts hplay) hplay
    (fun _ _ => record_broadcasts id fun _ => rfl) plugin h).mono fun _ h' hr => ?_
  rcases hr with ⟨-, rfl⟩ | hb
  · exact Std.Refl.refl _
  · exact hb

theorem serve_broadcasts (op : Op Code a) : Along Broadcasts (serve (player depth) op) := by
  cases op with
  | subscribe label type body =>
    intro h
    rw [serve, record, ends_bind, ends_modify]
    refine (ends_of_start (start_subscribeAs label type body _)).mpr ?_
    exact broadcasts_of_happening (.asked (.subscribe label type body)) id rfl rfl
  | unsubscribe label =>
    intro h
    rw [serve, record, ends_bind, ends_modify]
    refine (ends_of_start (start_unsubscribeAs label _)).mpr ?_
    exact broadcasts_of_happening (.asked (.unsubscribe label)) id rfl (roster_unsubscribed label _)
  | clearBus =>
    intro h
    rw [serve, record, ends_bind, ends_modify]
    refine (ends_modify _ _ _).mpr ?_
    exact broadcasts_of_happening (.asked .clearBus) id rfl rfl
  | clearRegistry =>
    intro h
    rw [serve, record, ends_bind, ends_modify]
    refine (ends_modify _ _ _).mpr ?_
    exact broadcasts_of_happening (.asked .clearRegistry) id rfl rfl
  | note | fresh | count | look | detach | setToken | callApi =>
    exact serve_broadcasts_of_same (fun _ => rfl)
      (along_of_aside broadcasts_of_aside (fulfil_aside _ trivial))
  | emit e => exact serve_broadcasts_of_same (fun _ => rfl) (emit_broadcasts hplay e)
  | register d => exact serve_broadcasts_of_same (fun _ => rfl) (register_broadcasts d)
  | unregister plugin =>
    exact serve_broadcasts_of_same (fun _ => rfl)
      (along_bind (unregister_broadcasts hplay plugin) fun _ => along_pure _)
  | update c changes =>
    exact serve_broadcasts_of_same (fun _ => rfl)
      (update_along broadcasts_of_aside (emit_broadcasts hplay) _ _ _)

end

theorem server_broadcasts (depth : Nat) :
    ∀ a (op : Op Code a), Along Broadcasts (server depth op) :=
  server_along (fun _ hplay _ => serve_broadcasts hplay) depth

theorem listening_ordered (h : Host) (type : EventType) :
    (h.roster.listening type).Pairwise fun x y => x.id < y.id :=
  h.bus.ordered.filter _

theorem of_mem_listening {h : Host} {type : EventType} {x : Handler Listener}
    (hx : x ∈ h.roster.listening type) : x.type = type ∧ x.id ≤ h.roster.lastId := by
  obtain ⟨hmem, htype⟩ := List.mem_filter.mp hx
  exact ⟨beq_iff_eq.mp htype, h.bus.bounded x hmem⟩

/-- An event goes to exactly those who listen to its type when it is published, once to each and in
the order of their numbers, which are lower than that of any handler to come; what comes back is how
many they are. Their code is run then, and whatever it does to the bus, the events that it leads to
go to exactly those who listen by the time that they are published. An event is only given up when
the code of one of its handlers is. -/
theorem broadcast_exact (depth : Nat) (e : Event) (h : Host) :
    let xs := h.roster.listening e.type
    xs.Pairwise (fun x y => x.id < y.id) ∧
    (∀ x ∈ xs, x.type = e.type ∧ x.id ≤ h.roster.lastId) ∧
    match start (emit (player depth) e) h with
    | none => GivenUp depth e xs (h.recorded (.published e))
    | some (r, h') => r = .ok xs.length ∧
        ∃ l, h'.journal = h.journal ++ .published e :: l ∧ Heard e h.roster xs l h'.roster := by
  have hplay : ∀ code, Along Broadcasts (player depth code) := run_along (server_broadcasts depth)
  exact ⟨h.listening_ordered e.type, fun x hx => of_mem_listening hx, start_emit hplay e h⟩

/-- Two handlers listen. The first one takes the second one away, subscribes a third, emits an event
of its own and panics. -/
def takeover : Code :=
  let first := fun e : Event =>
    if e.plugin = "outer" then
      .ask (.unsubscribe "second") fun _ =>
        .ask (.subscribe "third" .enabled fun _ => .skip) fun _ =>
          .ask (.emit (.enabled "inner")) fun _ => .panic (.owned "boom")
    else .skip
  .ask (.subscribe "first" .enabled first) fun _ =>
    .ask (.subscribe "second" .enabled fun _ => .skip) fun _ =>
      .ask (.emit (.enabled "outer")) fun n => .done (toString n)

def deliveries (h : Host) : List (Nat × String) := h.journal.filterMap fun
  | .delivered id e => some (id, e.plugin)
  | _ => none

example : (start (takeover.run (server 3))
      (.new .default .ignore (.memory .empty) .unreachable)).map
      (fun x => (x.1.toOption.bind Except.toOption, x.2.deliveries)) =
    some (some "2", [(1, "outer"), (1, "inner"), (3, "inner"), (2, "outer")]) := by
  decide +kernel

end Host
end Plugboard
