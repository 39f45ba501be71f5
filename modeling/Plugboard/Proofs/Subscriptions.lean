import Plugboard.Proofs.Broadcast

/-!
What is left on a bus of the handlers that were ever subscribed, by what was done to it: handlers
were subscribed, taken away by their subscriptions, and all taken away at once.

* `Bus.Act`, `Bus.after`: what is done to a bus, and the bus after it.
* `Bus.standing`: the handlers that are left, read off what was done alone. `Bus.handlers_after`:
  they are the handlers of the bus.
* `Bus.Brings.mem_iff`, `Bus.Brings.off`: a handler is there until its subscription is given up or
  all go, and its subscription takes away that one alone.
* `Roster.acts`: what plugin code does to the bus, read off the journal. `Host.bus_of_roster`: the
  bus is what that makes of it.
-/
namespace Plugboard

open Run

/-- The subscription that was handed out for a handler. -/
def Handler.subscription {L : Type} (x : Handler L) : Subscription := ⟨x.id, x.type⟩

namespace Bus

variable {L : Type}

theorem isFor_eq (s : Subscription) (x : Handler L) : isFor s x = (s == x.subscription) := by
  obtain ⟨id, type⟩ := s
  rw [Bool.eq_iff_iff, isFor, Handler.subscription, Bool.and_eq_true, beq_iff_eq, beq_iff_eq,
    beq_iff_eq, Subscription.mk.injEq, eq_comm, eq_comm (a := x.type)]

theorem eq_of_handlers {b b' : Bus L} (hb : b.handlers = b'.handlers) (hid : b.lastId = b'.lastId) :
    b = b' := by
  cases b
  cases b'
  cases hb
  cases hid
  rfl

/-! ## What is done to a bus -/

inductive Act (L : Type)
  | on (type : EventType) (listener : L)
  | off (s : Subscription)
  | clear

def act (b : Bus L) : Act L → Bus L
  | .on type listener => (b.on type listener).2
  | .off s => (b.off s).2
  | .clear => b.clear

def after (b : Bus L) (acts : List (Act L)) : Bus L := acts.foldl act b

theorem after_append (b : Bus L) (acts acts' : List (Act L)) :
    b.after (acts ++ acts') = (b.after acts).after acts' :=
  List.foldl_append

def Act.isOn : Act L → Bool
  | .on _ _ => true
  | .off _ | .clear => false

/-- How many subscriptions were handed out. -/
def handedOut (acts : List (Act L)) : Nat := acts.countP Act.isOn

theorem lastId_after (b : Bus L) (acts : List (Act L)) :
    (b.after acts).lastId = b.lastId + handedOut acts := by
  induction acts generalizing b with
  | nil => rfl
  | cons a acts ih =>
    have hfirst : (b.act a).lastId = b.lastId + if a.isOn then 1 else 0 := by
      cases a <;> rfl
    have hrest : (b.after (a :: acts)).lastId = (b.act a).lastId + handedOut acts := ih (b.act a)
    rw [hrest, hfirst, handedOut, handedOut, List.countP_cons, Nat.add_assoc, Nat.add_comm (ite ..)]

theorem lastId_history (acts : List (Act L)) : (empty.after acts).lastId = handedOut acts :=
  (lastId_after _ _).trans (Nat.zero_add _)

theorem act_history (acts : List (Act L)) (a : Act L) :
    empty.after (acts ++ [a]) = (empty.after acts).act a := after_append _ _ _

theorem handedOut_lt {past past' later later' : List (Act L)} {type type' : EventType} {l l' : L}
    (h : past ++ .on type l :: later = past' ++ .on type' l' :: later')
    (hlt : past.length < past'.length) : handedOut past < handedOut past' := by
  have hprefix : past ++ [.on type l] <+: past' := by
    have hfirst : past ++ [.on type l] <+: past' ++ .on type' l' :: later' :=
      ⟨later, by rw [← h, List.append_assoc, List.singleton_append]⟩
    refine List.prefix_of_prefix_length_le hfirst (List.prefix_append _ _) ?_
    rw [List.length_append, List.length_singleton]
    exact hlt
  obtain ⟨u, rfl⟩ := hprefix
  simp only [handedOut, List.countP_append, List.countP_singleton, Act.isOn, ↓reduceIte]
  omega

/-- Each handler has a subscription of its own. -/
theorem eq_of_handedOut {past past' later later' : List (Act L)} {type type' : EventType} {l l' : L}
    (h : past ++ .on type l :: later = past' ++ .on type' l' :: later')
    (hn : handedOut past = handedOut past') : past = past' := by
  rcases Nat.lt_trichotomy past.length past'.length with hlt | heq | hlt
  · exact absurd hn (Nat.ne_of_lt (handedOut_lt h hlt))
  · exact (List.append_inj h heq).1
  · exact absurd hn (Nat.ne_of_gt (handedOut_lt h.symm hlt))

/-! ## What is left -/

/-- The handler of the subscription is gone after this. -/
def Act.ends (s : Subscription) : Act L → Bool
  | .on _ _ => false
  | .off s' => s' == s
  | .clear => true

/-- The handlers that are left of these acts, when so many subscriptions had been handed out before:
each that was subscribed, unless all handlers or its own one were taken away later. -/
def standing : Nat → List (Act L) → List (Handler L)
  | _, [] => []
  | n, .on type l :: acts =>
    if acts.any (Act.ends ⟨n + 1, type⟩) then standing (n + 1) acts
    else ⟨n + 1, type, l⟩ :: standing (n + 1) acts
  | n, .off _ :: acts | n, .clear :: acts => standing n acts

theorem lt_of_mem_standing {n : Nat} {acts : List (Act L)} {x : Handler L}
    (hx : x ∈ standing n acts) : n < x.id := by
  induction acts generalizing n with
  | nil => cases hx
  | cons a acts ih =>
    cases a with
    | on type l =>
      rw [standing] at hx
      split at hx
      · exact Nat.lt_of_succ_lt (ih hx)
      · rcases List.mem_cons.mp hx with rfl | hx
        · exact Nat.lt_succ_self n
        · exact Nat.lt_of_succ_lt (ih hx)
    | off | clear => exact ih hx

/-- Whether a handler that is there before these acts is there after them. -/
def stays (acts : List (Act L)) (x : Handler L) : Bool := !acts.any (Act.ends x.subscription)

theorem stays_iff {acts : List (Act L)} {x : Handler L} :
    stays acts x = true ↔ .clear ∉ acts ∧ .off x.subscription ∉ acts := by
  rw [stays, Bool.not_eq_true', List.any_eq_false]
  refine ⟨fun h => ⟨fun hc => h _ hc rfl, fun ho => h _ ho (beq_self_eq_true _)⟩, ?_⟩
  rintro ⟨hc, ho⟩ a ha hends
  cases a with
  | on => cases hends
  | off s => exact ho (beq_iff_eq.mp hends ▸ ha)
  | clear => exact hc ha

/-- A handler that has just come stays, or is not among those that are left. -/
theorem standing_on (n : Nat) (type : EventType) (l : L) (acts : List (Act L)) :
    [⟨n + 1, type, l⟩].filter (stays acts) ++ standing (n + 1) acts =
      standing n (.on type l :: acts) := by
  rw [standing, List.filter_cons, List.filter_nil, stays, Handler.subscription]
  cases acts.any (Act.ends ⟨n + 1, type⟩) <;> rfl

/-- The handlers of a bus are those that were there and stay, and those that are left since. -/
theorem handlers_after (b : Bus L) (acts : List (Act L)) :
    (b.after acts).handlers = b.handlers.filter (stays acts) ++ standing b.lastId acts := by
  induction acts generalizing b with
  | nil => exact ((List.append_nil _).trans (List.filter_eq_self.mpr fun _ _ => rfl)).symm
  | cons a acts ih =>
    refine (ih (b.act a)).trans ?_
    cases a with
    | on type l =>
      have hstays : stays (.on type l :: acts) = stays acts := rfl
      rw [act, handlers_on, List.filter_append, List.append_assoc, hstays, ← standing_on]
      rfl
    | off s =>
      have hstays : ∀ x, (stays acts x && !isFor s x) = stays (.off s :: acts) x := by
        intro x
        rw [stays, stays, List.any_cons, Bool.not_or, Bool.and_comm, Act.ends, isFor_eq]
      rw [act, handlers_off, List.filter_filter, List.filter_congr fun x _ => hstays x]
      rfl
    | clear =>
      have hnone : b.handlers.filter (stays (.clear :: acts)) = [] :=
        List.filter_eq_nil_iff.mpr fun _ _ => Bool.false_ne_true
      rw [hnone]
      rfl

/-- The handlers around one that was subscribed in between, when these acts have followed. -/
theorem handlers_around (past later : List (Act L)) (type : EventType) (l : L) :
    ((empty.after (past ++ .on type l :: later)).handlers =
      (empty.after past).handlers.filter (stays later) ++
        ([⟨handedOut past + 1, type, l⟩].filter (stays later) ++
          standing (handedOut past + 1) later)) := by
  have hid := lastId_history past
  have hon : (empty.after (past ++ .on type l :: later) : Bus L) =
      (((empty.after past).on type l).2).after later := after_append _ _ _
  rw [hon, handlers_after, handlers_on, List.filter_append, List.append_assoc, hid, ← hid]
  rfl

/-- Taking away a handler that is there takes no other one away. -/
theorem handlers_off_of_eq {b : Bus L} {xs ys : List (Handler L)} {x : Handler L}
    (hb : b.handlers = xs ++ x :: ys) : (b.off x.subscription).2.handlers = xs ++ ys := by
  obtain ⟨-, hys, hxs⟩ := List.pairwise_append.mp (hb ▸ b.ordered)
  have hkeep : ∀ zs : List (Handler L), (∀ z ∈ zs, z.id ≠ x.id) →
      zs.filter (fun z => !isFor x.subscription z) = zs := by
    refine fun zs hzs => List.filter_eq_self.mpr fun z hz => ?_
    rw [isFor, Handler.subscription, beq_eq_false_iff_ne.mpr (hzs z hz)]
    rfl
  have hself : isFor x.subscription x = true := by rw [isFor_eq, beq_self_eq_true]
  rw [handlers_off, hb, List.filter_append, List.filter_cons, hself,
    hkeep xs fun z hz => Nat.ne_of_lt (hxs z hz x List.mem_cons_self)]
  exact congrArg _ (hkeep ys fun z hz => Nat.ne_of_gt ((List.pairwise_cons.mp hys).1 z hz))

/-- Handlers that are taken away in turn. -/
theorem handlers_offs (b : Bus L) (l : List Subscription) :
    (b.after (l.map .off)).handlers = b.handlers.filter fun x => !l.any (isFor · x) := by
  induction l generalizing b with
  | nil => exact (List.filter_eq_self.mpr fun _ _ => rfl).symm
  | cons s l ih =>
    have hfirst : b.after ((s :: l).map .off) = (b.off s).2.after (l.map .off) := rfl
    rw [hfirst, ih, handlers_off, List.filter_filter]
    refine List.filter_congr fun x _ => ?_
    rw [List.any_cons, Bool.not_or, Bool.and_comm]

theorem off_of_not_has {b : Bus L} {s : Subscription} (hs : b.has s = false) :
    (b.off s).2 = b := by
  refine eq_of_handlers (List.filter_eq_self.mpr fun x hx => ?_) rfl
  rw [Bool.eq_false_iff.mpr (List.any_eq_false.mp hs x hx)]
  rfl

/-! ## Giving a subscription up -/

/-- The handler was subscribed between these acts. -/
structure Brings (acts past : List (Act L)) (x : Handler L) (later : List (Act L)) : Prop where
  acts : acts = past ++ .on x.type x.listener :: later
  id : x.id = handedOut past + 1

/-- A handler goes if it is there, and no other one goes with it. -/
structure Releases (b : Bus L) (x : Handler L) (found : Bool) (b' : Bus L) : Prop where
  there : found = true ↔ x ∈ b.handlers
  alone : found = true → ∃ xs ys, b.handlers = xs ++ x :: ys ∧ b'.handlers = xs ++ ys
  none : found = false → b' = b

section
variable {acts past later : List (Act L)} {x : Handler L} (hx : Brings acts past x later)
include hx

/-- No other handler has its subscription. -/
theorem Brings.unique {past' later' : List (Act L)} {x' : Handler L}
    (hx' : Brings acts past' x' later') (hs : x'.subscription = x.subscription) : x' = x := by
  have hid : x'.id = x.id := congrArg Subscription.id hs
  have hboth := hx'.acts.symm.trans hx.acts
  obtain rfl := eq_of_handedOut hboth (Nat.succ.inj (hx'.id.symm.trans (hid.trans hx.id)))
  have hon := (List.cons.inj (List.append_cancel_left hboth)).1
  obtain ⟨id, type, l⟩ := x
  obtain ⟨id', type', l'⟩ := x'
  cases hid
  cases hon
  rfl

theorem Brings.handlers : (empty.after acts).handlers = (empty.after past).handlers.filter
    (stays later) ++ ([x].filter (stays later) ++ standing x.id later) := by
  rw [hx.acts, handlers_around, ← hx.id]

theorem Brings.id_ne_past : ∀ y ∈ (empty.after past).handlers, y.id ≠ x.id := by
  intro y hy
  rw [hx.id, ← lastId_history]
  exact Nat.ne_of_lt (Nat.lt_succ_of_le ((empty.after past).bounded y hy))

/-- Nothing is found of a handler that is gone. -/
theorem Brings.has_of_gone (hgone : stays later x = false) :
    (empty.after acts).has x.subscription = false := by
  have hb := hx.handlers
  rw [List.filter_cons, hgone, List.filter_nil] at hb
  have hb : (empty.after acts).handlers =
      (empty.after past).handlers.filter (stays later) ++ standing x.id later := hb
  refine List.any_eq_false.mpr fun y hy hfor => ?_
  have hid : y.id = x.id := beq_iff_eq.mp (Bool.and_eq_true_iff.mp hfor).1
  rw [hb] at hy
  rcases List.mem_append.mp hy with hy | hy
  · exact hx.id_ne_past y (List.mem_filter.mp hy).1 hid
  · exact Nat.ne_of_gt (lt_of_mem_standing hy) hid

theorem Brings.handlers_of_stays (hstays : stays later x = true) :
    ∃ xs, (empty.after acts).handlers = xs ++ x :: standing x.id later := by
  have hb := hx.handlers
  rw [List.filter_cons, hstays, List.filter_nil] at hb
  exact ⟨_, hb⟩

theorem Brings.mem_iff_stays : x ∈ (empty.after acts).handlers ↔ stays later x = true := by
  refine ⟨fun hmem => ?_, fun hstays => ?_⟩
  · refine Bool.not_eq_false _ ▸ fun hgone => ?_
    refine List.any_eq_false.mp (hx.has_of_gone hgone) x hmem ?_
    rw [isFor_eq, beq_self_eq_true]
  · obtain ⟨xs, hb⟩ := hx.handlers_of_stays hstays
    exact hb ▸ List.mem_append_right _ List.mem_cons_self

/-- A handler is there unless its subscription was given up since, or the bus was cleared. -/
theorem Brings.mem_iff :
    x ∈ (empty.after acts).handlers ↔ .clear ∉ later ∧ .off x.subscription ∉ later := by
  rw [hx.mem_iff_stays, stays_iff]

/-- Its subscription takes it away and no other one. -/
theorem Brings.off : (empty.after acts).Releases x ((empty.after acts).off x.subscription).1
    ((empty.after acts).off x.subscription).2 := by
  cases hstays : stays later x with
  | false =>
    have hfound := hx.has_of_gone hstays
    have hnot : ((empty.after acts).off x.subscription).1 ≠ true := Bool.eq_false_iff.mp hfound
    refine ⟨⟨fun h => absurd h hnot, fun hmem => ?_⟩, fun h => absurd h hnot,
      fun _ => off_of_not_has hfound⟩
    exact absurd (hx.mem_iff_stays.mp hmem) (Bool.eq_false_iff.mp hstays)
  | true =>
    obtain ⟨xs, hb⟩ := hx.handlers_of_stays hstays
    have hmem := hx.mem_iff_stays.mpr hstays
    have hfound : ((empty.after acts).off x.subscription).1 = true := by
      refine List.any_eq_true.mpr ⟨x, hmem, ?_⟩
      rw [isFor_eq, beq_self_eq_true]
    exact ⟨⟨fun _ => hmem, fun _ => hfound⟩, fun _ => ⟨_, _, hb, handlers_off_of_eq hb⟩,
      fun h => absurd (hfound.symm.trans h) Bool.noConfusion⟩

end

end Bus

/-! ## What plugin code does to the bus -/

def Op.acts {a : Answer} : Op Code a → Table String Subscription → List (Bus.Act Listener)
  | .subscribe _ type body, _ => [.on type (.code body)]
  | .unsubscribe label, labels => (Table.get? label labels).toList.map .off
  | .clearBus, _ | .clearRegistry, _ => [.clear]
  | _, _ => []

def Happening.acts : Happening → Table String Subscription → List (Bus.Act Listener)
  | .asked op, labels => op.acts labels
  | _, _ => []

namespace Roster

/-- What a stretch of the journal does to the bus. -/
def acts : Roster → List Happening → List (Bus.Act Listener)
  | _, [] => []
  | r, x :: l => x.acts r.labels ++ acts (x.enrol r) l

/-- Those who listen on a bus. -/
def ofBus (b : Bus Listener) (labels : Table String Subscription) : Roster :=
  ⟨b.handlers, b.lastId, labels⟩

theorem enrol_ofBus (x : Happening) (b : Bus Listener) (labels : Table String Subscription) :
    x.enrol (ofBus b labels) =
      ofBus (b.after (x.acts labels)) (x.enrol (ofBus b labels)).labels := by
  cases x with
  | asked op =>
    cases op with
    | unsubscribe label =>
      simp only [Happening.enrol, Op.enrol, Roster.unsubscribe, Happening.acts, Op.acts, ofBus]
      cases Table.get? label labels <;> rfl
    | _ => rfl
  | _ => rfl

theorem after_ofBus (l : List Happening) (b : Bus Listener) (labels : Table String Subscription) :
    (ofBus b labels).after l =
      ofBus (b.after ((ofBus b labels).acts l)) ((ofBus b labels).after l).labels := by
  induction l generalizing b labels with
  | nil => rfl
  | cons x l ih =>
    have hfirst := enrol_ofBus x b labels
    have hcons : (ofBus b labels).after (x :: l) = (x.enrol (ofBus b labels)).after l := rfl
    rw [hcons, acts, Bus.after_append, hfirst]
    exact ih _ _

end Roster

namespace Host

/-- What plugin code has done to the bus by then. -/
def actsUntil (h h' : Host) : List (Bus.Act Listener) :=
  h.roster.acts (h'.journal.drop h.journal.length)

/-- Whatever was run on the host, its bus is what plugin code has made of it. -/
theorem bus_of_roster {h h' : Host} {l : List Happening} (hr : h'.roster = h.roster.after l) :
    h'.bus = h.bus.after (h.roster.acts l) := by
  have hof : h'.roster = .ofBus (h.bus.after (h.roster.acts l)) (h.roster.after l).labels :=
    hr.trans (Roster.after_ofBus l h.bus h.subscriptions)
  exact Bus.eq_of_handlers (congrArg Roster.handlers hof) (congrArg Roster.lastId hof)

end Host
end Plugboard
