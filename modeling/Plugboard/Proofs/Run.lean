import Mathlib.Order.Defs.Unbundled
import Plugboard.Run

/-!
What a run does to its state, however it ends.

* `Ends m s Q`: when `m` starts in `s` and is not given up, its result and the state it leaves
  satisfy `Q`. The `ends_` lemmas carry it through a program step by step.
* `Along R m`: from every state `m` leads to one that `R` relates to it. With `R` reflexive and
  transitive this passes from the parts of a program to the whole.
* `Within tires breaks m`: when `m` may be given up, and when it may end in a panic. `Calm m`: `m`
  never ends in a panic.
* `Unwinds m s p`: when `m` starts in `s`, the panic `p` comes out of it.
* `Returns K P m`: from a state of the kind `K` a value that satisfies `P` comes back, without a
  panic, and the state that is left is of the kind again.
* `Lockstep R breaks Q m m'`: from two states that `R` relates, `m` and `m'` come to an end with one
  and the same result, in states that `R` relates again. A value that they return satisfies `Q`, and
  they panic only if `breaks` holds.
-/
namespace Plugboard.Run

variable {σ α β γ : Type}

def Ends (m : Run σ α) (s : σ) (Q : Except Panic α → σ → Prop) : Prop :=
  ∀ r t, start m s = some (r, t) → Q r t

theorem Ends.mono {m : Run σ α} {s : σ} {Q Q' : Except Panic α → σ → Prop}
    (h : Ends m s Q) (hq : ∀ r t, Q r t → Q' r t) : Ends m s Q' :=
  fun r t e => hq r t (h r t e)

theorem Ends.and {m : Run σ α} {s : σ} {Q Q' : Except Panic α → σ → Prop}
    (h : Ends m s Q) (h' : Ends m s Q') : Ends m s fun r t => Q r t ∧ Q' r t :=
  fun r t e => ⟨h r t e, h' r t e⟩

theorem ends_of_start {m : Run σ α} {s t : σ} {r : Except Panic α}
    {Q : Except Panic α → σ → Prop} (h : start m s = some (r, t)) : Ends m s Q ↔ Q r t := by
  constructor
  · intro he
    exact he r t h
  · intro hq r' t' h'
    rw [h] at h'
    cases h'
    exact hq

theorem start_map (f : α → β) (m : Run σ α) (s : σ) :
    start (f <$> m) s = (start m s).map fun r => (r.1.map f, r.2) := by
  rw [map_eq_pure_bind, start_bind]
  match start m s with
  | none => rfl
  | some (.error p, t) => rfl
  | some (.ok a, t) => rfl

@[simp] theorem ends_pure (a : α) (s : σ) (Q : Except Panic α → σ → Prop) :
    Ends (pure a) s Q ↔ Q (.ok a) s := ends_of_start rfl

@[simp] theorem ends_throw (p : Panic) (s : σ) (Q : Except Panic α → σ → Prop) :
    Ends (throw p) s Q ↔ Q (.error p) s := ends_of_start rfl

@[simp] theorem ends_get (s : σ) (Q : Except Panic σ → σ → Prop) :
    Ends get s Q ↔ Q (.ok s) s := ends_of_start rfl

@[simp] theorem ends_set (s t : σ) (Q : Except Panic PUnit → σ → Prop) :
    Ends (set t) s Q ↔ Q (.ok ⟨⟩) t := ends_of_start rfl

@[simp] theorem ends_modify (f : σ → σ) (s : σ) (Q : Except Panic PUnit → σ → Prop) :
    Ends (modify f) s Q ↔ Q (.ok ⟨⟩) (f s) := ends_of_start rfl

@[simp] theorem ends_exhausted (s : σ) (Q : Except Panic α → σ → Prop) :
    Ends exhausted s Q := by
  intro r t h
  cases h

/-- A panic in the first part skips the second. -/
@[simp] theorem ends_bind (m : Run σ α) (f : α → Run σ β) (s : σ)
    (Q : Except Panic β → σ → Prop) :
    Ends (m >>= f) s Q ↔
      Ends m s fun r t => match r with
        | .error p => Q (.error p) t
        | .ok a => Ends (f a) t Q := by
  cases h : start m s with
  | none => simp [Ends, start_bind, h]
  | some x =>
    obtain ⟨r, t⟩ := x
    rw [ends_of_start h]
    cases r <;> simp [Ends, start_bind, h]

/-- The result of a run does not matter to the state that it leaves. -/
theorem ends_return {m : Run σ α} {s : σ} {Q : σ → Prop} (f : α → β)
    (h : Ends m s fun _ t => Q t) : Ends (do return f (← m)) s fun _ t => Q t := by
  refine (ends_bind m _ s _).mpr (h.mono fun r t hq => ?_)
  cases r with
  | error p => exact hq
  | ok a => exact (ends_pure _ _ _).mpr hq

theorem ends_discard {m : Run σ α} {s : σ} {Q : σ → Prop} (h : Ends m s fun _ t => Q t) :
    Ends (do let _ ← m) s fun _ t => Q t := ends_return (fun _ => PUnit.unit) h

private theorem ends_of_map {τ : Type} {m : Run σ α} {m' : Run τ β} {s : σ} {t : τ}
    {g : Except Panic α × σ → Except Panic β × τ} {Q : Except Panic β → τ → Prop}
    (h : start m' t = (start m s).map g) :
    Ends m' t Q ↔ Ends m s fun r u => Q (g (r, u)).1 (g (r, u)).2 := by
  cases hs : start m s with
  | none => simp [Ends, h, hs]
  | some x =>
    rw [hs] at h
    rw [ends_of_start hs, ends_of_start h]

@[simp] theorem ends_contain (m : Run σ α) (s : σ)
    (Q : Except Panic (Except Panic α) → σ → Prop) :
    Ends (contain m) s Q ↔ Ends m s fun r t => Q (.ok r) t :=
  ends_of_map (start_contain m s)

@[simp] theorem ends_below (m : Run σ β) (s : α × σ) (Q : Except Panic β → α × σ → Prop) :
    Ends (below m) s Q ↔ Ends m s.2 fun r t => Q r (s.1, t) :=
  ends_of_map (start_below m s)

@[simp] theorem ends_beside (m : Run (α × σ) β) (a : α) (s : σ)
    (Q : Except Panic (Except Panic β × α) → σ → Prop) :
    Ends (beside m a) s Q ↔ Ends m (a, s) fun r t => Q (.ok (r, t.1)) t.2 :=
  ends_of_map (start_beside m a s)

/-- A run over a list leaves what one of its parts brings about and no other part takes back. -/
theorem ends_forM_of_mem {f : α → Run σ PUnit} {P : σ → Prop} {a : α} {l : List α} (ha : a ∈ l)
    (hf : ∀ b s, P s → Ends (f b) s fun _ t => P t) (hset : ∀ s, Ends (f a) s fun _ t => P t)
    (s : σ) : Ends (l.forM f) s fun r t => ∀ x, r = .ok x → P t := by
  have hkeep : ∀ (l : List α) s, P s → Ends (l.forM f) s fun _ t => P t := by
    intro l
    induction l with
    | nil => exact fun s hs => (ends_pure _ _ _).mpr hs
    | cons b l ih =>
      intro s hs
      refine (ends_bind (f b) _ s _).mpr ((hf b s hs).mono fun r t ht => ?_)
      cases r with
      | error p => exact ht
      | ok x => exact ih t ht
  induction l generalizing s with
  | nil => cases ha
  | cons b l ih =>
    refine (ends_bind (f b) _ s _).mpr ?_
    rcases List.mem_cons.mp ha with rfl | hmem
    · refine (hset s).mono fun r t ht => ?_
      cases r with
      | error p => exact fun _ _ => ht
      | ok x => exact (hkeep l t ht).mono fun _ _ hp _ _ => hp
    · intro r t _
      cases r with
      | error p => nofun
      | ok x => exact ih hmem t

/-! ## Relations that a run stays within -/

def Along (R : σ → σ → Prop) (m : Run σ α) : Prop := ∀ s, Ends m s fun _ t => R s t

variable {R : σ → σ → Prop}

theorem along_modify {f : σ → σ} (h : ∀ s, R s (f s)) : Along R (modify f) := by
  intro s
  exact (ends_modify f s _).2 (h s)

theorem along_contain {m : Run σ α} (h : Along R m) : Along R (contain m) := by
  intro s
  exact (ends_contain m s _).2 (h s)

theorem along_exhausted : Along R (exhausted : Run σ α) := fun s => ends_exhausted s _

/-- What follows a look at the state may use that it is the state. -/
theorem along_get_bind {f : σ → Run σ β} (h : ∀ s, Ends (f s) s fun _ t => R s t) :
    Along R (get >>= f) := by
  intro s
  rw [ends_bind, ends_get]
  exact h s

section
variable [Std.Refl R]

theorem along_pure (a : α) : Along R (pure a) := by
  intro s
  exact (ends_pure a s _).2 (Std.Refl.refl s)

theorem along_throw (p : Panic) : Along R (throw p : Run σ α) := by
  intro s
  exact (ends_throw p s _).2 (Std.Refl.refl s)

theorem along_get : Along R (get : Run σ σ) := by
  intro s
  exact (ends_get s _).2 (Std.Refl.refl s)

end

section
variable [IsTrans σ R]

theorem along_bind {m : Run σ α} {f : α → Run σ β} (hm : Along R m) (hf : ∀ a, Along R (f a)) :
    Along R (m >>= f) := by
  intro s
  rw [ends_bind]
  refine (hm s).mono fun r t hst => ?_
  cases r with
  | error p => exact hst
  | ok a => exact (hf a t).mono fun _ _ htu => IsTrans.trans _ _ _ hst htu

theorem along_forM [Std.Refl R] {f : α → Run σ PUnit} (hf : ∀ a, Along R (f a)) (l : List α) :
    Along R (l.forM f) := by
  induction l with
  | nil => exact along_pure _
  | cons a l ih => exact along_bind (hf a) fun _ => ih

end

/-! ## How a run may end -/

/-- The run is given up only if `tires` holds, and ends in a panic only if `breaks` holds. -/
def Within (tires breaks : Prop) (m : Run σ α) : Prop :=
  ∀ s, (start m s = none → tires) ∧ ∀ p t, start m s = some (.error p, t) → breaks

/-- A run without a panic. -/
abbrev Calm (m : Run σ α) : Prop := Within True False m

variable {tires breaks : Prop}

theorem Calm.ends {m : Run σ α} (h : Calm m) (s : σ) : Ends m s fun r _ => ∃ a, r = .ok a := by
  intro r t e
  cases r with
  | ok a => exact ⟨a, rfl⟩
  | error p => exact ((h s).2 p t e).elim

theorem within_true (m : Run σ α) : Within True True m := fun _ =>
  ⟨fun _ => trivial, fun _ _ _ => trivial⟩

theorem within_of_start {m : Run σ α} (h : ∀ s, ∃ a t, start m s = some (.ok a, t)) :
    Within tires breaks m := by
  intro s
  obtain ⟨a, t, e⟩ := h s
  rw [e]
  exact ⟨nofun, nofun⟩

theorem within_pure (a : α) : Within tires breaks (pure a : Run σ α) :=
  within_of_start fun s => ⟨a, s, rfl⟩

theorem within_get : Within tires breaks (get : Run σ σ) := within_of_start fun s => ⟨s, s, rfl⟩

theorem within_modify (f : σ → σ) : Within tires breaks (modify f : Run σ PUnit) :=
  within_of_start fun s => ⟨⟨⟩, f s, rfl⟩

theorem within_throw (p : Panic) (h : breaks) : Within tires breaks (throw p : Run σ α) :=
  fun _ => ⟨nofun, fun _ _ _ => h⟩

theorem within_bind {m : Run σ α} {f : α → Run σ β} (hm : Within tires breaks m)
    (hf : ∀ a, Within tires breaks (f a)) : Within tires breaks (m >>= f) := by
  intro s
  rw [start_bind]
  obtain ⟨hnone, hpanic⟩ := hm s
  match e : start m s with
  | none => exact ⟨fun _ => hnone e, nofun⟩
  | some (.error p, t) => exact ⟨nofun, fun _ _ _ => hpanic p t e⟩
  | some (.ok a, t) => exact hf a t

/-- Whatever a run does, its panics stay inside `contain`. -/
theorem within_contain {m : Run σ α} (h : Within tires True m) :
    Within tires breaks (contain m) := by
  intro s
  rw [start_contain]
  obtain ⟨hnone, -⟩ := h s
  match e : start m s with
  | none => exact ⟨fun _ => hnone e, nofun⟩
  | some (r, t) => exact ⟨nofun, nofun⟩

theorem within_below {m : Run σ β} (h : Within tires breaks m) :
    Within tires breaks (below m : Run (α × σ) β) := by
  intro s
  rw [start_below]
  obtain ⟨hnone, hpanic⟩ := h s.2
  match e : start m s.2 with
  | none => exact ⟨fun _ => hnone e, nofun⟩
  | some (.error p, t) => exact ⟨nofun, fun _ _ _ => hpanic p t e⟩
  | some (.ok a, t) => exact ⟨nofun, nofun⟩

theorem within_forM {f : α → Run σ PUnit} (hf : ∀ a, Within tires breaks (f a)) (l : List α) :
    Within tires breaks (l.forM f) := by
  induction l with
  | nil => exact within_pure _
  | cons a l ih => exact within_bind (hf a) fun _ => ih

/-- The run ends in this panic. -/
def Unwinds (m : Run σ α) (s : σ) (p : Panic) : Prop := ∃ t, start m s = some (.error p, t)

theorem not_unwinds {m : Run σ α} (h : Calm m) (s : σ) (p : Panic) :
    ¬ Unwinds m s p := fun ⟨t, e⟩ => (h s).2 p t e

/-- A panic comes from the first part or from the second. -/
theorem unwinds_bind {m : Run σ α} {f : α → Run σ β} {s : σ} {p : Panic} :
    Unwinds (m >>= f) s p ↔
      Unwinds m s p ∨ ∃ a t, start m s = some (.ok a, t) ∧ Unwinds (f a) t p := by
  unfold Unwinds
  rw [start_bind]
  match start m s with
  | none => simp
  | some (.error q, t) => simp
  | some (.ok a, t) =>
    constructor
    · exact fun h => .inr ⟨a, t, rfl, h⟩
    · rintro (⟨u, h⟩ | ⟨b, u, he, h⟩)
      · cases h
      · cases he
        exact h

theorem unwinds_bind_of_start {m : Run σ α} {f : α → Run σ β} {s t : σ} {a : α} {p : Panic}
    (e : start m s = some (.ok a, t)) : Unwinds (m >>= f) s p ↔ Unwinds (f a) t p := by
  rw [Unwinds, Unwinds, start_bind, e]

/-- Nothing that follows panics. -/
theorem unwinds_bind_of_calm {m : Run σ α} {f : α → Run σ β} {s : σ} {p : Panic}
    (hf : ∀ a, Calm (f a)) : Unwinds (m >>= f) s p ↔ Unwinds m s p := by
  rw [unwinds_bind]
  refine or_iff_left ?_
  rintro ⟨a, t, -, h⟩
  exact not_unwinds (hf a) t p h

theorem unwinds_below {m : Run σ β} {s : α × σ} {p : Panic} :
    Unwinds (below m) s p ↔ Unwinds m s.2 p := by
  unfold Unwinds
  rw [start_below]
  match start m s.2 with
  | none => simp
  | some (r, t) => simp

/-- The first part leaves what is beside its state as it is. -/
theorem unwinds_below_bind {m : Run σ β} {f : β → Run (α × σ) γ} {a : α} {s : σ} {p : Panic} :
    Unwinds (below m >>= f) (a, s) p ↔
      Unwinds m s p ∨ ∃ b t, start m s = some (.ok b, t) ∧ Unwinds (f b) (a, t) p := by
  rw [unwinds_bind, unwinds_below, start_below]
  refine or_congr_right ⟨?_, ?_⟩
  · rintro ⟨b, u, hmap, hx⟩
    obtain ⟨⟨r, t⟩, e, he⟩ := Option.map_eq_some_iff.mp hmap
    cases he
    exact ⟨b, t, e, hx⟩
  · rintro ⟨b, t, e, hx⟩
    refine ⟨b, (a, t), ?_, hx⟩
    rw [e]
    rfl

/-! ## Runs that hand something back -/

section
variable {K : σ → Prop} {P : α → Prop} {Q : β → Prop}

/-- From a state of this kind the run hands something like that back, and leaves such a state. -/
def Returns (K : σ → Prop) (P : α → Prop) (m : Run σ α) : Prop :=
  ∀ s, K s → ∃ a t, start m s = some (.ok a, t) ∧ K t ∧ P a

theorem returns_pure {a : α} (ha : P a) : Returns K P (pure a) := fun s hs => ⟨a, s, rfl, hs, ha⟩

theorem returns_modify {f : σ → σ} (hf : ∀ s, K s → K (f s)) :
    Returns K (fun _ => True) (modify f : Run σ PUnit) :=
  fun s hs => ⟨⟨⟩, f s, rfl, hf s hs, trivial⟩

theorem returns_get : Returns K K (get : Run σ σ) := fun s hs => ⟨s, s, rfl, hs, hs⟩

theorem returns_bind {m : Run σ α} {f : α → Run σ β} (hm : Returns K P m)
    (hf : ∀ a, P a → Returns K Q (f a)) : Returns K Q (m >>= f) := by
  intro s hs
  obtain ⟨a, t, e, ht, ha⟩ := hm s hs
  rw [start_bind, e]
  exact hf a ha t ht

theorem returns_forM {f : α → Run σ PUnit} {l : List α}
    (hf : ∀ a ∈ l, Returns K (fun _ => True) (f a)) : Returns K (fun _ => True) (l.forM f) := by
  induction l with
  | nil => exact returns_pure trivial
  | cons a l ih =>
    obtain ⟨hfirst, hrest⟩ := List.forall_mem_cons.mp hf
    exact returns_bind hfirst fun _ _ => ih hrest

theorem returns_below {γ : Type} {S : γ → Prop} {m : Run σ β} (hm : Returns K Q m) :
    Returns (fun s : γ × σ => S s.1 ∧ K s.2) Q (below m) := by
  rintro ⟨c, s⟩ ⟨hc, hs⟩
  obtain ⟨b, t, e, ht, hb⟩ := hm s hs
  refine ⟨b, (c, t), ?_, ⟨hc, ht⟩, hb⟩
  rw [start_below, e]
  rfl

end

/-! ## Two runs beside each other -/

def Lockstep (R : σ → σ → Prop) (breaks : Prop) (Q : α → Prop) (m m' : Run σ α) : Prop :=
  ∀ s t, R s t → ∃ r s' t', start m s = some (r, s') ∧ start m' t = some (r, t') ∧ R s' t' ∧
    (∀ a, r = .ok a → Q a) ∧ ∀ p, r = .error p → breaks

section
variable {R : σ → σ → Prop} {breaks : Prop} {P : α → Prop} {Q : β → Prop}

/-- Without a panic both come to one value. -/
theorem Lockstep.start_ok {m m' : Run σ α} (h : Lockstep R False P m m') {s t : σ}
    (hst : R s t) : ∃ a s' t', start m s = some (.ok a, s') ∧ start m' t = some (.ok a, t') ∧
      R s' t' ∧ P a := by
  obtain ⟨r, s', t', e, e', hR, hok, hpanic⟩ := h s t hst
  cases r with
  | ok a => exact ⟨a, s', t', e, e', hR, hok a rfl⟩
  | error x => exact (hpanic x rfl).elim

theorem lockstep_pure {a : α} (h : P a) : Lockstep R breaks P (pure a) (pure a) := by
  intro s t hst
  refine ⟨.ok a, s, t, rfl, rfl, hst, ?_, nofun⟩
  rintro _ ⟨⟩
  exact h

theorem lockstep_throw (p : Panic) (h : breaks) :
    Lockstep R breaks P (throw p : Run σ α) (throw p) := fun s t hst =>
  ⟨.error p, s, t, rfl, rfl, hst, nofun, fun _ _ => h⟩

theorem lockstep_modify {f g : σ → σ} (h : ∀ s t, R s t → R (f s) (g t)) :
    Lockstep R breaks (fun _ => True) (modify f : Run σ PUnit) (modify g) := fun s t hst =>
  ⟨.ok ⟨⟩, f s, g t, rfl, rfl, h s t hst, fun _ _ => trivial, nofun⟩

theorem lockstep_bind {m m' : Run σ α} {f f' : α → Run σ β} (hm : Lockstep R breaks P m m')
    (hf : ∀ a, P a → Lockstep R breaks Q (f a) (f' a)) :
    Lockstep R breaks Q (m >>= f) (m' >>= f') := by
  intro s t hst
  obtain ⟨r, s', t', e, e', hR, hok, herror⟩ := hm s t hst
  rw [start_bind, start_bind, e, e']
  cases r with
  | error p => exact ⟨.error p, s', t', rfl, rfl, hR, nofun, fun _ _ => herror p rfl⟩
  | ok a => exact hf a (hok a rfl) s' t' hR

/-- What follows a look at the state goes on from two states that are related. -/
theorem lockstep_get_bind {f f' : σ → Run σ β}
    (h : ∀ s t, R s t → Lockstep R breaks Q (f s) (f' t)) :
    Lockstep R breaks Q (get >>= f) (get >>= f') := by
  intro s t hst
  rw [start_bind, start_bind, start_get, start_get]
  exact h s t hst s t hst

theorem lockstep_contain {m m' : Run σ α} (h : Lockstep R True P m m') :
    Lockstep R breaks (fun _ => True) (contain m) (contain m') := by
  intro s t hst
  obtain ⟨r, s', t', e, e', hR, -, -⟩ := h s t hst
  refine ⟨.ok r, s', t', ?_, ?_, hR, fun _ _ => trivial, nofun⟩
  · rw [start_contain, e, Option.map_some]
  · rw [start_contain, e', Option.map_some]

theorem lockstep_below {ρ : Type} {S : ρ × σ → ρ × σ → Prop} {m m' : Run σ β}
    (hS : ∀ x y, S x y → R x.2 y.2) (hS' : ∀ x y s t, S x y → R s t → S (x.1, s) (y.1, t))
    (h : Lockstep R breaks Q m m') : Lockstep S breaks Q (below m) (below m') := by
  intro x y hxy
  obtain ⟨r, s', t', e, e', hR, hok, herror⟩ := h x.2 y.2 (hS x y hxy)
  refine ⟨r, (x.1, s'), (y.1, t'), ?_, ?_, hS' x y s' t' hxy hR, hok, herror⟩
  · rw [start_below, e, Option.map_some]
  · rw [start_below, e', Option.map_some]

theorem lockstep_forM {f f' : α → Run σ PUnit} {l : List α}
    (hf : ∀ a ∈ l, Lockstep R breaks (fun _ => True) (f a) (f' a)) :
    Lockstep R breaks (fun _ => True) (l.forM f) (l.forM f') := by
  induction l with
  | nil => exact lockstep_pure trivial
  | cons a l ih =>
    exact lockstep_bind (hf a List.mem_cons_self) fun _ _ =>
      ih fun b hb => hf b (List.mem_cons_of_mem _ hb)

end

end Plugboard.Run
