import Plugboard.Plugin.Definition

/-!
The registry: the installed plugins under their names, and the order in which the names came. No
name is there twice, and every definition in it has passed its check.
-/
namespace Plugboard

/-- What happens to a definition whose name is taken. -/
inductive DuplicatePolicy
  | ignore
  | replace
  deriving Repr, DecidableEq

def DuplicatePolicy.caption : DuplicatePolicy → String
  | .ignore => "Ignore"
  | .replace => "Replace"

/-- What became of a definition that was registered. -/
inductive Registration
  | registered
  | duplicate
  | replaced
  deriving Repr, DecidableEq

def Registration.caption : Registration → String
  | .registered => "Registered"
  | .duplicate => "Duplicate"
  | .replaced => "Replaced"

/-- A definition as it was installed; no two installations share a serial number. -/
structure Installed (Code : Type) where
  definition : Definition Code
  serial : Nat

def Installed.name {Code : Type} (p : Installed Code) : String := p.definition.name

/-- Plugins under their names, and the names in their order. -/
structure Registry (Code : Type) where
  policy : DuplicatePolicy
  installed : Table String (Installed Code)
  order : List String
  distinct : order.Nodup
  /-- The two parts are in step. -/
  listed : order.Perm installed.keys
  checked : ∀ name p, Table.get? name installed = some p →
    p.name = name ∧ p.definition.check = .ok ()

namespace Registry

variable {Code : Type}

def empty (policy : DuplicatePolicy) : Registry Code := ⟨policy, [], [], .nil, .nil, by simp⟩

def get? (r : Registry Code) (name : String) : Option (Installed Code) :=
  Table.get? name r.installed

/-- The plugins in the order of their names; a name without a plugin is passed over. -/
def plugins (r : Registry Code) : List (Installed Code) := r.order.filterMap r.get?

def contains (r : Registry Code) (name : String) : Bool := (r.get? name).isSome

def size (r : Registry Code) : Nat := r.installed.length

theorem contains_iff (r : Registry Code) (name : String) :
    r.contains name = true ↔ name ∈ r.order := by
  rw [contains, get?, Table.get?_isSome_iff, r.listed.mem_iff]

/-! ## Changes -/

/-- What is under the names after a plugin was put under its own. -/
theorem checked_put (r : Registry Code) {q : Installed Code} (hq : q.definition.check = .ok ()) :
    ∀ name p, Table.get? name (Table.put q.name q r.installed) = some p →
      p.name = name ∧ p.definition.check = .ok () := by
  intro name p hp
  rw [Table.get?_put] at hp
  by_cases h : q.name = name
  · rw [if_pos h, Option.some_inj] at hp
    exact hp ▸ ⟨h, hq⟩
  · rw [if_neg h] at hp
    exact r.checked name p hp

/-- Installs a definition that has passed its check. -/
def install (r : Registry Code) (q : Installed Code) (hq : q.definition.check = .ok ()) :
    Registration × Registry Code :=
  if h : r.contains q.name then
    match r.policy with
    | .ignore => (.duplicate, r)
    | .replace => (.replaced,
        { r with
          installed := Table.put q.name q r.installed
          listed := by
            rw [Table.keys_put, if_pos ((Table.get?_isSome_iff _ _).mp h)]
            exact r.listed
          checked := r.checked_put hq })
  else (.registered,
    { r with
      installed := Table.put q.name q r.installed
      order := r.order ++ [q.name]
      distinct := by
        rw [List.nodup_append]
        refine ⟨r.distinct, by simp, fun a ha b hb => ?_⟩
        obtain rfl := List.mem_singleton.mp hb
        rintro rfl
        exact h ((r.contains_iff _).mpr ha)
      listed := by
        rw [Table.keys_put, if_neg (mt (Table.get?_isSome_iff _ _).mpr h)]
        exact r.listed.append_right _
      checked := r.checked_put hq })

/-- A definition that fails its check leaves the registry alone. -/
def register (r : Registry Code) (q : Installed Code) :
    Except PluginError (Registration × Registry Code) :=
  match h : q.definition.check with
  | .error e => .error e
  | .ok () => .ok (r.install q h)

/-- Takes a plugin out. -/
def remove (r : Registry Code) (name : String) : Registry Code where
  policy := r.policy
  installed := Table.erase name r.installed
  order := r.order.filter fun other => other ≠ name
  distinct := r.distinct.filter _
  listed := by
    rw [Table.keys_erase]
    exact r.listed.filter _
  checked := by
    intro other p hp
    rw [Table.get?_erase] at hp
    split at hp
    · cases hp
    · exact r.checked other p hp

def clear (r : Registry Code) : Registry Code := empty r.policy

/-! ## Views -/

/-- The plugins of some names, in the order of the names; other names are passed over. -/
def byNames (r : Registry Code) (names : List String) : List (Installed Code) :=
  names.filterMap r.get?

def byCategory (r : Registry Code) (c : Category) : List (Installed Code) :=
  r.plugins.filter fun p => p.definition.category == c

def core (r : Registry Code) : List (Installed Code) :=
  r.plugins.filter fun p => p.definition.core

/-- The plugins of the sidebar by ascending order; equal ones stay as they were installed. -/
def sidebar (r : Registry Code) : List (Installed Code) :=
  (r.plugins.filter fun p => p.definition.sidebar.shown).mergeSort fun p q =>
    decide (p.definition.sidebar.effectiveOrder ≤ q.definition.sidebar.effectiveOrder)

def search (r : Registry Code) (query : String) : List (Installed Code) :=
  r.plugins.filter fun p => p.definition.isMatch query

/-! ## Laws -/

theorem name_of_get? {r : Registry Code} {name : String} {p : Installed Code}
    (h : r.get? name = some p) : p.name = name := (r.checked name p h).1

theorem exists_get? {r : Registry Code} {name : String} (h : name ∈ r.order) :
    ∃ p, r.get? name = some p :=
  Option.isSome_iff_exists.mp ((r.contains_iff name).mpr h)

theorem mem_plugins_iff {r : Registry Code} {p : Installed Code} :
    p ∈ r.plugins ↔ r.get? p.name = some p := by
  rw [plugins, List.mem_filterMap]
  constructor
  · rintro ⟨name, -, h⟩
    rwa [name_of_get? h]
  · intro h
    exact ⟨p.name, (r.contains_iff _).mp (by rw [contains, h]; rfl), h⟩

/-- Every name of the order has its plugin. -/
theorem names_plugins (r : Registry Code) : r.plugins.map Installed.name = r.order := by
  have hall : ∀ l : List String, (∀ name ∈ l, name ∈ r.order) →
      (l.filterMap r.get?).map Installed.name = l := by
    intro l hl
    induction l with
    | nil => rfl
    | cons name l ih =>
      obtain ⟨p, hp⟩ := exists_get? (hl name List.mem_cons_self)
      rw [List.filterMap_cons_some hp, List.map_cons, name_of_get? hp,
        ih fun other hmem => hl other (List.mem_cons_of_mem _ hmem)]
  exact hall r.order fun _ h => h

/-- Looking for a plugin is looking through all of them. -/
theorem get?_eq_find? (r : Registry Code) (name : String) :
    r.get? name = r.plugins.find? fun p => p.name == name := by
  cases hp : r.get? name with
  | none =>
    rw [eq_comm, List.find?_eq_none]
    intro p hmem hname
    rw [mem_plugins_iff, beq_iff_eq.mp hname, hp] at hmem
    cases hmem
  | some p =>
    cases hq : r.plugins.find? fun p => p.name == name with
    | none =>
      have hmem : p ∈ r.plugins := mem_plugins_iff.mpr (by rw [name_of_get? hp, hp])
      exact absurd (name_of_get? hp) (by simpa using List.find?_eq_none.mp hq p hmem)
    | some q =>
      have hname : q.name = name := by simpa using List.find?_some hq
      rw [← hp, ← hname]
      exact mem_plugins_iff.mp (List.mem_of_find?_eq_some hq)

end Registry
end Plugboard
