import Mathlib.Data.List.Basic
import Plugboard.Registry

/-!
The registry as a list of names and definitions in the order in which the names came. The plugins
under their names and the order of the names are kept apart; together they answer as that list does,
and every change of both is one change of it.

* `Registry.listing`: the list. `listing_names`: its names are the order that is kept.
* `Registry.Answers`: the registry answers as a list does. `answers_listing`: as this one.
* `listing_register`, `listing_remove`: the changes.
* `mem_listing`, `Definition.check_eq_ok`: what holds of every pair in it.
-/
namespace Plugboard

variable {Code : Type}

/-- Names with their definitions. -/
abbrev Listing (Code : Type) := List (String × Definition Code)

namespace Listing

/-- The definition that is listed under a name. -/
def get? (t : Listing Code) (name : String) : Option (Definition Code) :=
  (t.find? fun x => x.1 == name).map Prod.snd

def definitions (t : Listing Code) : List (Definition Code) := t.map Prod.snd

/-- A new name comes last; a name that is taken is left alone, or gets the definition. -/
def file (policy : DuplicatePolicy) (d : Definition Code) (t : Listing Code) : Listing Code :=
  if d.name ∈ t.map Prod.fst then
    match policy with
    | .ignore => t
    | .replace => t.map fun x => if x.1 = d.name then (x.1, d) else x
  else t ++ [(d.name, d)]

/-- A definition that does not pass its check is not filed. -/
def register (policy : DuplicatePolicy) (d : Definition Code) (t : Listing Code) : Listing Code :=
  match d.check with
  | .error _ => t
  | .ok () => t.file policy d

def unregister (name : String) (t : Listing Code) : Listing Code := t.filter fun x => x.1 ≠ name

end Listing

/-- What a look-up lists under some names. -/
def listUnder (find : String → Option (Installed Code)) (names : List String) : Listing Code :=
  names.filterMap fun name => (find name).map fun p => (name, p.definition)

section
variable {find find' : String → Option (Installed Code)} {names : List String}

theorem listUnder_congr (h : ∀ name ∈ names, find name = find' name) :
    listUnder find names = listUnder find' names :=
  List.filterMap_congr fun name hname => by rw [h name hname]

theorem listUnder_swap {q : Installed Code} (hall : ∀ name ∈ names, ∃ p, find name = some p)
    (hfind : ∀ name, find' name = if q.name = name then some q else find name) :
    listUnder find' names = (listUnder find names).map fun x =>
      if x.1 = q.name then (x.1, q.definition) else x := by
  rw [listUnder, listUnder, List.map_filterMap]
  refine List.filterMap_congr fun name hname => ?_
  obtain ⟨p, hp⟩ := hall name hname
  rw [hfind, hp]
  by_cases h : q.name = name
  · simp [h]
  · simp [h, Ne.symm h]

theorem listUnder_cons (name : String) (names : List String) : listUnder find (name :: names) =
    ((find name).map fun p => (name, p.definition)).toList ++ listUnder find names := by
  cases hp : find name <;> simp [listUnder, hp]

theorem listUnder_filter (gone : String)
    (hfind : ∀ name, find' name = if gone = name then none else find name) :
    listUnder find' (names.filter fun name => name ≠ gone) =
      (listUnder find names).filter fun x => x.1 ≠ gone := by
  induction names with
  | nil => rfl
  | cons name names ih =>
    rw [listUnder_cons, List.filter_append, ← ih]
    by_cases h : name = gone
    · rw [List.filter_cons_of_neg (by simpa using h)]
      cases find name <;> simp [h]
    · rw [List.filter_cons_of_pos (by simpa using h), listUnder_cons, hfind, if_neg (Ne.symm h)]
      cases find name <;> simp [h]

end

namespace Registry

def listing (r : Registry Code) : Listing Code := r.plugins.map fun p => (p.name, p.definition)

theorem listing_eq (r : Registry Code) : r.listing = listUnder r.get? r.order := by
  rw [listing, plugins, List.map_filterMap]
  refine List.filterMap_congr fun name _ => ?_
  cases hp : r.get? name with
  | none => rfl
  | some p => rw [Option.map_some, Option.map_some, name_of_get? hp]

/-! ## Views -/

variable (r : Registry Code)

theorem listing_names : r.listing.map Prod.fst = r.order := by
  rw [listing, List.map_map, ← r.names_plugins]
  rfl

theorem get?_listing (name : String) :
    (r.get? name).map Installed.definition = r.listing.get? name := by
  rw [get?_eq_find?, Listing.get?, listing, List.find?_map, Option.map_map]
  rfl

theorem contains_listing (name : String) : r.contains name = (r.listing.get? name).isSome := by
  rw [← get?_listing, Option.isSome_map, contains]

theorem plugins_listing : r.plugins.map Installed.definition = r.listing.definitions := by
  rw [listing, Listing.definitions, List.map_map]
  rfl

/-- As many names as plugins: the two parts are in step. -/
theorem size_listing : r.size = r.listing.length := by
  have hkeys : r.installed.keys.length = r.installed.length := List.length_map _
  have hnames : (r.listing.map Prod.fst).length = r.listing.length := List.length_map _
  rw [size, ← hkeys, ← r.listed.length_eq, ← hnames, listing_names]

theorem byNames_listing (names : List String) :
    (r.byNames names).map Installed.definition = names.filterMap r.listing.get? := by
  rw [byNames, List.map_filterMap]
  exact List.filterMap_congr fun name _ => r.get?_listing name

theorem byCategory_listing (c : Category) : (r.byCategory c).map Installed.definition =
    r.listing.definitions.filter fun d => d.category == c := by
  rw [byCategory, ← plugins_listing, List.filter_map]
  rfl

/-- The registry answers as the list does. -/
structure Answers (r : Registry Code) (t : Listing Code) : Prop where
  get? : ∀ name, (r.get? name).map Installed.definition = t.get? name
  contains : ∀ name, r.contains name = (t.get? name).isSome
  size : r.size = t.length
  plugins : r.plugins.map Installed.definition = t.definitions
  byNames : ∀ names, (r.byNames names).map Installed.definition = names.filterMap t.get?
  byCategory : ∀ c, (r.byCategory c).map Installed.definition =
    t.definitions.filter fun d => d.category == c

theorem answers_listing : r.Answers r.listing where
  get? := r.get?_listing
  contains := r.contains_listing
  size := r.size_listing
  plugins := r.plugins_listing
  byNames := r.byNames_listing
  byCategory := r.byCategory_listing

/-! ## Changes -/

theorem listing_install {q : Installed Code} (hq : q.definition.check = .ok ()) :
    (r.install q hq).2.listing = r.listing.file r.policy q.definition := by
  have hput : ∀ name, Table.get? name (Table.put q.name q r.installed) =
      if q.name = name then some q else r.get? name := fun name => Table.get?_put _ _ _ _
  unfold Listing.file
  by_cases h : r.contains q.name = true
  · have htaken : q.definition.name ∈ r.listing.map Prod.fst := by
      rw [listing_names]
      exact (r.contains_iff _).mp h
    rw [install, dif_pos h, if_pos htaken]
    cases r.policy with
    | ignore => rfl
    | replace =>
      dsimp only
      rw [listing_eq, listing_eq]
      exact listUnder_swap (fun name hname => exists_get? hname) hput
  · have hnew : q.name ∉ r.order := mt (r.contains_iff _).mpr h
    have hnew' : q.definition.name ∉ r.listing.map Prod.fst := by
      rw [listing_names]
      exact hnew
    rw [install, dif_neg h, if_neg hnew', listing_eq, listing_eq, listUnder, List.filterMap_append]
    congr 1
    · refine listUnder_congr fun name hname => (hput name).trans (if_neg ?_)
      rintro rfl
      exact hnew hname
    · rw [← listUnder, listUnder_cons, get?, hput, if_pos rfl]
      rfl

theorem listing_remove (name : String) : (r.remove name).listing = r.listing.unregister name := by
  rw [listing_eq, listing_eq]
  exact listUnder_filter name fun _ => Table.get?_erase _ _ _

/-- There is nothing to take out under a name without a plugin. -/
theorem unregister_listing {name : String} (h : r.get? name = none) :
    r.listing.unregister name = r.listing := by
  have hnot : name ∉ r.order := by
    rw [← contains_iff, contains, h]
    exact Bool.false_ne_true
  rw [Listing.unregister, List.filter_eq_self]
  intro x hx
  have hmem : x.1 ∈ r.order := r.listing_names ▸ List.mem_map_of_mem hx
  exact decide_eq_true fun he => hnot (he ▸ hmem)

theorem listing_clear : r.clear.listing = [] := rfl

theorem policy_install {q : Installed Code} (hq : q.definition.check = .ok ()) :
    (r.install q hq).2.policy = r.policy := by
  unfold install
  split
  · cases hp : r.policy <;> simp [hp]
  · rfl

variable {r}

/-- A definition is refused exactly when it does not pass its check. -/
theorem register_eq_error {q : Installed Code} {e : PluginError} :
    r.register q = .error e ↔ q.definition.check = .error e := by
  unfold register
  split <;> simp_all

theorem register_of_check {q : Installed Code} (hq : q.definition.check = .ok ()) :
    r.register q = .ok (r.install q hq) := by
  unfold register
  split <;> simp_all

theorem listing_register {q : Installed Code} {result : Registration} {r' : Registry Code}
    (h : r.register q = .ok (result, r')) :
    r'.policy = r.policy ∧ r'.listing = r.listing.register r.policy q.definition := by
  unfold register at h
  split at h
  · cases h
  next hq =>
    have hr : (r.install q hq).2 = r' := congrArg Prod.snd (Except.ok.inj h)
    rw [← hr, policy_install, listing_install, Listing.register, hq]
    exact ⟨rfl, rfl⟩

theorem mem_listing {x : String × Definition Code} (h : x ∈ r.listing) :
    x.2.name = x.1 ∧ x.2.check = .ok () := by
  obtain ⟨p, hp, rfl⟩ := List.mem_map.mp h
  exact ⟨rfl, (r.checked _ p (mem_plugins_iff.mp hp)).2⟩

end Registry

/-! ## Definitions that pass their check -/

/-- A name of lower-case letters, digits and hyphens that starts with a letter, a display name that
is not blank, and a component for the main panel. -/
structure Definition.Sound (d : Definition Code) : Prop where
  name : ∃ c rest, d.name.toList = c :: rest ∧ ('a' ≤ c ∧ c ≤ 'z') ∧
    ∀ x ∈ rest, ('a' ≤ x ∧ x ≤ 'z') ∨ ('0' ≤ x ∧ x ≤ '9') ∨ x = '-'
  displayName : ∃ c ∈ d.displayName.toList, Text.isBlank c = false
  panel : d.panel.isSome = true

theorem PluginName.isValid_iff {s : String} : isValid s = true ↔
    ∃ c rest, s.toList = c :: rest ∧ ('a' ≤ c ∧ c ≤ 'z') ∧
      ∀ x ∈ rest, ('a' ≤ x ∧ x ≤ 'z') ∨ ('0' ≤ x ∧ x ≤ '9') ∨ x = '-' := by
  unfold isValid
  cases s.toList with
  | nil => simp [isValidChars]
  | cons c rest => simp [isValidChars, isLetter, isFollower, or_assoc]

/-- A name that is refused is empty or of another form. -/
theorem PluginName.check_eq_ok {s : String} : check s = .ok () ↔ isValid s = true := by
  unfold check
  by_cases h : s.isEmpty = true
  · have hs : s = "" := by simpa using h
    simp [hs, isValid, isValidChars]
  · by_cases hv : isValid s <;> simp [h, hv]

theorem Definition.check_eq_ok {d : Definition Code} : d.check = .ok () ↔ d.Sound := by
  have hsound : d.Sound ↔ PluginName.check d.name = .ok () ∧ Text.allBlank d.displayName = false ∧
      d.panel.isNone = false := by
    rw [PluginName.check_eq_ok, PluginName.isValid_iff]
    constructor
    · rintro ⟨hname, hdisplay, hpanel⟩
      exact ⟨hname, by simpa [Text.allBlank] using hdisplay, by simpa using hpanel⟩
    · rintro ⟨hname, hdisplay, hpanel⟩
      exact ⟨hname, by simpa [Text.allBlank] using hdisplay, by simpa using hpanel⟩
  rw [hsound, check]
  cases PluginName.check d.name with
  | error e => simp
  | ok => cases Text.allBlank d.displayName <;> cases d.panel.isNone <;> simp

end Plugboard
