/-!
Settings: the text values a user keeps for a plugin, each under its own key. They are listed in
ascending order of keys, so two settings that answer every look-up alike are equal.
-/
namespace Plugboard

structure Settings where
  entries : List (String × String)
  ascending : entries.Pairwise (fun a b => a.1 < b.1)
  deriving DecidableEq

namespace Settings

def empty : Settings := ⟨[], .nil⟩

instance : Inhabited Settings := ⟨empty⟩

/-- The value of the first entry with a key. -/
def lookup (k : String) : List (String × String) → Option String
  | [] => none
  | (a, x) :: rest => if a = k then some x else lookup k rest

def get? (s : Settings) (k : String) : Option String := lookup k s.entries

/-- Puts an entry at its place in a list with ascending keys. -/
def place (k v : String) : List (String × String) → List (String × String)
  | [] => [(k, v)]
  | (a, x) :: rest =>
    if k < a then (k, v) :: (a, x) :: rest
    else if k = a then (k, v) :: rest
    else (a, x) :: place k v rest

theorem mem_place {k v : String} {l : List (String × String)} {p : String × String}
    (h : p ∈ place k v l) : p = (k, v) ∨ p ∈ l := by
  fun_induction place k v l with
  | case1 => simp_all
  | case2 => simp_all
  | case3 => simp_all; grind
  | case4 => simp_all; grind

theorem place_ascending {k v : String} {l : List (String × String)}
    (h : l.Pairwise (fun a b => a.1 < b.1)) : (place k v l).Pairwise (fun a b => a.1 < b.1) := by
  fun_induction place k v l with
  | case1 => simp
  | case2 a x rest hk =>
    refine List.pairwise_cons.2 ⟨fun p hp => ?_, h⟩
    rcases List.mem_cons.1 hp with rfl | hp
    · exact hk
    · exact String.lt_trans hk ((List.pairwise_cons.1 h).1 p hp)
  | case3 x rest _ => exact List.pairwise_cons.2 (List.pairwise_cons.1 h)
  | case4 a x rest h1 h2 ih =>
    have hp := List.pairwise_cons.1 h
    refine List.pairwise_cons.2 ⟨fun p hm => ?_, ih hp.2⟩
    rcases mem_place hm with rfl | hm
    · rcases Std.lt_trichotomy a k with h3 | h3 | h3
      · exact h3
      · exact absurd h3.symm h2
      · exact absurd h3 h1
    · exact hp.1 p hm

/-- Sets the value of one key. -/
def insert (s : Settings) (k v : String) : Settings :=
  ⟨place k v s.entries, place_ascending s.ascending⟩

/-- Of two entries with one key the later one counts. -/
def ofList (l : List (String × String)) : Settings :=
  l.foldl (fun s p => s.insert p.1 p.2) empty

/-- The settings with each entry of `top` put over them. -/
def overlay (s top : Settings) : Settings :=
  top.entries.foldl (fun s p => s.insert p.1 p.2) s

def keys (s : Settings) : List String := s.entries.map (·.1)

/-! ## Laws -/

theorem lookup_place (k v j : String) (l : List (String × String)) :
    lookup j (place k v l) = if k = j then some v else lookup j l := by
  fun_induction place k v l with
  | case1 => rfl
  | case2 => rfl
  | case3 => simp only [lookup]; split <;> rfl
  | case4 a x rest h1 h2 ih => simp only [lookup, ih]; grind

theorem get?_insert (s : Settings) (k v j : String) :
    (s.insert k v).get? j = if k = j then some v else s.get? j :=
  lookup_place k v j s.entries

theorem get?_empty (j : String) : empty.get? j = none := rfl

end Settings
end Plugboard
