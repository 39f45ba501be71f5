/-!
Tables: values under keys, in the order in which the keys came.
-/
namespace Plugboard

abbrev Table (K V : Type) := List (K × V)

namespace Table

variable {K V : Type} [DecidableEq K]

def get? (k : K) : Table K V → Option V
  | [] => none
  | (a, x) :: rest => if a = k then some x else get? k rest

/-- Puts a value last, or in the place of the one that has its key. -/
def put (k : K) (v : V) : Table K V → Table K V
  | [] => [(k, v)]
  | (a, x) :: rest => if a = k then (k, v) :: rest else (a, x) :: put k v rest

def erase (k : K) : Table K V → Table K V
  | [] => []
  | (a, x) :: rest => if a = k then erase k rest else (a, x) :: erase k rest

def keys (t : Table K V) : List K := t.map Prod.fst

/-! ## Laws -/

@[simp] theorem get?_nil (k : K) : get? k ([] : Table K V) = none := rfl

theorem get?_put (k j : K) (v : V) (t : Table K V) :
    get? j (put k v t) = if k = j then some v else get? j t := by
  induction t with
  | nil => rfl
  | cons p rest ih =>
    obtain ⟨a, x⟩ := p
    by_cases h : a = k <;> by_cases h' : k = j <;> simp_all [put, get?]

theorem get?_erase (k j : K) (t : Table K V) :
    get? j (erase k t) = if k = j then none else get? j t := by
  induction t with
  | nil => simp [erase]
  | cons p rest ih =>
    obtain ⟨a, x⟩ := p
    by_cases h : a = k <;> by_cases h' : k = j <;> simp_all [erase, get?]

theorem get?_isSome_iff (k : K) (t : Table K V) : (get? k t).isSome = true ↔ k ∈ keys t := by
  induction t with
  | nil => simp [keys]
  | cons p rest ih =>
    obtain ⟨a, x⟩ := p
    rw [keys] at ih
    by_cases h : a = k
    · simp [get?, keys, h]
    · simp [get?, keys, h, ih, Ne.symm h]

theorem keys_put (k : K) (v : V) (t : Table K V) :
    keys (put k v t) = if k ∈ keys t then keys t else keys t ++ [k] := by
  induction t with
  | nil => rfl
  | cons p rest ih =>
    obtain ⟨a, x⟩ := p
    rw [keys, keys] at ih
    by_cases h : a = k
    · simp [put, keys, h]
    · by_cases hk : k ∈ rest.map Prod.fst <;> simp_all [put, keys, Ne.symm h]

theorem keys_erase (k : K) (t : Table K V) : keys (erase k t) = (keys t).filter (· ≠ k) := by
  induction t with
  | nil => rfl
  | cons p rest ih =>
    obtain ⟨a, x⟩ := p
    rw [keys, keys] at ih
    by_cases h : a = k <;> simp_all [erase, keys]

end Table
end Plugboard
