import Mathlib.Data.List.Basic
import Mathlib.Data.List.Induction
import Plugboard.Plugin.Schema
import Plugboard.Proofs.Text.Blank
import Plugboard.Proofs.Text.Numeral

/-!
What a schema accepts, and what it says of settings that it does not accept. A schema is made by
declaring one field after the other, and a field that is declared again takes the place of the one
before.

* `Declared`: the fields of a schema by what was declared. `declared_ofList`: those of any list.
* `FieldType.Allows`, `Field.IsContent`: the values that a field has nothing against.
* `Field.Objects`: what a field has against a value. `check_eq_some_iff`, `check_eq_none_iff`.
* `violations_exact`: the violations are the objections of the fields, in their order.
-/
namespace Plugboard

/-! ## Fields in the order of their declaration -/

namespace Table

variable {K V : Type} [DecidableEq K]

theorem mem_of_get? {k : K} {v : V} {t : Table K V} (h : get? k t = some v) : (k, v) ∈ t := by
  induction t with
  | nil => cases h
  | cons p rest ih =>
    obtain ⟨a, x⟩ := p
    rw [get?] at h
    split at h
    next ha => exact ha ▸ Option.some.inj h ▸ List.mem_cons_self
    next => exact List.mem_cons_of_mem _ (ih h)

theorem get?_of_mem {k : K} {v : V} {t : Table K V} (hd : (keys t).Nodup) (h : (k, v) ∈ t) :
    get? k t = some v := by
  induction t with
  | nil => cases h
  | cons p rest ih =>
    obtain ⟨a, x⟩ := p
    obtain ⟨hnot, hd⟩ := List.nodup_cons.mp hd
    rcases List.mem_cons.mp h with he | h
    · cases he
      rw [get?, if_pos rfl]
    · have hne : a ≠ k := by
        rintro rfl
        exact hnot (List.mem_map.mpr ⟨_, h, rfl⟩)
      rw [get?, if_neg hne, ih hd h]

end Table

namespace Schema

/-- The keys are those that were declared, each once and in the order in which they were declared
first; the field of a key is the one that was declared last. -/
structure Declared (l : List (String × Field)) (s : Schema) : Prop where
  keys : ∀ k, k ∈ s.fields.keys ↔ k ∈ l.map Prod.fst
  order : s.fields.keys.Pairwise fun j k => (l.map Prod.fst).idxOf j < (l.map Prod.fst).idxOf k
  get? : ∀ k, s.get? k = (l.reverse.find? fun p => p.1 == k).map Prod.snd

theorem Declared.nodup {l : List (String × Field)} {s : Schema} (h : Declared l s) :
    s.fields.keys.Nodup := h.order.imp fun hlt => by rintro rfl; exact Nat.lt_irrefl _ hlt

/-- One more declaration. -/
theorem Declared.field {l : List (String × Field)} {s : Schema} (h : Declared l s) (k : String)
    (f : Field) : Declared (l ++ [(k, f)]) (s.field k f) where
  keys := by
    intro j
    rw [Schema.field, Table.keys_put, List.map_append, List.mem_append, ← h.keys]
    split <;> simp_all
  order := by
    have hold : s.fields.keys.Pairwise fun i j =>
        ((l ++ [(k, f)]).map Prod.fst).idxOf i < ((l ++ [(k, f)]).map Prod.fst).idxOf j := by
      refine List.Pairwise.imp_of_mem (fun hi hj hlt => ?_) h.order
      rw [List.map_append, List.idxOf_append_of_mem ((h.keys _).mp hi),
        List.idxOf_append_of_mem ((h.keys _).mp hj)]
      exact hlt
    rw [Schema.field, Table.keys_put]
    split
    · exact hold
    next hnew =>
      refine List.pairwise_append.mpr ⟨hold, List.pairwise_singleton _ _, fun i hi j hj => ?_⟩
      cases List.mem_singleton.mp hj
      have hi := (h.keys i).mp hi
      rw [List.map_append, List.idxOf_append_of_mem hi,
        List.idxOf_append_of_notMem (mt (h.keys k).mpr hnew)]
      exact Nat.lt_add_right _ (List.idxOf_lt_length_of_mem hi)
  get? := by
    intro j
    have hput : (s.field k f).get? j = if k = j then some f else s.get? j := Table.get?_put _ _ _ _
    rw [hput, List.reverse_append, List.reverse_singleton, List.singleton_append, List.find?_cons,
      h.get?]
    by_cases hk : k = j
    · simp [hk]
    · rw [if_neg hk, beq_eq_false_iff_ne.mpr hk]

theorem declared_ofList (l : List (String × Field)) : Declared l (ofList l) := by
  induction l using List.reverseRecOn with
  | nil => exact ⟨fun _ => Iff.rfl, .nil, fun _ => rfl⟩
  | append_singleton l p ih =>
    have hlast : ofList (l ++ [p]) = (ofList l).field p.1 p.2 := by
      rw [ofList, ofList, List.foldl_append]
      rfl
    exact hlast ▸ ih.field p.1 p.2

end Schema

/-! ## Values that are allowed -/

/-- The value is given, and it is not blank. -/
def Filled (value : Option String) (v : String) : Prop := value = some v ∧ Text.trim v ≠ ""

namespace FieldType

/-- A number and a boolean may have blanks around them, an option may not. -/
def Allows : FieldType → String → Prop
  | .string, _ | .secret, _ => True
  | .number, v => Text.IsNumeral (Text.trim v).toList
  | .boolean, v => Text.trim v = "true" ∨ Text.trim v = "false"
  | .select options, v => v ∈ options

/-- What a type has against the values that it does not allow. -/
inductive Refuses : FieldType → String → Objection → Prop
  | number {v : String} (h : ¬ Allows .number v) : Refuses .number v .notANumber
  | boolean {v : String} (h : ¬ Allows .boolean v) : Refuses .boolean v .notABoolean
  | select {options : List String} {v : String} (h : ¬ Allows (.select options) v) :
      Refuses (.select options) v (.notAnOption options)

theorem objection?_eq_none_iff {t : FieldType} {v : String} :
    t.objection? v = none ↔ t.Allows v := by
  cases t with
  | string | secret => simp [objection?, Allows]
  | number => simp [objection?, Allows, Text.isNumber_iff]
  | boolean => simp [objection?, Allows, or_iff_not_imp_left]
  | select options => simp [objection?, Allows]

theorem objection?_eq_some_iff {t : FieldType} {v : String} {o : Objection} :
    t.objection? v = some o ↔ t.Refuses v o := by
  constructor
  · intro h
    have hnot : ¬ t.Allows v := by rw [← objection?_eq_none_iff, h]; nofun
    cases t with
    | string | secret => cases h
    | number | boolean | select options =>
      rw [objection?] at h
      split at h
      · cases h
      · cases h
        constructor
        exact hnot
  · intro h
    cases h with
    | number h | boolean h | select h =>
      have hrefused := mt objection?_eq_none_iff.mp h
      rw [objection?] at hrefused ⊢
      exact if_neg fun hallowed => hrefused (if_pos hallowed)

end FieldType

namespace Field

/-- The field has nothing against the value. -/
structure IsContent (f : Field) (value : Option String) : Prop where
  type : ∀ v, Filled value v → f.type.Allows v
  validator : ∀ v, Filled value v → ∀ check, f.validator = some check → check v = none
  required : f.required = true → f.default = none → ∃ v, Filled value v

/-- What the field has against the value. The validator has its say only where the type has none. -/
inductive Objects (f : Field) (value : Option String) : Objection → Prop
  | missing (hr : f.required = true) (hd : f.default = none) (hv : ∀ v, ¬ Filled value v) :
      Objects f value .missing
  | type {v o} (hv : Filled value v) (ht : f.type.Refuses v o) : Objects f value o
  | validator {v check text} (hv : Filled value v) (ht : f.type.Allows v)
      (hf : f.validator = some check) (hc : check v = some text) : Objects f value (.rejected text)

theorem objection?_eq_some_iff {f : Field} {v : String} {o : Objection} :
    f.objection? v = some o ↔ f.type.Refuses v o ∨ f.type.Allows v ∧
      ∃ check text, f.validator = some check ∧ check v = some text ∧ o = .rejected text := by
  rw [← FieldType.objection?_eq_some_iff, ← FieldType.objection?_eq_none_iff, objection?]
  cases f.type.objection? v with
  | some t => simp
  | none => cases f.validator <;> simp [eq_comm]

/-- A value that is not filled is none. -/
theorem check_of_not_filled {f : Field} {value : Option String} (h : ∀ v, ¬ Filled value v) :
    f.check value = if f.required && f.default.isNone then some .missing else none := by
  cases value with
  | none => rfl
  | some v =>
    have hblank : Text.allBlank v = true := by
      rw [← Text.trim_eq_empty_iff]
      exact not_not.mp fun hne => h v ⟨rfl, hne⟩
    rw [check, hblank]
    rfl

theorem check_of_filled {f : Field} {value : Option String} {v : String} (h : Filled value v) :
    f.check value = f.objection? v := by
  obtain ⟨rfl, hne⟩ := h
  rw [check, if_neg (mt Text.trim_eq_empty_iff.mpr hne)]

theorem check_eq_some_iff {f : Field} {value : Option String} {o : Objection} :
    f.check value = some o ↔ f.Objects value o := by
  constructor
  · intro h
    by_cases hv : ∃ v, Filled value v
    · obtain ⟨v, hv⟩ := hv
      rw [check_of_filled hv, objection?_eq_some_iff] at h
      rcases h with ht | ⟨ht, check, text, hf, hc, rfl⟩
      · exact .type hv ht
      · exact .validator hv ht hf hc
    · have hv := not_exists.mp hv
      rw [check_of_not_filled hv] at h
      split at h
      next hboth =>
        cases h
        rw [Bool.and_eq_true, Option.isNone_iff_eq_none] at hboth
        exact .missing hboth.1 hboth.2 hv
      next => cases h
  · intro h
    cases h with
    | missing hr hd hv => rw [check_of_not_filled hv, hr, hd]; rfl
    | type hv ht => rw [check_of_filled hv, objection?_eq_some_iff]; exact .inl ht
    | validator hv ht hf hc =>
      rw [check_of_filled hv, objection?_eq_some_iff]
      exact .inr ⟨ht, _, _, hf, hc, rfl⟩

theorem check_eq_none_iff {f : Field} {value : Option String} :
    f.check value = none ↔ f.IsContent value := by
  rw [Option.eq_none_iff_forall_ne_some]
  simp only [Ne, check_eq_some_iff]
  constructor
  · intro h
    have htype : ∀ v, Filled value v → f.type.Allows v := by
      intro v hv
      rw [← FieldType.objection?_eq_none_iff, Option.eq_none_iff_forall_ne_some]
      exact fun o ho => h o (.type hv (FieldType.objection?_eq_some_iff.mp ho))
    refine ⟨htype, fun v hv check hf => ?_, fun hr hd => ?_⟩
    · rw [Option.eq_none_iff_forall_ne_some]
      exact fun text hc => h _ (.validator hv (htype v hv) hf hc)
    · exact not_forall_not.mp fun hv => h _ (.missing hr hd hv)
  · intro h o ho
    cases ho with
    | missing hr hd hv => exact (h.required hr hd).elim hv
    | type hv ht =>
      have hnone := FieldType.objection?_eq_none_iff.mpr (h.type _ hv)
      rw [FieldType.objection?_eq_some_iff.mpr ht] at hnone
      cases hnone
    | validator hv ht hf hc => cases (h.validator _ hv _ hf).symm.trans hc

end Field

/-! ## Schemas -/

namespace Schema

variable {s : Schema} {values : Settings}

/-- A field is in a schema under its key. -/
theorem mem_fields_iff (hs : s.fields.keys.Nodup) {k : String} {f : Field} :
    (k, f) ∈ s.fields ↔ s.get? k = some f :=
  ⟨Table.get?_of_mem hs, Table.mem_of_get?⟩

theorem mem_violations_iff (hs : s.fields.keys.Nodup) {v : Violation} :
    v ∈ s.violations values ↔
      ∃ f, s.get? v.key = some f ∧ f.Objects (values.get? v.key) v.objection := by
  rw [violations, List.mem_filterMap]
  constructor
  · rintro ⟨⟨k, f⟩, hmem, h⟩
    obtain ⟨o, ho, rfl⟩ := Option.map_eq_some_iff.mp h
    exact ⟨f, (mem_fields_iff hs).mp hmem, Field.check_eq_some_iff.mp ho⟩
  · rintro ⟨f, hget, ho⟩
    refine ⟨(v.key, f), (mem_fields_iff hs).mpr hget, ?_⟩
    dsimp only
    rw [Field.check_eq_some_iff.mpr ho]
    rfl

theorem violations_keys_sublist (s : Schema) (values : Settings) :
    ((s.violations values).map Violation.key).Sublist s.fields.keys := by
  rw [violations, List.map_filterMap, Table.keys]
  induction s.fields with
  | nil => exact List.Sublist.refl _
  | cons p fields ih =>
    rw [List.map_cons]
    cases h : p.2.check (values.get? p.1) with
    | none =>
      rw [List.filterMap_cons_none (by rw [h]; rfl)]
      exact ih.cons _
    | some o =>
      rw [List.filterMap_cons_some (by rw [h]; rfl)]
      exact ih.cons_cons _

theorem accepts_iff (hs : s.fields.keys.Nodup) :
    s.accepts values = true ↔ ∀ k f, s.get? k = some f → f.IsContent (values.get? k) := by
  rw [accepts, List.isEmpty_iff, violations, List.filterMap_eq_nil_iff]
  simp only [Option.map_eq_none_iff, Field.check_eq_none_iff, Prod.forall, mem_fields_iff hs]

/-- Only the values under the keys of the schema count. -/
theorem violations_congr {values' : Settings}
    (h : ∀ k ∈ s.fields.keys, values'.get? k = values.get? k) :
    s.violations values' = s.violations values :=
  List.filterMap_congr fun p hp => by rw [h p.1 (List.mem_map_of_mem hp)]

/-- The fields of a schema are those that were declared, each key once, in the order in which the keys
came and with what was declared for them last. Settings are accepted just when no field has anything
against its value. Otherwise every field that has is named once, in the order of the fields, with what
it has against the value, its type before its validator. No other key counts. -/
theorem violations_exact (l : List (String × Field)) (values : Settings) :
    let s := ofList l
    Declared l s ∧
    (s.accepts values = true ↔ ∀ k f, s.get? k = some f → f.IsContent (values.get? k)) ∧
    (s.accepts values = true ↔ s.violations values = []) ∧
    ((s.violations values).map Violation.key).Sublist s.fields.keys ∧
    (∀ v, v ∈ s.violations values ↔
      ∃ f, s.get? v.key = some f ∧ f.Objects (values.get? v.key) v.objection) ∧
    ∀ values' : Settings, (∀ k ∈ s.fields.keys, values'.get? k = values.get? k) →
      s.violations values' = s.violations values := by
  intro s
  have hs := declared_ofList l
  exact ⟨hs, accepts_iff hs.nodup, List.isEmpty_iff, violations_keys_sublist s values,
    fun v => mem_violations_iff hs.nodup, fun values' => violations_congr⟩

end Schema
end Plugboard
