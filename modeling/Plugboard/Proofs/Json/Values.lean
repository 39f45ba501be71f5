import Plugboard.Proofs.Double
import Plugboard.Proofs.Json.Scalars

/-!
Which JSON values are read as they were written: those that are not nested too deeply, in which no
object has a key twice, every whole number has 64 bits, and every double is the one that is read of
its own decimal.

* `Json.Fits`: these values. `Json.form`: what is read of a value before it is made one again.
* `Json.fits_short`: a double with a short decimal is among them.
* `readsBack`: the text of any value is read, whatever does not belong to it follows.
* `ofWritten?_form_iff`: what is made of it is the value just when the value fits.
-/
namespace Plugboard.Json

open Text

/-- At most `depth` lists and objects inside each other, every key once, whole numbers of 64 bits, and
doubles that are read of the decimals that they are written as. -/
inductive Fits : Nat → Json → Prop
  | null {depth : Nat} : Fits depth .null
  | bool {depth : Nat} (b : Bool) : Fits depth (.bool b)
  | whole {depth : Nat} {n : Numeral} (h : n.isWhole = true) : Fits depth (.number n)
  | double {depth : Nat} {n : Numeral} {d : Double} (hwritten : d.numeral = n)
      (hread : n.double? = some d) : Fits depth (.number n)
  | string {depth : Nat} (s : String) : Fits depth (.string s)
  | array {depth : Nat} {items : List Json} (h : ∀ j ∈ items, Fits depth j) :
      Fits (depth + 1) (.array items)
  | object {depth : Nat} {members : List (String × Json)} (hkeys : (members.map Prod.fst).Nodup)
      (h : ∀ m ∈ members, Fits depth m.2) : Fits (depth + 1) (.object members)

mutual

/-- What is read of the text of a value. -/
def form : Json → Written
  | .null => .null
  | .bool b => .bool b
  | .number n => .number n
  | .string s => .string (some s)
  | .array items => .array (formItems items)
  | .object members => .object (formMembers members)

def formItems : List Json → List Written
  | [] => []
  | j :: rest => form j :: formItems rest

def formMembers : List (String × Json) → List (Option String × Written)
  | [] => []
  | (k, j) :: rest => (some k, form j) :: formMembers rest

end

/-! ## Reading back -/

theorem skipSpace_cons {c : Char} (hc : isSpace c = false) (cs : List Char) :
    skipSpace (c :: cs) = c :: cs := List.dropWhile_cons_of_neg (Bool.eq_false_iff.mp hc)

/-- With enough fuel, the text of the value is read up to its end. -/
def ReadsBack (j : Json) : Prop := ∀ (fuel : Nat) (rest : List Char),
  2 * (write j).length ≤ fuel → Outside rest →
    readValue fuel (write j ++ rest) = some (form j, rest)

theorem outside_cons {c : Char} (hc : isDigit c = false ∧ c ≠ '.' ∧ c ≠ 'e' ∧ c ≠ 'E')
    (rest : List Char) : Outside (c :: rest) := by
  intro d hd
  cases hd
  exact hc

/-- A number begins with a digit or a sign. -/
def BeginsNumber (c : Char) : Prop := c = '-' ∨ '0' ≤ c ∧ c ≤ '9'

instance (c : Char) : Decidable (BeginsNumber c) :=
  inferInstanceAs (Decidable (c = '-' ∨ '0' ≤ c ∧ c ≤ '9'))

theorem BeginsNumber.ne {c d : Char} (hc : BeginsNumber c) (hd : ¬ BeginsNumber d) : c ≠ d :=
  fun he => hd (he ▸ hc)

theorem BeginsNumber.isSpace_eq {c : Char} (hc : BeginsNumber c) : isSpace c = false := by
  simp [isSpace, hc.ne (d := ' ') (by decide), hc.ne (d := '\n') (by decide),
    hc.ne (d := '\t') (by decide), hc.ne (d := '\r') (by decide)]

theorem head_writeNumeral (n : Numeral) : ∃ c cs, writeNumeral n = c :: cs ∧ BeginsNumber c := by
  rw [writeNumeral_eq]
  cases n.negative with
  | true => exact ⟨'-', _, rfl, .inl rfl⟩
  | false =>
    obtain ⟨c, ds, hcs⟩ := List.exists_cons_of_ne_nil (writeNat_ne_nil n.whole)
    exact ⟨c, _, by rw [hcs]; rfl, .inr (isDigits_writeNat n.whole c (hcs ▸ List.mem_cons_self))⟩

theorem readValue_string (fuel : Nat) (cs : List Char) :
    readValue (fuel + 1) ('"' :: cs) = (readString cs).map fun p => (.string p.1, p.2) := by
  rw [readValue, skipSpace_cons (by decide)]
  rfl

theorem readValue_number (fuel : Nat) {c : Char} (hc : BeginsNumber c)
    (cs : List Char) : readValue (fuel + 1) (c :: cs) =
      (readNumeral (c :: cs)).map fun p => (.number p.1, p.2) := by
  rw [readValue, skipSpace_cons hc.isSpace_eq]
  split
  -- Objects, lists, strings and the three words begin with another character.
  iterate 6 next heq => exact absurd (List.cons.inj heq).1 (hc.ne (by decide))
  rfl

theorem readValue_items (fuel : Nat) {c : Char} (hspace : isSpace c = false) (hc : c ≠ ']')
    (cs : List Char) : readValue (fuel + 1) ('[' :: c :: cs) =
      (readItems fuel (c :: cs)).map fun p => (.array p.1, p.2) := by
  rw [readValue, skipSpace_cons (by decide)]
  simp only [skipSpace_cons hspace]
  split
  next heq => exact absurd (List.cons.inj heq).1 hc
  next => rfl

theorem readValue_members (fuel : Nat) (cs : List Char) :
    readValue (fuel + 1) ('\x7b' :: '"' :: cs) =
      (readMembers fuel ('"' :: cs)).map fun p => (.object p.1, p.2) := by
  rw [readValue, skipSpace_cons (by decide)]
  simp only [skipSpace_cons (by decide : isSpace '"' = false)]
  rfl

/-- Fuel that is enough for a text is enough for a first step. -/
theorem exists_fuel {fuel : Nat} {cs : List Char} (hne : cs ≠ []) (h : 2 * cs.length ≤ fuel) :
    ∃ fuel', fuel = fuel' + 1 ∧ 2 * cs.length ≤ fuel' + 1 := by
  have hpos := List.length_pos_iff.mpr hne
  exact ⟨fuel - 1, by omega, by omega⟩

theorem readsBack_number (n : Numeral) : ReadsBack (.number n) := by
  intro fuel rest hfuel hrest
  obtain ⟨c, cs, hcs, hc⟩ := head_writeNumeral n
  have hread := readNumeral_write n hrest
  rw [write, hcs] at hfuel
  obtain ⟨fuel, rfl, -⟩ := exists_fuel (List.cons_ne_nil c cs) hfuel
  rw [hcs, List.cons_append] at hread
  rw [write, hcs, List.cons_append, readValue_number fuel hc, hread]
  rfl

theorem readsBack_string (s : String) : ReadsBack (.string s) := by
  intro fuel rest hfuel hrest
  obtain ⟨fuel, rfl, -⟩ := exists_fuel (by simp [write, writeString]) hfuel
  rw [write, writeString, List.cons_append, List.cons_append, List.append_assoc,
    List.singleton_append, readValue_string, readString_write]
  rfl

theorem readsBack_word {j : Json} (h : j = .null ∨ ∃ b, j = .bool b) : ReadsBack j := by
  intro fuel rest hfuel hrest
  rcases h with rfl | ⟨_ | _, rfl⟩
  all_goals
    obtain ⟨fuel, rfl, -⟩ := exists_fuel (by simp [write]) hfuel
    rw [write, readValue]
    rfl

/-- The text of a value begins with no blank and no closing bracket. -/
theorem head_write (j : Json) : ∃ c cs, write j = c :: cs ∧ isSpace c = false ∧ c ≠ ']' := by
  cases j with
  | null => exact ⟨_, _, rfl, by decide, by decide⟩
  | bool b => cases b <;> exact ⟨_, _, rfl, by decide, by decide⟩
  | number n =>
    obtain ⟨c, cs, hcs, hc⟩ := head_writeNumeral n
    exact ⟨c, cs, hcs, hc.isSpace_eq, hc.ne (by decide)⟩
  | string s => exact ⟨_, _, rfl, by decide, by decide⟩
  | array items => exact ⟨_, _, rfl, by decide, by decide⟩
  | object members => exact ⟨_, _, rfl, by decide, by decide⟩

theorem writeItems_cons_cons (j k : Json) (items : List Json) :
    writeItems (j :: k :: items) = write j ++ ',' :: writeItems (k :: items) := by
  rw [writeItems]
  nofun

theorem readItems_write {items : List Json} (hne : items ≠ []) (h : ∀ j ∈ items, ReadsBack j)
    (fuel : Nat) (rest : List Char) (hfuel : 2 * (writeItems items).length ≤ fuel) :
    readItems fuel (writeItems items ++ rest) = some (formItems items, rest) := by
  induction items generalizing fuel with
  | nil => exact absurd rfl hne
  | cons j items ih =>
    obtain ⟨hj, hitems⟩ := List.forall_mem_cons.mp h
    cases items with
    | nil =>
      rw [writeItems] at hfuel ⊢
      obtain ⟨fuel, rfl, hfuel⟩ := exists_fuel (by simp) hfuel
      rw [List.length_append, List.length_singleton] at hfuel
      have hread := hj fuel (']' :: rest) (by omega) (outside_cons (by decide) rest)
      rw [List.append_assoc, List.singleton_append, readItems, hread]
      simp only [skipSpace_cons (by decide : isSpace ']' = false)]
      rfl
    | cons k items =>
      rw [writeItems_cons_cons] at hfuel ⊢
      obtain ⟨fuel, rfl, hfuel⟩ := exists_fuel (by simp) hfuel
      rw [List.length_append, List.length_cons] at hfuel
      have hread := hj fuel (',' :: (writeItems (k :: items) ++ rest)) (by omega)
        (outside_cons (by decide) _)
      rw [List.append_assoc, List.cons_append, readItems, hread]
      simp only [skipSpace_cons (by decide : isSpace ',' = false)]
      rw [ih (by simp) hitems fuel (by omega)]
      rfl

theorem readMembers_last {fuel : Nat} {tail rest : List Char} {v : Written} (k : String)
    (h : readValue fuel tail = some (v, '\x7d' :: rest)) :
    readMembers (fuel + 1) (writeString k ++ ':' :: tail) = some ([(some k, v)], rest) := by
  rw [writeString, List.cons_append, List.cons_append, List.append_assoc, List.singleton_append,
    readMembers, skipSpace_cons (by decide)]
  simp only [readString_write, skipSpace_cons (by decide : isSpace ':' = false), h,
    skipSpace_cons (by decide : isSpace '\x7d' = false)]

theorem readMembers_more {fuel : Nat} {tail more : List Char} {v : Written} (k : String)
    (h : readValue fuel tail = some (v, ',' :: more)) :
    readMembers (fuel + 1) (writeString k ++ ':' :: tail) =
      (readMembers fuel more).map fun p => ((some k, v) :: p.1, p.2) := by
  rw [writeString, List.cons_append, List.cons_append, List.append_assoc, List.singleton_append,
    readMembers, skipSpace_cons (by decide)]
  simp only [readString_write, skipSpace_cons (by decide : isSpace ':' = false), h,
    skipSpace_cons (by decide : isSpace ',' = false)]

theorem writeMembers_cons_cons (k : String) (j : Json) (m : String × Json)
    (members : List (String × Json)) : writeMembers ((k, j) :: m :: members) =
      writeString k ++ ':' :: (write j ++ ',' :: writeMembers (m :: members)) := by
  rw [writeMembers]
  · simp
  · nofun

theorem readMembers_write {members : List (String × Json)} (hne : members ≠ [])
    (h : ∀ m ∈ members, ReadsBack m.2) (fuel : Nat) (rest : List Char)
    (hfuel : 2 * (writeMembers members).length ≤ fuel) :
    readMembers fuel (writeMembers members ++ rest) = some (formMembers members, rest) := by
  induction members generalizing fuel with
  | nil => exact absurd rfl hne
  | cons m members ih =>
    obtain ⟨k, j⟩ := m
    obtain ⟨hj, hmembers⟩ := List.forall_mem_cons.mp h
    have hj : ReadsBack j := hj
    cases members with
    | nil =>
      have hwrite : writeMembers [(k, j)] = writeString k ++ ':' :: (write j ++ ['\x7d']) := by
        simp [writeMembers]
      rw [hwrite] at hfuel ⊢
      obtain ⟨fuel, rfl, hfuel⟩ := exists_fuel (by simp) hfuel
      simp only [List.length_append, List.length_cons] at hfuel
      have hread := hj fuel ('\x7d' :: rest) (by omega) (outside_cons (by decide) rest)
      rw [List.append_assoc, List.cons_append, List.append_assoc, List.singleton_append,
        readMembers_last k hread]
      rfl
    | cons m members =>
      rw [writeMembers_cons_cons] at hfuel ⊢
      obtain ⟨fuel, rfl, hfuel⟩ := exists_fuel (by simp) hfuel
      simp only [List.length_append, List.length_cons] at hfuel
      have hread := hj fuel (',' :: (writeMembers (m :: members) ++ rest)) (by omega)
        (outside_cons (by decide) _)
      rw [List.append_assoc, List.cons_append, List.append_assoc, List.cons_append,
        readMembers_more k hread, ih (by simp) hmembers fuel (by omega)]
      rfl

theorem readsBack_array {items : List Json} (h : ∀ j ∈ items, ReadsBack j) :
    ReadsBack (.array items) := by
  intro fuel rest hfuel hrest
  rw [write] at hfuel ⊢
  obtain ⟨fuel, rfl, hfuel⟩ := exists_fuel (List.cons_ne_nil _ _) hfuel
  rw [List.length_cons] at hfuel
  cases items with
  | nil =>
    rw [writeItems, readValue]
    rfl
  | cons j items =>
    have hread := readItems_write (List.cons_ne_nil j items) h fuel rest (by omega)
    obtain ⟨c, cs, hcs, hspace, hc⟩ := head_write j
    have hhead : ∃ more, writeItems (j :: items) = c :: more := by
      cases items with
      | nil => exact ⟨_, by rw [writeItems, hcs]; rfl⟩
      | cons k items => exact ⟨_, by rw [writeItems_cons_cons, hcs]; rfl⟩
    obtain ⟨more, hmore⟩ := hhead
    rw [hmore, List.cons_append] at hread
    rw [hmore, List.cons_append, List.cons_append, readValue_items fuel hspace hc, hread]
    rfl

theorem readsBack_object {members : List (String × Json)} (h : ∀ m ∈ members, ReadsBack m.2) :
    ReadsBack (.object members) := by
  intro fuel rest hfuel hrest
  rw [write] at hfuel ⊢
  obtain ⟨fuel, rfl, hfuel⟩ := exists_fuel (List.cons_ne_nil _ _) hfuel
  rw [List.length_cons] at hfuel
  cases members with
  | nil =>
    rw [writeMembers, readValue]
    rfl
  | cons m members =>
    have hread := readMembers_write (List.cons_ne_nil m members) h fuel rest (by omega)
    have hhead : ∃ more, writeMembers (m :: members) = '"' :: more := by
      cases members with
      | nil => exact ⟨_, by rw [writeMembers, writeString]; rfl⟩
      | cons k members => exact ⟨_, by rw [writeMembers_cons_cons, writeString]; rfl⟩
    obtain ⟨more, hmore⟩ := hhead
    rw [hmore, List.cons_append] at hread
    rw [hmore, List.cons_append, List.cons_append, readValue_members, hread]
    rfl

theorem readsBack : ∀ j : Json, ReadsBack j
  | .null => readsBack_word (.inl rfl)
  | .bool b => readsBack_word (.inr ⟨b, rfl⟩)
  | .number n => readsBack_number n
  | .string s => readsBack_string s
  | .array items => readsBack_array fun j _ => readsBack j
  | .object members => readsBack_object fun m hm =>
    have := List.sizeOf_lt_of_mem hm
    readsBack m.2
termination_by j => sizeOf j
decreasing_by
  · decreasing_tactic
  · obtain ⟨k, j⟩ := m
    simp only [Prod.mk.sizeOf_spec, Json.object.sizeOf_spec] at this ⊢
    omega

theorem written?_compact (j : Json) : written? (compact j) = some (form j) := by
  have hread := readsBack j (2 * (write j).length + 2) [] (by omega) nofun
  rw [List.append_nil] at hread
  rw [written?, compact, String.toList_ofList, hread]
  rfl

/-! ## From the text to the value -/

theorem held?_eq_self_iff {n : Numeral} : n.held? = some n ↔
    n.isWhole = true ∨ ∃ d : Double, d.numeral = n ∧ n.double? = some d := by
  unfold Numeral.held?
  split
  next h => simp [h]
  next h => simp [h, Option.map_eq_some_iff, and_comm]

theorem fits_number_iff {depth : Nat} {n : Numeral} :
    Fits depth (.number n) ↔ n.held? = some n := by
  rw [held?_eq_self_iff]
  constructor
  · intro h
    cases h with
    | whole h => exact .inl h
    | double hwritten hread => exact .inr ⟨_, hwritten, hread⟩
  · rintro (h | ⟨d, hwritten, hread⟩)
    · exact .whole h
    · exact .double hwritten hread

/-- Doubles with few digits and a small power of ten fit. -/
theorem fits_short (depth : Nat) {d : Double} (hdigits : d.numeral.scaled.1 ≤ Nat.pow 2 53)
    (hpower : d.numeral.scaled.2.natAbs ≤ 22) : Fits depth (.number d.numeral) :=
  .double rfl (Double.double?_numeral hdigits hpower)

theorem ofItems?_form_iff (depth : Nat) {items : List Json}
    (h : ∀ j ∈ items, ofWritten? depth (form j) = some j ↔ Fits depth j) :
    ofItems? depth (formItems items) = some items ↔ ∀ j ∈ items, Fits depth j := by
  induction items with
  | nil => simp [formItems, ofItems?]
  | cons j items ih =>
    obtain ⟨hj, hitems⟩ := List.forall_mem_cons.mp h
    rw [List.forall_mem_cons, ← hj, ← ih hitems, formItems, ofItems?]
    simp only [Option.bind_eq_bind, Option.bind_eq_some_iff, Option.some.injEq, List.cons.injEq]
    constructor
    · rintro ⟨_, hone, _, hrest, rfl, rfl⟩
      exact ⟨hone, hrest⟩
    · rintro ⟨hone, hrest⟩
      exact ⟨j, hone, items, hrest, rfl, rfl⟩

/-- Members are left out, and none is added. -/
theorem length_ofMembers? {depth : Nat} {ws : List (Option String × Written)}
    {members : List (String × Json)} (h : ofMembers? depth ws = some members) :
    members.length ≤ ws.length := by
  induction ws generalizing members with
  | nil =>
    cases h
    exact Nat.le_refl 0
  | cons w ws ih =>
    rw [ofMembers?] at h
    obtain ⟨k, -, h⟩ := Option.bind_eq_some_iff.mp h
    obtain ⟨j, -, h⟩ := Option.bind_eq_some_iff.mp h
    obtain ⟨rest, hrest, h⟩ := Option.bind_eq_some_iff.mp h
    have hle := ih hrest
    rw [List.length_cons]
    cases h
    split
    · omega
    · rw [List.length_cons]
      omega

theorem length_formMembers (members : List (String × Json)) :
    (formMembers members).length = members.length := by
  induction members with
  | nil => rfl
  | cons m members ih => rw [formMembers, List.length_cons, List.length_cons, ih]

theorem ofMembers?_form_iff (depth : Nat) {members : List (String × Json)}
    (h : ∀ m ∈ members, ofWritten? depth (form m.2) = some m.2 ↔ Fits depth m.2) :
    ofMembers? depth (formMembers members) = some members ↔
      (members.map Prod.fst).Nodup ∧ ∀ m ∈ members, Fits depth m.2 := by
  induction members with
  | nil => simp [formMembers, ofMembers?]
  | cons m members ih =>
    obtain ⟨k, j⟩ := m
    obtain ⟨hj, hmembers⟩ := List.forall_mem_cons.mp h
    have ih := ih hmembers
    rw [List.map_cons, List.nodup_cons, List.forall_mem_cons, ← hj, formMembers, ofMembers?]
    simp only [Option.bind_eq_bind, Option.bind_some, Option.bind_eq_some_iff, Option.some.injEq]
    constructor
    · rintro ⟨j', hone, rest, hrest, hall⟩
      split at hall
      · -- One member too few would be left.
        have hle := length_ofMembers? hrest
        rw [length_formMembers, hall, List.length_cons] at hle
        omega
      next hfresh =>
        obtain ⟨hhead, rfl⟩ := List.cons.inj hall
        cases hhead
        obtain ⟨hkeys, hfits⟩ := ih.mp hrest
        refine ⟨⟨fun hk => hfresh ?_, hkeys⟩, hone, hfits⟩
        obtain ⟨m, hm, he⟩ := List.mem_map.mp hk
        exact List.any_eq_true.mpr ⟨m, hm, beq_iff_eq.mpr he⟩
    · rintro ⟨⟨hfresh, hkeys⟩, hone, hfits⟩
      have hnot : (members.any fun m => m.1 == k) = false := by
        rw [List.any_eq_false]
        intro m hm hk
        exact hfresh (List.mem_map.mpr ⟨m, hm, beq_iff_eq.mp hk⟩)
      exact ⟨j, hone, members, ih.mpr ⟨hkeys, hfits⟩, by rw [hnot]; rfl⟩

/-- What is made of the text of a value is the value just when it fits. -/
theorem ofWritten?_form_iff : ∀ (j : Json) (depth : Nat),
    ofWritten? depth (form j) = some j ↔ Fits depth j
  | .null, _ => iff_of_true rfl .null
  | .bool b, _ => iff_of_true rfl (.bool b)
  | .number n, depth => by
    rw [fits_number_iff, form, ofWritten?]
    simp
  | .string s, _ => iff_of_true rfl (.string s)
  | .array items, 0 => iff_of_false nofun nofun
  | .object members, 0 => iff_of_false nofun nofun
  | .array items, depth + 1 => by
    have hitems := ofItems?_form_iff depth fun j (_ : j ∈ items) =>
      ofWritten?_form_iff j depth
    rw [form, ofWritten?, Option.map_eq_some_iff]
    constructor
    · rintro ⟨_, hread, ⟨⟩⟩
      exact .array (hitems.mp hread)
    · intro h
      cases h with
      | array h => exact ⟨items, hitems.mpr h, rfl⟩
  | .object members, depth + 1 => by
    have hmembers := ofMembers?_form_iff depth fun m (_ : m ∈ members) =>
      ofWritten?_form_iff m.2 depth
    rw [form, ofWritten?, Option.map_eq_some_iff]
    constructor
    · rintro ⟨_, hread, ⟨⟩⟩
      obtain ⟨hkeys, h⟩ := hmembers.mp hread
      exact .object hkeys h
    · intro h
      cases h with
      | object hkeys h => exact ⟨members, hmembers.mpr ⟨hkeys, h⟩, rfl⟩

end Plugboard.Json
