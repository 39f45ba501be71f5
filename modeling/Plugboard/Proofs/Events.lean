import Plugboard.Event
import Plugboard.Proofs.Json.Values

/-!
Events on the wire. What is written of an event tells a payload of null from no payload at all; what
is read does not, and it rounds doubles on the way.

* `Event.parse?_compact`: what is read of the text of an event: its payload is made again of what is
  written of it. `parse?_compact_of_blank`: a payload of null is none.
* `Event.survives_iff`: the events that arrive as they were sent, null payloads apart.
-/
namespace Plugboard.Event

open Json

theorem variant?_name (t : EventType) :
    variant? EventType.ofName? (.string (some t.name)) = some t := by
  cases t <;> rfl

/-- What is found for each field in what is written. -/
theorem fields?_toJson (e : Event) :
    fields? ["type", "pluginName", "payload"] (form e.toJson) =
      some [some (.string (some e.type.name)), some (.string (some e.plugin)),
        e.payload.map form] := by
  rw [toJson]
  cases e.payload <;> rfl

/-- Null apart, a payload is read as any other value. -/
theorem nullable_form {α : Type} (read : Written → Option α) {p : Json} (hp : p ≠ .null) :
    nullable read (form p) = (read (form p)).map some := by
  cases p with
  | null => exact absurd rfl hp
  | bool | number | string | array | object => rfl

theorem parse?_compact {e : Event} {p : Json} (he : e.payload = some p) (hp : p ≠ .null) :
    Event.parse? (compact e.toJson) =
      (Json.ofWritten? (maxDepth - 1) (form p)).map fun p' => { e with payload := some p' } := by
  rw [Event.parse?, written?_compact, Option.bind_some, Event.ofWritten?, fields?_toJson, he]
  simp only [requiredField, variant?_name, text?, optionalField, Option.map_some,
    nullable_form _ hp, Option.bind_eq_bind, Option.bind_some]
  cases Json.ofWritten? (maxDepth - 1) (form p) <;> rfl

theorem parse?_compact_of_blank {e : Event} (he : e.payload = none ∨ e.payload = some .null) :
    Event.parse? (compact e.toJson) = some { e with payload := none } := by
  rw [Event.parse?, written?_compact, Option.bind_some, Event.ofWritten?, fields?_toJson]
  rcases he with he | he <;> rw [he] <;>
    simp [requiredField, variant?_name, text?, optionalField, form, nullable]

/-- With a payload that is not null an event arrives as it was sent, just when the payload fits. -/
theorem survives_iff {e : Event} (hnull : e.payload ≠ some .null) :
    Event.parse? (compact e.toJson) = some e ↔
      ∀ p, e.payload = some p → Fits (maxDepth - 1) p := by
  obtain ⟨type, plugin, payload⟩ := e
  cases payload with
  | none => exact iff_of_true (parse?_compact_of_blank (.inl rfl)) fun _ he => nomatch he
  | some p =>
    have hp : p ≠ .null := fun hp => hnull (congrArg some hp)
    rw [parse?_compact rfl hp, Option.map_eq_some_iff]
    constructor
    · rintro ⟨p', hread, heq⟩ q hq
      cases heq
      cases hq
      exact (ofWritten?_form_iff p _).mp hread
    · intro h
      exact ⟨p, (ofWritten?_form_iff p _).mpr (h p rfl), rfl⟩

/-- The double of a half. -/
def half : Double :=
  ⟨false, Double.ofDecimal 5 (-1), Double.nearest_nearest _ _, by decide +kernel⟩

/-- What is told of a failure arrives, with a number of seconds in it. -/
theorem survives_failure :
    let e := Event.error "chat"
      (.object [("error", .string "boom"), ("seconds", .number half.numeral)])
    e.payload ≠ some .null ∧ Event.parse? (compact e.toJson) = some e := by
  intro e
  have hnull : e.payload ≠ some .null := fun h => nomatch Option.some.inj h
  refine ⟨hnull, (survives_iff hnull).mpr fun p hp => ?_⟩
  cases hp
  have hhalf : Fits 125 (.number half.numeral) :=
    fits_short 125 (by decide +kernel) (by decide +kernel)
  change Fits (125 + 1) _
  refine .object (by simp) ?_
  simp [Fits.string, hhalf]

/-- Lists inside each other. -/
def nested : Nat → Json
  | 0 => .array []
  | n + 1 => .array [nested n]

theorem not_fits_nested {depth n : Nat} (h : depth ≤ n) : ¬ Fits depth (nested n) := by
  induction n generalizing depth with
  | zero =>
    rw [Nat.le_zero.mp h]
    nofun
  | succ n ih =>
    intro hfits
    cases hfits with
    | array hitems => exact ih (Nat.succ_le_succ_iff.mp h) (hitems _ List.mem_cons_self)

/-- A decimal that a double is written as. -/
def fine : Numeral := ⟨false, 51, Numeral.digitsOf 248178375505404, none⟩

/-- The decimal of the double that is read of it. -/
def coarse : Numeral := ⟨false, 51, Numeral.digitsOf 24817837550541, none⟩

/-- A null payload is there when the event is sent and is not when it arrives; an event with too
many lists inside each other does not arrive; a double may arrive as the one next to it. -/
theorem payload_lost :
    Event.parse? (compact (Event.error "chat" .null).toJson) = some ⟨.error, "chat", none⟩ ∧
    Event.parse? (compact (Event.error "chat" (nested 126)).toJson) ≠
      some (Event.error "chat" (nested 126)) ∧
    (∃ d : Double, d.numeral = fine) ∧
      Event.parse? (compact (Event.error "chat" (.number fine)).toJson) =
        some (Event.error "chat" (.number coarse)) := by
  refine ⟨parse?_compact_of_blank (.inr rfl), fun h => ?_,
    ⟨⟨false, Double.ofDecimal 51248178375505404 (-15), Double.nearest_nearest _ _,
      by decide +kernel⟩, ?_⟩, ?_⟩
  · have hnull : (Event.error "chat" (nested 126)).payload ≠ some .null := by
      rw [error, nested]
      nofun
    exact not_fits_nested le_rfl ((survives_iff hnull).mp h (nested 126) rfl)
  · decide +kernel
  · have hread : fine.held? = some coarse := by decide +kernel
    have hfine : Json.number fine ≠ .null := nofun
    rw [parse?_compact (p := .number fine) rfl hfine, form, Json.ofWritten?, hread]
    rfl

end Plugboard.Event
