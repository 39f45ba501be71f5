import Mathlib.Data.List.TakeWhile
import Plugboard.Core.Chat
import Plugboard.Core.Drive
import Plugboard.Proofs.Panel.Texts
import Plugboard.Proofs.Storage
import Plugboard.Proofs.Text.Blank

/-!
What the plugins that come with the host show for settings that their schemas accept. A schema takes
a blank value for none and trims a boolean before it looks at it; the panels do neither.

* `Settings.given?`, `Schema.value?`: the value that counts for a schema.
* `Chat.Faithful`, `Drive.Faithful`: what a panel has to show, with the values that count.
* `Chat.faithful_iff`, `Drive.faithful_iff`: the accepted settings for which it does.
* `Core.shown_iff`: the same for what is seen of a panel.
-/
namespace Plugboard

open Run

theorem Text.readWhole_of_allBlank (limit : Nat) {s : String} (h : allBlank s = true) :
    readWhole limit (trim s) = .error .empty := by
  rw [trim_eq_empty_iff.mpr h]
  rfl

/-! ## What a schema looks at -/

namespace Settings

/-- The value that a schema takes to be given: a blank one counts as none. -/
def given? (s : Settings) (k : String) : Option String :=
  (s.get? k).filter fun v => !Text.allBlank v

/-- A blank value is kept for the key. -/
def BlankAt (s : Settings) (k : String) : Prop := ∃ v, s.get? k = some v ∧ Text.allBlank v = true

instance (s : Settings) (k : String) : Decidable (s.BlankAt k) :=
  decidable_of_iff ((s.get? k).any Text.allBlank = true) (Option.any_eq_true _ _)

theorem get?_of_not_blankAt {s : Settings} {k : String} (h : ¬ s.BlankAt k) :
    s.get? k = s.given? k := by
  cases hv : s.get? k with
  | none => rw [given?, hv]; rfl
  | some v =>
    have hb : Text.allBlank v = false := by
      rw [← Bool.not_eq_true]
      exact fun hb => h ⟨v, hv, hb⟩
    rw [given?, hv, Option.filter_some, hb]
    rfl

end Settings

/-- The value that counts for a key: the one that is given, or the default. -/
def Schema.value? (s : Schema) (values : Settings) (k : String) : Option String :=
  (values.given? k).or (s.defaults.get? k)

theorem Field.objection?_eq_none {f : Field} {v : String} :
    f.objection? v = none ↔
      f.type.objection? v = none ∧ ∀ check, f.validator = some check → check v = none := by
  unfold Field.objection?
  cases f.type.objection? v <;> cases f.validator <;> simp

/-- No field has anything against the value that is given for it in accepted settings. -/
theorem Schema.objection?_of_accepts {s : Schema} {values : Settings} (h : s.accepts values = true)
    {k : String} {f : Field} (hf : (k, f) ∈ s.fields) {v : String} (hv : values.given? k = some v) :
    f.objection? v = none := by
  obtain ⟨hget, hblank⟩ := Option.filter_eq_some_iff.mp hv
  have hnone : f.check (values.get? k) = none := by
    have hall := List.isEmpty_iff.mp h
    rw [Schema.violations, List.filterMap_eq_nil_iff] at hall
    simpa using hall _ hf
  have hgiven : Text.allBlank v = false := by simpa using hblank
  rwa [hget, Field.check, hgiven] at hnone

/-- What holds of the default, and of whatever the field has nothing against, holds of the value
that counts. -/
theorem Schema.value?_of_accepts {s : Schema} {values : Settings} (h : s.accepts values = true)
    {k default : String} {f : Field} (hf : (k, f) ∈ s.fields)
    (hdefault : s.defaults.get? k = some default) {P : String → Prop} (hP : P default)
    (hgiven : ∀ v, f.objection? v = none → P v) :
    ∃ v, s.value? values k = some v ∧ P v := by
  rw [value?, hdefault]
  cases hv : values.given? k with
  | none => exact ⟨default, rfl, hP⟩
  | some v => exact ⟨v, rfl, hgiven v (objection?_of_accepts h hf hv)⟩

/-! ## Chat -/

namespace Chat

theorem history_limit_mem : ("history_limit",
    ⟨.number, "Messages to keep", false, some defaultLimit, some checkLimit⟩) ∈ schema.fields :=
  .head _

theorem history_limit_default : schema.defaults.get? "history_limit" = some defaultLimit := by
  decide

theorem readLimit_of_check {v : String} (h : checkLimit v = none) : ∃ n, readLimit v = .ok n := by
  unfold checkLimit at h
  cases hr : readLimit v with
  | error e => simp [hr] at h
  | ok n => exact ⟨n, rfl⟩

theorem limit_of_accepts {s : Settings} (h : schema.accepts s = true) :
    ∃ v, schema.value? s "history_limit" = some v ∧ ∃ n, readLimit v = .ok n :=
  Schema.value?_of_accepts h history_limit_mem history_limit_default ⟨50, by decide⟩ fun _ ho =>
    readLimit_of_check ((Field.objection?_eq_none.mp ho).2 _ rfl)

/-- The panel tells the number that was read of the limit that counts. -/
def Faithful (s : Settings) (text : String) : Prop :=
  ∃ head v n, schema.value? s "history_limit" = some v ∧ readLimit v = .ok n ∧
    text = head ++ "\nKeeping the last " ++ toString n ++ " messages."

theorem panelText_of_blank {c : Context} (h : c.settings.BlankAt "history_limit") :
    panelText c = .error ("invalid history_limit: " ++ Text.WholeError.empty.message) := by
  obtain ⟨v, hv, hblank⟩ := h
  rw [panelText, hv, Option.getD_some, readLimit, Text.readWhole_of_allBlank _ hblank]

theorem panelText_of_limit {c : Context} (hb : ¬ c.settings.BlankAt "history_limit") {v : String}
    {n : Nat} (hv : schema.value? c.settings "history_limit" = some v) (hn : readLimit v = .ok n) :
    ∃ head, panelText c =
      .ok (head ++ "\nKeeping the last " ++ toString n ++ " messages.") := by
  have hget : (c.settings.get? "history_limit").getD defaultLimit = v := by
    rw [Settings.get?_of_not_blankAt hb, ← Option.some_inj, ← hv, Schema.value?,
      history_limit_default, Option.or_some]
  rw [panelText, hget, hn]
  exact ⟨_, rfl⟩

/-- An accepted limit can be read unless it is blank. -/
theorem error_iff {c : Context} (h : schema.accepts c.settings = true) :
    (∃ message, panelText c = .error message) ↔ c.settings.BlankAt "history_limit" := by
  by_cases hb : c.settings.BlankAt "history_limit"
  · exact iff_of_true ⟨_, panelText_of_blank hb⟩ hb
  obtain ⟨v, hv, n, hn⟩ := limit_of_accepts h
  obtain ⟨head, ht⟩ := panelText_of_limit hb hv hn
  refine iff_of_false ?_ hb
  rintro ⟨message, he⟩
  cases ht.symm.trans he

theorem faithful_iff {c : Context} (h : schema.accepts c.settings = true) :
    (∃ text, panelText c = .ok text ∧ Faithful c.settings text) ↔
      ¬ c.settings.BlankAt "history_limit" := by
  constructor
  · rintro ⟨text, ht, -⟩ hb
    rw [panelText_of_blank hb] at ht
    cases ht
  · intro hb
    obtain ⟨v, hv, n, hn⟩ := limit_of_accepts h
    obtain ⟨head, ht⟩ := panelText_of_limit hb hv hn
    exact ⟨_, ht, head, v, n, hv, hn, rfl⟩

end Chat

/-! ## Drive -/

namespace Drive

theorem page_size_mem : ("page_size",
    ⟨.number, "Files per page", false, some "25", some checkPageSize⟩) ∈ schema.fields :=
  .tail _ (.tail _ (.head _))

theorem view_mode_mem : ("view_mode",
    ⟨.select viewModes, "View mode", false, some "list", none⟩) ∈ schema.fields :=
  .tail _ (.head _)

theorem page_size_default : schema.defaults.get? "page_size" = some "25" := by decide

theorem view_mode_default : schema.defaults.get? "view_mode" = some "list" := by decide

theorem show_hidden_default : schema.defaults.get? "show_hidden" = some "false" := by decide

theorem readPageSize_of_check {v : String} (h : checkPageSize v = none) :
    ∃ n, readPageSize v = .ok n := by
  unfold checkPageSize at h
  cases hr : readPageSize v with
  | error e => simp [hr] at h
  | ok n => exact ⟨n, rfl⟩

theorem size_of_accepts {s : Settings} (h : schema.accepts s = true) :
    ∃ v, schema.value? s "page_size" = some v ∧ ∃ n, readPageSize v = .ok n :=
  Schema.value?_of_accepts h page_size_mem page_size_default ⟨25, by decide⟩ fun _ ho =>
    readPageSize_of_check ((Field.objection?_eq_none.mp ho).2 _ rfl)

theorem mode_of_accepts {s : Settings} (h : schema.accepts s = true) :
    ∃ mode, schema.value? s "view_mode" = some mode ∧ mode ∈ viewModes := by
  refine Schema.value?_of_accepts h view_mode_mem view_mode_default (by decide) fun v ho => ?_
  have ht := (Field.objection?_eq_none.mp ho).1
  simpa [FieldType.objection?] using ht

theorem not_mem_of_allBlank {v : String} (h : Text.allBlank v = true) : v ∉ viewModes := by
  intro hv
  have hall : ∀ mode ∈ viewModes, Text.allBlank mode = false := by decide
  rw [hall v hv] at h
  cases h

/-! ### The settings of the panel -/

theorem setting_effective (c : Context) (k : String) :
    setting (effective c) k = ((c.settings.get? k).or (schema.defaults.get? k)).getD "" := by
  rw [setting, effective, Settings.get?_overlay]

theorem setting_of_get? {c : Context} {k v : String} (h : c.settings.get? k = some v) :
    setting (effective c) k = v := by
  rw [setting_effective, h, Option.some_or, Option.getD_some]

/-- Unless it is blank, the panel goes by the value that counts. -/
theorem setting_of_not_blank {c : Context} {k v : String} (hb : ¬ c.settings.BlankAt k)
    (hv : schema.value? c.settings k = some v) : setting (effective c) k = v := by
  rw [setting_effective, Settings.get?_of_not_blankAt hb, ← Schema.value?, hv, Option.getD_some]

/-- What the panel says of hidden files. -/
def hiddenText (shown : Bool) : String := if shown then ", hidden files shown" else ""

/-- The settings say that hidden files are shown, if blanks around a value do not matter. -/
def ShowsHidden (s : Settings) : Bool := Text.trim ((s.get? "show_hidden").getD "") == "true"

/-- The value that says so has blanks around it. -/
def Padded (s : Settings) : Prop :=
  ∃ v, s.get? "show_hidden" = some v ∧ v ≠ "true" ∧ Text.trim v = "true"

instance (s : Settings) : Decidable (Padded s) :=
  decidable_of_iff ((s.get? "show_hidden").any fun v => v != "true" && Text.trim v == "true")
    (by simp [Padded, Option.any_eq_true])

theorem hidden_of_padded {c : Context} (h : Padded c.settings) :
    (setting (effective c) "show_hidden" == "true") = false ∧ ShowsHidden c.settings = true := by
  obtain ⟨v, hv, hne, ht⟩ := h
  rw [setting_of_get? hv, ShowsHidden, hv, Option.getD_some, ht]
  exact ⟨by simpa using hne, rfl⟩

theorem hidden_of_not_padded {c : Context} (h : ¬ Padded c.settings) :
    (setting (effective c) "show_hidden" == "true") = ShowsHidden c.settings := by
  cases hv : c.settings.get? "show_hidden" with
  | none =>
    rw [setting_effective, ShowsHidden, hv, show_hidden_default]
    decide
  | some v =>
    rw [setting_of_get? hv, ShowsHidden, hv, Option.getD_some, Bool.eq_iff_iff, beq_iff_eq,
      beq_iff_eq]
    constructor
    · rintro rfl
      decide
    · intro ht
      by_contra hne
      exact h ⟨v, hv, hne, ht⟩

/-! ### The text of the panel -/

theorem panelText_of_blank_size {c : Context} {v : String}
    (hv : c.settings.get? "page_size" = some v) (hb : Text.allBlank v = true) :
    panelText c =
      .error ("invalid page_size '" ++ v ++ "': " ++ Text.WholeError.empty.message) := by
  simp only [panelText, setting_of_get? hv, readPageSize, Text.readWhole_of_allBlank _ hb]

theorem panelText_of_blank_mode {c : Context} {v : String} {n : Nat}
    (hn : readPageSize (setting (effective c) "page_size") = .ok n)
    (hv : c.settings.get? "view_mode" = some v) (hb : Text.allBlank v = true) :
    panelText c = .error ("unknown view_mode '" ++ v ++ "'") := by
  have hc : viewModes.contains v = false := by simpa using not_mem_of_allBlank hb
  simp only [panelText, hn, setting_of_get? hv, hc]
  rfl

theorem panelText_of_mode {c : Context} {mode : String} {n : Nat}
    (hn : readPageSize (setting (effective c) "page_size") = .ok n)
    (hm : setting (effective c) "view_mode" = mode) (hmode : mode ∈ viewModes) :
    ∃ head, panelText c = .ok (head ++ "\n" ++ mode ++ " view, " ++ toString n ++
      " files per page" ++ hiddenText (setting (effective c) "show_hidden" == "true")) := by
  have hc : viewModes.contains mode = true := by simpa using hmode
  simp only [panelText, hn, hm, hc]
  exact ⟨_, rfl⟩

/-- The panel tells the number that was read of the size that counts, the mode that counts, and
whether hidden files are shown. -/
def Faithful (s : Settings) (text : String) : Prop :=
  ∃ head v n mode, schema.value? s "page_size" = some v ∧ readPageSize v = .ok n ∧
    schema.value? s "view_mode" = some mode ∧ mode ∈ viewModes ∧
    text = head ++ "\n" ++ mode ++ " view, " ++ toString n ++ " files per page" ++
      hiddenText (ShowsHidden s)

/-- The texts with and without hidden files end in different characters. -/
theorem shown_ne (a b : String) : a ++ " files per page" ≠ b ++ ", hidden files shown" := by
  intro h
  have hlast := congrArg (fun s => s.toList.getLast?) h
  simp at hlast

/-- Accepted settings are told of unless a number or a mode is blank. -/
theorem error_iff {c : Context} (h : schema.accepts c.settings = true) :
    (∃ message, panelText c = .error message) ↔
      c.settings.BlankAt "page_size" ∨ c.settings.BlankAt "view_mode" := by
  by_cases hsize : c.settings.BlankAt "page_size"
  · obtain ⟨v, hv, hb⟩ := hsize
    exact iff_of_true ⟨_, panelText_of_blank_size hv hb⟩ (.inl ⟨v, hv, hb⟩)
  obtain ⟨v, hv, n, hn⟩ := size_of_accepts h
  rw [← setting_of_not_blank hsize hv] at hn
  by_cases hview : c.settings.BlankAt "view_mode"
  · obtain ⟨v, hv, hb⟩ := hview
    exact iff_of_true ⟨_, panelText_of_blank_mode hn hv hb⟩ (.inr ⟨v, hv, hb⟩)
  obtain ⟨mode, hmode, hmem⟩ := mode_of_accepts h
  obtain ⟨head, ht⟩ := panelText_of_mode hn (setting_of_not_blank hview hmode) hmem
  refine iff_of_false ?_ (not_or.mpr ⟨hsize, hview⟩)
  rintro ⟨message, he⟩
  cases ht.symm.trans he

theorem faithful_iff {c : Context} (h : schema.accepts c.settings = true) :
    (∃ text, panelText c = .ok text ∧ Faithful c.settings text) ↔
      ¬ (c.settings.BlankAt "page_size" ∨ c.settings.BlankAt "view_mode" ∨
        Padded c.settings) := by
  by_cases herror : c.settings.BlankAt "page_size" ∨ c.settings.BlankAt "view_mode"
  · obtain ⟨message, he⟩ := (error_iff h).mpr herror
    refine iff_of_false ?_ (not_not.mpr (or_assoc.mp (.inl herror)))
    rintro ⟨text, ht, -⟩
    cases ht.symm.trans he
  rw [← or_assoc, or_iff_right herror]
  obtain ⟨hsize, hview⟩ := not_or.mp herror
  obtain ⟨v, hv, n, hn⟩ := size_of_accepts h
  obtain ⟨mode, hmode, hmem⟩ := mode_of_accepts h
  obtain ⟨head, ht⟩ := panelText_of_mode (by rw [setting_of_not_blank hsize hv, hn])
    (setting_of_not_blank hview hmode) hmem
  constructor
  · rintro ⟨text, ht', head', -, m, mode', -, -, -, -, rfl⟩ hpad
    obtain ⟨hunsaid, hmeant⟩ := hidden_of_padded hpad
    rw [ht, hunsaid, hmeant] at ht'
    exact shown_ne _ _ (by simpa [hiddenText] using ht')
  · intro hpad
    rw [hidden_of_not_padded hpad] at ht
    exact ⟨_, ht, head, v, n, mode, hv, hn, hmode, hmem, rfl⟩

end Drive

/-! ## What is seen -/

/-- The plugins that come with the host. -/
inductive Core
  | chat
  | drive

namespace Core

def definition : Core → Definition Code
  | .chat => Chat.definition
  | .drive => Drive.definition

def panelText : Core → Context → Except String String
  | .chat => Chat.panelText
  | .drive => Drive.panelText

/-- What the panel has to show for settings that were accepted. -/
def Faithful : Core → Settings → String → Prop
  | .chat => Chat.Faithful
  | .drive => Drive.Faithful

/-- A value for which the schema takes the default, and which the panel tries to read. -/
def Unreadable : Core → Settings → Prop
  | .chat, s => s.BlankAt "history_limit"
  | .drive, s => s.BlankAt "page_size" ∨ s.BlankAt "view_mode"

/-- A value that the schema and the panel understand differently. -/
def Mistaken : Core → Settings → Prop
  | .chat, _ => False
  | .drive, s => Drive.Padded s

instance : (plugin : Core) → (s : Settings) → Decidable (plugin.Unreadable s)
  | .chat, s => inferInstanceAs (Decidable (s.BlankAt "history_limit"))
  | .drive, s => inferInstanceAs (Decidable (s.BlankAt "page_size" ∨ s.BlankAt "view_mode"))

instance : (plugin : Core) → (s : Settings) → Decidable (plugin.Mistaken s)
  | .chat, _ => inferInstanceAs (Decidable False)
  | .drive, s => inferInstanceAs (Decidable (Drive.Padded s))

theorem isText (plugin : Core) : plugin.definition.IsText plugin.panelText := by
  cases plugin <;> exact ⟨rfl, rfl⟩

def schema : Core → Schema
  | .chat => Chat.schema
  | .drive => Drive.schema

theorem schema_definition (plugin : Core) : plugin.definition.schema = some plugin.schema := by
  cases plugin with
  | chat => rw [definition, schema, Chat.definition]
  | drive => rw [definition, schema, Drive.definition]

section
variable {plugin : Core} {c : Context} (h : plugin.schema.accepts c.settings = true)
include h

theorem error_iff : (∃ message, plugin.panelText c = .error message) ↔
    plugin.Unreadable c.settings := by
  cases plugin with
  | chat => exact Chat.error_iff (c := c) h
  | drive => exact Drive.error_iff (c := c) h

theorem faithful_iff : (∃ text, plugin.panelText c = .ok text ∧ plugin.Faithful c.settings text) ↔
    ¬ plugin.Unreadable c.settings ∧ ¬ plugin.Mistaken c.settings := by
  rw [← not_or]
  cases plugin with
  | chat => exact (Chat.faithful_iff h).trans (not_congr (or_iff_left id).symm)
  | drive => exact (Drive.faithful_iff h).trans (not_congr or_assoc.symm)

end

/-- For accepted settings the panel of a plugin shows what was accepted, unless a number or a mode is
blank, or `true` has blanks around it. The panel fails exactly on a blank number or mode. -/
theorem accepted_shown_iff (plugin : Core) (serve : Server Host) {p : Panel} {h : Host}
    {schema : Schema} {s : Settings} (hp : p.Shows plugin.definition h)
    (hs : plugin.definition.schema = some schema)
    (hsettings : (h.sessionAt p.session).settingsOf p.name = s) (ha : schema.accepts s = true) :
    ((∃ text q h', start (Panel.view serve) (p, h) = some (.ok (.content p.name text), q, h') ∧
        plugin.Faithful s text) ↔ ¬ plugin.Unreadable s ∧ ¬ plugin.Mistaken s) ∧
    Ends (Panel.view serve) (p, h) fun r _ =>
      ∃ v, r = .ok v ∧ (v.isError = true ↔ plugin.Unreadable s) := by
  subst hsettings
  obtain rfl := Option.some.inj ((schema_definition plugin).symm.trans hs)
  let c := (h.sessionAt p.session).context p.session p.name
  have hcontent := fun text => Panel.view_content_iff plugin.isText serve hp text
  constructor
  · refine Iff.trans ?_ (faithful_iff (c := c) ha)
    constructor
    · rintro ⟨text, q, h', e, hf⟩
      exact ⟨text, (hcontent text).mp ⟨q, h', e⟩, hf⟩
    · rintro ⟨text, ht, hf⟩
      obtain ⟨q, h', e⟩ := (hcontent text).mpr ht
      exact ⟨text, q, h', e, hf⟩
  · have herror := error_iff (c := c) ha
    cases ht : plugin.panelText c with
    | ok text =>
      obtain ⟨q, h', e⟩ := (hcontent text).mpr ht
      refine (ends_of_start e).mpr ⟨_, rfl, iff_of_false Bool.false_ne_true fun hu => ?_⟩
      obtain ⟨message, he⟩ := herror.mpr hu
      cases ht.symm.trans he
    | error message =>
      refine (Panel.view_ends_of_error plugin.isText serve hp ht).mono fun r t hr => ?_
      exact ⟨_, hr.1, iff_of_true rfl (herror.mp ⟨message, ht⟩)⟩

/-! ### Panels for one user -/

theorem check_definition (plugin : Core) : plugin.definition.check = .ok () := by
  cases plugin <;> decide

/-- A host with this plugin, enabled for its user with these settings. -/
def host (plugin : Core) (settings : Settings) : Host :=
  { Host.new .default .ignore (.memory .empty) .unreachable with
    registry := ((Registry.empty .ignore).install ⟨plugin.definition, 1⟩ plugin.check_definition).2
    sessions := [{ Session.new (some "ada") with
      entries := [⟨plugin.definition.name, true, settings, true⟩] }]
    lastSerial := 1 }

/-- A new panel of the plugin for its user. -/
def created (plugin : Core) : Panel where
  name := plugin.definition.name
  surface := .main
  session := 0
  serial := 2
  stage := .resolving
  transitions := [.resolving]
  installed := none
  component := none
  failure := none
  initFired := false
  loads := 0
  subscriptions := []

theorem created_shows (plugin : Core) (settings : Settings) :
    plugin.created.Shows plugin.definition (plugin.host settings) := by
  refine .inl ⟨rfl, .inl rfl, ⟨1, ?_⟩, ?_⟩
  · cases plugin <;> rfl
  · cases plugin <;> rfl

/-- A blank limit is accepted, and the panel fails on it. -/
theorem blank_limit_fails :
    let settings := Settings.ofList [("history_limit", " ")]
    Chat.schema.accepts settings = true ∧
    (start (Panel.view (Host.server 1)) (chat.created, chat.host settings)).map Prod.fst =
      some (.ok (.errored "chat" "invalid history_limit: cannot parse integer from empty string"
        Panel.reloadHint)) :=
  ⟨by decide, rfl⟩

/-- A grid with twenty files a page, hidden ones left out. -/
theorem accepted_shown_iff_grid :
    let settings := Settings.ofList
      [("page_size", " 20 "), ("view_mode", "grid"), ("show_hidden", " false ")]
    ∃ text q h', start (Panel.view (Host.server 1)) (drive.created, drive.host settings) =
        some (.ok (.content "drive" text), q, h') ∧
      drive.Faithful settings text ∧
      text = "Drive (not linked)\nFolder: root\ngrid view, 20 files per page" := by
  intro settings
  have hp : Panel.Shows drive.definition drive.created (drive.host settings) :=
    drive.created_shows settings
  have hsettings : ((drive.host settings).sessionAt drive.created.session).settingsOf
      drive.created.name = settings := rfl
  have ha : drive.schema.accepts settings = true := by decide
  obtain ⟨hiff, -⟩ := accepted_shown_iff drive (Host.server 1) hp drive.schema_definition
    hsettings ha
  obtain ⟨text, q, h', e, hf⟩ := hiff.mpr ⟨by decide, by decide⟩
  have hseen : (start (Panel.view (Host.server 1)) (drive.created, drive.host settings)).map
      Prod.fst = some (.ok (.content "drive"
        "Drive (not linked)\nFolder: root\ngrid view, 20 files per page")) := by decide +kernel
  rw [e] at hseen
  obtain ⟨-, htext⟩ : drive.created.name = "drive" ∧ text = _ := by simpa using hseen
  exact ⟨text, q, h', e, hf, htext⟩

end Core
end Plugboard
