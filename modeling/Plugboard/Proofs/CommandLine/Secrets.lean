import Plugboard.Core.Drive
import Plugboard.Proofs.CommandLine.Opening

/-!
Secrets do not show: what is printed and what is rendered is the same for any two users whose
settings differ in nothing but secrets that both of them have.

* `Schema.Hides`: the keys whose values are secrets.
* `Settings.AlikeFor`: settings that differ in nothing but such values.
* `settingsLines_alike`, `Drive.panelText_alike`, `Drive.settingsText_alike`: they are shown alike.
* `secrets_hidden`: so nothing of a secret comes out of the command, the panel or the settings page.
-/
namespace Plugboard

open Run

/-- The schema has the key for secrets. A schema that is put together field by field has at most one
field for a key. -/
def Schema.Hides (s : Schema) (k : String) : Prop :=
  (∃ p ∈ s.fields, p.1 = k) ∧ ∀ p ∈ s.fields, p.1 = k → p.2.type = .secret

instance (s : Schema) (k : String) : Decidable (s.Hides k) :=
  inferInstanceAs (Decidable (_ ∧ _))

namespace Settings

/-- Settings with the same keys that agree on all of them but secrets. A secret is empty in neither. -/
def AlikeFor (schema : Schema) (s t : Settings) : Prop :=
  ∀ k, s.get? k = t.get? k ∨
    schema.Hides k ∧ ∃ v w, s.get? k = some v ∧ t.get? k = some w ∧ v ≠ "" ∧ w ≠ ""

variable {schema : Schema} {s t : Settings}

theorem AlikeFor.get?_eq (h : AlikeFor schema s t) {k : String} (hk : ¬ schema.Hides k) :
    s.get? k = t.get? k := (h k).resolve_right fun hs => hk hs.1

/-- Two secrets for one key. -/
theorem alikeFor_insert (s : Settings) {k v w : String} (hk : schema.Hides k) (hv : v ≠ "")
    (hw : w ≠ "") : AlikeFor schema (s.insert k v) (s.insert k w) := by
  intro j
  rw [get?_insert, get?_insert]
  by_cases hj : k = j
  · subst hj
    rw [if_pos rfl, if_pos rfl]
    exact .inr ⟨hk, v, w, rfl, rfl, hv, hw⟩
  · rw [if_neg hj, if_neg hj]
    exact .inl rfl

theorem lookup_filter (p : String → Bool) (k : String) (l : List (String × String)) :
    lookup k (l.filter fun e => p e.1) = if p k then lookup k l else none := by
  induction l with
  | nil => simp [lookup]
  | cons e rest ih =>
    rw [List.filter_cons]
    by_cases hk : e.1 = k
    · subst hk
      by_cases hp : p e.1 = true
      · simp [hp, lookup]
      · simp [hp, ih]
    · by_cases hp : p e.1 = true
      · simp [hp, lookup, hk, ih]
      · simp [hp, lookup, hk, ih]

/-- Settings that agree on some keys have the same entries for them. -/
theorem entries_filter_eq (p : String → Bool) (h : ∀ k, p k = true → s.get? k = t.get? k) :
    (s.entries.filter fun e => p e.1) = t.entries.filter fun e => p e.1 := by
  refine eq_of_lookup (s.ascending.filter _) (t.ascending.filter _) fun k => ?_
  rw [lookup_filter, lookup_filter]
  by_cases hp : p k = true
  · rw [if_pos hp, if_pos hp]
    exact h k hp
  · rw [if_neg hp, if_neg hp]

end Settings

/-! ## What is printed -/

namespace CommandLine

theorem maskedValue_secret {v : String} (hv : v ≠ "") : maskedValue .secret v = masked := by
  simp [maskedValue, hv]

variable {s t : Settings}

theorem fieldLine_alike {schema : Schema} (h : s.AlikeFor schema t) {p : String × Field}
    (hp : p ∈ schema.fields) : fieldLine s p.1 p.2 = fieldLine t p.1 p.2 := by
  rcases h p.1 with hget | ⟨⟨-, hsecret⟩, v, w, hv, hw, hne, hne'⟩
  · rw [fieldLine, fieldLine, hget]
  · simp only [fieldLine, hv, hw, hsecret p hp rfl, maskedValue_secret hne,
      maskedValue_secret hne']

/-- A key that no field has is no secret. -/
theorem not_hides_of_isNone {schema : Schema} {k : String}
    (hk : (schema.get? k).isNone = true) : ¬ schema.Hides k := by
  rintro ⟨⟨p, hp, rfl⟩, -⟩
  have hsome : (schema.get? p.1).isSome = true :=
    (Table.get?_isSome_iff _ _).mpr (List.mem_map_of_mem hp)
  rw [Option.isNone_iff_eq_none.mp hk] at hsome
  cases hsome

theorem settingsLines_alike {schema : Option Schema} (h : s.AlikeFor (schema.getD .empty) t) :
    settingsLines schema s = settingsLines schema t := by
  cases schema with
  | none =>
    have heq : s = t := Settings.eq_of_get? fun k => h.get?_eq (by simp [Schema.Hides, Schema.empty])
    rw [heq]
  | some schema =>
    have hfields : (schema.fields.map fun p => fieldLine s p.1 p.2) =
        schema.fields.map fun p => fieldLine t p.1 p.2 :=
      List.map_congr_left fun p hp => fieldLine_alike h hp
    have hothers := Settings.entries_filter_eq (fun k => (schema.get? k).isNone)
      fun k hk => h.get?_eq (not_hides_of_isNone hk)
    rw [settingsLines, settingsLines, hfields, hothers]

end CommandLine

/-! ## What is rendered -/

namespace Drive

variable {c c' : Context} (h : c.settings.AlikeFor schema c'.settings)
include h

theorem setting_alike (k : String) :
    setting (effective c) k = setting (effective c') k ∨ schema.Hides k ∧
      (setting (effective c) k).isEmpty = false ∧ (setting (effective c') k).isEmpty = false := by
  have hget : ∀ c : Context, setting (effective c) k =
      ((c.settings.get? k).or (schema.defaults.get? k)).getD "" := fun c => by
    rw [setting, effective, Settings.get?_overlay]
  rw [hget, hget]
  rcases h k with heq | ⟨hk, v, w, hv, hw, hne, hne'⟩
  · exact .inl (by rw [heq])
  · exact .inr ⟨hk, by simp [hv, hne], by simp [hw, hne']⟩

theorem setting_eq {k : String} (hk : ¬ schema.Hides k) :
    setting (effective c) k = setting (effective c') k :=
  (setting_alike h k).resolve_right fun hs => hk hs.1

/-- The panel tells of the key of the drive only whether there is one. -/
theorem panelText_alike : panelText c = panelText c' := by
  have hlinked : (setting (effective c) "api_key").isEmpty =
      (setting (effective c') "api_key").isEmpty := by
    rcases setting_alike h "api_key" with heq | ⟨-, hs, hs'⟩
    · rw [heq]
    · rw [hs, hs']
  simp only [panelText, setting_eq h (k := "page_size") (by decide),
    setting_eq h (k := "view_mode") (by decide), setting_eq h (k := "show_hidden") (by decide),
    setting_eq h (k := "root_folder") (by decide), hlinked]

theorem settingsText_alike : settingsText c = settingsText c' := by
  have hshown : ∀ p ∈ schema.fields, shown p.2 (setting (effective c) p.1) =
      shown p.2 (setting (effective c') p.1) := by
    intro p hp
    rcases setting_alike h p.1 with heq | ⟨⟨-, hsecret⟩, hs, hs'⟩
    · rw [heq]
    · simp [shown, hs, hs', hsecret p hp rfl]
  rw [settingsText, settingsText]
  refine congrArg (fun l => Except.ok ("\n".intercalate ("Drive settings" :: l))) ?_
  exact List.map_congr_left fun p hp => by rw [hshown p hp]

/-- Both components of the plugin render alike, text or failure. -/
theorem render_alike {component : Component Code}
    (hc : definition.panel = some component ∨ definition.settings = some component) :
    component.render c = component.render c' := by
  rcases hc with hc | hc
  · obtain rfl := Option.some.inj hc
    simp only [Component.ofText, panelText_alike h]
  · obtain rfl := Option.some.inj hc
    simp only [Component.ofText, settingsText_alike h]

end Drive

/-! ## Two users -/

/-- The answers of the store are the same failure, or entries whose settings for the plugin differ in
nothing but secrets. -/
inductive AlikeAnswers (schema : Schema) (plugin : String) :
    Except StorageError (List Entry) → Except StorageError (List Entry) → Prop
  | failed (e : StorageError) : AlikeAnswers schema plugin (.error e) (.error e)
  | loaded {l l' : List Entry}
    (h : (settingsIn l plugin).AlikeFor schema (settingsIn l' plugin)) :
    AlikeAnswers schema plugin (.ok l) (.ok l')

/-- Two hosts with the same plugins and the same token, whose stores have settings for the plugin that
differ in nothing but its secrets. -/
structure Host.AlikeFor (plugin : String) (h h' : Host) : Prop where
  registry : h'.registry = h.registry
  login : h'.config.token = h.config.token
  answers : ∀ token p answer answer' g g', h.config.token = some token →
    h.registry.get? plugin = some p →
    start (Host.fetch token) (h.opening token) = some (.ok answer, g) →
    start (Host.fetch token) (h'.opening token) = some (.ok answer', g') →
    AlikeAnswers (p.definition.schema.getD .empty) plugin answer answer'

namespace CommandLine

variable {play play' : Player} {plugin : String}

theorem start_settingsGet_of_opened {p : Installed Code} {token : String} {l : List Entry}
    {h h' : Host} (hr : h.registry.get? plugin = some p) (ho : Opened token (.ok l) h h')
    (e : start (openSession play) h = some (.ok (.ok h.sessions.length), h')) :
    start (settingsGet play plugin) h = some (.ok (.lines (("Config for '" ++ plugin ++ "':") ::
      settingsLines p.definition.schema (settingsIn l plugin))), h') := by
  have hsession : start (Host.session h.sessions.length) h' =
      some (.ok (.opened token (.ok l)), h') := by
    rw [← ho.session]
    rfl
  simp only [settingsGet, start_withPlugin hr, start_withSession e, start_bind, hsession,
    Session.settingsOf_opened, start_pure]

/-- The command prints the same, or fails alike. -/
theorem settingsGet_alike {h h' : Host} (ha : h.AlikeFor plugin h') :
    ∃ printed g g', start (settingsGet play plugin) h = some (.ok printed, g) ∧
      start (settingsGet play' plugin) h' = some (.ok printed, g') := by
  cases hr : h.registry.get? plugin with
  | none =>
    have hr' : h'.registry.get? plugin = none := by rw [ha.registry, hr]
    exact ⟨_, h, h', start_withPlugin_of_none hr _, start_withPlugin_of_none hr' _⟩
  | some p =>
    have hr' : h'.registry.get? plugin = some p := by rw [ha.registry, hr]
    cases hc : h.config.token with
    | none =>
      have hc' : h'.config.token = none := by rw [ha.login, hc]
      refine ⟨.failure (.other missingToken), h, h', ?_, ?_⟩
      · rw [settingsGet, start_withPlugin hr]
        exact start_withSession_of_error (start_openSession_of_none play hc) _
      · rw [settingsGet, start_withPlugin hr']
        exact start_withSession_of_error (start_openSession_of_none play' hc') _
    | some token =>
      have hc' : h'.config.token = some token := by rw [ha.login, hc]
      obtain ⟨answer, g, ho, e⟩ := start_openSession play hc
      obtain ⟨answer', g', ho', e'⟩ := start_openSession play' hc'
      obtain ⟨f, hf⟩ := ho.asked
      obtain ⟨f', hf'⟩ := ho'.asked
      cases ha.answers token p answer answer' f f' hc hr hf hf' with
      | failed cause =>
        refine ⟨.failure (.other (Session.failureText cause)), g, g', ?_, ?_⟩
        · rw [settingsGet, start_withPlugin hr]
          exact start_withSession_of_error e _
        · rw [settingsGet, start_withPlugin hr']
          exact start_withSession_of_error e' _
      | loaded hs =>
        refine ⟨_, g, g', start_settingsGet_of_opened hr ho e, ?_⟩
        rw [start_settingsGet_of_opened hr' ho' e', settingsLines_alike hs]

/-- Of two users whose settings differ in nothing but secrets, the command that shows settings prints
the same for both, and the panel and the settings page of the drive render the same. -/
theorem secrets_hidden (serve serve' : Server Host) {h h' : Host} (ha : h.AlikeFor plugin h')
    {c c' : Context} (hc : c.settings.AlikeFor Drive.schema c'.settings) :
    (∃ printed g g',
      start ((Command.settingsGet plugin).run serve) h = some (.ok printed, g) ∧
      start ((Command.settingsGet plugin).run serve') h' = some (.ok printed, g')) ∧
    ∀ component, Drive.definition.panel = some component ∨
        Drive.definition.settings = some component → component.render c = component.render c' :=
  ⟨settingsGet_alike ha, fun _ => Drive.render_alike hc⟩

/-- The settings of a user of the drive with this key. -/
def driveSettings (key : String) : Settings :=
  (Settings.ofList [("page_size", "50")]).insert "api_key" key

/-- The entries of a user of the drive with this key. -/
def driveEntries (key : String) : List Entry := [⟨"drive", true, driveSettings key, true⟩]

theorem driveSettings_alike {v w : String} (hv : v ≠ "") (hw : w ≠ "") :
    (driveSettings v).AlikeFor Drive.schema (driveSettings w) :=
  Settings.alikeFor_insert _ (by decide) hv hw

theorem driveHost_alike {v w : String} (hv : v ≠ "") (hw : w ≠ "") :
    (driveHost (driveEntries v)).AlikeFor "drive" (driveHost (driveEntries w)) := by
  refine ⟨rfl, rfl, fun token p answer answer' g g' hc hr e e' => ?_⟩
  cases hc
  cases hr
  obtain ⟨rfl, -⟩ := Host.fetched_of_memory rfl e
  obtain ⟨rfl, -⟩ := Host.fetched_of_memory rfl e'
  exact .loaded (driveSettings_alike hv hw)

/-- What is printed of it. -/
def driveLines : List String :=
  ["Config for 'drive':", "  root_folder = root (default)", "  view_mode = list (default)",
    "  page_size = 50", "  show_hidden = false (default)", "  api_key = ********"]

/-- Two keys for a drive. -/
theorem secrets_hidden_drive :
    let h := driveHost (driveEntries "s3cret")
    let h' := driveHost (driveEntries "hunter2")
    let c : Context := ⟨"drive", driveSettings "s3cret", some "ada", 0⟩
    let c' : Context := ⟨"drive", driveSettings "hunter2", some "ada", 0⟩
    h.AlikeFor "drive" h' ∧ c.settings.AlikeFor Drive.schema c'.settings ∧
    (∃ g g', start ((Command.settingsGet "drive").run (Host.server 1)) h =
          some (.ok (.lines driveLines), g) ∧
        start ((Command.settingsGet "drive").run (Host.server 1)) h' =
          some (.ok (.lines driveLines), g')) ∧
    (Component.ofText Drive.settingsText).render c =
      (Component.ofText Drive.settingsText).render c' := by
  intro h h' c c'
  have ha : h.AlikeFor "drive" h' := driveHost_alike (by decide) (by decide)
  have hc : c.settings.AlikeFor Drive.schema c'.settings :=
    driveSettings_alike (by decide) (by decide)
  obtain ⟨⟨printed, g, g', e, e'⟩, hrender⟩ :=
    secrets_hidden (Host.server 1) (Host.server 1) ha hc
  have hprinted : (start ((Command.settingsGet "drive").run (Host.server 1)) h).map Prod.fst =
      some (.ok (.lines driveLines)) := rfl
  rw [e] at hprinted
  cases hprinted
  exact ⟨ha, hc, ⟨g, g', e, e'⟩, hrender _ (.inr rfl)⟩

end CommandLine
end Plugboard
