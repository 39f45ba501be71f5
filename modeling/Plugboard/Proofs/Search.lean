import Plugboard.Code
import Plugboard.Proofs.Sidebar
import Plugboard.Proofs.Text.Blank
import Plugboard.Proofs.Text.Lowercase

/-!
Searching a registry. A search lists the plugins that match, in the order of the places of their
names. It looks for the query in lower case, so what has the query in it as it was typed may still be
missed: a capital sigma at an end of the query may be lowered to the other small sigma in the text.

* `Definition.Mentions`: the query stands in one of the texts as it is.
* `Definition.isMatch_of_mentions_iff`: it is found wherever it stands exactly if it is settled.
* `Registry.Found`: what a search lists. `Registry.search_found`: it does so.
* `Registry.search_complete_iff`: it lists all mentions exactly if the query is settled.
-/
namespace Plugboard

/-! ## One definition -/

namespace Definition

/-- The query stands in the name, the display name, the description or a tag. -/
def Mentions (d : Definition Code) (query : String) : Prop :=
  ∃ text, (text = d.name ∨ text = d.displayName ∨ text = d.description ∨ text ∈ d.tags) ∧
    query.toList <:+: text.toList

theorem isMatch_iff {d : Definition Code} {query : String} : d.isMatch query = true ↔
    ∃ text ∈ d.searchTexts, Text.lowerChars query.toList <:+: Text.lowerChars text.toList := by
  simp only [isMatch, List.any_eq_true, Text.occursIn_iff]

theorem isMatch_of_mentions {d : Definition Code} {query : String}
    (hq : Text.Settled query.toList) (h : d.Mentions query) : d.isMatch query = true := by
  obtain ⟨text, htext, hpart⟩ := h
  refine isMatch_iff.mpr ⟨text, ?_, (Text.infix_lowerChars_iff _).mpr hq _ hpart⟩
  simpa [searchTexts] using htext

/-- A definition that can be registered, with nothing to be found but its description. -/
def described (description : String) : Definition Code :=
  { Definition.plain "x" "x" with
    description := description
    panel := some (.ofText fun _ => .ok "") }

theorem check_described (description : String) : (described description).check = .ok () := by
  have hname : PluginName.check "x" = .ok () := by decide
  have hcaption : Text.allBlank "x" = false := by decide
  simp [check, described, plain, hname, hcaption]

/-- Nothing else of it matches a query with a capital sigma. -/
theorem not_isMatch_described {query text : String} (hsigma : 'Σ' ∈ query.toList)
    (hmiss : ¬ Text.lowerChars query.toList <:+: Text.lowerChars text.toList) :
    (described text).isMatch query ≠ true := by
  rw [Ne, isMatch_iff]
  rintro ⟨other, hother, hpart⟩
  have hname : ¬ Text.lowerChars query.toList <:+: Text.lowerChars "x".toList := by
    obtain ⟨cs₁, cs₂, hquery⟩ := List.append_of_mem hsigma
    have hx : Text.lowerChars "x".toList = ['x'] := rfl
    rw [hquery, hx]
    intro h
    rcases Text.small_mem_lowerChars cs₁ cs₂ with hmem | hmem <;> simpa using h.subset hmem
  have hcases : other = "x" ∨ other = "x" ∨ other = text := by
    simpa [searchTexts, described, plain] using hother
  rcases hcases with rfl | rfl | rfl
  · exact hname hpart
  · exact hname hpart
  · exact hmiss hpart

/-- What has a query in it that is not settled can be missed. -/
theorem exists_missed {query : String} (hq : ¬ Text.Settled query.toList) :
    ∃ text, (described text).Mentions query ∧ (described text).isMatch query ≠ true := by
  have hsigma : 'Σ' ∈ query.toList := by
    by_contra hnot
    exact hq (Text.settled_of_not_mem hnot)
  rw [← Text.infix_lowerChars_iff, not_forall] at hq
  obtain ⟨cs, hcs⟩ := hq
  obtain ⟨hpart, hmiss⟩ := Classical.not_imp.mp hcs
  have htext : (String.ofList cs).toList = cs := String.toList_ofList
  refine ⟨String.ofList cs, ⟨_, .inr (.inr (.inl rfl)), ?_⟩, not_isMatch_described hsigma ?_⟩
  · rwa [show (described (String.ofList cs)).description = String.ofList cs from rfl, htext]
  · rwa [htext]

theorem isMatch_of_mentions_iff (query : String) :
    (∀ d : Definition Code, d.Mentions query → d.isMatch query = true) ↔
      Text.Settled query.toList := by
  constructor
  · intro h
    by_contra hq
    obtain ⟨text, hmentions, hmiss⟩ := exists_missed hq
    exact hmiss (h _ hmentions)
  · exact fun hq _ h => isMatch_of_mentions hq h

end Definition

/-! ## The registry -/

namespace Registry

/-- These are the plugins that match after these changes, each once, by the places of their names. -/
structure Found (policy : DuplicatePolicy) (changes : List (Change Code)) (query : String)
    (plugins : List (Installed Code)) : Prop where
  mem : ∀ p, p ∈ plugins ↔
    (replay policy changes).get? p.name = some p ∧ p.definition.isMatch query = true
  once : (plugins.map Installed.name).Nodup
  sorted : plugins.Pairwise fun p q =>
    ∃ k l, Since policy changes p.name k ∧ Since policy changes q.name l ∧ k < l

theorem search_found (policy : DuplicatePolicy) (changes : List (Change Code)) (query : String) :
    Found policy changes query ((replay policy changes).search query) := by
  have hmem : ∀ p, p ∈ (replay policy changes).search query ↔
      (replay policy changes).get? p.name = some p ∧ p.definition.isMatch query = true := by
    intro p
    rw [search, List.mem_filter, mem_plugins_iff]
  refine ⟨hmem, ?_, ?_⟩
  · refine List.Nodup.sublist (List.filter_sublist.map _) ?_
    rw [names_plugins]
    exact (replay policy changes).distinct
  · refine ((plugins_sorted policy changes).filter _).imp_of_mem fun {p q} hp hq hlt => ?_
    obtain ⟨k, hk⟩ := exists_since ((hmem p).mp hp).1
    obtain ⟨l, hl⟩ := exists_since ((hmem q).mp hq).1
    exact ⟨k, l, hk, hl, hlt k l hk hl⟩

theorem get?_described (text : String) (serial : Nat) :
    (replay .ignore [.register ⟨Definition.described text, serial⟩]).get? "x" =
      some ⟨Definition.described text, serial⟩ := by
  have hcheck : (Installed.mk (Definition.described text) serial).definition.check = .ok () :=
    Definition.check_described text
  rw [replay, List.foldl_cons, List.foldl_nil, change, register_of_check hcheck]
  exact (Table.get?_put ..).trans (if_pos rfl)

/-- A search lists every plugin that mentions the query, whatever was registered, exactly if the
query is settled, and so does a match find every mention. What it lists matches, once each, in the
order in which the names were registered. -/
theorem search_complete_iff (query : String) :
    ((∀ d : Definition Code, d.Mentions query → d.isMatch query = true) ↔
      Text.Settled query.toList) ∧
    ((∀ policy changes p, (replay policy changes).get? p.name = some p →
      p.definition.Mentions query → p ∈ (replay policy changes).search query) ↔
      Text.Settled query.toList) ∧
    ∀ policy changes, Found policy changes query ((replay policy changes).search query) := by
  refine ⟨Definition.isMatch_of_mentions_iff query, ⟨fun h => ?_, fun hq policy changes p hp hm => ?_⟩,
    fun policy changes => search_found policy changes query⟩
  · by_contra hq
    obtain ⟨text, hmentions, hmiss⟩ := Definition.exists_missed hq
    let p : Installed Code := ⟨Definition.described text, 0⟩
    have hget : (replay .ignore [.register p]).get? p.name = some p := get?_described text 0
    have hfound := (search_found .ignore [.register p] query).mem p
    exact hmiss (hfound.mp (h .ignore [.register p] p hget hmentions)).2
  · exact ((search_found policy changes query).mem p).mpr
      ⟨hp, Definition.isMatch_of_mentions hq hm⟩

/-- A word's last capital sigma is not found by itself: the text has a final sigma there. -/
theorem final_sigma_missed :
    let p : Installed Code := ⟨Definition.described "ΟΔΟΣ", 0⟩
    (replay .ignore [.register p]).get? "x" = some p ∧ p.definition.Mentions "Σ" ∧
      p.definition.isMatch "Σ" = false ∧ (replay .ignore [.register p]).search "Σ" = [] :=
  ⟨get?_described "ΟΔΟΣ" 0, ⟨_, .inr (.inr (.inl rfl)), by decide⟩, by decide +kernel, by decide +kernel⟩

end Registry
end Plugboard
