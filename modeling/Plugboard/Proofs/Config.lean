import Plugboard.Config.Basic
import Plugboard.Proofs.Text.Blank

/-!
Where a checked configuration sends its requests. The check looks at the base address without the
blanks around it; the addresses of the backend are made from the base address as it is, without the
slashes at its end.

* `HostConfig.Root`: the scheme of the base address, and what is behind it.
* `HostConfig.Addresses`: an address of the backend is made of these two and a path.
* `checked_addresses_iff`: the checked configurations for which it is.
-/
namespace Plugboard

namespace HostConfig

/-- The scheme that the base address begins with, blanks around it apart, and what follows it up to
the slashes at its end. -/
def Root (c : HostConfig) (scheme rest : String) : Prop :=
  (scheme = "http://" ∨ scheme = "https://") ∧
    ∃ full, Text.trim c.baseUrl = scheme ++ full ∧ rest = Text.trimEndOf '/' full

/-- A path of the backend goes behind the scheme and what follows it, with one slash in between. -/
def Addresses (c : HostConfig) (path : String) : Prop :=
  ∃ scheme rest, c.Root scheme rest ∧ rest ≠ "" ∧
    c.apiUrl path = scheme ++ rest ++ "/" ++ Text.trimStartOf '/' path

theorem isWebAddress_iff {s : String} : isWebAddress s = true ↔
    ∃ scheme rest, (scheme = "http://" ∨ scheme = "https://") ∧ s = scheme ++ rest := by
  rw [isWebAddress, Bool.or_eq_true, Text.startsWith_iff, Text.startsWith_iff]
  constructor
  · rintro (⟨rest, rfl⟩ | ⟨rest, rfl⟩)
    · exact ⟨_, rest, .inl rfl, rfl⟩
    · exact ⟨_, rest, .inr rfl, rfl⟩
  · rintro ⟨_, rest, rfl | rfl, rfl⟩
    · exact .inl ⟨rest, rfl⟩
    · exact .inr ⟨rest, rfl⟩

variable {c : HostConfig}

theorem check_eq_ok : c.check = .ok () ↔
    isWebAddress (Text.trim c.baseUrl) = true ∧ Text.trimOf '/' c.apiRoot ≠ "" := by
  rw [check]
  cases isWebAddress (Text.trim c.baseUrl) with
  | false => simp
  | true => by_cases h : Text.trimOf '/' c.apiRoot = "" <;> simp [h]

theorem Root.unique {scheme scheme' rest rest' : String} (hr : c.Root scheme rest)
    (hr' : c.Root scheme' rest') : scheme' = scheme ∧ rest' = rest := by
  obtain ⟨hscheme, full, hfull, rfl⟩ := hr
  obtain ⟨hscheme', full', hfull', rfl⟩ := hr'
  have he : scheme.toList ++ full.toList = scheme'.toList ++ full'.toList := by
    rw [← String.toList_append, ← String.toList_append, ← hfull, ← hfull']
  rcases hscheme with rfl | rfl <;> rcases hscheme' with rfl | rfl <;>
    simp_all

/-- A checked configuration has a scheme. -/
theorem root_of_check (h : c.check = .ok ()) : ∃ scheme rest, c.Root scheme rest := by
  obtain ⟨scheme, full, hscheme, he⟩ := isWebAddress_iff.mp (check_eq_ok.mp h).1
  exact ⟨scheme, _, hscheme, full, he, rfl⟩

theorem apiUrl_eq_iff {front path : String} :
    c.apiUrl path = front ++ "/" ++ Text.trimStartOf '/' path ↔
      Text.trimEndOf '/' c.baseUrl = front := by
  rw [apiUrl, ← String.toList_inj, ← String.toList_inj]
  simp

/-- The slashes are all that is taken from the base address just when there are no blanks around it,
provided that there is something between its scheme and those slashes. -/
theorem trimEndOf_baseUrl_iff {scheme rest : String} (hr : c.Root scheme rest) (hne : rest ≠ "") :
    Text.trimEndOf '/' c.baseUrl = scheme ++ rest ↔ Text.trim c.baseUrl = c.baseUrl := by
  obtain ⟨hscheme, full, hfull, rfl⟩ := hr
  have hsome : Text.dropEndWhile (· == '/') full.toList ≠ [] := by
    rw [← Text.toList_trimEndOf]
    exact fun h => hne (String.toList_inj.mp h)
  have hroot : (Text.trimEndOf '/' (scheme ++ full)).toList =
      (scheme ++ Text.trimEndOf '/' full).toList := by
    rw [Text.toList_trimEndOf, String.toList_append, String.toList_append,
      Text.dropEndWhile_append_of_ne _ hsome, Text.toList_trimEndOf]
  constructor
  · intro h
    have hlist : Text.dropEndWhile (· == '/') c.baseUrl.toList =
        scheme.toList ++ Text.dropEndWhile (· == '/') full.toList := by
      rw [← Text.toList_trimEndOf, h, String.toList_append, Text.toList_trimEndOf]
    rw [← String.toList_inj, Text.toList_trim]
    by_cases hslash : Text.dropEndWhile (· == '/') c.baseUrl.toList = c.baseUrl.toList
    · -- No slash is taken away, so the base address is as long as what is left of it without blanks.
      refine (Text.trimChars_sublist _).eq_of_length_le ?_
      rw [← Text.toList_trim, hfull, ← hslash, hlist, String.toList_append, List.length_append,
        List.length_append]
      exact Nat.add_le_add_left (Text.dropEndWhile_isPrefix _ _).length_le _
    · -- It begins with the scheme and ends in a slash, so there is no blank to take away.
      obtain ⟨slashes, hslashes⟩ := Text.dropEndWhile_isPrefix (· == '/') c.baseUrl.toList
      refine Text.trimChars_eq_self ?_ fun ch hlast => ?_
      · rw [← hslashes, hlist]
        rcases hscheme with rfl | rfl <;> simp <;> decide
      · have hend : ch = '/' := by
          by_contra hother
          refine hslash (List.rdropWhile_eq_self_iff.mpr fun hne => ?_)
          rw [List.getLast?_eq_some_getLast hne, Option.mem_some_iff] at hlast
          simpa [hlast] using hother
        rw [hend]
        decide
  · intro h
    rw [← h, hfull, ← String.toList_inj, hroot]

theorem Root.addresses_iff {scheme rest : String} (hr : c.Root scheme rest) (path : String) :
    c.Addresses path ↔ Text.trim c.baseUrl = c.baseUrl ∧ rest ≠ "" := by
  constructor
  · rintro ⟨scheme', rest', hr', hne, he⟩
    obtain ⟨rfl, rfl⟩ := hr.unique hr'
    exact ⟨(trimEndOf_baseUrl_iff hr hne).mp (apiUrl_eq_iff.mp he), hne⟩
  · rintro ⟨htrim, hne⟩
    exact ⟨scheme, rest, hr, hne, apiUrl_eq_iff.mpr ((trimEndOf_baseUrl_iff hr hne).mpr htrim)⟩

/-- Whatever the path, the address that a checked configuration makes is as it should be just when
there are no blanks around the base address, and something other than slashes behind its scheme. -/
theorem checked_addresses_iff (h : c.check = .ok ()) : ∃ scheme rest, c.Root scheme rest ∧
    ∀ path, c.Addresses path ↔ Text.trim c.baseUrl = c.baseUrl ∧ rest ≠ "" := by
  obtain ⟨scheme, rest, hr⟩ := root_of_check h
  exact ⟨scheme, rest, hr, hr.addresses_iff⟩

/-- The slashes at the end of a base address do not count. -/
theorem checked_addresses_slashes :
    let c := { default with baseUrl := "https://localhost/api//" }
    c.check = .ok () ∧ c.Root "https://" "localhost/api" ∧ c.Addresses "/user/plugins" := by
  intro c
  have hcheck : c.check = .ok () := by decide +kernel
  have hr : c.Root "https://" "localhost/api" :=
    ⟨.inr rfl, "localhost/api//", by decide +kernel, by decide +kernel⟩
  obtain ⟨scheme, rest, hr', hiff⟩ := checked_addresses_iff hcheck
  obtain ⟨-, rfl⟩ := hr.unique hr'
  exact ⟨hcheck, hr, (hiff _).mpr ⟨by decide +kernel, by decide⟩⟩

/-- The blank in front stays in one address, and the other has lost its host and a slash. -/
theorem checked_unaddressed :
    let padded := { default with baseUrl := " http://localhost:8000" }
    let bare := { default with baseUrl := "http://" }
    (padded.check = .ok () ∧ ∀ path, ¬ padded.Addresses path) ∧
      bare.check = .ok () ∧ (∀ path, ¬ bare.Addresses path) ∧
      padded.apiUrl "/users" = " http://localhost:8000/users" ∧
      bare.apiUrl "/users" = "http:/users" := by
  intro padded bare
  have hpadded : padded.Root "http://" "localhost:8000" :=
    ⟨.inl rfl, "localhost:8000", by decide +kernel, by decide +kernel⟩
  have hbare : bare.Root "http://" "" := ⟨.inl rfl, "", by decide +kernel, by decide +kernel⟩
  refine ⟨⟨by decide +kernel, fun path ha => ?_⟩, by decide +kernel, fun path ha => ?_,
    by decide +kernel, by decide +kernel⟩
  · exact absurd ((hpadded.addresses_iff path).mp ha).1 (by decide +kernel)
  · exact ((hbare.addresses_iff path).mp ha).2 rfl

end HostConfig
end Plugboard
