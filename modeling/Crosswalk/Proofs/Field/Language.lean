import Mathlib.Data.List.TakeWhile
import Crosswalk.Proofs.Field.Characters

/-!
Language tags as words of a description.

Whatever the order of its subtags, a tag has letters and digits of ASCII in them and hyphens
between them, and no subtag is empty.
-/

namespace Crosswalk.Field.Language

open Text

/-- A subtag that any production of the grammar accepts. -/
structure IsSubtag (t : Subtag) : Prop where
  ne_nil : t ≠ []
  alphanumeric : ∀ c ∈ t, Unicode.isAsciiAlphanumeric c = true

theorem isSubtag_of_isAlphanumeric {low high : Nat} {t : Subtag} (hlow : 0 < low)
    (h : isAlphanumeric low high t = true) : IsSubtag t := by
  simp only [isAlphanumeric, Bool.and_eq_true, decide_eq_true_eq, List.all_eq_true] at h
  refine ⟨?_, h.2⟩
  rintro rfl
  have hlength := h.1.1
  simp at hlength
  omega

theorem isSubtag_of_isAlpha {low high : Nat} {t : Subtag} (hlow : 0 < low)
    (h : isAlpha low high t = true) : IsSubtag t := by
  have hwide : isAlphanumeric low high t = true := by
    simp only [isAlpha, isAlphanumeric, Bool.and_eq_true, List.all_eq_true] at h ⊢
    exact ⟨h.1, fun c hc => by simp [Unicode.isAsciiAlphanumeric, h.2 c hc]⟩
  exact isSubtag_of_isAlphanumeric hlow hwide

theorem isSubtag_of_isRegion {t : Subtag} (h : isRegion t = true) : IsSubtag t := by
  simp only [isRegion, Bool.or_eq_true, Bool.and_eq_true, beq_iff_eq, List.all_eq_true] at h
  rcases h with halpha | ⟨hlength, hdigits⟩
  · exact isSubtag_of_isAlpha (by omega) halpha
  · refine ⟨?_, fun c hc => by simp [Unicode.isAsciiAlphanumeric, hdigits c hc]⟩
    rintro rfl
    simp at hlength

theorem isSubtag_of_isVariant {t : Subtag} (h : isVariant t = true) : IsSubtag t := by
  simp only [isVariant, Bool.or_eq_true, Bool.and_eq_true, beq_iff_eq, List.all_eq_true] at h
  rcases h with hlong | ⟨⟨hlength, hall⟩, -⟩
  · exact isSubtag_of_isAlphanumeric (by omega) hlong
  · refine ⟨?_, hall⟩
    rintro rfl
    simp at hlength

theorem isSubtag_of_isPrivateUse {tags : List Subtag} (h : isPrivateUse tags = true) :
    ∀ t ∈ tags, IsSubtag t := by
  match tags, h with
  | mark :: part :: rest, h =>
    simp only [isPrivateUse, isPrivateMark, isPrivatePart, Bool.and_eq_true, Bool.or_eq_true,
      beq_iff_eq, List.all_eq_true] at h
    obtain ⟨⟨hmark, hpart⟩, hrest⟩ := h
    intro t ht
    rcases List.mem_cons.mp ht with rfl | ht
    · rcases hmark with rfl | rfl
      · exact ⟨by simp, List.all_iff_forall_prop.mp (by decide)⟩
      · exact ⟨by simp, List.all_iff_forall_prop.mp (by decide)⟩
    · rcases List.mem_cons.mp ht with rfl | ht
      · exact isSubtag_of_isAlphanumeric (by omega) hpart
      · exact isSubtag_of_isAlphanumeric (by omega) (hrest t ht)

theorem isSubtag_of_isExtensionsFrom {inside : Bool} {tags : List Subtag}
    (h : isExtensionsFrom inside tags = true) : ∀ t ∈ tags, IsSubtag t := by
  fun_induction isExtensionsFrom inside tags with
  | case1 => simp
  | case2 inside t rest hpart ih =>
    intro x hx
    rw [Bool.and_eq_true] at hpart
    rcases List.mem_cons.mp hx with rfl | hx
    · exact isSubtag_of_isAlphanumeric (by omega) hpart.2
    · exact ih h x hx
  | case3 inside t hpart hsingle part more ih =>
    rw [Bool.and_eq_true] at h
    simp only [isSingleton, Bool.and_eq_true] at hsingle
    intro x hx
    rcases List.mem_cons.mp hx with rfl | hx
    · exact isSubtag_of_isAlphanumeric (by omega) hsingle.1
    · rcases List.mem_cons.mp hx with rfl | hx
      · exact isSubtag_of_isAlphanumeric (by omega) h.1
      · exact ih h.2 x hx
  | case4 => cases h
  | case5 => exact isSubtag_of_isPrivateUse h

theorem isSubtag_of_isAfterRegion {tags : List Subtag} (h : isAfterRegion tags = true) :
    ∀ t ∈ tags, IsSubtag t := by
  intro t ht
  rw [← @List.takeWhile_append_dropWhile _ isVariant tags] at ht
  rcases List.mem_append.mp ht with ht | ht
  · exact isSubtag_of_isVariant (List.mem_takeWhile_imp ht)
  · exact isSubtag_of_isExtensionsFrom h t ht

theorem mem_dropIf {test : Subtag → Bool} {tags : List Subtag} {t : Subtag} (h : t ∈ tags) :
    test t = true ∨ t ∈ dropIf test tags := by
  cases tags with
  | nil => cases h
  | cons first rest =>
    by_cases htest : test first = true
    · rcases List.mem_cons.mp h with rfl | h
      · exact Or.inl htest
      · exact Or.inr (by simpa [dropIf, htest] using h)
    · exact Or.inr (by simpa [dropIf, htest] using h)

theorem isSubtag_of_isAfterLanguage {tags : List Subtag} (h : isAfterLanguage tags = true) :
    ∀ t ∈ tags, IsSubtag t := by
  intro t ht
  rcases @mem_dropIf isScript tags t ht with hscript | ht
  · exact isSubtag_of_isAlpha (by omega) hscript
  · rcases @mem_dropIf isRegion _ t ht with hregion | ht
    · exact isSubtag_of_isRegion hregion
    · exact isSubtag_of_isAfterRegion h t ht

theorem mem_dropExtended {n : Nat} {tags : List Subtag} {t : Subtag} (h : t ∈ tags) :
    isExtendedLanguage t = true ∨ t ∈ dropExtended n tags := by
  induction n generalizing tags with
  | zero => exact Or.inr (by simpa [dropExtended] using h)
  | succ n ih =>
    cases tags with
    | nil => cases h
    | cons first rest =>
      by_cases hfirst : isExtendedLanguage first = true
      · rcases List.mem_cons.mp h with rfl | h
        · exact Or.inl hfirst
        · simpa [dropExtended, hfirst] using ih h
      · exact Or.inr (by simpa [dropExtended, hfirst] using h)

theorem isSubtag_of_isLanguageTag {tags : List Subtag} (h : isLanguageTag tags = true) :
    ∀ t ∈ tags, IsSubtag t := by
  cases tags with
  | nil => cases h
  | cons language rest =>
    rw [isLanguageTag] at h
    intro t ht
    split at h
    · rename_i hshort
      rcases List.mem_cons.mp ht with rfl | ht
      · exact isSubtag_of_isAlpha (by omega) hshort
      · rcases mem_dropExtended (n := 3) ht with hextended | ht
        · exact isSubtag_of_isAlpha (by omega) hextended
        · exact isSubtag_of_isAfterLanguage h t ht
    · rw [Bool.and_eq_true] at h
      rcases List.mem_cons.mp ht with rfl | ht
      · exact isSubtag_of_isAlpha (by omega) h.1
      · exact isSubtag_of_isAfterLanguage h.2 t ht

/-- The subtags of a tag hold letters and digits only, and none is empty. -/
theorem isSubtag_of_isTag {s : List Char} (h : isTag s = true) :
    ∀ t ∈ pieces (· == '-') s, IsSubtag t := by
  rcases Bool.or_eq_true _ _ ▸ h with hprivate | htag
  · exact isSubtag_of_isPrivateUse hprivate
  · exact isSubtag_of_isLanguageTag htag

theorem isNamePart_of_isTag {s : List Char} (h : isTag s = true) :
    ∀ c ∈ s, isNamePart c = true := by
  intro c hc
  rcases @mem_pieces_of_mem (· == '-') s c hc with hsep | ⟨t, ht, hmem⟩
  · rw [beq_iff_eq] at hsep
    subst hsep
    decide
  · have hword := (isSubtag_of_isTag h t ht).alphanumeric c hmem
    by_cases hascii : c.toNat < 128
    · simp [isNamePart, Unicode.isWord, hascii, hword]
    · exact absurd (toNat_lt_of_isAsciiAlphanumeric hword) hascii

theorem isInert_of_isTag {s : List Char} (h : isTag s = true) : ∀ c ∈ s, IsInert c :=
  fun c hc => isInert_of_isNamePart (isNamePart_of_isTag h c hc)

theorem isWord_of_isTag {s : List Char} (h : isTag s = true) : IsWord s := by
  have hcolon : ':' ∉ s := fun hmem => isNamePart_ne_colon (isNamePart_of_isTag h ':' hmem) rfl
  refine isWord_of_inert ?_ (isInert_of_isTag h) ?_ ?_
  · rintro rfl
    exact (isSubtag_of_isTag h [] (by simp [pieces])).ne_nil rfl
  · exact fun hhead => hcolon (List.mem_of_head? hhead)
  · exact fun hlast => hcolon (List.mem_of_getLast? hlast)

end Crosswalk.Field.Language
