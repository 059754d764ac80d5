import Crosswalk.Proofs.Field.Language

/-!
The parts of a language tag.

What each check of a list of subtags accepts is a list put together from parts. No subtag can begin
two of the parts that may stand at one place, since their lengths or their kinds of characters
differ; so a check that takes every part as soon as it fits accepts every such list.
-/

namespace Crosswalk.Field.Language

variable {s t : Subtag} {tags : List Subtag} {low high : Nat}

theorem length_of_isAlphanumeric (h : isAlphanumeric low high s = true) :
    low ≤ s.length ∧ s.length ≤ high := by
  simp only [isAlphanumeric, Bool.and_eq_true, decide_eq_true_eq] at h
  exact h.1

theorem length_of_isSingleton (h : isSingleton s = true) : s.length = 1 := by
  simp only [isSingleton, Bool.and_eq_true] at h
  have hlength := length_of_isAlphanumeric h.1
  omega

theorem length_of_isPrivateMark (h : isPrivateMark s = true) : s.length = 1 := by
  rcases Bool.or_eq_true _ _ ▸ h with h | h <;> rw [beq_iff_eq.mp h] <;> rfl

theorem isExtensionPart_of_length (h : s.length = 1) : isExtensionPart s = false := by
  simp [isExtensionPart, isAlphanumeric, h]

theorem isPrivateUse_iff : isPrivateUse tags = true ↔
    ∃ mark parts, tags = mark :: parts ∧ isPrivateMark mark = true ∧ 1 ≤ parts.length ∧
      ∀ part ∈ parts, isPrivatePart part = true := by
  constructor
  · intro h
    match tags, h with
    | mark :: part :: rest, h =>
      simp only [isPrivateUse, Bool.and_eq_true, List.all_eq_true] at h
      exact ⟨mark, part :: rest, rfl, h.1.1, by simp, List.forall_mem_cons.mpr ⟨h.1.2, h.2⟩⟩
  · rintro ⟨mark, parts, rfl, hmark, hlength, hparts⟩
    obtain ⟨part, rest, rfl⟩ := List.exists_cons_of_length_pos hlength
    obtain ⟨hpart, hrest⟩ := List.forall_mem_cons.mp hparts
    simp only [isPrivateUse, hmark, hpart, Bool.true_and, List.all_eq_true]
    exact hrest

/-- An extension: a character that opens it, and its parts. -/
def IsExtension (tags : List Subtag) : Prop :=
  ∃ first parts, tags = first :: parts ∧ isSingleton first = true ∧ 1 ≤ parts.length ∧
    ∀ part ∈ parts, isExtensionPart part = true

theorem isExtensionsFrom_part (h : isExtensionPart t = true) (rest : List Subtag) :
    isExtensionsFrom true (t :: rest) = isExtensionsFrom true rest := by
  rw [isExtensionsFrom.eq_def]
  simp [h]

theorem isExtensionsFrom_singleton (h : isSingleton t = true) (inside : Bool) (part : Subtag)
    (rest : List Subtag) : isExtensionsFrom inside (t :: part :: rest) =
      (isExtensionPart part && isExtensionsFrom true rest) := by
  rw [isExtensionsFrom.eq_def]
  simp [h, isExtensionPart_of_length (length_of_isSingleton h)]

theorem isExtensionsFrom_eq_isPrivateUse {inside : Bool}
    (hpart : (inside && isExtensionPart t) = false) (hsingle : isSingleton t = false)
    (rest : List Subtag) :
    isExtensionsFrom inside (t :: rest) = isPrivateUse (t :: rest) := by
  rw [isExtensionsFrom.eq_def]
  simp [hpart, hsingle]

theorem isExtensionsFrom_parts {parts : List Subtag}
    (h : ∀ part ∈ parts, isExtensionPart part = true) (rest : List Subtag) :
    isExtensionsFrom true (parts ++ rest) = isExtensionsFrom true rest := by
  induction parts with
  | nil => rfl
  | cons part more ih =>
    obtain ⟨hpart, hmore⟩ := List.forall_mem_cons.mp h
    rw [List.cons_append, isExtensionsFrom_part hpart, ih hmore]

theorem isExtensionsFrom_extension (h : IsExtension tags) (inside : Bool) (rest : List Subtag) :
    isExtensionsFrom inside (tags ++ rest) = isExtensionsFrom true rest := by
  obtain ⟨first, parts, rfl, hfirst, hlength, hparts⟩ := h
  obtain ⟨part, more, rfl⟩ := List.exists_cons_of_length_pos hlength
  obtain ⟨hpart, hmore⟩ := List.forall_mem_cons.mp hparts
  rw [List.cons_append, List.cons_append, isExtensionsFrom_singleton hfirst, hpart, Bool.true_and,
    isExtensionsFrom_parts hmore]

theorem isExtensionsFrom_privateUse (h : isPrivateUse tags = true) (inside : Bool) :
    isExtensionsFrom inside tags = true := by
  obtain ⟨mark, parts, rfl, hmark, -⟩ := isPrivateUse_iff.mp h
  have hpart := isExtensionPart_of_length (length_of_isPrivateMark hmark)
  have hsingle : isSingleton mark = false := by simp [isSingleton, hmark]
  rw [isExtensionsFrom_eq_isPrivateUse (by simp [hpart]) hsingle, h]

/-- What is taken for extensions and a private part is a list of parts of an extension that has
begun, extensions, and a private part or nothing. -/
theorem isExtensionsFrom_iff {inside : Bool} : isExtensionsFrom inside tags = true ↔
    ∃ (parts : List Subtag) (extensions : List (List Subtag)) (last : List Subtag),
      tags = parts ++ (extensions.flatten ++ last) ∧ (parts ≠ [] → inside = true) ∧
      (∀ part ∈ parts, isExtensionPart part = true) ∧
      (∀ extension ∈ extensions, IsExtension extension) ∧
      (last = [] ∨ isPrivateUse last = true) := by
  constructor
  · intro h
    fun_induction isExtensionsFrom inside tags with
    | case1 => exact ⟨[], [], [], rfl, by simp, by simp, by simp, .inl rfl⟩
    | case2 inside t rest hpart ih =>
      obtain ⟨parts, extensions, last, rfl, -, hparts, hextensions, hlast⟩ := ih h
      rw [Bool.and_eq_true] at hpart
      exact ⟨t :: parts, extensions, last, rfl, fun _ => hpart.1,
        List.forall_mem_cons.mpr ⟨hpart.2, hparts⟩, hextensions, hlast⟩
    | case3 inside t hpart hsingle part more ih =>
      rw [Bool.and_eq_true] at h
      obtain ⟨parts, extensions, last, rfl, -, hparts, hextensions, hlast⟩ := ih h.2
      have hextension : IsExtension (t :: part :: parts) :=
        ⟨t, part :: parts, rfl, hsingle, by simp, List.forall_mem_cons.mpr ⟨h.1, hparts⟩⟩
      exact ⟨[], (t :: part :: parts) :: extensions, last, by simp, by simp, by simp,
        List.forall_mem_cons.mpr ⟨hextension, hextensions⟩, hlast⟩
    | case4 => cases h
    | case5 inside t rest _ _ => exact ⟨[], [], t :: rest, rfl, by simp, by simp, by simp, .inr h⟩
  · rintro ⟨parts, extensions, last, rfl, hinside, hparts, hextensions, hlast⟩
    have hbehind : ∀ inside, isExtensionsFrom inside (extensions.flatten ++ last) = true := by
      induction extensions with
      | nil =>
        intro inside
        rcases hlast with rfl | hlast
        · rfl
        · exact isExtensionsFrom_privateUse hlast inside
      | cons extension rest ih =>
        intro inside
        obtain ⟨hextension, hrest⟩ := List.forall_mem_cons.mp hextensions
        rw [List.flatten_cons, List.append_assoc, isExtensionsFrom_extension hextension]
        exact ih hrest true
    cases parts with
    | nil => exact hbehind inside
    | cons part rest =>
      rw [hinside (by simp), isExtensionsFrom_parts hparts]
      exact hbehind true

theorem isExtensions_iff : isExtensionsFrom false tags = true ↔
    ∃ (extensions : List (List Subtag)) (last : List Subtag), tags = extensions.flatten ++ last ∧
      (∀ extension ∈ extensions, IsExtension extension) ∧
      (last = [] ∨ isPrivateUse last = true) := by
  rw [isExtensionsFrom_iff]
  constructor
  · rintro ⟨parts, extensions, last, rfl, hinside, -, hextensions, hlast⟩
    have hnone : parts = [] := by
      by_contra hne
      exact Bool.noConfusion (hinside hne)
    exact ⟨extensions, last, by rw [hnone, List.nil_append], hextensions, hlast⟩
  · rintro ⟨extensions, last, rfl, hextensions, hlast⟩
    exact ⟨[], extensions, last, rfl, by simp, by simp, hextensions, hlast⟩

/-- Behind the variants stands a subtag of one character, or none. -/
theorem length_of_head_extensions (h : isExtensionsFrom false tags = true) :
    ∀ t ∈ tags.head?, t.length = 1 := by
  cases tags with
  | nil => simp
  | cons first rest =>
    rintro t ht
    obtain rfl := Option.some.inj ht
    by_cases hsingle : isSingleton first = true
    · exact length_of_isSingleton hsingle
    · rw [isExtensionsFrom_eq_isPrivateUse (Bool.false_and _) (Bool.eq_false_iff.mpr hsingle)] at h
      obtain ⟨mark, parts, heq, hmark, -⟩ := isPrivateUse_iff.mp h
      rw [(List.cons.inj heq).1]
      exact length_of_isPrivateMark hmark

theorem length_of_isVariant (h : isVariant s = true) : 4 ≤ s.length := by
  rcases Bool.or_eq_true _ _ ▸ h with hlong | hshort
  · have hlength := length_of_isAlphanumeric hlong
    omega
  · simp only [Bool.and_eq_true, beq_iff_eq] at hshort
    omega

theorem isAfterRegion_iff : isAfterRegion tags = true ↔
    ∃ variants rest, tags = variants ++ rest ∧ (∀ t ∈ variants, isVariant t = true) ∧
      isExtensionsFrom false rest = true := by
  constructor
  · intro h
    exact ⟨tags.takeWhile isVariant, tags.dropWhile isVariant, List.takeWhile_append_dropWhile.symm,
      fun t ht => List.mem_takeWhile_imp ht, h⟩
  · rintro ⟨variants, rest, rfl, hvariants, hrest⟩
    have hhead : ∀ t ∈ rest.head?, ¬ isVariant t = true := by
      intro t ht hvariant
      have hone := length_of_head_extensions hrest t ht
      have hfour := length_of_isVariant hvariant
      omega
    have hdrop : rest.dropWhile isVariant = rest := by
      cases rest with
      | nil => rfl
      | cons t more => exact List.dropWhile_cons_of_neg (hhead t rfl)
    rw [isAfterRegion, List.dropWhile_append_of_pos hvariants, hdrop]
    exact hrest

/-- At most one subtag, which passes a test. -/
def IsOptional (test : Subtag → Bool) (tags : List Subtag) : Prop :=
  tags = [] ∨ ∃ t, tags = [t] ∧ test t = true

theorem exists_dropIf (test : Subtag → Bool) (tags : List Subtag) :
    ∃ front, tags = front ++ dropIf test tags ∧ IsOptional test front := by
  cases tags with
  | nil => exact ⟨[], rfl, .inl rfl⟩
  | cons t rest =>
    by_cases ht : test t = true
    · exact ⟨[t], by simp [dropIf, ht], .inr ⟨t, rfl, ht⟩⟩
    · exact ⟨[], by simp [dropIf, ht], .inl rfl⟩

theorem dropIf_append {test : Subtag → Bool} {front rest : List Subtag}
    (hfront : IsOptional test front) (hrest : ∀ t ∈ rest.head?, test t = false) :
    dropIf test (front ++ rest) = rest := by
  rcases hfront with rfl | ⟨t, rfl, ht⟩
  · cases rest with
    | nil => rfl
    | cons t more => simp [dropIf, hrest t rfl]
  · simp [dropIf, ht]

theorem exists_dropExtended (n : Nat) (tags : List Subtag) :
    ∃ front, tags = front ++ dropExtended n tags ∧ front.length ≤ n ∧
      ∀ t ∈ front, isExtendedLanguage t = true := by
  fun_induction dropExtended n tags with
  | case1 n t rest ht ih =>
    obtain ⟨front, heq, hlength, hfront⟩ := ih
    exact ⟨t :: front, by rw [List.cons_append, ← heq], Nat.succ_le_succ hlength,
      List.forall_mem_cons.mpr ⟨ht, hfront⟩⟩
  | case2 => exact ⟨[], rfl, by simp, by simp⟩
  | case3 => exact ⟨[], rfl, by simp, by simp⟩

theorem dropExtended_append {n : Nat} {front rest : List Subtag} (hlength : front.length ≤ n)
    (hfront : ∀ t ∈ front, isExtendedLanguage t = true)
    (hrest : ∀ t ∈ rest.head?, isExtendedLanguage t = false) :
    dropExtended n (front ++ rest) = rest := by
  induction front generalizing n with
  | nil =>
    cases n with
    | zero => cases rest <;> rfl
    | succ n =>
      cases rest with
      | nil => rfl
      | cons t more => simp [dropExtended, hrest t rfl]
  | cons t more ih =>
    obtain ⟨ht, hmore⟩ := List.forall_mem_cons.mp hfront
    cases n with
    | zero => simp at hlength
    | succ n =>
      simp only [List.cons_append, dropExtended, ht, if_true]
      exact ih (Nat.le_of_succ_le_succ hlength) hmore

theorem length_of_isAlpha (h : isAlpha low high s = true) : low ≤ s.length ∧ s.length ≤ high := by
  simp only [isAlpha, Bool.and_eq_true, decide_eq_true_eq] at h
  exact h.1

theorem isAlpha_eq_false_of_length (h : s.length < low ∨ high < s.length) :
    isAlpha low high s = false := by
  rw [Bool.eq_false_iff]
  intro hs
  have hlength := length_of_isAlpha hs
  omega

theorem toNat_of_isAlpha {c : Char} (h : c.isAlpha = true) : 65 ≤ c.toNat := by
  rcases Bool.or_eq_true _ _ ▸ h with hupper | hlower
  · exact UInt32.le_iff_toNat_le.mp (of_decide_eq_true hupper).1
  · have hlow := UInt32.le_iff_toNat_le.mp (of_decide_eq_true (Bool.and_eq_true_iff.mp hlower).1)
    have hsmall : 'a'.val.toNat = 97 := rfl
    have hcode : c.toNat = c.val.toNat := rfl
    omega

theorem not_isDigit_of_isAlpha {c : Char} (h : c.isAlpha = true) : c.isDigit = false := by
  rw [Bool.eq_false_iff]
  intro hdigit
  have hhigh := UInt32.le_iff_toNat_le.mp (of_decide_eq_true (Bool.and_eq_true_iff.mp hdigit).2)
  have hlow := toNat_of_isAlpha h
  have hnine : '9'.val.toNat = 57 := rfl
  have hcode : c.toNat = c.val.toNat := rfl
  omega

/-- Letters only are not a subtag that begins with a digit. -/
theorem isAlpha_eq_false_of_head {c : Char} (h : c.isDigit = true) (rest : Subtag) :
    isAlpha low high (c :: rest) = false := by
  have hc : c.isAlpha = false := by
    rw [Bool.eq_false_iff]
    intro hletter
    rw [not_isDigit_of_isAlpha hletter] at h
    cases h
  simp [isAlpha, hc]

theorem length_of_isRegion (h : isRegion s = true) : s.length = 2 ∨ s.length = 3 := by
  rcases Bool.or_eq_true _ _ ▸ h with hletters | hdigits
  · have hlength := length_of_isAlpha hletters
    omega
  · simp only [Bool.and_eq_true, beq_iff_eq] at hdigits
    omega

theorem not_isExtendedLanguage_of_isRegion (h : isRegion s = true) :
    isExtendedLanguage s = false := by
  rcases Bool.or_eq_true _ _ ▸ h with hletters | hdigits
  · have hlength := length_of_isAlpha hletters
    exact isAlpha_eq_false_of_length (by omega)
  · rw [Bool.and_eq_true, beq_iff_eq] at hdigits
    obtain ⟨c, rest, rfl⟩ := List.exists_of_length_succ _ hdigits.1
    rw [List.all_cons, Bool.and_eq_true] at hdigits
    exact isAlpha_eq_false_of_head hdigits.2.1 rest

theorem not_isScript_of_isVariant (h : isVariant s = true) : isScript s = false := by
  rcases Bool.or_eq_true _ _ ▸ h with hlong | hshort
  · have hlength := length_of_isAlphanumeric hlong
    exact isAlpha_eq_false_of_length (by omega)
  · simp only [Bool.and_eq_true, beq_iff_eq] at hshort
    obtain ⟨c, rest, rfl⟩ := List.exists_of_length_succ _ hshort.1.1
    exact isAlpha_eq_false_of_head hshort.2 rest

/-- Behind the region stands a variant, or a subtag of one character, or none. -/
theorem head_of_isAfterRegion (h : isAfterRegion tags = true) :
    ∀ t ∈ tags.head?, isVariant t = true ∨ t.length = 1 := by
  obtain ⟨variants, rest, rfl, hvariants, hrest⟩ := isAfterRegion_iff.mp h
  cases variants with
  | nil => exact fun t ht => .inr (length_of_head_extensions hrest t ht)
  | cons first more =>
    rintro t ht
    obtain rfl := Option.some.inj ht
    exact .inl (hvariants _ (by simp))

theorem not_isRegion_of_head (h : isVariant t = true ∨ t.length = 1) : isRegion t = false := by
  rw [Bool.eq_false_iff]
  intro hregion
  have hlength := length_of_isRegion hregion
  rcases h with hvariant | hone
  · have hfour := length_of_isVariant hvariant
    omega
  · omega

theorem isAfterLanguage_iff : isAfterLanguage tags = true ↔
    ∃ script region rest, tags = script ++ (region ++ rest) ∧ IsOptional isScript script ∧
      IsOptional isRegion region ∧ isAfterRegion rest = true := by
  constructor
  · intro h
    obtain ⟨script, heq, hscript⟩ := exists_dropIf isScript tags
    obtain ⟨region, hrest, hregion⟩ := exists_dropIf isRegion (dropIf isScript tags)
    exact ⟨script, region, _, by rw [← hrest, ← heq], hscript, hregion, h⟩
  · rintro ⟨script, region, rest, rfl, hscript, hregion, hrest⟩
    have hbehind := head_of_isAfterRegion hrest
    have hnoscript : ∀ t ∈ (region ++ rest).head?, isScript t = false := by
      rcases hregion with rfl | ⟨t, rfl, ht⟩
      · intro t ht
        rcases hbehind t ht with hvariant | hone
        · exact not_isScript_of_isVariant hvariant
        · exact isAlpha_eq_false_of_length (by omega)
      · rintro _ ⟨⟩
        have hlength := length_of_isRegion ht
        exact isAlpha_eq_false_of_length (by omega)
    rw [isAfterLanguage, dropIf_append hscript hnoscript,
      dropIf_append hregion fun t ht => not_isRegion_of_head (hbehind t ht)]
    exact hrest

theorem head_of_isAfterLanguage (h : isAfterLanguage tags = true) :
    ∀ t ∈ tags.head?, isExtendedLanguage t = false := by
  obtain ⟨script, region, rest, rfl, hscript, hregion, hrest⟩ := isAfterLanguage_iff.mp h
  rcases hscript with rfl | ⟨t, rfl, ht⟩
  · rcases hregion with rfl | ⟨t, rfl, ht⟩
    · intro t ht
      rcases head_of_isAfterRegion hrest t ht with hvariant | hone
      · have hfour := length_of_isVariant hvariant
        exact isAlpha_eq_false_of_length (by omega)
      · exact isAlpha_eq_false_of_length (by omega)
    · rintro _ ⟨⟩
      exact not_isExtendedLanguage_of_isRegion ht
  · rintro _ ⟨⟩
    have hlength := length_of_isAlpha ht
    exact isAlpha_eq_false_of_length (by omega)

/-- A tag that names a language: its first subtag, those that extend it if it is short, and what
may follow the language. -/
theorem isLanguageTag_iff : isLanguageTag tags = true ↔
    ∃ first extended rest, tags = first :: (extended ++ rest) ∧
      (isAlpha 2 3 first = true ∧ extended.length ≤ 3 ∧
          (∀ t ∈ extended, isExtendedLanguage t = true) ∨
        isAlpha 4 8 first = true ∧ extended = []) ∧
      isAfterLanguage rest = true := by
  constructor
  · intro h
    cases tags with
    | nil => cases h
    | cons first rest =>
      rw [isLanguageTag] at h
      split at h
      · rename_i hshort
        obtain ⟨extended, heq, hlength, hextended⟩ := exists_dropExtended 3 rest
        exact ⟨first, extended, _, by rw [← heq], .inl ⟨hshort, hlength, hextended⟩, h⟩
      · rw [Bool.and_eq_true] at h
        exact ⟨first, [], rest, rfl, .inr ⟨h.1, rfl⟩, h.2⟩
  · rintro ⟨first, extended, rest, rfl, ⟨hshort, hlength, hextended⟩ | ⟨hlong, rfl⟩, hrest⟩
    · rw [isLanguageTag, if_pos hshort,
        dropExtended_append hlength hextended (head_of_isAfterLanguage hrest)]
      exact hrest
    · have hlength := length_of_isAlpha hlong
      have hshort : isAlpha 2 3 first = false := isAlpha_eq_false_of_length (by omega)
      simp [isLanguageTag, hshort, hlong, hrest]

end Crosswalk.Field.Language
