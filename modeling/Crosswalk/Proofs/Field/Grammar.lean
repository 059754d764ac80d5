import Crosswalk.Proofs.Field.Characters

/-!
Terms and data types as words of a description.

Each grammar accepts inert characters only and no colon at an end, so what it accepts is a word.
A term also begins with a letter of ASCII, which tells it from the words that a mark begins.
-/

namespace Crosswalk.Field

open Text

theorem isInert_colon : IsInert ':' := by decide

theorem isAlpha_ne_colon {c : Char} (h : c.isAlpha = true) : c ≠ ':' := by
  rintro rfl
  revert h
  decide

/-- What a vocabulary and the first name of a data type look like. -/
theorem isVocabulary_cases {s : List Char} (h : isVocabulary s = true) :
    ∃ c rest, s = c :: rest ∧ c.isAlpha = true ∧ ∀ x ∈ rest, isNamePart x = true := by
  cases s with
  | nil => cases h
  | cons c rest =>
    simp only [isVocabulary, Bool.and_eq_true, List.all_eq_true] at h
    exact ⟨c, rest, rfl, h.1, h.2⟩

theorem isInert_of_isVocabulary {s : List Char} (h : isVocabulary s = true) :
    ∀ c ∈ s, IsInert c ∧ c ≠ ':' := by
  obtain ⟨first, rest, rfl, halpha, hrest⟩ := isVocabulary_cases h
  intro c hc
  rcases List.mem_cons.mp hc with rfl | hc
  · exact ⟨isInert_of_isAlpha halpha, isAlpha_ne_colon halpha⟩
  · exact ⟨isInert_of_isNamePart (hrest c hc), isNamePart_ne_colon (hrest c hc)⟩

theorem isInert_of_isLocalName {s : List Char} (h : isLocalName s = true) :
    s ≠ [] ∧ ∀ c ∈ s, IsInert c ∧ c ≠ ':' := by
  cases s with
  | nil => cases h
  | cons first rest =>
    simp only [isLocalName, Bool.and_eq_true, Bool.or_eq_true, List.all_eq_true, beq_iff_eq] at h
    refine ⟨by simp, ?_⟩
    intro c hc
    rcases List.mem_cons.mp hc with rfl | hc
    · rcases h.1 with halpha | rfl
      · exact ⟨isInert_of_isAlpha halpha, isAlpha_ne_colon halpha⟩
      · exact ⟨by decide, by decide⟩
    · rcases Bool.or_eq_true _ _ ▸ h.2 c hc with hname | hdot
      · exact ⟨isInert_of_isNamePart hname, isNamePart_ne_colon hname⟩
      · rw [beq_iff_eq] at hdot
        subst hdot
        exact ⟨by decide, by decide⟩

theorem isTerm_cases {s : List Char} (h : isTerm s = true) :
    ∃ vocabulary name, s = vocabulary ++ ':' :: name ∧ isVocabulary vocabulary = true ∧
      isLocalName name = true := by
  unfold isTerm at h
  split at h
  · rename_i vocabulary name hcut
    obtain ⟨hsplit, -⟩ := cutAt_eq_some_iff.mp hcut
    rw [Bool.and_eq_true] at h
    exact ⟨vocabulary, name, hsplit, h.1, h.2⟩
  · cases h

theorem isInert_of_isTerm {s : List Char} (h : isTerm s = true) : ∀ c ∈ s, IsInert c := by
  obtain ⟨vocabulary, name, rfl, hvocabulary, hname⟩ := isTerm_cases h
  intro c hc
  rcases List.mem_append.mp hc with hc | hc
  · exact (isInert_of_isVocabulary hvocabulary c hc).1
  · rcases List.mem_cons.mp hc with rfl | hc
    · exact isInert_colon
    · exact ((isInert_of_isLocalName hname).2 c hc).1

/-- A term begins with a letter of ASCII. -/
theorem head_of_isTerm {s : List Char} (h : isTerm s = true) :
    ∃ c rest, s = c :: rest ∧ c.isAlpha = true := by
  obtain ⟨vocabulary, name, rfl, hvocabulary, -⟩ := isTerm_cases h
  obtain ⟨c, rest, rfl, halpha, -⟩ := isVocabulary_cases hvocabulary
  exact ⟨c, rest ++ ':' :: name, rfl, halpha⟩

theorem colon_mem_of_isTerm {s : List Char} (h : isTerm s = true) : ':' ∈ s := by
  obtain ⟨vocabulary, name, rfl, -⟩ := isTerm_cases h
  exact List.mem_append_right _ List.mem_cons_self

/-- A mark that may stand nowhere in a term. -/
theorem not_mem_of_isTerm {s : List Char} {mark : Char} (h : isTerm s = true)
    (halpha : mark.isAlpha = false) (hpart : isLocalPart mark = false) (hline : mark ≠ '_')
    (hcolon : mark ≠ ':') : mark ∉ s := by
  obtain ⟨vocabulary, name, rfl, hvocabulary, hname⟩ := isTerm_cases h
  obtain ⟨first, rest, rfl, hfirst, hrest⟩ := isVocabulary_cases hvocabulary
  have hnamePart : isNamePart mark = false := (Bool.or_eq_false_iff.mp hpart).1
  obtain ⟨lead, more, rfl⟩ := List.exists_cons_of_ne_nil (isInert_of_isLocalName hname).1
  simp only [isLocalName, Bool.and_eq_true, Bool.or_eq_true, List.all_eq_true, beq_iff_eq] at hname
  simp only [List.mem_append, List.mem_cons, not_or]
  refine ⟨⟨?_, fun hmem => ?_⟩, hcolon, ?_, fun hmem => ?_⟩
  · rintro rfl
    simp [hfirst] at halpha
  · simp [hrest mark hmem] at hnamePart
  · rintro rfl
    rcases hname.1 with hlead | hlead
    · simp [hlead] at halpha
    · exact hline hlead
  · simp [hname.2 mark hmem] at hpart

theorem isWord_of_isTerm {s : List Char} (h : isTerm s = true) : IsWord s := by
  obtain ⟨c, rest, hs, halpha⟩ := head_of_isTerm h
  apply isWord_of_inert (by simp [hs]) (isInert_of_isTerm h)
  · rw [hs]
    simpa using isAlpha_ne_colon halpha
  · obtain ⟨vocabulary, name, rfl, -, hname⟩ := isTerm_cases h
    obtain ⟨hne, hinert⟩ := isInert_of_isLocalName hname
    rw [List.getLast?_append_of_ne_nil _ (by simp), List.getLast?_cons_of_ne_nil hne]
    intro hlast
    exact (hinert ':' (List.mem_of_getLast? hlast)).2 rfl

theorem isInert_of_isTypeName {s : List Char} (h : isTypeName s = true) :
    s ≠ [] ∧ ∀ c ∈ s, IsInert c ∧ c ≠ ':' := by
  cases s with
  | nil => cases h
  | cons first rest =>
    simp only [isTypeName, Bool.and_eq_true, List.all_eq_true] at h
    have hfirst : isNamePart first = true := by simp [isNamePart, h.1]
    refine ⟨by simp, ?_⟩
    intro c hc
    rcases List.mem_cons.mp hc with rfl | hc
    · exact ⟨isInert_of_isNamePart hfirst, isNamePart_ne_colon hfirst⟩
    · exact ⟨isInert_of_isNamePart (h.2 c hc), isNamePart_ne_colon (h.2 c hc)⟩

/-- The names of a data type are not empty and hold neither colons nor active characters. -/
theorem names_of_isDataType {s : List Char} (h : isDataType s = true) :
    ∀ part ∈ pieces (· == ':') s, part ≠ [] ∧ ∀ c ∈ part, IsInert c ∧ c ≠ ':' := by
  unfold isDataType at h
  split at h
  · cases h
  · rename_i first more hpieces
    simp only [Bool.and_eq_true, List.all_eq_true] at h
    rw [hpieces]
    intro part hpart
    rcases List.mem_cons.mp hpart with rfl | hpart
    · obtain ⟨c, rest, hs, -⟩ := isVocabulary_cases h.1
      exact ⟨by simp [hs], isInert_of_isVocabulary h.1⟩
    · exact isInert_of_isTypeName (h.2 part hpart)

theorem isInert_of_isDataType {s : List Char} (h : isDataType s = true) : ∀ c ∈ s, IsInert c := by
  intro c hc
  rcases @mem_pieces_of_mem (· == ':') s c hc with hsep | ⟨part, hpart, hmem⟩
  · rw [beq_iff_eq] at hsep
    subst hsep
    exact isInert_colon
  · exact ((names_of_isDataType h part hpart).2 c hmem).1

theorem isWord_of_isDataType {s : List Char} (h : isDataType s = true) : IsWord s := by
  have hnames := names_of_isDataType h
  have hne := @pieces_ne_nil (· == ':') s
  have hjoin : join [':'] (pieces (· == ':') s) = s := join_pieces s
  have hends : ∀ part ∈ pieces (· == ':') s, ∀ c, c ∈ part → c ≠ ':' :=
    fun part hpart c hc => ((hnames part hpart).2 c hc).2
  obtain ⟨first, more, hpieces⟩ := List.exists_cons_of_ne_nil hne
  have hfirst : s.head? = first.head? := by
    rw [← hjoin, hpieces]
    exact head_join (hnames first (by simp [hpieces])).1 _ _
  have hlast : s.getLast? = ((pieces (· == ':') s).getLast hne).getLast? := by
    conv_lhs => rw [← hjoin]
    exact getLast_join (fun part hpart => (hnames part hpart).1) _ hne
  refine isWord_of_inert ?_ (isInert_of_isDataType h) ?_ ?_
  · rintro rfl
    exact (hnames [] (by simp [pieces])).1 rfl
  · rw [hfirst]
    intro hc
    exact hends first (by simp [hpieces]) ':' (List.mem_of_head? hc) rfl
  · rw [hlast]
    intro hc
    exact hends _ (List.getLast_mem hne) ':' (List.mem_of_getLast? hc) rfl

end Crosswalk.Field
