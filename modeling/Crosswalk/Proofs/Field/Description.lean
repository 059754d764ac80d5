import Crosswalk.Field.Spec
import Crosswalk.Proofs.Field.Grammar
import Crosswalk.Proofs.Field.Language

/-!
Descriptions of fields, written and read again.

Reading gives a description in canonical form: its parts pass their grammars and its pattern is
trimmed and not empty. Writing such a description and reading the text gives it back, whatever
its pattern holds.
-/

namespace Crosswalk.Field.Spec

open Text

/-- A description whose parts are well formed. -/
structure IsCanonical (spec : Spec) : Prop where
  term : isTerm spec.field.toList = true
  dataType : ∀ t, spec.dataType = some t → isDataType t.toList = true
  language : ∀ t, spec.language = some t → Language.isTag t.toList = true
  pattern : ∀ p, spec.pattern = some p → p.toList ≠ [] ∧ IsTrimmed p.toList

/-- The word that gives the visibility, if any. -/
def visibilityWord : Option Bool → List (List Char)
  | some true => ["§public".toList]
  | some false => ["§private".toList]
  | none => []

/-- The words in front of the pattern. -/
def headWords (spec : Spec) : List (List Char) :=
  spec.field.toList ::
    ((spec.dataType.map fun t => '^' :: '^' :: t.toList).toList ++
      ((spec.language.map fun t => '@' :: t.toList).toList ++ visibilityWord spec.isPublic))

theorem join_space_cons (w : List Char) (more : List (List Char)) :
    join [' '] (w :: more) = w ++ more.flatMap (' ' :: ·) := by
  induction more generalizing w with
  | nil => simp [join]
  | cons next more ih =>
    rw [join_cons_cons, ih]
    simp

/-- A description is written as its words with single spaces between them, then the pattern. -/
theorem write_eq_join (spec : Spec) :
    spec.write = join [' '] spec.headWords ++ markedText " ~ ".toList spec.pattern := by
  have htype : ∀ t : Option String,
      ((t.map fun t => '^' :: '^' :: t.toList).toList).flatMap (' ' :: ·) =
        markedText " ^^".toList t := by
    intro t
    cases t <;> simp [markedText]
  have htag : ∀ t : Option String,
      ((t.map fun t => '@' :: t.toList).toList).flatMap (' ' :: ·) =
        markedText " @".toList t := by
    intro t
    cases t <;> simp [markedText]
  have hvisible : ∀ b : Option Bool,
      (visibilityWord b).flatMap (' ' :: ·) = visibilityText b := by
    rintro (_ | _ | _) <;> rfl
  rw [headWords, join_space_cons, List.flatMap_append, List.flatMap_append, htype, htag, hvisible]
  simp [write]

theorem ofWord?_dataType {t : List Char} (h : isDataType t = true) :
    Part.ofWord? ('^' :: '^' :: t) = some (.dataType t) := by
  simp [Part.ofWord?, h]

theorem ofWord?_language {t : List Char} (h : Language.isTag t = true) :
    Part.ofWord? ('@' :: t) = some (.language t) := by
  simp [Part.ofWord?, h]

/-- No mark begins with a letter, so a term is not taken for another part. -/
theorem ofWord?_term {t : List Char} (h : isTerm t = true) :
    Part.ofWord? t = some (.term t) := by
  obtain ⟨c, rest, rfl, halpha⟩ := head_of_isTerm h
  have hmarks : c ≠ '^' ∧ c ≠ '@' ∧ c ≠ '§' := by
    refine ⟨?_, ?_, ?_⟩ <;>
    · rintro rfl
      revert halpha
      decide
  unfold Part.ofWord?
  split <;> simp_all

theorem words_join {words : List (List Char)} (hne : words ≠ []) (h : ∀ w ∈ words, IsWord w) :
    Spec.words (join [' '] words) = words := by
  rw [Spec.words, normalizeSpacing_join hne h,
    pieces_join hne fun w hw => (h w hw).space_not_mem]
  apply List.filter_eq_self.mpr
  intro w hw
  simpa using (h w hw).ne_nil

theorem words_append_space (s : List Char) : Spec.words (s ++ [' ']) = Spec.words s := by
  rw [Spec.words, normalizeSpacing_append_space, Spec.words]

theorem isWord_cons {c : Char} {w : List Char} (hc : IsInert c) (hcolon : c ≠ ':')
    (h : IsWord w) : IsWord (c :: w) := by
  refine ⟨by simp, ?_, by simpa using hcolon, ?_⟩
  · intro x hx
    rcases List.mem_cons.mp hx with rfl | hx
    · exact hc.notBlank
    · exact h.plain x hx
  · rw [List.getLast?_cons_of_ne_nil h.ne_nil]
    exact h.last

variable {spec : Spec}

theorem isWord_visibilityWord (isPublic : Option Bool) :
    ∀ w ∈ visibilityWord isPublic, IsWord w ∧ ∀ c ∈ w, IsInert c := by
  have hpublic : ∀ c ∈ "§public".toList, IsInert c := List.all_iff_forall_prop.mp (by decide)
  have hprivate : ∀ c ∈ "§private".toList, IsInert c := List.all_iff_forall_prop.mp (by decide)
  match isPublic with
  | some true =>
    rw [visibilityWord, List.forall_mem_singleton]
    exact ⟨isWord_of_inert (by simp) hpublic (by simp) (by simp), hpublic⟩
  | some false =>
    rw [visibilityWord, List.forall_mem_singleton]
    exact ⟨isWord_of_inert (by simp) hprivate (by simp) (by simp), hprivate⟩
  | none => simp [visibilityWord]

/-- The words in front of the pattern survive canonical spacing and hold no sign of a rule. -/
theorem isWord_headWords (h : spec.IsCanonical) :
    ∀ w ∈ spec.headWords, IsWord w ∧ ∀ c ∈ w, IsInert c := by
  have hcaret : IsInert '^' := by decide
  have hat : IsInert '@' := by decide
  intro w hw
  simp only [headWords, List.mem_cons, List.mem_append, Option.mem_toList, Option.map_eq_some_iff]
    at hw
  rcases hw with rfl | ⟨t, ht, rfl⟩ | ⟨t, ht, rfl⟩ | hw
  · exact ⟨isWord_of_isTerm h.term, isInert_of_isTerm h.term⟩
  · have htype := h.dataType t ht
    have hword := isWord_cons hcaret (by decide) (isWord_of_isDataType htype)
    refine ⟨isWord_cons hcaret (by decide) hword, ?_⟩
    simpa [hcaret] using isInert_of_isDataType htype
  · have htag := h.language t ht
    refine ⟨isWord_cons hat (by decide) (Language.isWord_of_isTag htag), ?_⟩
    simpa [hat] using Language.isInert_of_isTag htag
  · exact isWord_visibilityWord spec.isPublic w hw

/-- The text in front of the pattern, without the space that ends it. -/
def head (spec : Spec) : List Char := join [' '] spec.headWords

theorem headWords_ne_nil (spec : Spec) : spec.headWords ≠ [] := by simp [headWords]

/-- Nothing in front of the pattern is a tilde or an equals sign. -/
theorem head_quiet (h : spec.IsCanonical) : ∀ c ∈ spec.head, c ≠ '~' ∧ c ≠ '=' := by
  intro c hc
  rcases mem_join hc with hspace | ⟨w, hw, hmem⟩
  · rw [List.mem_singleton] at hspace
    subst hspace
    decide
  · have hinert := (isWord_headWords h w hw).2 c hmem
    exact ⟨hinert.notTilde, hinert.notEquals⟩

theorem isTrimmed_head (h : spec.IsCanonical) : IsTrimmed spec.head :=
  isTrimmed_join spec.headWords_ne_nil fun w hw => (isWord_headWords h w hw).1

theorem words_head (h : spec.IsCanonical) : Spec.words spec.head = spec.headWords :=
  words_join spec.headWords_ne_nil fun w hw => (isWord_headWords h w hw).1

theorem write_eq (spec : Spec) :
    spec.write = spec.head ++ markedText " ~ ".toList spec.pattern := write_eq_join spec

/-- A written description begins with a letter of ASCII. -/
theorem head_write (h : spec.IsCanonical) :
    ∃ c rest, spec.write = c :: rest ∧ c.isAlpha = true := by
  obtain ⟨c, rest, hfield, halpha⟩ := head_of_isTerm h.term
  rw [write, hfield]
  exact ⟨c, _, rfl, halpha⟩

theorem isTrimmed_write (h : spec.IsCanonical) : IsTrimmed spec.write := by
  rw [write_eq]
  cases hpattern : spec.pattern with
  | none => simpa [markedText] using isTrimmed_head h
  | some p =>
    obtain ⟨hne, htrimmed⟩ := h.pattern p hpattern
    have hhead : spec.head ≠ [] := by
      obtain ⟨c, rest, hwrite, -⟩ := head_write h
      rintro hnil
      have hfield := head_join (isWord_of_isTerm h.term).ne_nil [' '] (spec.headWords.tail)
      rw [show join [' '] (spec.field.toList :: spec.headWords.tail) = spec.head from rfl,
        hnil] at hfield
      exact (isWord_of_isTerm h.term).ne_nil (List.head?_eq_none_iff.mp hfield.symm)
    apply IsTrimmed.append hhead (by simp [markedText]) (isTrimmed_head h).first
    intro c hc
    rw [markedText, List.getLast?_append_of_ne_nil _ hne] at hc
    exact htrimmed.last c hc

/-- An equals sign in a written description stands behind the first tilde. -/
theorem equals_not_mem_front (h : spec.IsCanonical) :
    '=' ∉ spec.write.takeWhile (· != '~') := by
  have hhead : spec.head.takeWhile (· != '~') = spec.head := by
    apply List.takeWhile_eq_self_iff.mpr
    intro c hc
    simpa using (head_quiet h c hc).1
  have hequals : '=' ∉ spec.head := fun hmem => (head_quiet h '=' hmem).2 rfl
  have hpattern : '=' ∉ (markedText " ~ ".toList spec.pattern).takeWhile (· != '~') := by
    cases spec.pattern <;> simp [markedText]
  rw [write_eq, List.takeWhile_append, hhead]
  simpa [hequals] using hpattern

theorem newline_not_mem_write (h : spec.IsCanonical)
    (hpattern : ∀ p, spec.pattern = some p → '\n' ∉ p.toList) : '\n' ∉ spec.write := by
  rw [write_eq, List.mem_append]
  rintro (hmem | hmem)
  · rcases mem_join hmem with hspace | ⟨w, hw, hc⟩
    · simp at hspace
    · have hblank := ((isWord_headWords h w hw).2 '\n' hc).notBlank
      revert hblank
      decide
  · cases hspec : spec.pattern with
    | none => simp [hspec, markedText] at hmem
    | some p =>
      have hline := hpattern p hspec
      simp [hspec, markedText, hline] at hmem

/-- The parts that the words of a description add up to. -/
theorem foldl_headWords (h : spec.IsCanonical) :
    spec.headWords.foldl Parts.addWord Parts.none =
      ⟨some spec.field.toList, spec.dataType.map String.toList, spec.language.map String.toList,
        spec.isPublic⟩ := by
  have hterm : Parts.none.addWord spec.field.toList =
      ⟨some spec.field.toList, none, none, none⟩ := by
    rw [Parts.addWord, ofWord?_term h.term]
    rfl
  have htype : ∀ t l b,
      ((spec.dataType.map fun t => '^' :: '^' :: t.toList).toList).foldl Parts.addWord
        ⟨t, none, l, b⟩ = ⟨t, spec.dataType.map String.toList, l, b⟩ := by
    intro t l b
    cases hspec : spec.dataType with
    | none => rfl
    | some d =>
      simp [Parts.addWord, ofWord?_dataType (h.dataType d hspec), Parts.add]
  have htag : ∀ t d b,
      ((spec.language.map fun t => '@' :: t.toList).toList).foldl Parts.addWord
        ⟨t, d, none, b⟩ = ⟨t, d, spec.language.map String.toList, b⟩ := by
    intro t d b
    cases hspec : spec.language with
    | none => rfl
    | some l =>
      simp [Parts.addWord, ofWord?_language (h.language l hspec), Parts.add]
  have hvisible : ∀ t d l,
      (visibilityWord spec.isPublic).foldl Parts.addWord ⟨t, d, l, none⟩ =
        ⟨t, d, l, spec.isPublic⟩ := by
    intro t d l
    match spec.isPublic with
    | some true => simp [visibilityWord, Parts.addWord, Part.ofWord?, Parts.add]
    | some false => simp [visibilityWord, Parts.addWord, Part.ofWord?, Parts.add]
    | none => rfl
  rw [headWords, List.foldl_cons, hterm, List.foldl_append, htype, List.foldl_append, htag,
    hvisible]

theorem splitPattern_write (h : spec.IsCanonical) :
    ∃ front, splitPattern spec.write = (front, spec.pattern.map String.toList) ∧
      Spec.words front = spec.headWords := by
  have htilde : '~' ∉ spec.head := fun hmem => (head_quiet h '~' hmem).1 rfl
  rw [write_eq, splitPattern]
  cases hpattern : spec.pattern with
  | none =>
    refine ⟨spec.head, ?_, words_head h⟩
    simp [markedText, cutAt_eq_none htilde]
  | some p =>
    obtain ⟨hne, htrimmed⟩ := h.pattern p hpattern
    have hcut : cutAt '~' (spec.head ++ markedText " ~ ".toList (some p)) =
        some (spec.head ++ [' '], ' ' :: p.toList) := by
      apply cutAt_eq_some_iff.mpr
      refine ⟨by simp [markedText], ?_⟩
      simpa using htilde
    refine ⟨spec.head ++ [' '], ?_, ?_⟩
    · rw [hcut]
      simp [trim_cons_blank isBlank_space, htrimmed.trim_eq, hne]
    · rw [words_append_space, words_head h]

/-- A description in canonical form is read back from what it is written as. -/
theorem read?_write (h : spec.IsCanonical) : read? spec.write = some spec := by
  obtain ⟨front, hsplit, hwords⟩ := splitPattern_write h
  have htexts : ∀ t : Option String, (t.map String.toList).map String.ofList = t := by
    intro t
    cases t <;> simp
  simp [read?, hsplit, hwords, foldl_headWords h, htexts]

/-- A part that passes its grammar. -/
def Part.IsCanonical : Part → Prop
  | .term t => isTerm t = true
  | .dataType t => isDataType t = true
  | .language t => Language.isTag t = true
  | .visibility _ => True

theorem isCanonical_of_ofWord? {word : List Char} {part : Part}
    (h : Part.ofWord? word = some part) : part.IsCanonical := by
  unfold Part.ofWord? at h
  split at h
  · rename_i rest
    by_cases hrest : isDataType rest = true
    · simp only [hrest, if_true, Option.some.injEq] at h
      exact h ▸ hrest
    · simp [hrest] at h
  · rename_i rest
    by_cases hrest : Language.isTag rest = true
    · simp only [hrest, if_true, Option.some.injEq] at h
      exact h ▸ hrest
    · simp [hrest] at h
  · split at h
    · exact Option.some.inj h ▸ trivial
    · split at h
      · exact Option.some.inj h ▸ trivial
      · cases h
  · by_cases hword : isTerm word = true
    · simp only [hword, if_true, Option.some.injEq] at h
      exact h ▸ hword
    · simp [hword] at h

/-- Parts that pass their grammars. -/
structure Parts.IsCanonical (parts : Parts) : Prop where
  term : ∀ t, parts.term = some t → isTerm t = true
  dataType : ∀ t, parts.dataType = some t → isDataType t = true
  language : ∀ t, parts.language = some t → Language.isTag t = true

theorem eq_of_orElse_eq_some {α : Type} {p : α → Prop} {kept : Option α} {fresh : α}
    (hkept : ∀ t, kept = some t → p t) (hfresh : p fresh) :
    ∀ t, (kept <|> some fresh) = some t → p t := by
  intro t ht
  cases kept with
  | none =>
    cases Option.some.inj ht
    exact hfresh
  | some k =>
    cases Option.some.inj ht
    exact hkept t rfl

theorem Parts.IsCanonical.add {parts : Parts} (h : parts.IsCanonical) {part : Part}
    (hpart : part.IsCanonical) : (parts.add part).IsCanonical := by
  cases part with
  | term t => exact ⟨eq_of_orElse_eq_some h.term hpart, h.dataType, h.language⟩
  | dataType t => exact ⟨h.term, eq_of_orElse_eq_some h.dataType hpart, h.language⟩
  | language t => exact ⟨h.term, h.dataType, eq_of_orElse_eq_some h.language hpart⟩
  | visibility b => exact ⟨h.term, h.dataType, h.language⟩

theorem Parts.IsCanonical.foldl {parts : Parts} (h : parts.IsCanonical)
    (words : List (List Char)) : (words.foldl Parts.addWord parts).IsCanonical := by
  induction words generalizing parts with
  | nil => exact h
  | cons word rest ih =>
    apply ih
    unfold Parts.addWord
    split
    · rename_i part hword
      exact h.add (isCanonical_of_ofWord? hword)
    · exact h

theorem Parts.isCanonical_none : Parts.none.IsCanonical := by
  constructor <;> simp [Parts.none]

theorem splitPattern_pattern {s front pattern : List Char}
    (h : splitPattern s = (front, some pattern)) :
    pattern ≠ [] ∧ IsTrimmed pattern ∧ ∀ c ∈ pattern, c ∈ s := by
  unfold splitPattern at h
  split at h
  · rename_i head back hcut
    obtain ⟨rfl, -⟩ := cutAt_eq_some_iff.mp hcut
    by_cases hback : (trim back).isEmpty = true
    · simp [hback] at h
    · simp only [hback, Bool.false_eq_true, if_false, Prod.mk.injEq, Option.some.injEq] at h
      obtain ⟨-, rfl⟩ := h
      refine ⟨by simpa using hback, isTrimmed_trim back, ?_⟩
      intro c hc
      simp [mem_of_mem_trim hc]
  · simp at h

/-- What is read is in canonical form, and its pattern stands in the text that was read. -/
theorem isCanonical_of_read? {s : List Char} (h : read? s = some spec) :
    spec.IsCanonical ∧ ∀ p, spec.pattern = some p → ∀ c ∈ p.toList, c ∈ s := by
  rcases hsplit : splitPattern s with ⟨front, pattern⟩
  simp only [read?, hsplit, Option.map_eq_some_iff] at h
  obtain ⟨term, hterm, rfl⟩ := h
  have hparts := Parts.isCanonical_none.foldl (Spec.words front)
  refine ⟨⟨?_, ?_, ?_, ?_⟩, ?_⟩
  · simpa using hparts.term term hterm
  · intro t ht
    obtain ⟨u, hu, rfl⟩ := Option.map_eq_some_iff.mp ht
    simpa using hparts.dataType u hu
  · intro t ht
    obtain ⟨u, hu, rfl⟩ := Option.map_eq_some_iff.mp ht
    simpa using hparts.language u hu
  · intro p hp
    obtain ⟨u, rfl, rfl⟩ := Option.map_eq_some_iff.mp hp
    obtain ⟨hne, htrimmed, -⟩ := splitPattern_pattern hsplit
    simpa using And.intro hne htrimmed
  · intro p hp
    obtain ⟨u, rfl, rfl⟩ := Option.map_eq_some_iff.mp hp
    obtain ⟨-, -, hmem⟩ := splitPattern_pattern hsplit
    simpa using hmem

/-- Every description in canonical form is read back from its text, and every description that is
read from any text is in canonical form. -/
theorem parse?_toText :
    (∀ spec : Spec, spec.IsCanonical → parse? spec.toText = some spec) ∧
      ∀ (s : String) (spec : Spec), parse? s = some spec → spec.IsCanonical := by
  constructor
  · intro spec h
    rw [parse?, toText, String.toList_ofList, read?_write h]
  · intro s spec h
    exact (isCanonical_of_read? h).1

/-- All parts are given, and the pattern holds the marks of parts, a line feed and a tilde. -/
theorem parse?_toText_all_parts :
    let spec : Spec :=
      { field := "dcterms:créé.le", dataType := some "customvocab:12_é",
        language := some "de-CH-1996-x-y", isPublic := some false,
        pattern := some "@fr ~ ^^uri\n§public : \x7b__value__\x7d" }
    spec.IsCanonical ∧ parse? spec.toText = some spec := by
  intro spec
  have hcanonical : spec.IsCanonical := by
    constructor
    · decide +kernel
    · rintro t ⟨rfl⟩
      decide +kernel
    · rintro t ⟨rfl⟩
      decide +kernel
    · rintro p ⟨rfl⟩
      decide +kernel
  exact ⟨hcanonical, parse?_toText.1 spec hcanonical⟩

end Crosswalk.Field.Spec
