import Crosswalk.Proofs.Field.Description
import Crosswalk.Proofs.Text.Spaced

/-!
The order of the words of a description.

Each part of a description is given by the first word that is well formed for it, whatever stands
between the words. So the words may be reordered as long as those for one part keep their order, and
a word that is not well formed changes nothing wherever it stands.
-/

namespace Crosswalk.Field.Spec

open Text

/-- The marks that begin the words for all parts but the term. -/
def marks : List (List Char) := ["^^".toList, "@".toList, "§".toList]

def isMarked (w : List Char) : Bool := marks.any fun mark => beginsWith mark w

/-- A word without a mark that is a term. -/
def termOf? (w : List Char) : Option (List Char) := if !isMarked w && isTerm w then some w else none

def dataTypeOf? (w : List Char) : Option (List Char) :=
  (stripLead? "^^".toList w).filter isDataType

def languageOf? (w : List Char) : Option (List Char) :=
  (stripLead? "@".toList w).filter Language.isTag

def visibilityOf? (w : List Char) : Option Bool :=
  (stripLead? "§".toList w).bind fun rest =>
    if rest = "public".toList then some true
    else if rest = "private".toList then some false
    else none

/-- Whether a word is well formed for some part. -/
def isPart (w : List Char) : Bool :=
  (termOf? w).isSome || (dataTypeOf? w).isSome || (languageOf? w).isSome || (visibilityOf? w).isSome

/-- The description that takes every part from the first word that is well formed for it. -/
def ofWords? (words : List (List Char)) (pattern : Option (List Char)) : Option Spec :=
  (words.findSome? termOf?).map fun term =>
    { field := String.ofList term
      dataType := (words.findSome? dataTypeOf?).map String.ofList
      language := (words.findSome? languageOf?).map String.ofList
      isPublic := words.findSome? visibilityOf?
      pattern := pattern.map String.ofList }

/-- Words that are well formed for one part are the same in two lists, in the same order. -/
structure AgreeOnParts (words words' : List (List Char)) : Prop where
  terms : words.filterMap termOf? = words'.filterMap termOf?
  dataTypes : words.filterMap dataTypeOf? = words'.filterMap dataTypeOf?
  languages : words.filterMap languageOf? = words'.filterMap languageOf?
  visibilities : words.filterMap visibilityOf? = words'.filterMap visibilityOf?

/-- What stands behind the words: nothing, or a tilde and a pattern. -/
def patternSuffix : Option (List Char) → List Char
  | some pattern => '~' :: pattern
  | none => []

/-- The pattern that is read: it is trimmed, and a blank one is none. -/
def readPattern? (pattern : Option (List Char)) : Option (List Char) :=
  (pattern.map trim).filter fun p => !p.isEmpty

/-- A word of a description, well formed or not. -/
structure IsToken (w : List Char) : Prop where
  isWord : IsWord w
  noTilde : '~' ∉ w

instance : DecidablePred IsToken := fun w =>
  -- the characters of the word are looked at, not every character there is
  letI : Decidable (∀ c ∈ w, isBlank c = false) := List.decidableBAll (isBlank · = false) w
  decidable_of_iff (w ≠ [] ∧ (∀ c ∈ w, isBlank c = false) ∧ w.head? ≠ some ':' ∧
      w.getLast? ≠ some ':' ∧ '~' ∉ w)
    ⟨fun h => ⟨⟨h.1, h.2.1, h.2.2.1, h.2.2.2.1⟩, h.2.2.2.2⟩,
      fun h => ⟨h.isWord.ne_nil, h.isWord.plain, h.isWord.first, h.isWord.last, h.noTilde⟩⟩

/-- A text of words with any blanks between and around them, in front of a pattern if there is
one. -/
inductive HasWords (words : List (List Char)) (pattern : Option (List Char)) :
    List Char → Prop where
  | of {before s after : List Char} (hwords : ∀ w ∈ words, IsToken w)
    (hbefore : isAllBlank before = true) (hafter : isAllBlank after = true)
    (h : Spaced words s) : HasWords words pattern (before ++ s ++ after ++ patternSuffix pattern)

theorem not_isMarked {w : List Char} (htype : ∀ rest, w ≠ '^' :: '^' :: rest)
    (htag : ∀ rest, w ≠ '@' :: rest) (hvisible : ∀ rest, w ≠ '§' :: rest) :
    isMarked w = false := by
  rw [isMarked, List.any_eq_false]
  intro mark hmark hbegins
  obtain ⟨rest, rfl⟩ := beginsWith_iff.mp hbegins
  simp only [marks, List.mem_cons, List.not_mem_nil, or_false] at hmark
  rcases hmark with rfl | rfl | rfl
  · exact htype rest rfl
  · exact htag rest rfl
  · exact hvisible rest rfl

theorem stripLead?_of_not_isMarked {mark w : List Char} (h : isMarked w = false)
    (hmark : mark ∈ marks) : stripLead? mark w = none := by
  have hnot := List.any_eq_false.mp h mark hmark
  rwa [beginsWith, Bool.not_eq_true, Option.isSome_eq_false_iff, Option.isNone_iff_eq_none] at hnot

/-- A word begins with one of the marks, or it is read as a term. -/
theorem ofWord?_cases (w : List Char) :
    (∃ rest, w = '^' :: '^' :: rest) ∨ (∃ rest, w = '@' :: rest) ∨ (∃ rest, w = '§' :: rest) ∨
      isMarked w = false ∧ Part.ofWord? w = if isTerm w then some (.term w) else none := by
  unfold Part.ofWord?
  split
  · exact .inl ⟨_, rfl⟩
  · exact .inr (.inl ⟨_, rfl⟩)
  · exact .inr (.inr (.inl ⟨_, rfl⟩))
  · rename_i htype htag hvisible
    exact .inr (.inr (.inr ⟨not_isMarked htype htag hvisible, rfl⟩))

/-- The parts that one word gives. -/
def partsOf (w : List Char) : Parts := ⟨termOf? w, dataTypeOf? w, languageOf? w, visibilityOf? w⟩

theorem none_addWord (w : List Char) : Parts.none.addWord w = partsOf w := by
  rcases ofWord?_cases w with ⟨rest, rfl⟩ | ⟨rest, rfl⟩ | ⟨rest, rfl⟩ | ⟨hmarked, hword⟩
  · have hparts : partsOf ('^' :: '^' :: rest) =
        ⟨none, (some rest).filter isDataType, none, none⟩ := rfl
    rw [hparts, Option.filter_some, Parts.addWord, Part.ofWord?]
    split_ifs <;> rfl
  · have hparts : partsOf ('@' :: rest) = ⟨none, none, (some rest).filter Language.isTag, none⟩ :=
      rfl
    rw [hparts, Option.filter_some, Parts.addWord, Part.ofWord?]
    split_ifs <;> rfl
  · have hparts : partsOf ('§' :: rest) = ⟨none, none, none,
        if rest = "public".toList then some true
        else if rest = "private".toList then some false else none⟩ := rfl
    rw [hparts, Parts.addWord, Part.ofWord?]
    split_ifs <;> rfl
  · have htype : stripLead? "^^".toList w = none :=
      stripLead?_of_not_isMarked hmarked List.mem_cons_self
    have htag : stripLead? "@".toList w = none :=
      stripLead?_of_not_isMarked hmarked (List.mem_cons_of_mem _ List.mem_cons_self)
    have hvisible : stripLead? "§".toList w = none :=
      stripLead?_of_not_isMarked hmarked
        (List.mem_cons_of_mem _ (List.mem_cons_of_mem _ List.mem_cons_self))
    rw [partsOf, termOf?, dataTypeOf?, languageOf?, visibilityOf?, htype, htag, hvisible, hmarked,
      Parts.addWord, hword, Bool.not_false, Bool.true_and]
    split_ifs <;> rfl

def Parts.or (a b : Parts) : Parts :=
  ⟨a.term.or b.term, a.dataType.or b.dataType, a.language.or b.language, a.isPublic.or b.isPublic⟩

/-- One word adds what it gives for each part, unless the part is there already. -/
theorem addWord_eq_or (parts : Parts) (w : List Char) :
    parts.addWord w = parts.or (partsOf w) := by
  rw [← none_addWord, Parts.addWord, Parts.addWord]
  cases Part.ofWord? w with
  | none => simp [Parts.or, Parts.none]
  | some part => cases part <;> simp [Parts.add, Parts.or, Parts.none]

/-- The parts that words give together: each is the first that a word gives. -/
theorem foldl_addWord_eq (parts : Parts) (words : List (List Char)) :
    words.foldl Parts.addWord parts =
      parts.or ⟨words.findSome? termOf?, words.findSome? dataTypeOf?, words.findSome? languageOf?,
        words.findSome? visibilityOf?⟩ := by
  induction words generalizing parts with
  | nil => simp [Parts.or]
  | cons w rest ih =>
    have hfirst : ∀ {α : Type} (f : List Char → Option α),
        (w :: rest).findSome? f = (f w).or (rest.findSome? f) := by
      intro α f
      cases hw : f w <;> simp [hw]
    rw [List.foldl_cons, ih, addWord_eq_or, hfirst, hfirst, hfirst, hfirst]
    simp only [Parts.or, partsOf, Option.or_assoc]

theorem splitPattern_append {front : List Char} (h : '~' ∉ front) (pattern : Option (List Char)) :
    splitPattern (front ++ patternSuffix pattern) = (front, readPattern? pattern) := by
  cases pattern with
  | none =>
    rw [patternSuffix, List.append_nil, splitPattern, cutAt_eq_none h]
    rfl
  | some p =>
    rw [patternSuffix, splitPattern, cutAt_append h, readPattern?, Option.map_some,
      Option.filter_some]
    cases hempty : (trim p).isEmpty <;> simp [hempty]

theorem words_of_spaced {words : List (List Char)} {before s after : List Char}
    (h : Spaced words s) (hwords : ∀ w ∈ words, IsWord w) (hbefore : isAllBlank before = true)
    (hafter : isAllBlank after = true) : Spec.words (before ++ s ++ after) = words := by
  have hspacing := h.normalizeSpacing_eq hwords hbefore hafter
  by_cases hne : words = []
  · rw [Spec.words, hspacing, hne]
    rfl
  · rw [Spec.words, hspacing, ← normalizeSpacing_join hne hwords]
    exact words_join hne hwords

/-- Each part is read from the first word that is well formed for it. -/
theorem read?_of_hasWords {words : List (List Char)} {pattern : Option (List Char)}
    {s : List Char} (h : HasWords words pattern s) :
    read? s = ofWords? words (readPattern? pattern) := by
  obtain ⟨hwords, hbefore, hafter, hspaced⟩ := h
  rename_i before s after
  have hword := fun w hw => (hwords w hw).isWord
  have htilde : '~' ∉ before ++ s ++ after := by
    have hplain : ∀ {blanks : List Char}, isAllBlank blanks = true → '~' ∉ blanks :=
      fun hblanks hmem => nomatch List.all_eq_true.mp hblanks '~' hmem
    rw [List.mem_append, List.mem_append, not_or, not_or]
    refine ⟨⟨hplain hbefore, fun hmem => ?_⟩, hplain hafter⟩
    rcases hspaced.mem hmem with hblank | ⟨w, hw, hmem⟩
    · cases hblank
    · exact (hwords w hw).noTilde hmem
  simp only [read?, splitPattern_append htilde, words_of_spaced hspaced hword hbefore hafter,
    foldl_addWord_eq]
  rfl

theorem ofWords?_congr {words words' : List (List Char)} (h : AgreeOnParts words words')
    (pattern : Option (List Char)) : ofWords? words pattern = ofWords? words' pattern := by
  simp only [ofWords?, ← List.head?_filterMap, h.terms, h.dataTypes, h.languages, h.visibilities]

/-- What only words that are well formed for some part give is not lost with the others. -/
theorem filterMap_filter_isPart {α : Type} {f : List Char → Option α}
    (hf : ∀ w, (f w).isSome = true → isPart w = true) (words : List (List Char)) :
    (words.filter isPart).filterMap f = words.filterMap f := by
  rw [List.filterMap_filter]
  refine List.filterMap_congr fun w _ => ?_
  by_cases hw : isPart w = true
  · exact if_pos hw
  · rw [if_neg hw]
    exact (Option.not_isSome_iff_eq_none.mp (mt (hf w) hw)).symm

/-- Words that are well formed for no part do not count. -/
theorem agreeOnParts_of_filter {words words' : List (List Char)}
    (h : words.filter isPart = words'.filter isPart) : AgreeOnParts words words' := by
  have hkeep : ∀ {α : Type} (f : List Char → Option α),
      (∀ w, (f w).isSome = true → isPart w = true) → words.filterMap f = words'.filterMap f := by
    intro α f hf
    rw [← filterMap_filter_isPart hf words, h, filterMap_filter_isPart hf]
  constructor
  · exact hkeep termOf? fun w hw => by simp [isPart, hw]
  · exact hkeep dataTypeOf? fun w hw => by simp [isPart, hw]
  · exact hkeep languageOf? fun w hw => by simp [isPart, hw]
  · exact hkeep visibilityOf? fun w hw => by simp [isPart, hw]

/-- Words with any blanks between them, in front of any pattern, give each part by the first that is
well formed for it. So a description says the same in any order of its words in which those for one
part keep their order, and words that are well formed for no part may be put in or left out
anywhere. -/
theorem words_in_any_order (pattern : Option (List Char)) :
    (∀ words s, HasWords words pattern s → read? s = ofWords? words (readPattern? pattern)) ∧
      (∀ words words' s s', HasWords words pattern s → HasWords words' pattern s' →
        AgreeOnParts words words' → read? s = read? s') ∧
      ∀ words words' s s', HasWords words pattern s → HasWords words' pattern s' →
        words.filter isPart = words'.filter isPart → read? s = read? s' := by
  have hagree : ∀ words words' s s', HasWords words pattern s → HasWords words' pattern s' →
      AgreeOnParts words words' → read? s = read? s' := by
    intro words words' s s' h h' hparts
    rw [read?_of_hasWords h, read?_of_hasWords h', ofWords?_congr hparts]
  refine ⟨fun words s => read?_of_hasWords, hagree, ?_⟩
  intro words words' s s' h h' hfilter
  exact hagree words words' s s' h h' (agreeOnParts_of_filter hfilter)

/-- The first word is well formed for no part, and the language may stand in front of the terms, of
which the first counts. -/
theorem words_in_any_order_dropped :
    let pattern := some " of ~ \x7ba\x7d ".toList
    let words := ["@no_tag".toList, "b:s".toList, "@fr".toList, "c:t".toList]
    let words' := ["@fr".toList, "b:s".toList, "c:t".toList]
    let s := "\t@no_tag\u3000b:s\n\n@fr c:t ~ of ~ \x7ba\x7d ".toList
    let s' := "@fr b:s  c:t~ of ~ \x7ba\x7d ".toList
    HasWords words pattern s ∧ HasWords words' pattern s' ∧
      words.filter isPart ≠ words'.filter isPart ∧ AgreeOnParts words words' ∧
      read? s = read? s' ∧
      read? s' = some ⟨"b:s", none, some "fr", none, some "of ~ \x7ba\x7d"⟩ := by
  intro pattern words words' s s'
  have htokens : ∀ w ∈ words, IsToken w := by decide +kernel
  have htokens' : ∀ w ∈ words', IsToken w := by decide +kernel
  have hspaced : Spaced words ("@no_tag".toList ++ "\u3000".toList ++ ("b:s".toList ++
      "\n\n".toList ++ ("@fr".toList ++ " ".toList ++ "c:t".toList))) :=
    .cons (by decide) rfl (.cons (by decide) rfl (.cons (by decide) rfl (.word _)))
  have hspaced' : Spaced words' ("@fr".toList ++ " ".toList ++ ("b:s".toList ++ "  ".toList ++
      "c:t".toList)) :=
    .cons (by decide) rfl (.cons (by decide) rfl (.word _))
  have hwords : HasWords words pattern s := by
    have hblank : isAllBlank "\t".toList = true := rfl
    convert HasWords.of htokens hblank isAllBlank_space hspaced using 1
    decide +kernel
  have hwords' : HasWords words' pattern s' := by
    convert HasWords.of htokens' isAllBlank_nil isAllBlank_nil hspaced' using 1
    decide +kernel
  have hagree : AgreeOnParts words words' := by
    constructor <;> decide +kernel
  exact ⟨hwords, hwords', by decide +kernel, hagree,
    (words_in_any_order pattern).2.1 words words' s s' hwords hwords' hagree, by decide +kernel⟩

end Crosswalk.Field.Spec
