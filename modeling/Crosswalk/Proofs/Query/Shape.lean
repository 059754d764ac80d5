import Crosswalk.Proofs.Field.Characters
import Crosswalk.Proofs.Query.Written
import Crosswalk.Proofs.Text.Numeral
import Crosswalk.Query.Reader

/-!
What the text of a query looks like to a scan.

Names are made of characters without a meaning of their own, and marks stand in quotes or belong to
the part that holds them. So a scan for bars or slashes passes over every step, and one for the
bracket that closes a predicate passes over all that stands in it.
-/

namespace Crosswalk.Query

open Text

/-- The characters that open and close something. -/
def enclosing : List Char := ['"', '\'', '(', ')', '[', ']']

/-- The characters by which the parts of a query are told apart. -/
def marks : List Char := enclosing ++ ['/', '|', '=', '!']

/-- A character without a meaning between the parts of a query. -/
structure IsBare (c : Char) : Prop where
  notBlank : isBlank c = false
  notMark : c ∉ marks

instance : DecidablePred IsBare := fun c =>
  decidable_of_iff (isBlank c = false ∧ c ∉ marks) ⟨fun h => ⟨h.1, h.2⟩, fun h => ⟨h.1, h.2⟩⟩

def AreBare (s : List Char) : Prop := ∀ c ∈ s, IsBare c

instance (s : List Char) : Decidable (AreBare s) := List.decidableBAll IsBare s

theorem AreBare.isTrimmed {s : List Char} (h : AreBare s) : IsTrimmed s :=
  isTrimmed_of_forall fun c hc => (h c hc).notBlank

section Characters

variable {c : Char} {s : List Char}

theorem not_mem_marks_of_isAllBlank (h : isAllBlank s = true) : ∀ c ∈ s, c ∉ marks := by
  intro c hc hmark
  have hblank : isBlank c = true := List.all_eq_true.mp h c hc
  have hmarks : marks.all (fun m => !isBlank m) = true := by decide
  have hvisible := List.all_eq_true.mp hmarks c hmark
  rw [hblank] at hvisible
  cases hvisible

theorem not_mem_enclosing (h : c ∉ marks) : c ∉ enclosing :=
  fun hmem => h (List.mem_append_left _ hmem)

theorem quiet_of_not_mem_marks {mark : Char} (hmark : mark ∈ marks) (h : c ∉ marks) :
    isQuote c = false ∧ c ≠ mark := by
  refine ⟨?_, fun heq => h (heq ▸ hmark)⟩
  rw [← Bool.not_eq_true]
  intro hquote
  rcases isQuote_iff.mp hquote with rfl | rfl <;> exact h (by decide)

theorem no_operator_of_not_mem_marks (h : c ∉ marks) : isQuote c = false ∧ c ≠ '=' ∧ c ≠ '!' := by
  have hequals : isQuote c = false ∧ c ≠ '=' := quiet_of_not_mem_marks (by decide) h
  have hnot : isQuote c = false ∧ c ≠ '!' := quiet_of_not_mem_marks (by decide) h
  exact ⟨hequals.1, hequals.2, hnot.2⟩

theorem isBare_of_isNameCharacter (h : isNameCharacter c = true) : IsBare c := by
  have hcodes : ∀ n ∈ Field.blankCodes, isNameCharacter (Char.ofNat n) = false := by
    decide +kernel
  have hmarks : marks.all (fun m => !isNameCharacter m) = true := by decide +kernel
  constructor
  · by_contra hblank
    have hmem := @Field.mem_blankCodes c (by simpa using hblank)
    have hname := hcodes c.toNat hmem
    rw [Char.ofNat_toNat, h] at hname
    cases hname
  · intro hmark
    have hother := List.all_eq_true.mp hmarks c hmark
    rw [h] at hother
    cases hother

theorem isNameCharacter_of_isNameStart (h : isNameStart c = true) : isNameCharacter c = true := by
  rcases Bool.or_eq_true_iff.mp h with hunderscore | hletter
  · simp [isNameCharacter, beq_iff_eq.mp hunderscore]
  · simp [isNameCharacter, (Bool.and_eq_true_iff.mp hletter).1]

/-- A name does not begin like anything else that a query can hold. -/
theorem not_mem_of_isNameStart (h : isNameStart c = true) :
    c.isDigit = false ∧ c ∉ ['+', '@', '.', '*', ':'] := by
  have hothers : ['+', '@', '.', '*', ':'].all (fun m => !isNameStart m) = true := by
    decide +kernel
  constructor
  · rcases Bool.or_eq_true_iff.mp h with hunderscore | hletter
    · rw [beq_iff_eq.mp hunderscore]
      rfl
    · simpa using (Bool.and_eq_true_iff.mp hletter).2
  · intro hmem
    have hother := List.all_eq_true.mp hothers c hmem
    rw [h] at hother
    cases hother

theorem isName_eq_cons (h : isName s = true) :
    ∃ first rest, s = first :: rest ∧ isNameStart first = true ∧
      ∀ c ∈ s, isNameCharacter c = true := by
  match s, h with
  | first :: rest, h =>
    obtain ⟨hfirst, hrest⟩ := Bool.and_eq_true_iff.mp h
    refine ⟨first, rest, rfl, hfirst, ?_⟩
    intro c hc
    rcases List.mem_cons.mp hc with rfl | hc
    · exact isNameCharacter_of_isNameStart hfirst
    · exact List.all_eq_true.mp hrest c hc

theorem isNamePart_of_isName (h : isName s = true) : isNamePart s = true := by
  obtain ⟨first, rest, rfl, -, hall⟩ := isName_eq_cons h
  simp only [isNamePart, List.isEmpty_cons, Bool.not_false, Bool.true_and, Bool.or_eq_true]
  exact .inr (List.all_eq_true.mpr hall)

theorem isNamePart_cases (h : isNamePart s = true) :
    s ≠ [] ∧ (s = ['*'] ∨ ∀ c ∈ s, isNameCharacter c = true) := by
  obtain ⟨hne, hcharacters⟩ := Bool.and_eq_true_iff.mp h
  refine ⟨by simpa using hne, ?_⟩
  rcases Bool.or_eq_true_iff.mp hcharacters with hstar | hall
  · exact .inl (beq_iff_eq.mp hstar)
  · exact .inr (List.all_eq_true.mp hall)

theorem not_mem_of_isNamePart (h : isNamePart s = true) : ':' ∉ s ∧ '@' ∉ s := by
  have hothers : isNameCharacter ':' = false ∧ isNameCharacter '@' = false := by decide +kernel
  rcases (isNamePart_cases h).2 with rfl | hall
  · decide
  · constructor <;>
    · intro hmem
      have hc := hall _ hmem
      simp [hothers] at hc

theorem isBare_of_isNamePart (h : isNamePart s = true) : AreBare s := by
  rcases (isNamePart_cases h).2 with rfl | hall
  · decide
  · exact fun c hc => isBare_of_isNameCharacter (hall c hc)

end Characters

/-- The first character of a name pattern: one that begins a name, or the star. -/
def isPatternStart (c : Char) : Bool := isNameStart c || c == '*'

theorem not_mem_of_isPatternStart {c : Char} (h : isPatternStart c = true) :
    c.isDigit = false ∧ c ∉ ['+', '@', '.', ':'] := by
  rcases Bool.or_eq_true_iff.mp h with hname | hstar
  · obtain ⟨hdigit, hothers⟩ := not_mem_of_isNameStart hname
    refine ⟨hdigit, ?_⟩
    simp only [List.mem_cons, List.not_mem_nil, or_false, not_or] at hothers ⊢
    tauto
  · rw [beq_iff_eq.mp hstar]
    exact ⟨rfl, by decide⟩

/-- Whether a name is one that the reader takes: of parts of names, the first not the star. -/
def NamePattern.isReadable (p : NamePattern) : Bool :=
  isNamePart p.localName.toList &&
    p.qualifier.all fun q => isNamePart q.toList && q.toList != ['*']

namespace NamePattern

variable {p : NamePattern}

theorem localName_cases (h : p.isSupported = true) :
    p.localName.toList = ['*'] ∨ isName p.localName.toList = true := by
  rcases Bool.or_eq_true_iff.mp (Bool.and_eq_true_iff.mp h).1 with hwild | hname
  · rw [isWild, beq_iff_eq] at hwild
    rw [hwild]
    exact .inl rfl
  · exact .inr hname

theorem isName_qualifier (h : p.isSupported = true) {qualifier : String}
    (hq : p.qualifier = some qualifier) : isName qualifier.toList = true := by
  have hqualifier := (Bool.and_eq_true_iff.mp h).2
  rw [hq] at hqualifier
  exact hqualifier

/-- A name that can be written is one that the reader takes. -/
theorem isReadable_of_isSupported (h : p.isSupported = true) : p.isReadable = true := by
  have hlocal : isNamePart p.localName.toList = true := by
    rcases localName_cases h with hstar | hname
    · rw [hstar]
      decide
    · exact isNamePart_of_isName hname
  rw [isReadable, hlocal, Bool.true_and]
  cases hq : p.qualifier with
  | none => rfl
  | some qualifier =>
    have hname := isName_qualifier h hq
    have hstar : qualifier.toList ≠ ['*'] := by
      intro heq
      rw [heq] at hname
      revert hname
      decide
    simp [isNamePart_of_isName hname, hstar]

theorem isNamePart_localName (h : p.isReadable = true) : isNamePart p.localName.toList = true :=
  (Bool.and_eq_true_iff.mp h).1

theorem isNamePart_qualifier (h : p.isReadable = true) {qualifier : String}
    (hq : p.qualifier = some qualifier) :
    isNamePart qualifier.toList = true ∧ (qualifier.toList != ['*']) = true := by
  have hqualifier := (Bool.and_eq_true_iff.mp h).2
  rw [hq] at hqualifier
  exact Bool.and_eq_true_iff.mp hqualifier

theorem isBare_write (h : p.isReadable = true) : AreBare p.write := by
  have hlocal := isBare_of_isNamePart (isNamePart_localName h)
  rw [write]
  split
  · rename_i qualifier hq
    intro c hc
    rcases List.mem_append.mp hc with hqualifier | hrest
    · exact isBare_of_isNamePart (isNamePart_qualifier h hq).1 c hqualifier
    · rcases List.mem_cons.mp hrest with rfl | hrest
      · decide
      · exact hlocal c hrest
  · exact hlocal

theorem write_eq_cons (h : p.isSupported = true) :
    ∃ first rest, p.write = first :: rest ∧ isPatternStart first = true := by
  have hname : ∀ {s : List Char}, isName s = true →
      ∃ first rest, s = first :: rest ∧ isPatternStart first = true := by
    intro s hs
    obtain ⟨first, rest, heq, hfirst, -⟩ := isName_eq_cons hs
    exact ⟨first, rest, heq, by simp [isPatternStart, hfirst]⟩
  rw [write]
  split
  · rename_i qualifier hq
    obtain ⟨first, rest, heq, hfirst⟩ := hname (isName_qualifier h hq)
    exact ⟨first, rest ++ ':' :: p.localName.toList, by rw [heq]; rfl, hfirst⟩
  · rcases localName_cases h with hstar | hlocal
    · exact ⟨'*', [], hstar, rfl⟩
    · exact hname hlocal

end NamePattern

namespace Part

variable {part : Part}

theorem isBare_write (h : part.isSupported = true) : AreBare part.write := by
  cases part with
  | «attribute» name =>
    intro c hc
    rcases List.mem_cons.mp hc with rfl | hc
    · decide
    · exact NamePattern.isBare_write (NamePattern.isReadable_of_isSupported h) c hc
  | child name => exact NamePattern.isBare_write (NamePattern.isReadable_of_isSupported h)

/-- A part does not begin like a number. -/
theorem write_eq_cons (h : part.isSupported = true) :
    ∃ first rest, part.write = first :: rest ∧ first.isDigit = false ∧ first ≠ '+' ∧
      first ≠ '.' := by
  cases part with
  | «attribute» name => exact ⟨'@', name.write, rfl, rfl, by decide, by decide⟩
  | child name =>
    obtain ⟨first, rest, heq, hfirst⟩ := NamePattern.write_eq_cons (p := name) h
    obtain ⟨hdigit, hothers⟩ := not_mem_of_isPatternStart hfirst
    simp only [List.mem_cons, List.not_mem_nil, or_false, not_or] at hothers
    exact ⟨first, rest, heq, hdigit, hothers.1, hothers.2.2.1⟩

end Part

/-- A text of bare characters, with a pair of parentheses behind it or without. -/
structure IsHead (s : List Char) : Prop where
  ne_nil : s ≠ []
  split : ∃ word, (s = word ∨ s = word ++ ['(', ')']) ∧ AreBare word

namespace IsHead

variable {s front : List Char}

theorem append (h : IsHead s) (hfront : AreBare front) : IsHead (front ++ s) := by
  obtain ⟨word, hword, hbare⟩ := h.split
  refine ⟨List.append_ne_nil_of_right_ne_nil front h.ne_nil, front ++ word, ?_, ?_⟩
  · rcases hword with rfl | rfl
    · exact .inl rfl
    · exact .inr (by rw [List.append_assoc])
  · intro c hc
    rcases List.mem_append.mp hc with hc | hc
    · exact hfront c hc
    · exact hbare c hc

theorem isBare_or (h : IsHead s) : ∀ c ∈ s, IsBare c ∨ c = '(' ∨ c = ')' := by
  obtain ⟨word, rfl | rfl, hbare⟩ := h.split
  · exact fun c hc => .inl (hbare c hc)
  · intro c hc
    rcases List.mem_append.mp hc with hc | hc
    · exact .inl (hbare c hc)
    · exact .inr (by simpa using hc)

theorem isTrimmed (h : IsHead s) : IsTrimmed s := by
  apply isTrimmed_of_forall
  intro c hc
  rcases h.isBare_or c hc with hbare | rfl | rfl
  · exact hbare.notBlank
  · rfl
  · rfl

end IsHead

theorem NodeTest.isHead_write {test : NodeTest} (h : test.isSupported = true) :
    IsHead test.write := by
  cases test with
  | name pattern =>
    obtain ⟨first, rest, heq, -⟩ := NamePattern.write_eq_cons (p := pattern) h
    have hne : pattern.write ≠ [] := by simp [heq]
    have hbare := NamePattern.isBare_write (NamePattern.isReadable_of_isSupported (p := pattern) h)
    exact ⟨hne, pattern.write, .inl rfl, hbare⟩
  | text => exact ⟨by decide, "text".toList, .inr rfl, by decide⟩
  | any => exact ⟨by decide, "node".toList, .inr rfl, by decide⟩

theorem isHead_last : IsHead "last()".toList :=
  ⟨by decide, "last".toList, .inr rfl, by decide⟩

theorem Axis.isBare_write (axis : Axis) : AreBare axis.write := by
  cases axis <;> decide

theorem isHead_of_isHeadWrittenAs {axis : Axis} {test : NodeTest} {head : List Char}
    (hs : test.isSupported = true) (h : IsHeadWrittenAs axis test head) : IsHead head := by
  have htest := NodeTest.isHead_write hs
  cases h with
  | child => exact htest
  | named =>
    have hfront : AreBare (axis.write ++ [':', ':']) := by
      intro c hc
      rcases List.mem_append.mp hc with hc | hc
      · exact axis.isBare_write c hc
      · have hcolon : c = ':' := by simpa using hc
        rw [hcolon]
        decide
    simpa using htest.append hfront
  | short =>
    have hat : AreBare ['@'] := by decide
    exact htest.append hat
  | self => exact ⟨by decide, ['.'], .inl rfl, by decide⟩
  | parent => exact ⟨by decide, ['.', '.'], .inl rfl, by decide⟩

section Ends

theorem isTrimmed_inQuotes {quote : Char} (hquote : isQuote quote = true) (value : List Char) :
    IsTrimmed (quote :: value ++ [quote]) := by
  have hblank : isBlank quote = false := by
    rcases isQuote_iff.mp hquote with rfl | rfl <;> rfl
  constructor
  · rintro c ⟨⟩
    exact hblank
  · intro c hc
    rw [List.getLast?_concat] at hc
    cases hc
    exact hblank

theorem IsQuoted.isTrimmed {value s : List Char} (h : IsQuoted value s) : IsTrimmed s := by
  cases h with
  | of hquote _ => exact isTrimmed_inQuotes hquote value

theorem IsQuoted.ne_nil {value s : List Char} (h : IsQuoted value s) : s ≠ [] := by
  cases h
  simp

/-- A text that can stand on the left of a comparison: it has no blanks at its ends, and nothing in
it is a quote or belongs to an operator. -/
structure IsSide (s : List Char) : Prop where
  ne_nil : s ≠ []
  trimmed : IsTrimmed s
  quiet : ∀ c ∈ s, isQuote c = false ∧ c ≠ '=' ∧ c ≠ '!'

theorem AreBare.isSide {s : List Char} (h : AreBare s) (hne : s ≠ []) : IsSide s :=
  ⟨hne, h.isTrimmed, fun c hc => no_operator_of_not_mem_marks (h c hc).notMark⟩

theorem Part.isSide_write {part : Part} (h : part.isSupported = true) : IsSide part.write := by
  obtain ⟨first, rest, heq, -⟩ := write_eq_cons h
  exact (isBare_write h).isSide (by simp [heq])

theorem isSide_self : IsSide ['.'] := AreBare.isSide (by decide) (by simp)

theorem IsComparison.isTrimmed {left s : List Char} {value : String} {negated : Bool}
    (h : IsComparison left value negated s) (hleft : IsSide left) : IsTrimmed s := by
  cases h with
  | @of before after quoted _ _ h =>
    have haround := hleft.trimmed.around h.isTrimmed hleft.ne_nil h.ne_nil
      (before ++ operator negated ++ after)
    simpa using haround

theorem isBare_of_mem_ofNat {n : Nat} {c : Char} (h : c ∈ ofNat n) : IsBare c := by
  apply isBare_of_isNameCharacter
  have hdigit := isDigit_of_mem_ofNat h
  have hascii : Unicode.isAsciiAlphanumeric c = true := by
    simp [Unicode.isAsciiAlphanumeric, hdigit]
  simp [isNameCharacter, Unicode.isAlphanumeric, Field.toNat_lt_of_isAsciiAlphanumeric hascii,
    hascii]

theorem Predicate.isTrimmed {p : Predicate} {s : List Char} (hs : p.isSupported = true)
    (h : p.IsWrittenAs s) : IsTrimmed s := by
  cases h with
  | position n => exact isTrimmed_of_forall fun c hc => (isBare_of_mem_ofNat hc).notBlank
  | last => exact isHead_last.isTrimmed
  | has part => exact (Part.isBare_write hs).isTrimmed
  | compares h =>
    exact h.isTrimmed (Part.isSide_write (Bool.and_eq_true_iff.mp hs).1)
  | comparesSelf h => exact h.isTrimmed isSide_self

theorem Predicate.getLast?_of_areWrittenAs {predicates : List Predicate} {s : List Char}
    (h : AreWrittenAs predicates s) : s = [] ∨ s.getLast? = some ']' := by
  induction h with
  | nil => exact .inl rfl
  | @cons _ _ front left s right rest _ _ _ _ _ ih =>
    refine .inr ?_
    have hback : (']' :: rest).getLast? = some ']' := by
      rcases ih with rfl | hlast
      · rfl
      · simp [List.getLast?_cons, hlast]
    simp [List.getLast?_append, List.getLast?_cons, hback]

/-- Blanks in front of predicates are all that trimming removes. -/
theorem Predicate.trim_of_areWrittenAs {predicates : List Predicate} {s : List Char}
    (h : AreWrittenAs predicates s) : trim s = trimStart s := by
  cases h with
  | nil => rfl
  | @cons p more front left s right rest hfront hleft hright h hmore =>
    have hall := AreWrittenAs.cons isAllBlank_nil hleft hright h hmore
    have htrimmed : IsTrimmed ('[' :: (left ++ s ++ right ++ ']' :: rest)) := by
      constructor
      · rintro c ⟨⟩
        rfl
      · intro c hc
        have hlast := (getLast?_of_areWrittenAs hall).resolve_left (by simp)
        rw [List.nil_append, hc] at hlast
        cases hlast
        rfl
    rw [trimStart_append hfront htrimmed.first]
    simpa using trim_blanks_append hfront htrimmed

/-- The text of steps: it has no blanks at its ends and does not begin with a slash. -/
structure IsStepText (s : List Char) : Prop where
  ne_nil : s ≠ []
  trimmed : IsTrimmed s
  notSlash : s.head? ≠ some '/'

theorem Step.isStepText {step : Step} {s : List Char} (hs : step.isSupported = true)
    (h : step.IsWrittenAs s) : IsStepText s := by
  cases h with
  | @of head predicates hhead h =>
    have hword := isHead_of_isHeadWrittenAs (parts_of_isSupported hs).1 hhead
    have hfirst : (head ++ predicates).head? = head.head? :=
      List.head?_append_of_ne_nil head hword.ne_nil
    refine ⟨List.append_ne_nil_of_left_ne_nil hword.ne_nil predicates, ⟨?_, ?_⟩, ?_⟩
    · intro c hc
      rw [hfirst] at hc
      exact hword.isTrimmed.first c hc
    · rcases Predicate.getLast?_of_areWrittenAs h with rfl | hlast
      · rw [List.append_nil]
        exact hword.isTrimmed.last
      · intro c hc
        rw [List.getLast?_append, hlast] at hc
        cases hc
        rfl
    · intro hslash
      rw [hfirst] at hslash
      rcases hword.isBare_or '/' (List.mem_of_head? hslash) with hbare | hround | hround
      · exact hbare.notMark (by decide)
      · cases hround
      · cases hround

theorem IsStepText.append {s rest : List Char} (h : IsStepText s) (middle : List Char)
    (h' : IsStepText rest) : IsStepText (s ++ (middle ++ rest)) := by
  have hfirst : (s ++ (middle ++ rest)).head? = s.head? :=
    List.head?_append_of_ne_nil s h.ne_nil
  refine ⟨List.append_ne_nil_of_left_ne_nil h.ne_nil _, ⟨?_, ?_⟩, ?_⟩
  · rw [hfirst]
    exact h.trimmed.first
  · rw [List.getLast?_append_of_ne_nil _ (List.append_ne_nil_of_right_ne_nil _ h'.ne_nil),
      List.getLast?_append_of_ne_nil _ h'.ne_nil]
    exact h'.trimmed.last
  · rw [hfirst]
    exact h.notSlash

theorem Step.isStepText_of_areWrittenAs {steps : List Step} {s : List Char}
    (hs : ∀ step ∈ steps, step.isSupported = true) (h : AreWrittenAs steps s) : IsStepText s := by
  induction h with
  | last h => exact isStepText (hs _ List.mem_cons_self) h
  | @slash step more s before after rest _ _ h _ ih =>
    have hstep := isStepText (hs step List.mem_cons_self) h
    have hrest := ih fun x hx => hs x (List.mem_cons_of_mem step hx)
    simpa using hstep.append (before ++ '/' :: after) hrest
  | @slashes step more s before after rest _ _ h _ ih =>
    have hstep := isStepText (hs step List.mem_cons_self) h
    have hrest := ih fun x hx =>
      hs x (List.mem_cons_of_mem step (List.mem_cons_of_mem .everywhere hx))
    simpa using hstep.append (before ++ '/' :: '/' :: after) hrest

/-- Behind a slash the text of steps keeps its end. -/
theorem isTrimmed_slash (front : List Char) {s : List Char} (h : IsStepText s) :
    IsTrimmed ('/' :: (front ++ s)) := by
  constructor
  · rintro c ⟨⟩
    rfl
  · intro c hc
    rw [← List.cons_append, List.getLast?_append_of_ne_nil _ h.ne_nil] at hc
    exact h.trimmed.last c hc

theorem Path.isTrimmed {path : Path} {s : List Char} (hs : path.isSupported = true)
    (h : path.IsWrittenAs s) : IsTrimmed s := by
  have hall := path.steps_of_isSupported hs
  cases h with
  | root =>
    constructor <;>
    · rintro c ⟨⟩
      rfl
  | relative h => exact (Step.isStepText_of_areWrittenAs hall h).trimmed
  | absolute _ h => exact isTrimmed_slash _ (Step.isStepText_of_areWrittenAs hall h)
  | @below steps after s _ h =>
    have hsteps : ∀ step ∈ steps, step.isSupported = true := fun x hx =>
      hall x (List.mem_cons_of_mem _ hx)
    exact isTrimmed_slash ('/' :: after) (Step.isStepText_of_areWrittenAs hsteps h)

end Ends

section Inside

/-- A scan that does not stop within a predicate before the bracket that closes it. -/
structure IsQuiet (b : Brackets) (stops : Nesting → Char → Bool) : Prop where
  brackets : b = .square ∨ b = .roundAndSquare
  inside : ∀ c, c ≠ ']' → stops ⟨none, 1⟩ c = false
  quoted : ∀ quote c, stops ⟨some quote, 1⟩ c = false
  round : stops ⟨none, 2⟩ ')' = false

theorem isQuiet_counts (mark : Char) : IsQuiet .roundAndSquare (counts mark) := by
  refine ⟨.inr rfl, ?_, ?_, ?_⟩ <;> intros <;> rfl

theorem isQuiet_closes : IsQuiet .square (closes .square) := by
  refine ⟨.inl rfl, ?_, ?_, by decide⟩
  · intro c hc
    have hclosing : c ∉ Brackets.square.closing := by simpa [Brackets.square] using hc
    have hstep : (Nesting.step .square ⟨none, 1⟩ c).isOutside = false := by
      simp only [Nesting.step]
      split
      · rfl
      · split
        · rfl
        · rfl
    simp [closes, hstep]
  · intro quote c
    have hstep : (Nesting.step .square ⟨some quote, 1⟩ c).isOutside = false := by
      simp only [Nesting.step]
      split <;> rfl
    simp [closes, hstep]

theorem isPlain_of_not_mem {b : Brackets} (hb : b = .square ∨ b = .roundAndSquare) {c : Char}
    (h : c ∉ enclosing) : b.IsPlain c := by
  simp only [enclosing, List.mem_cons, List.not_mem_nil, or_false, not_or] at h
  rcases hb with rfl | rfl <;>
    constructor <;> simp [isQuote, Brackets.square, Brackets.roundAndSquare, h]

variable {b : Brackets} {stops : Nesting → Char → Bool}

namespace IsQuiet

theorem passes_plain (hq : IsQuiet b stops) {s : List Char} (h : ∀ c ∈ s, c ∉ enclosing) :
    Passes b stops ⟨none, 1⟩ s ⟨none, 1⟩ := by
  apply Passes.plain
  · exact fun c hc => isPlain_of_not_mem hq.brackets (h c hc)
  · intro c hc
    apply hq.inside
    rintro rfl
    exact h ']' hc (by decide)

theorem passes_blank (hq : IsQuiet b stops) {s : List Char} (h : isAllBlank s = true) :
    Passes b stops ⟨none, 1⟩ s ⟨none, 1⟩ :=
  hq.passes_plain fun c hc =>
    not_mem_enclosing (not_mem_marks_of_isAllBlank h c hc)

theorem passes_quoted (hq : IsQuiet b stops) {value s : List Char} (h : IsQuoted value s) :
    Passes b stops ⟨none, 1⟩ s ⟨none, 1⟩ := by
  cases h with
  | @of quote hquote h =>
    refine Passes.quoted hquote h (hq.inside quote ?_) (hq.quoted quote)
    rintro rfl
    cases hquote

theorem passes_comparison (hq : IsQuiet b stops) {left s : List Char} {value : String}
    {negated : Bool} (hleft : AreBare left) (h : IsComparison left value negated s) :
    Passes b stops ⟨none, 1⟩ s ⟨none, 1⟩ := by
  cases h with
  | of hbefore hafter h =>
    have hbare := hq.passes_plain fun c hc => not_mem_enclosing (hleft c hc).notMark
    have hsign : Passes b stops ⟨none, 1⟩ (operator negated) ⟨none, 1⟩ := by
      apply hq.passes_plain
      cases negated <;> simp [operator, enclosing]
    exact ((hbare.append (hq.passes_blank hbefore)).append hsign).append
      ((hq.passes_blank hafter).append (hq.passes_quoted h))

theorem passes_last (hq : IsQuiet b stops) :
    Passes b stops ⟨none, 1⟩ "last()".toList ⟨none, 1⟩ := by
  have hbare : AreBare "last".toList := by decide
  have hword : Passes b stops ⟨none, 1⟩ "last".toList ⟨none, 1⟩ :=
    hq.passes_plain fun c hc => not_mem_enclosing (hbare c hc).notMark
  have hround : Passes b stops ⟨none, 1⟩ ['(', ')'] ⟨none, 1⟩ := by
    rcases hq.brackets with rfl | rfl
    · exact ⟨hq.inside '(' (by decide), hq.inside ')' (by decide), rfl⟩
    · exact ⟨hq.inside '(' (by decide), hq.round, rfl⟩
  exact hword.append hround

theorem passes_predicate (hq : IsQuiet b stops) {p : Predicate} {s : List Char}
    (hs : p.isSupported = true) (h : p.IsWrittenAs s) :
    Passes b stops ⟨none, 1⟩ s ⟨none, 1⟩ := by
  cases h with
  | position n =>
    exact hq.passes_plain fun c hc => not_mem_enclosing (isBare_of_mem_ofNat hc).notMark
  | last => exact hq.passes_last
  | has part =>
    exact hq.passes_plain fun c hc => not_mem_enclosing (Part.isBare_write hs c hc).notMark
  | compares h =>
    exact hq.passes_comparison (Part.isBare_write (Bool.and_eq_true_iff.mp hs).1) h
  | comparesSelf h => exact hq.passes_comparison (by decide) h

/-- Blanks may stand around what a predicate holds. -/
theorem passes_inner (hq : IsQuiet b stops) {p : Predicate} {left s right : List Char}
    (hs : p.isSupported = true) (hleft : isAllBlank left = true) (h : p.IsWrittenAs s)
    (hright : isAllBlank right = true) :
    Passes b stops ⟨none, 1⟩ (left ++ s ++ right) ⟨none, 1⟩ :=
  ((hq.passes_blank hleft).append (hq.passes_predicate hs h)).append (hq.passes_blank hright)

end IsQuiet

end Inside

section Outside

variable {mark : Char}

/-- Passing over a text outside quotes and brackets, in search of a mark. -/
def PassesOver (mark : Char) (s : List Char) : Prop :=
  Passes .roundAndSquare (counts mark) .outside s .outside

theorem passesOver_plain {s : List Char} (h : ∀ c ∈ s, c ∉ enclosing ∧ c ≠ mark) :
    PassesOver mark s := by
  apply Passes.plain
  · exact fun c hc => isPlain_of_not_mem (.inr rfl) (h c hc).1
  · intro c hc
    simp [counts, (h c hc).2]

theorem passesOver_of_not_mem_marks (hmark : mark ∈ marks) {s : List Char}
    (h : ∀ c ∈ s, c ∉ marks) : PassesOver mark s :=
  passesOver_plain fun c hc => ⟨not_mem_enclosing (h c hc), fun heq => h c hc (heq ▸ hmark)⟩

theorem passesOver_blank (hmark : mark ∈ marks) {s : List Char} (h : isAllBlank s = true) :
    PassesOver mark s :=
  passesOver_of_not_mem_marks hmark (not_mem_marks_of_isAllBlank h)

theorem passesOver_slash : PassesOver '|' ['/'] := ⟨rfl, rfl⟩

theorem passesOver_bracketed {opening closing : Char} {s : List Char}
    (ho : opening = '(' ∨ opening = '[') (hc : closing = ')' ∨ closing = ']')
    (hmark : opening ≠ mark)
    (h : Passes .roundAndSquare (counts mark) ⟨none, 1⟩ s ⟨none, 1⟩) :
    PassesOver mark (opening :: s ++ [closing]) := by
  have hopen : counts mark ⟨none, 0⟩ opening = false := by simp [counts, hmark]
  rcases ho with rfl | rfl <;> rcases hc with rfl | rfl <;>
    exact Passes.bracketed rfl rfl (by decide) (by decide) (by decide) hopen rfl h

theorem passesOver_head (hmark : mark = '/' ∨ mark = '|') {s : List Char} (h : IsHead s) :
    PassesOver mark s := by
  have hmarks : mark ∈ marks ∧ '(' ≠ mark := by
    rcases hmark with rfl | rfl <;> decide
  obtain ⟨word, hword, hbare⟩ := h.split
  have hplain : PassesOver mark word :=
    passesOver_of_not_mem_marks hmarks.1 fun c hc => (hbare c hc).notMark
  rcases hword with rfl | rfl
  · exact hplain
  · exact hplain.append (passesOver_bracketed (s := []) (.inl rfl) (.inl rfl) hmarks.2 rfl)

theorem passesOver_predicates (hmark : mark = '/' ∨ mark = '|') {predicates : List Predicate}
    {s : List Char} (hs : ∀ p ∈ predicates, p.isSupported = true)
    (h : Predicate.AreWrittenAs predicates s) : PassesOver mark s := by
  have hmarks : mark ∈ marks ∧ '[' ≠ mark := by
    rcases hmark with rfl | rfl <;> decide
  induction h with
  | nil => rfl
  | @cons p more front left s right rest hfront hleft hright h _ ih =>
    have hinner := (isQuiet_counts mark).passes_inner (hs p List.mem_cons_self) hleft h hright
    have hbracket := passesOver_bracketed (.inr rfl) (.inr rfl) hmarks.2 hinner
    have hrest := ih fun x hx => hs x (List.mem_cons_of_mem p hx)
    have hall := ((passesOver_blank hmarks.1 hfront).append hbracket).append hrest
    simpa [PassesOver] using hall

theorem passesOver_step (hmark : mark = '/' ∨ mark = '|') {step : Step} {s : List Char}
    (hs : step.isSupported = true) (h : step.IsWrittenAs s) : PassesOver mark s := by
  obtain ⟨htest, hpredicates⟩ := step.parts_of_isSupported hs
  cases h with
  | of hhead h =>
    exact (passesOver_head hmark (isHead_of_isHeadWrittenAs htest hhead)).append
      (passesOver_predicates hmark hpredicates h)

theorem passesOver_steps {steps : List Step} {s : List Char}
    (hs : ∀ step ∈ steps, step.isSupported = true) (h : Step.AreWrittenAs steps s) :
    PassesOver '|' s := by
  have hmark : '|' = '/' ∨ '|' = '|' := .inr rfl
  have hblank : ∀ {blanks : List Char}, isAllBlank blanks = true → PassesOver '|' blanks :=
    passesOver_blank (by decide)
  induction h with
  | last h => exact passesOver_step hmark (hs _ List.mem_cons_self) h
  | @slash step more s before after rest hbefore hafter h _ ih =>
    have hstep := passesOver_step hmark (hs step List.mem_cons_self) h
    have hrest := ih fun x hx => hs x (List.mem_cons_of_mem step hx)
    exact (hstep.append (hblank hbefore)).append
      (passesOver_slash.append ((hblank hafter).append hrest))
  | @slashes step more s before after rest hbefore hafter h _ ih =>
    have hstep := passesOver_step hmark (hs step List.mem_cons_self) h
    have hrest := ih fun x hx =>
      hs x (List.mem_cons_of_mem step (List.mem_cons_of_mem .everywhere hx))
    exact (hstep.append (hblank hbefore)).append
      (passesOver_slash.append (passesOver_slash.append ((hblank hafter).append hrest)))

theorem passesOver_path {path : Path} {s : List Char} (hs : path.isSupported = true)
    (h : path.IsWrittenAs s) : PassesOver '|' s := by
  have hblank : ∀ {blanks : List Char}, isAllBlank blanks = true → PassesOver '|' blanks :=
    passesOver_blank (by decide)
  have hall := path.steps_of_isSupported hs
  cases h with
  | root => exact passesOver_slash
  | relative h => exact passesOver_steps hall h
  | absolute hafter h =>
    have hsteps := passesOver_steps hall h
    exact passesOver_slash.append ((hblank hafter).append hsteps)
  | @below steps after s hafter h =>
    have hsteps := passesOver_steps (fun x hx => hall x (List.mem_cons_of_mem _ hx)) h
    exact passesOver_slash.append (passesOver_slash.append ((hblank hafter).append hsteps))

end Outside

end Crosswalk.Query
