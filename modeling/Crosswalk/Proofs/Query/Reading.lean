import Crosswalk.Proofs.Query.Shape
import Crosswalk.Query.Reader

/-!
Queries, written and read again.

Every part of a query is read as it is meant in whichever way it is written, and reading a part
never depends on what is written next to it: so the query is read back as a whole.
-/

namespace Crosswalk.Query

open Text

namespace NamePattern

variable {p : NamePattern}

theorem read?_write (h : p.isReadable = true) : read? p.write = some p := by
  have hlocal := isNamePart_localName h
  rw [read?, (isBare_write h).isTrimmed.trim_eq]
  cases hq : p.qualifier with
  | none =>
    have hwrite : p.write = p.localName.toList := by rw [write, hq]
    rw [hwrite, cutAt_eq_none (not_mem_of_isNamePart hlocal).1]
    simp only [hlocal, if_true, String.ofList_toList, ← hq]
  | some qualifier =>
    obtain ⟨hname, hstar⟩ := isNamePart_qualifier h hq
    have hwrite : p.write = qualifier.toList ++ ':' :: p.localName.toList := by rw [write, hq]
    rw [hwrite, cutAt_append (not_mem_of_isNamePart hname).1]
    simp only [hlocal, hname, hstar, Bool.and_self, if_true, String.ofList_toList, ← hq]

/-- What is read as a name is the name with blanks around it. -/
theorem read?_eq_some_iff {s : List Char} :
    read? s = some p ↔ p.isReadable = true ∧ trim s = p.write := by
  constructor
  · intro h
    rw [read?] at h
    split at h
    · rename_i qualifier localName hcut
      split at h
      · rename_i hparts
        cases h
        obtain ⟨hnames, hstar⟩ := Bool.and_eq_true_iff.mp hparts
        obtain ⟨hlocal, hqualifier⟩ := Bool.and_eq_true_iff.mp hnames
        rw [(cutAt_eq_some_iff.mp hcut).1]
        simpa [isReadable, write, hlocal, hqualifier] using hstar
      · cases h
    · split at h
      · rename_i hname
        cases h
        simp [isReadable, write, hname]
      · cases h
  · rintro ⟨hreadable, htrim⟩
    rw [← read?_write hreadable, read?, read?, htrim, (isBare_write hreadable).isTrimmed.trim_eq]

/-- Two colons in a row do not stand in a name. -/
theorem cutAtText_write (h : p.isReadable = true) :
    cutAtText [':', ':'] p.write = none := by
  have hcolon := (not_mem_of_isNamePart (isNamePart_localName h)).1
  rw [write]
  split
  · rename_i qualifier hq
    have hname := (isNamePart_qualifier h hq).1
    have hsecond : stripLead? [':'] p.localName.toList = none := by
      cases hlocal : p.localName.toList with
      | nil => rfl
      | cons c rest =>
        have hc : ':' ≠ c := fun heq => hcolon (by rw [hlocal, heq]; exact List.mem_cons_self)
        simp [stripLead?, hc]
    rw [cutAtText_append (not_mem_of_isNamePart hname).1, cutAtText]
    simp [stripLead?, hsecond, cutAtText_eq_none hcolon]
  · exact cutAtText_eq_none hcolon

theorem write_ne_nil (h : p.isReadable = true) : p.write ≠ [] := by
  have hlocal := (isNamePart_cases (isNamePart_localName h)).1
  rw [write]
  split
  · simp
  · exact hlocal

/-- A name does not begin like an attribute. -/
theorem head_write (h : p.isReadable = true) : p.write.head? ≠ some '@' := by
  have hlocal := (not_mem_of_isNamePart (isNamePart_localName h)).2
  have hmem : '@' ∉ p.write := by
    rw [write]
    split
    · rename_i qualifier hq
      simp [(not_mem_of_isNamePart (isNamePart_qualifier h hq).1).2, hlocal]
    · exact hlocal
  exact fun hhead => hmem (List.mem_of_head? hhead)

end NamePattern

/-- Without an at sign in front a part is a child. -/
theorem Part.read?_child {s : List Char} (h : s.head? ≠ some '@') :
    read? s = (NamePattern.read? s).map .child := by
  unfold read?
  split
  · exact absurd rfl h
  · rfl

theorem Part.read?_write {part : Part} (h : part.isSupported = true) :
    read? part.write = some part := by
  cases part with
  | «attribute» name =>
    have hread := NamePattern.read?_write (NamePattern.isReadable_of_isSupported (p := name) h)
    simp [read?, write, hread]
  | child name =>
    have hreadable := NamePattern.isReadable_of_isSupported (p := name) h
    rw [write, read?_child (NamePattern.head_write hreadable), NamePattern.read?_write hreadable]
    rfl

section Predicate

/-- A text in quotes is read back, whatever it holds. -/
theorem literal?_of_isQuoted {value after quoted : List Char} (hafter : isAllBlank after = true)
    (h : IsQuoted value quoted) : literal? (after ++ quoted) = some value := by
  have htrim := trim_blanks_append hafter h.isTrimmed
  cases h with
  | of hquote _ =>
    simp only [literal?, htrim]
    simp [(isQuote_iff.mp hquote).symm]

variable {left s : List Char} {value : String} {negated : Bool}

/-- A comparison is cut at its operator: on the left no text in quotes stands, so the first equals
sign is that of the operator. -/
theorem splitComparison?_operator {before : List Char} (hleft : IsSide left)
    (hbefore : isAllBlank before = true) (right : List Char) :
    splitComparison? (left ++ before ++ operator negated ++ right) =
      some (left ++ before, right, negated) := by
  have hquiet : ∀ c ∈ left ++ before, isQuote c = false ∧ c ≠ '=' ∧ c ≠ '!' := by
    intro c hc
    rcases List.mem_append.mp hc with hc | hc
    · exact hleft.quiet c hc
    · exact no_operator_of_not_mem_marks (not_mem_marks_of_isAllBlank hbefore c hc)
  have hfront : ∀ c ∈ left ++ before, isQuote c = false ∧ c ≠ '=' := fun c hc =>
    ⟨(hquiet c hc).1, (hquiet c hc).2.1⟩
  cases negated with
  | true =>
    have hsign : ∀ c ∈ left ++ before ++ ['!'], isQuote c = false ∧ c ≠ '=' := by
      intro c hc
      rcases List.mem_append.mp hc with hc | hc
      · exact hfront c hc
      · have hc : c = '!' := by simpa using hc
        rw [hc]
        decide
    have htext : left ++ before ++ operator true ++ right =
        left ++ before ++ ['!'] ++ '=' :: right := by simp [operator]
    rw [htext, splitComparison?, cutOutside_append_cons (.quoteless hsign)]
    simp
  | false =>
    have htext : left ++ before ++ operator false ++ right = left ++ before ++ '=' :: right := by
      simp [operator]
    have hlast : (left ++ before).getLast? ≠ some '!' := by
      intro hlast
      exact (hquiet '!' (List.mem_of_getLast? hlast)).2.2 rfl
    rw [htext, splitComparison?, cutOutside_append_cons (.quoteless hfront), Option.map_some]
    simp only [hlast, if_false]

/-- A text with an operator is neither a number nor the test for the last place. -/
theorem Predicate.read?_of_operator {before right : List Char} {p : Predicate}
    (hleft : IsSide left) (hbefore : isAllBlank before = true)
    (htrimmed : IsTrimmed (left ++ before ++ operator negated ++ right))
    (hread : readComparison? (left ++ before) right negated = some p) :
    read? (left ++ before ++ operator negated ++ right) = some p := by
  have hequals : '=' ∈ left ++ before ++ operator negated ++ right := by
    cases negated <;> simp [operator]
  have hlast : left ++ before ++ operator negated ++ right ≠ "last()".toList := by
    intro heq
    rw [heq] at hequals
    revert hequals
    decide
  have hnumber := unsigned?_eq_none hequals rfl (by decide)
  simp only [read?, htrimmed.trim_eq, hnumber, hlast, if_false,
    splitComparison?_operator hleft hbefore]
  exact hread

theorem Predicate.read?_of_comparison {p : Predicate} (hleft : IsSide left)
    (h : IsComparison left value negated s)
    (hread : ∀ before right, isAllBlank before = true → literal? right = some value.toList →
      readComparison? (left ++ before) right negated = some p) :
    read? s = some p := by
  have htrimmed := h.isTrimmed hleft
  cases h with
  | of hbefore hafter h =>
    exact read?_of_operator hleft hbefore htrimmed
      (hread _ _ hbefore (literal?_of_isQuoted hafter h))

theorem readComparison?_part {part : Part} {before right : List Char} (htrimmed : IsTrimmed left)
    (hmarks : ∀ c ∈ left, c ∉ marks) (hself : left ≠ ['.']) (hpart : Part.read? left = some part)
    (hbefore : isAllBlank before = true) (hright : literal? right = some value.toList) :
    readComparison? (left ++ before) right negated = some (.compares part value negated) := by
  have htrim : trim (left ++ before) = left := trim_append_blanks hbefore htrimmed
  have htext : left ≠ "text()".toList := by
    rintro rfl
    exact hmarks '(' (by decide) (by decide)
  rw [readComparison?, hright, Option.bind_eq_bind, Option.bind_some, htrim]
  simp only [hself, htext, or_self, if_false, hpart, Option.bind_eq_bind, Option.bind_some,
    String.ofList_toList]

theorem readComparison?_self {before right : List Char}
    (hleft : left = ['.'] ∨ left = "text()".toList) (hbefore : isAllBlank before = true)
    (hright : literal? right = some value.toList) :
    readComparison? (left ++ before) right negated = some (.comparesSelf value negated) := by
  have htrimmed : IsTrimmed left := by
    apply isTrimmed_of_forall
    rcases hleft with rfl | rfl <;> simp [Text.isBlank]
  have htrim : trim (left ++ before) = left := trim_append_blanks hbefore htrimmed
  rw [readComparison?, hright, Option.bind_eq_bind, Option.bind_some, htrim]
  simp only [hleft, if_true, String.ofList_toList]

/-- A part by itself is read as such, unless it is a number. -/
theorem Predicate.read?_part {part : Part} (htrimmed : IsTrimmed s) (hmarks : ∀ c ∈ s, c ∉ marks)
    (hnumber : unsigned? s = none) (hpart : Part.read? s = some part) :
    read? s = some (.has part) := by
  have hlast : s ≠ "last()".toList := by
    rintro rfl
    exact hmarks '(' (by decide) (by decide)
  have hquiet : ∀ c ∈ s, isQuote c = false ∧ c ≠ '=' := fun c hc =>
    quiet_of_not_mem_marks (by decide) (hmarks c hc)
  have hsplit : splitComparison? s = none := by
    rw [splitComparison?, cutOutside_eq_none (.quoteless hquiet)]
    rfl
  simp only [read?, htrimmed.trim_eq, hnumber, hlast, if_false, hsplit, hpart, Option.map_some]

theorem Predicate.read?_of_isWrittenAs {p : Predicate} (hs : p.isSupported = true)
    (h : p.IsWrittenAs s) : read? s = some p := by
  have htrim := (isTrimmed hs h).trim_eq
  cases h with
  | position n =>
    have hn : n < wordLimit := of_decide_eq_true hs
    simp [read?, htrim, unsigned?_ofNat hn]
  | last => rfl
  | has part =>
    have hbare := Part.isBare_write hs
    obtain ⟨first, rest, heq, hdigit, hplus, -⟩ := Part.write_eq_cons hs
    have hnumber : unsigned? part.write = none :=
      unsigned?_eq_none (by rw [heq]; exact List.mem_cons_self) hdigit hplus
    exact read?_part hbare.isTrimmed (fun c hc => (hbare c hc).notMark) hnumber
      (Part.read?_write hs)
  | @compares part _ _ _ h =>
    have hpart : part.isSupported = true := (Bool.and_eq_true_iff.mp hs).1
    have hbare := Part.isBare_write hpart
    have hself : part.write ≠ ['.'] := by
      obtain ⟨first, rest, heq, -, -, hdot⟩ := Part.write_eq_cons hpart
      rw [heq]
      intro hself
      exact hdot (List.cons.inj hself).1
    exact read?_of_comparison (Part.isSide_write hpart) h fun _ _ hbefore hright =>
      readComparison?_part hbare.isTrimmed (fun c hc => (hbare c hc).notMark) hself
        (Part.read?_write hpart) hbefore hright
  | comparesSelf h =>
    exact read?_of_comparison isSide_self h fun _ _ hbefore hright =>
      readComparison?_self (.inl rfl) hbefore hright

end Predicate

theorem Predicate.read?_trim (s : List Char) : read? (trim s) = read? s := by
  simp only [read?, (isTrimmed_trim s).trim_eq]

section Predicates

variable {predicates : List Predicate} {s : List Char}

/-- Predicates are read one after the other, and none is longer than the text that is left. -/
theorem readPredicatesFrom?_of_areWrittenAs (hs : ∀ p ∈ predicates, p.isSupported = true)
    (h : Predicate.AreWrittenAs predicates s) {fuel : Nat}
    (hfuel : (trimStart s).length ≤ fuel) :
    readPredicatesFrom? fuel (trimStart s) = some predicates := by
  induction h generalizing fuel with
  | nil => cases fuel <;> rfl
  | @cons p more front left s right rest hfront hleft hright h hmore ih =>
    have htrim : trimStart (front ++ '[' :: (left ++ s ++ right ++ ']' :: rest)) =
        '[' :: (left ++ s ++ right ++ ']' :: rest) := by
      apply trimStart_append hfront
      rintro c ⟨⟩
      rfl
    have hlength : (trimStart rest).length ≤ rest.length :=
      (List.dropWhile_sublist _).length_le
    rw [htrim] at hfuel ⊢
    cases fuel with
    | zero => cases hfuel
    | succ fuel =>
      have hinner := isQuiet_closes.passes_inner (hs p List.mem_cons_self) hleft h hright
      have hclose : closeBracket .square (left ++ s ++ right ++ ']' :: rest) =
          some (left ++ s ++ right, rest) := closeFrom_append hinner rfl rest
      have hread : Predicate.read? (left ++ s ++ right) = some p := by
        have hp := hs p List.mem_cons_self
        rw [← Predicate.read?_trim, trim_around hleft hright (Predicate.isTrimmed hp h),
          Predicate.read?_of_isWrittenAs hp h]
      have hleast : (trimStart rest).length ≤ fuel := by
        simp only [List.length_cons, List.length_append] at hfuel
        omega
      have hrest := ih (fun x hx => hs x (List.mem_cons_of_mem p hx)) hleast
      simp only [readPredicatesFrom?, hclose, hread, hrest, Option.bind_eq_bind, Option.bind_some]

theorem readPredicates?_of_areWrittenAs (hs : ∀ p ∈ predicates, p.isSupported = true)
    (h : Predicate.AreWrittenAs predicates s) : readPredicates? s = some predicates := by
  have hlength : (trimStart s).length ≤ s.length := (List.dropWhile_sublist _).length_le
  rw [readPredicates?, Predicate.trim_of_areWrittenAs h]
  exact readPredicatesFrom?_of_areWrittenAs hs h hlength

end Predicates

section Head

variable {axis : Axis} {test : NodeTest} {head : List Char}

theorem NodeTest.read?_name {s : List Char} {pattern : NamePattern}
    (h : NamePattern.read? s = some pattern) : read? s = some (.name pattern) := by
  obtain ⟨hreadable, htrim⟩ := NamePattern.read?_eq_some_iff.mp h
  have hround : ∀ {word : List Char}, '(' ∈ word → trim s ≠ word := by
    rintro _ hmem rfl
    rw [htrim] at hmem
    exact (NamePattern.isBare_write hreadable '(' hmem).notMark (by decide)
  have htext : trim s ≠ "text()".toList := hround (by decide)
  have hnode : trim s ≠ "node()".toList := hround (by decide)
  have hread : NamePattern.read? (trim s) = some pattern := by
    rw [htrim]
    exact NamePattern.read?_write hreadable
  simp only [read?, htext, hnode, if_false, hread, Option.map_some]

theorem NodeTest.read?_write (h : test.isSupported = true) : read? test.write = some test := by
  cases test with
  | name pattern =>
    have hreadable := NamePattern.isReadable_of_isSupported (p := pattern) h
    exact read?_name (NamePattern.read?_write hreadable)
  | text => rfl
  | any => rfl

/-- A test begins neither like an attribute nor like the node itself. -/
theorem NodeTest.head_write (h : test.isSupported = true) :
    test.write.head? ≠ some '@' ∧ test.write.head? ≠ some '.' := by
  cases test with
  | name pattern =>
    obtain ⟨first, rest, heq, hfirst⟩ := NamePattern.write_eq_cons (p := pattern) h
    obtain ⟨-, hothers⟩ := not_mem_of_isPatternStart hfirst
    rw [write_name, heq]
    constructor <;>
    · rintro ⟨⟩
      exact hothers (by decide)
  | text => decide
  | any => decide

theorem splitAxis?_child {s : List Char} (hat : s.head? ≠ some '@')
    (hcut : cutAtText [':', ':'] s = none) : splitAxis? s = some (.child, s) := by
  unfold splitAxis?
  split
  · exact absurd rfl hat
  · have hmark : "::".toList = [':', ':'] := rfl
    rw [hmark, hcut]

theorem splitAxis?_write (h : test.isSupported = true) :
    splitAxis? test.write = some (.child, test.write) := by
  refine splitAxis?_child (NodeTest.head_write h).1 ?_
  cases test with
  | name pattern =>
    exact NamePattern.cutAtText_write (NamePattern.isReadable_of_isSupported (p := pattern) h)
  | text => rfl
  | any => rfl

theorem splitAxis?_named (axis : Axis) (test : NodeTest) :
    splitAxis? (axis.write ++ ':' :: ':' :: test.write) = some (axis, test.write) := by
  have hcolon : ':' ∉ axis.write := by cases axis <;> decide
  have hcut : cutAtText [':', ':'] (axis.write ++ ':' :: ':' :: test.write) =
      some (axis.write, test.write) := by
    have hmark : cutAtText [':', ':'] (axis.write ++ [':', ':'] ++ test.write) =
        some (axis.write, test.write) := cutAtText_append_mark hcolon test.write
    simpa using hmark
  have hname : Axis.ofName? (trim axis.write) = some axis := by
    cases axis <;> decide +kernel
  unfold splitAxis?
  split
  · rename_i heq
    have hat : axis.write ≠ [] ∧ axis.write.head? ≠ some '@' := by
      cases axis <;> decide
    have hhead : (axis.write ++ ':' :: ':' :: test.write).head? = axis.write.head? :=
      List.head?_append_of_ne_nil axis.write hat.1
    rw [heq] at hhead
    exact absurd hhead.symm hat.2
  · have hmark : "::".toList = [':', ':'] := rfl
    simp only [hmark, hcut, hname, Option.map_some]

theorem readHead?_of_splitAxis? {rest : List Char} (hself : head ≠ ['.'])
    (hparent : head ≠ ['.', '.']) (hsplit : splitAxis? head = some (axis, rest))
    (hread : NodeTest.read? rest = some test) : readHead? head = some (axis, test) := by
  simp only [readHead?, hself, hparent, if_false, hsplit, hread, Option.bind_eq_bind,
    Option.bind_some]

theorem ne_dots_of_head (h : head.head? ≠ some '.') : head ≠ ['.'] ∧ head ≠ ['.', '.'] := by
  constructor <;>
  · rintro rfl
    exact h rfl

theorem readHead?_of_isHeadWrittenAs (hs : test.isSupported = true)
    (h : IsHeadWrittenAs axis test head) : readHead? head = some (axis, test) := by
  have htest := NodeTest.read?_write hs
  cases h with
  | child =>
    obtain ⟨hself, hparent⟩ := ne_dots_of_head (NodeTest.head_write hs).2
    exact readHead?_of_splitAxis? hself hparent (splitAxis?_write hs) htest
  | named =>
    have hdot : axis.write ≠ [] ∧ axis.write.head? ≠ some '.' := by cases axis <;> decide
    have hhead : (axis.write ++ ':' :: ':' :: test.write).head? ≠ some '.' := by
      rw [List.head?_append_of_ne_nil axis.write hdot.1]
      exact hdot.2
    obtain ⟨hself, hparent⟩ := ne_dots_of_head hhead
    exact readHead?_of_splitAxis? hself hparent (splitAxis?_named axis test) htest
  | short => exact readHead?_of_splitAxis? (by simp) (by simp) rfl htest
  | self => rfl
  | parent => rfl

end Head

section Step

/-- A step is cut in front of its first predicate: in its head no bracket stands. -/
theorem Step.read?_of_isWrittenAs {step : Step} {s : List Char} (hs : step.isSupported = true)
    (h : step.IsWrittenAs s) : read? s = some step := by
  obtain ⟨htest, hall⟩ := parts_of_isSupported hs
  cases h with
  | @of head text hhead h =>
    have hword := isHead_of_isHeadWrittenAs htest hhead
    have hquiet : ∀ c ∈ head, isQuote c = false ∧ c ≠ '[' := by
      intro c hc
      rcases hword.isBare_or c hc with hbare | rfl | rfl
      · exact quiet_of_not_mem_marks (by decide) hbare.notMark
      · decide
      · decide
    have hread := readHead?_of_isHeadWrittenAs htest hhead
    obtain ⟨axis, test, predicates⟩ := step
    cases h with
    | nil =>
      have hcut : cutOutside .none '[' head = none := cutOutside_eq_none (.quoteless hquiet)
      simp only [read?, List.append_nil, hcut, hword.isTrimmed.trim_eq, hread]
      rfl
    | @cons p more front left inner right rest hfront hleft hright h hmore =>
      have hblank : ∀ c ∈ head ++ front, isQuote c = false ∧ c ≠ '[' := by
        intro c hc
        rcases List.mem_append.mp hc with hc | hc
        · exact hquiet c hc
        · exact quiet_of_not_mem_marks (by decide) (not_mem_marks_of_isAllBlank hfront c hc)
      have hcut : cutOutside .none '[' (head ++ (front ++ '[' :: (left ++ inner ++ right ++
          ']' :: rest))) = some (head ++ front, left ++ inner ++ right ++ ']' :: rest) := by
        rw [← List.append_assoc]
        exact cutOutside_append_cons (.quoteless hblank) _
      have htrim : trim (head ++ front) = head := trim_append_blanks hfront hword.isTrimmed
      have hmany := readPredicates?_of_areWrittenAs hall
        (.cons isAllBlank_nil hleft hright h hmore)
      rw [List.nil_append] at hmany
      simp only [read?, hcut, htrim, hread, hmany]
      rfl

theorem readSteps?_cons {part : List Char} {step : Step} (hne : trim part ≠ [])
    (h : Step.read? (trim part) = some step) (parts : List (List Char)) :
    readSteps? (part :: parts) = (readSteps? parts).map (step :: ·) := by
  have hempty : (trim part).isEmpty = false := List.isEmpty_eq_false_iff.mpr hne
  simp only [readSteps?, hempty, Bool.false_eq_true, if_false, h, Option.bind_eq_bind,
    Option.bind_some]
  cases readSteps? parts <;> rfl

theorem readSteps?_nil_cons {parts : List (List Char)} (hne : parts ≠ []) :
    readSteps? ([] :: parts) = (readSteps? parts).map (.everywhere :: ·) := by
  have hempty : parts.isEmpty = false := List.isEmpty_eq_false_iff.mpr hne
  have htrim : trim [] = [] := rfl
  simp only [readSteps?, htrim, List.isEmpty_nil, if_true, hempty, Bool.false_eq_true, if_false,
    Option.bind_eq_bind, Option.bind_some]
  cases readSteps? parts <;> rfl

/-- A slash in front of steps is the second of two, since the first is not among them. -/
theorem readSteps?_slash (s : List Char) :
    readSteps? (splitOutside .roundAndSquare '/' ('/' :: s)) =
      (readSteps? (splitOutside .roundAndSquare '/' s)).map (.everywhere :: ·) := by
  have hsplit : splitOutside .roundAndSquare '/' ('/' :: s) =
      [] :: splitOutside .roundAndSquare '/' s := splitOutside_append_cons (s := []) rfl s
  rw [hsplit]
  exact readSteps?_nil_cons (splitFrom_ne_nil _ _ _ _)

/-- Steps are told apart by the slashes between them, behind any blanks in front. -/
theorem readSteps?_of_areWrittenAs {steps : List Step} {front s : List Char}
    (hs : ∀ step ∈ steps, step.isSupported = true) (hfront : isAllBlank front = true)
    (h : Step.AreWrittenAs steps s) :
    readSteps? (splitOutside .roundAndSquare '/' (front ++ s)) = some steps := by
  have hblank : ∀ {blanks : List Char}, isAllBlank blanks = true → PassesOver '/' blanks :=
    passesOver_blank (by decide)
  have hslash : ∀ {step : Step} {front s before : List Char}, step.isSupported = true →
      isAllBlank front = true → isAllBlank before = true → step.IsWrittenAs s →
      PassesOver '/' (front ++ s ++ before) ∧ ∀ parts,
        readSteps? ((front ++ s ++ before) :: parts) =
          (readSteps? parts).map (step :: ·) := by
    intro step front s before hstep hfront hbefore h
    have hshape := Step.isStepText hstep h
    have htrim := trim_around hfront hbefore hshape.trimmed
    refine ⟨((hblank hfront).append (passesOver_step (.inl rfl) hstep h)).append
      (hblank hbefore), readSteps?_cons ?_ ?_⟩
    · rw [htrim]
      exact hshape.ne_nil
    · rw [htrim]
      exact Step.read?_of_isWrittenAs hstep h
  induction h generalizing front with
  | @last step s h =>
    obtain ⟨hpass, hread⟩ :=
      hslash (hs step List.mem_cons_self) hfront isAllBlank_nil h
    rw [List.append_nil] at hpass hread
    rw [splitOutside_eq_self hpass, hread]
    rfl
  | @slash step more s before after rest hbefore hafter h _ ih =>
    obtain ⟨hpass, hread⟩ := hslash (hs step List.mem_cons_self) hfront hbefore h
    have hrest := ih (fun x hx => hs x (List.mem_cons_of_mem step hx)) hafter
    have htext : front ++ (s ++ before ++ '/' :: (after ++ rest)) =
        front ++ s ++ before ++ '/' :: (after ++ rest) := by simp
    rw [htext, splitOutside_append_cons hpass, hread, hrest]
    rfl
  | @slashes step more s before after rest hbefore hafter h _ ih =>
    obtain ⟨hpass, hread⟩ := hslash (hs step List.mem_cons_self) hfront hbefore h
    have hrest := ih (fun x hx => hs x (List.mem_cons_of_mem _ (List.mem_cons_of_mem _ hx))) hafter
    have htext : front ++ (s ++ before ++ '/' :: '/' :: (after ++ rest)) =
        front ++ s ++ before ++ '/' :: '/' :: (after ++ rest) := by simp
    rw [htext, splitOutside_append_cons hpass, hread, readSteps?_slash, hrest]
    rfl

end Step

section Path

theorem Path.read?_trim (s : List Char) : read? (trim s) = read? s := by
  simp only [read?, (isTrimmed_trim s).trim_eq]

/-- Behind the slash that makes a path absolute its steps are read. -/
theorem Path.read?_slash {rest : List Char} {steps : List Step} (hne : rest ≠ [])
    (htrimmed : IsTrimmed ('/' :: rest))
    (h : readSteps? (splitOutside .roundAndSquare '/' rest) = some steps) :
    read? ('/' :: rest) = some ⟨true, steps⟩ := by
  have hempty : rest.isEmpty = false := List.isEmpty_eq_false_iff.mpr hne
  simp only [read?, htrimmed.trim_eq, hempty, Bool.false_eq_true, if_false, h, Option.map_some]

theorem Path.read?_of_isWrittenAs {path : Path} {s : List Char} (hs : path.isSupported = true)
    (h : path.IsWrittenAs s) : read? s = some path := by
  have htrimmed := isTrimmed hs h
  have hall := steps_of_isSupported hs
  cases h with
  | root => rfl
  | @relative steps s h =>
    have hshape := Step.isStepText_of_areWrittenAs hall h
    have hread := readSteps?_of_areWrittenAs hall isAllBlank_nil h
    rw [List.nil_append] at hread
    unfold read?
    rw [htrimmed.trim_eq]
    split
    · exact absurd rfl hshape.ne_nil
    · exact absurd rfl hshape.notSlash
    · rw [hread]
      rfl
  | @absolute steps after s hafter h =>
    have hne := (Step.isStepText_of_areWrittenAs hall h).ne_nil
    exact read?_slash (List.append_ne_nil_of_right_ne_nil after hne) htrimmed
      (readSteps?_of_areWrittenAs hall hafter h)
  | @below steps after s hafter h =>
    have hsteps : ∀ step ∈ steps, step.isSupported = true := fun x hx =>
      hall x (List.mem_cons_of_mem _ hx)
    refine read?_slash (by simp) htrimmed ?_
    rw [readSteps?_slash, readSteps?_of_areWrittenAs hsteps hafter h]
    rfl

/-- Paths are told apart by the bars between them. -/
theorem Path.readAll_of_areWrittenAs {paths : List Path} {s : List Char}
    (hs : ∀ path ∈ paths, path.isSupported = true) (h : AreWrittenAs paths s) :
    (splitOutside .roundAndSquare '|' s).mapM read? = some paths := by
  have hblank : ∀ {blanks : List Char}, isAllBlank blanks = true → PassesOver '|' blanks :=
    passesOver_blank (by decide)
  have hpath : ∀ {path : Path} {before s after : List Char}, path.isSupported = true →
      isAllBlank before = true → isAllBlank after = true → path.IsWrittenAs s →
      PassesOver '|' (before ++ s ++ after) ∧ read? (before ++ s ++ after) = some path := by
    intro path before s after hpath hbefore hafter h
    refine ⟨((hblank hbefore).append (passesOver_path hpath h)).append (hblank hafter), ?_⟩
    rw [← read?_trim, trim_around hbefore hafter (isTrimmed hpath h), read?_of_isWrittenAs hpath h]
  induction h with
  | @last path before s after hbefore hafter h =>
    obtain ⟨hpass, hread⟩ := hpath (hs path List.mem_cons_self) hbefore hafter h
    rw [splitOutside_eq_self hpass, List.mapM_cons, hread]
    rfl
  | @bar path more before s after rest hbefore hafter h _ ih =>
    obtain ⟨hpass, hread⟩ := hpath (hs path List.mem_cons_self) hbefore hafter h
    have hrest := ih fun x hx => hs x (List.mem_cons_of_mem path hx)
    rw [splitOutside_append_cons hpass, List.mapM_cons, hread, hrest]
    rfl

end Path

/-- Every query of the supported kind can be written, and in whichever way it is written, with or
without blanks, with one kind of quotes or the other and with any text in them, it is read back as
exactly that query. -/
theorem written_query_read {q : Query} (h : q.isSupported = true) :
    q.IsWrittenAs q.write ∧ ∀ s, q.IsWrittenAs s → parse? s = some q := by
  refine ⟨isWrittenAs_write h, ?_⟩
  intro s hwritten
  rw [parse?, read?, Path.readAll_of_areWrittenAs (paths_of_isSupported h) hwritten,
    Option.map_some]

/-- A text in quotes that holds every mark but those quotes, next to the marks themselves. -/
theorem written_query_read_marks :
    let q : Query :=
      ⟨[⟨true, [.everywhere,
            ⟨.child, .name ⟨none, "a"⟩, [.compares (.attribute ⟨none, "b"⟩) "x/|[]('!=" true]⟩,
            ⟨.parent, .any, []⟩]⟩,
          ⟨false, [⟨.child, .name ⟨some "p", "*"⟩, [.position 2, .last]⟩]⟩]⟩
    let s := "//a[@b != \"x/|[]('!=\"]/.. | p:*[2] [last()]"
    q.isSupported = true ∧ q.IsWrittenAs s ∧ parse? s = some q := by
  intro q s
  have hsupported : q.isSupported = true := by decide +kernel
  have hquoted : IsQuoted "x/|[]('!=".toList ('"' :: "x/|[]('!=".toList ++ ['"']) :=
    .of rfl (by decide)
  have hcomparison : Predicate.IsWrittenAs
      (.compares (.attribute ⟨none, "b"⟩) "x/|[]('!=" true) "@b != \"x/|[]('!=\"".toList :=
    .compares (.of isAllBlank_space isAllBlank_space hquoted)
  have hbracket : Predicate.AreWrittenAs [_] "[@b != \"x/|[]('!=\"]".toList :=
    .cons isAllBlank_nil isAllBlank_nil isAllBlank_nil hcomparison .nil
  have hstep : Step.IsWrittenAs ⟨.child, .name ⟨none, "a"⟩, _⟩ _ := .of (.child _) hbracket
  have hparent : Step.IsWrittenAs ⟨.parent, .any, []⟩ _ := .of .parent .nil
  have hfirst := Path.IsWrittenAs.below isAllBlank_nil
    (.slash isAllBlank_nil isAllBlank_nil hstep (.last hparent))
  have hpredicates : Predicate.AreWrittenAs [.position 2, .last] "[2] [last()]".toList :=
    .cons isAllBlank_nil isAllBlank_nil isAllBlank_nil (.position 2)
      (.cons isAllBlank_space isAllBlank_nil isAllBlank_nil .last .nil)
  have hsecond : Step.IsWrittenAs ⟨.child, .name ⟨some "p", "*"⟩, _⟩ _ :=
    .of (.child _) hpredicates
  have hpaths := Path.AreWrittenAs.bar isAllBlank_nil isAllBlank_space hfirst
    (.last isAllBlank_space isAllBlank_nil (.relative (.last hsecond)))
  have hwritten : q.IsWrittenAs s := by
    rw [IsWrittenAs]
    convert hpaths using 1
    decide +kernel
  exact ⟨hsupported, hwritten, (written_query_read hsupported).2 s hwritten⟩

end Crosswalk.Query
