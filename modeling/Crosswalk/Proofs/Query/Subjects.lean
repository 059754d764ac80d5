import Crosswalk.Proofs.Query.Reading
import Crosswalk.Proofs.Xml.Attributes

/-!
Predicates and the steps that are written like them.

What stands in a predicate by itself, or on the left of a comparison, can be written as a step, too.
A predicate that names a part holds for an item exactly if the step finds something from it, and a
comparison exactly if it is true of the text of something that the step finds. Two subjects are an
exception: `text()` stands for the item itself on the left of a comparison, and of the attributes
that fit a star a comparison sees one.
-/

namespace Crosswalk.Query

open Text

/-- What a predicate looks at from an item. -/
inductive Subject where
  | part (part : Part)
  | self
  | texts
deriving DecidableEq

namespace Subject

/-- How a subject is written. Behind an at sign blanks may stand. -/
inductive IsWrittenAs : Subject → List Char → Prop where
  | «attribute» {name : NamePattern} {blanks : List Char} (hblanks : isAllBlank blanks = true)
    (h : name.isReadable = true) :
    IsWrittenAs (.part (.attribute name)) ('@' :: (blanks ++ name.write))
  | child {name : NamePattern} (h : name.isReadable = true) (hself : name.write ≠ ['.']) :
    IsWrittenAs (.part (.child name)) name.write
  | self : IsWrittenAs .self ['.']
  | texts : IsWrittenAs .texts "text()".toList

/-- The step that is written like a subject. -/
def step : Subject → Step
  | .part (.attribute name) => ⟨.attributes, .name name, []⟩
  | .part (.child name) => ⟨.child, .name name, []⟩
  | .self => ⟨.self, .any, []⟩
  | .texts => ⟨.child, .text, []⟩

/-- The comparison with a subject on its left. -/
def compared (subject : Subject) (value : String) (negated : Bool) : Predicate :=
  match subject with
  | .part p => .compares p value negated
  | .self | .texts => .comparesSelf value negated

/-- Whether a comparison sees everything that its subject names. -/
def seesAll : Subject → Bool
  | .part (.attribute name) => !name.isWild
  | .part (.child _) | .self => true
  | .texts => false

end Subject

section Reading

variable {subject : Subject} {part : Part} {left : List Char}

theorem Part.not_mem_marks (h : (Subject.part part).IsWrittenAs left) : ∀ c ∈ left, c ∉ marks := by
  cases h with
  | «attribute» hblanks h =>
    intro c hc
    rcases List.mem_cons.mp hc with rfl | hc
    · decide
    · rcases List.mem_append.mp hc with hc | hc
      · exact not_mem_marks_of_isAllBlank hblanks c hc
      · exact (NamePattern.isBare_write h c hc).notMark
  | child h _ => exact fun c hc => (NamePattern.isBare_write h c hc).notMark

theorem Part.isTrimmed_of_isWrittenAs (h : (Subject.part part).IsWrittenAs left) :
    left ≠ [] ∧ IsTrimmed left := by
  cases h with
  | @«attribute» name blanks hblanks h =>
    have hne := NamePattern.write_ne_nil h
    refine ⟨by simp, ?_, ?_⟩
    · rintro c ⟨⟩
      rfl
    · intro c hc
      rw [← List.cons_append, List.getLast?_append_of_ne_nil _ hne] at hc
      exact (NamePattern.isBare_write h).isTrimmed.last c hc
  | child h _ => exact ⟨NamePattern.write_ne_nil h, (NamePattern.isBare_write h).isTrimmed⟩

theorem Part.read?_of_isWrittenAs (h : (Subject.part part).IsWrittenAs left) :
    read? left = some part := by
  cases h with
  | @«attribute» name blanks hblanks h =>
    have htrim : trim (blanks ++ name.write) = name.write :=
      trim_blanks_append hblanks (NamePattern.isBare_write h).isTrimmed
    rw [read?, NamePattern.read?_eq_some_iff.mpr ⟨h, htrim⟩, Option.map_some]
  | child h _ => rw [read?_child (NamePattern.head_write h), NamePattern.read?_write h, Option.map_some]

/-- What is read as a part is one that is written there. -/
theorem Part.isWrittenAs_of_read? (htrimmed : IsTrimmed left) (hself : left ≠ ['.'])
    (h : read? left = some part) : (Subject.part part).IsWrittenAs left := by
  unfold read? at h
  split at h
  · rename_i text
    obtain ⟨name, hname, rfl⟩ := Option.map_eq_some_iff.mp h
    obtain ⟨hreadable, htrim⟩ := NamePattern.read?_eq_some_iff.mp hname
    obtain ⟨before, after, hbefore, hafter, heq⟩ := exists_blanks text
    have hnil : after = [] := by
      by_contra hne
      obtain ⟨c, hc⟩ := List.getLast?_isSome.mpr hne |> Option.isSome_iff_exists.mp
      have hlast : ('@' :: text).getLast? = some c := by
        rw [heq, ← List.cons_append, List.getLast?_append_of_ne_nil _ hne, hc]
      have hblank := List.all_eq_true.mp hafter c (List.mem_of_getLast? hc)
      rw [htrimmed.last c hlast] at hblank
      cases hblank
    rw [heq, hnil, List.append_nil, htrim]
    exact .attribute hbefore hreadable
  · obtain ⟨name, hname, rfl⟩ := Option.map_eq_some_iff.mp h
    obtain ⟨hreadable, htrim⟩ := NamePattern.read?_eq_some_iff.mp hname
    rw [htrimmed.trim_eq] at htrim
    rw [htrim] at hself ⊢
    exact .child hreadable hself

namespace Subject

theorem IsWrittenAs.isSide (h : subject.IsWrittenAs left) : IsSide left := by
  match subject with
  | .part _ =>
    obtain ⟨hne, htrimmed⟩ := Part.isTrimmed_of_isWrittenAs h
    exact ⟨hne, htrimmed, fun c hc => no_operator_of_not_mem_marks (Part.not_mem_marks h c hc)⟩
  | .self =>
    cases h
    exact ⟨by simp, isTrimmed_of_forall (by simp [isBlank]), by simp [isQuote]⟩
  | .texts =>
    cases h
    exact ⟨by simp, isTrimmed_of_forall (by simp [isBlank]), by simp [isQuote]⟩

theorem readHead?_of_isWrittenAs (h : subject.IsWrittenAs left) (hdots : left ≠ ['.', '.']) :
    readHead? left = some (subject.step.axis, subject.step.test) := by
  cases h with
  | @«attribute» name blanks hblanks h =>
    have htrim : trim (blanks ++ name.write) = name.write :=
      trim_blanks_append hblanks (NamePattern.isBare_write h).isTrimmed
    have htest := NodeTest.read?_name (NamePattern.read?_eq_some_iff.mpr ⟨h, htrim⟩)
    exact readHead?_of_splitAxis? (by simp) (by simp) rfl htest
  | child h hself =>
    have haxis := splitAxis?_child (NamePattern.head_write h) (NamePattern.cutAtText_write h)
    exact readHead?_of_splitAxis? hself hdots haxis (NodeTest.read?_name (NamePattern.read?_write h))
  | self => rfl
  | texts => rfl

/-- A subject is read as the step that it is written like. Two dots are the exception: as a step
they lead to the parent. -/
theorem readStep?_of_isWrittenAs (h : subject.IsWrittenAs left) (hdots : left ≠ ['.', '.']) :
    Step.read? left = some subject.step := by
  have hquiet : ∀ c ∈ left, isQuote c = false ∧ c ≠ '[' := by
    cases subject with
    | part _ => exact fun c hc => quiet_of_not_mem_marks (by decide) (Part.not_mem_marks h c hc)
    | self =>
      cases h
      simp [isQuote]
    | texts =>
      cases h
      simp [isQuote]
  have hcut : cutOutside .none '[' left = none := cutOutside_eq_none (.quoteless hquiet)
  have hstep : subject.step = ⟨subject.step.axis, subject.step.test, []⟩ := by
    cases subject with
    | part p => cases p <;> rfl
    | self | texts => rfl
  simp only [Step.read?, hcut, h.isSide.trimmed.trim_eq, readHead?_of_isWrittenAs h hdots]
  rw [hstep]
  rfl

/-- On the left of a comparison a subject is read as itself. -/
theorem readComparison?_of_isWrittenAs (h : subject.IsWrittenAs left) {value : String}
    {negated : Bool} {before right : List Char} (hbefore : isAllBlank before = true)
    (hright : literal? right = some value.toList) :
    readComparison? (left ++ before) right negated = some (subject.compared value negated) := by
  match subject with
  | .part _ =>
    have hself : left ≠ ['.'] := by
      cases h with
      | «attribute» => simp
      | child _ hself => exact hself
    exact readComparison?_part h.isSide.trimmed (Part.not_mem_marks h) hself
      (Part.read?_of_isWrittenAs h) hbefore hright
  | .self =>
    cases h
    exact readComparison?_self (.inl rfl) hbefore hright
  | .texts =>
    cases h
    exact readComparison?_self (.inr rfl) hbefore hright

end Subject

end Reading

section Meaning

variable {c : Context} {i x : Item} {pattern : NamePattern}

/-- A pattern without a star fits attributes of one name only. -/
theorem name_eq_of_fits (hwild : pattern.isWild = false) {first second : Xml.Name}
    (hfirst : c.fits pattern true first = true) (hsecond : c.fits pattern true second = true) :
    first = second := by
  have hname : ∀ {name : Xml.Name}, c.fits pattern true name = true →
      name = ⟨pattern.qualifier.bind c.namespaces.uri?, pattern.localName⟩ := by
    intro name h
    obtain ⟨hlocal, hspace⟩ := Bool.and_eq_true_iff.mp h
    rw [hwild, Bool.false_or, beq_iff_eq] at hlocal
    have huri : name.uri = pattern.qualifier.bind c.namespaces.uri? := by
      cases hqualifier : pattern.qualifier with
      | none => simpa [hqualifier, hwild] using hspace
      | some qualifier =>
        cases huri : c.namespaces.uri? qualifier with
        | none => simp [hqualifier, huri] at hspace
        | some uri => simpa [hqualifier, huri] using hspace
    rw [← huri, hlocal]
  rw [hname hfirst, hname hsecond]

/-- An item has one attribute at most that a pattern without a star fits. -/
theorem attribute_unique (hc : c.IsProper) (hi : i ∈ c.inOrder) (hwild : pattern.isWild = false) :
    ∀ x ∈ i.attributes, ∀ y ∈ i.attributes, c.passes (.name pattern) .attributes x = true →
      c.passes (.name pattern) .attributes y = true → x = y := by
  intro x hx y hy hpassx hpassy
  match i with
  | .top | .attribute _ _ => cases hx
  | .node l =>
    obtain ⟨a, ha, rfl⟩ := List.mem_map.mp hx
    obtain ⟨b, hb, rfl⟩ := List.mem_map.mp hy
    have hdistinct := hc.distinct l (mem_document hc.placed (mem_allNodes_of_node hi))
    have hname : a.name = b.name := name_eq_of_fits (c := c) hwild hpassx hpassy
    rw [List.inj_on_of_nodup_map hdistinct ha hb hname]

theorem any_find?_iff {α : Type} {xs : List α} {p f : α → Bool}
    (h : ∀ x ∈ xs, ∀ y ∈ xs, p x = true → p y = true → x = y) :
    (xs.find? p).any f = true ↔ ∃ x ∈ xs.filter p, f x = true := by
  cases hfind : xs.find? p with
  | none =>
    have hnone : ∀ x ∈ xs, ¬p x = true := List.find?_eq_none.mp hfind
    simp only [Option.any_none, Bool.false_eq_true, false_iff]
    rintro ⟨x, hx, -⟩
    obtain ⟨hmem, hp⟩ := List.mem_filter.mp hx
    exact hnone x hmem hp
  | some y =>
    have hy := List.mem_of_find?_eq_some hfind
    have hpass := List.find?_some hfind
    rw [Option.any_some]
    constructor
    · exact fun hf => ⟨y, List.mem_filter.mpr ⟨hy, hpass⟩, hf⟩
    · rintro ⟨x, hx, hf⟩
      obtain ⟨hmem, hp⟩ := List.mem_filter.mp hx
      rwa [← h x hmem y hy hp hpass]

theorem beq_bne_iff {value : String} {negated : Bool} {s : String} :
    ((s == value) != negated) = true ↔ (s = value ↔ negated = false) := by
  cases negated <;> simp

/-- A part is there exactly if the step that is written like it finds something. -/
theorem holds_has_iff (part : Part) :
    c.holds i (.has part) = true ↔ c.stepFrom (Subject.part part).step i ≠ [] := by
  match part with
  | .attribute name =>
    have hfound : c.holds i (.has (.attribute name)) =
        (i.attributes.find? (c.passes (.name name) .attributes)).isSome := by
      rw [Context.holds, Context.namedAttribute?, Option.isSome_map]
    rw [hfound, List.find?_isSome, Ne, Context.stepFrom, Subject.step, List.foldl_nil,
      List.filter_eq_nil_iff]
    simp [Context.along]
  | .child name =>
    have hfound : c.holds i (.has (.child name)) =
        !(c.stepFrom (Subject.part (.child name)).step i).isEmpty := rfl
    simp [hfound]

/-- A comparison is true of an item exactly if it is true of something that the step finds. -/
theorem holds_compared_iff (hc : c.IsProper) (hi : i ∈ c.inOrder) {subject : Subject}
    (hsees : subject.seesAll = true) (value : String) (negated : Bool) :
    c.holds i (subject.compared value negated) = true ↔
      ∃ x ∈ c.stepFrom subject.step i, (c.stringValue x = value ↔ negated = false) := by
  simp only [← beq_bne_iff]
  match subject, hsees with
  | .part (.attribute name), hsees =>
    have hwild : name.isWild = false := by simpa [Subject.seesAll] using hsees
    have hany : c.holds i (.compares (.attribute name) value negated) =
        (i.attributes.find? (c.passes (.name name) .attributes)).any
          fun x => (c.stringValue x == value) != negated := by
      rw [Context.holds, Context.namedAttribute?, Option.any_map]
    rw [Subject.compared, hany]
    exact any_find?_iff (attribute_unique hc hi hwild)
  | .part (.child name), _ =>
    have hany : c.holds i (.compares (.child name) value negated) =
        (c.stepFrom (Subject.part (.child name)).step i).any
          fun x => (c.stringValue x == value) != negated := rfl
    rw [Subject.compared, hany, List.any_eq_true]
  | .self, _ =>
    have hself : c.stepFrom Subject.self.step i = [i] := by
      cases i <;> rfl
    have hholds : c.holds i (.comparesSelf value negated) =
        ((c.stringValue i == value) != negated) := rfl
    rw [hself, Subject.compared, hholds]
    simp only [List.mem_singleton, exists_eq_left]

/-- On the left of a comparison `text()` stands for the item itself. -/
theorem holds_texts_iff (value : String) (negated : Bool) :
    c.holds i (Subject.texts.compared value negated) = true ↔
      (c.stringValue i = value ↔ negated = false) := beq_bne_iff

end Meaning

/-- In a document that was read, whatever the context, predicates agree with the steps that are
written like their subjects. A part by itself holds for an item exactly if the step finds something
from the item, and a comparison exactly if it is true of the text of something that the step finds.
The texts of an item are compared as the item itself, and of a comparison of the attributes that fit
a star nothing is said. -/
theorem predicates_agree_with_steps {text : String} {d : Xml.Document}
    (hd : Xml.Document.parse? text = some d) (namespaces : Namespaces) (record : Option Located)
    (hrecord : ∀ r, record = some r → r ∈ listFrom [] 0 d.children) {subject : Subject}
    {left : List Char} (hleft : subject.IsWrittenAs left) (hdots : left ≠ ['.', '.']) :
    let c : Context := ⟨namespaces, d, record⟩
    let found := c.stepFrom subject.step
    Step.read? left = some subject.step ∧
      (∀ part, subject = .part part → unsigned? left = none →
        Predicate.read? left = some (.has part) ∧
          ∀ i, c.holds i (.has part) = true ↔ found i ≠ []) ∧
      ∀ value negated s, IsComparison left value negated s →
        Predicate.read? s = some (subject.compared value negated) ∧
          (subject.seesAll = true → ∀ i ∈ c.inOrder,
            (c.holds i (subject.compared value negated) = true ↔
              ∃ x ∈ found i, (c.stringValue x = value ↔ negated = false))) ∧
          (subject = .texts → ∀ i,
            (c.holds i (subject.compared value negated) = true ↔
              (c.stringValue i = value ↔ negated = false))) := by
  intro c found
  have hc : c.IsProper := ⟨Xml.hasDistinctAttributes_of_parse? hd, hrecord⟩
  refine ⟨Subject.readStep?_of_isWrittenAs hleft hdots, ?_, ?_⟩
  · rintro part rfl hnumber
    exact ⟨Predicate.read?_part hleft.isSide.trimmed (Part.not_mem_marks hleft) hnumber
      (Part.read?_of_isWrittenAs hleft), fun i => holds_has_iff part⟩
  · intro value negated s hs
    refine ⟨Predicate.read?_of_comparison hleft.isSide hs fun _ _ hbefore hright =>
      Subject.readComparison?_of_isWrittenAs hleft hbefore hright, ?_, ?_⟩
    · exact fun hsees i hi => holds_compared_iff hc hi hsees value negated
    · rintro rfl i
      exact holds_texts_iff value negated

/-- Of several children with a name each may make a comparison true. -/
theorem predicates_agree_with_steps_children :
    let leaf (name s : String) : Xml.Node := .element ⟨none, name⟩ [] [] [.text s]
    let d : Xml.Document :=
      ⟨[.element ⟨none, "r"⟩ [] [] [leaf "c" "x", leaf "d" "z", leaf "c" "y"]]⟩
    let c := Context.ofDocument d
    let subject : Subject := .part (.child ⟨none, "c"⟩)
    let r : Item := .node ⟨[0], .element ⟨none, "r"⟩ [] [] [leaf "c" "x", leaf "d" "z", leaf "c" "y"]⟩
    Xml.Document.parse? "<r><c>x</c><d>z</d><c>y</c></r>" = some d ∧
      subject.IsWrittenAs ['c'] ∧ r ∈ c.inOrder ∧
      (c.stepFrom subject.step r).map c.stringValue = ["x", "y"] ∧
      IsComparison ['c'] "x" false "c = 'x'".toList ∧
      IsComparison ['c'] "x" true "c != 'x'".toList ∧
      c.holds r (subject.compared "x" false) = true ∧
      c.holds r (subject.compared "x" true) = true := by
  intro leaf d c subject r
  have hd : Xml.Document.parse? "<r><c>x</c><d>z</d><c>y</c></r>" = some d := rfl
  have hwritten : subject.IsWrittenAs (NamePattern.write ⟨none, "c"⟩) :=
    .child (by decide +kernel) (by decide)
  have hr : r ∈ c.inOrder := node_mem_inOrder (mem_of_nodeAt? rfl)
  have hfound : (c.stepFrom subject.step r).map c.stringValue = ["x", "y"] := by decide +kernel
  have hquoted : IsQuoted "x".toList "'x'".toList := .of rfl (by decide)
  have hequal : IsComparison ['c'] "x" false "c = 'x'".toList :=
    .of isAllBlank_space isAllBlank_space hquoted
  have hother : IsComparison ['c'] "x" true "c != 'x'".toList :=
    .of isAllBlank_space isAllBlank_space hquoted
  obtain ⟨-, -, hcompared⟩ := predicates_agree_with_steps hd (Namespaces.ofDocument d) none
    (by simp) hwritten (by decide)
  have hsome : ∀ value ∈ ["x", "y"], ∃ x ∈ c.stepFrom subject.step r, c.stringValue x = value := by
    intro value hvalue
    rw [← hfound] at hvalue
    exact List.mem_map.mp hvalue
  refine ⟨hd, hwritten, hr, hfound, hequal, hother, ?_, ?_⟩
  · obtain ⟨x, hx, hvalue⟩ := hsome "x" (by simp)
    have htrue : c.stringValue x = "x" ↔ false = false := by simp [hvalue]
    exact ((hcompared "x" false _ hequal).2.1 rfl r hr).mpr ⟨x, hx, htrue⟩
  · obtain ⟨y, hy, hvalue⟩ := hsome "y" (by simp)
    have htrue : c.stringValue y = "x" ↔ true = false := by simp [hvalue]
    exact ((hcompared "x" true _ hother).2.1 rfl r hr).mpr ⟨y, hy, htrue⟩

/-- A text of an element, and its second attribute, are found by steps but not by the comparisons
that are written like them. -/
theorem comparison_misses_step :
    let r : Xml.Node := .element ⟨none, "r"⟩ [⟨⟨none, "a"⟩, "1"⟩, ⟨⟨none, "b"⟩, "2"⟩] []
      [.text "x", .element ⟨none, "c"⟩ [] [] [.text "y"]]
    let d : Xml.Document := ⟨[.element ⟨none, "l"⟩ [] [] [r]]⟩
    let c := Context.ofDocument d
    let item : Item := .node ⟨[0, 0], r⟩
    let misses (left value text : String) : Prop :=
      ∃ step p, Step.read? left.toList = some step ∧ Predicate.read? text.toList = some p ∧
        (∃ x ∈ c.stepFrom step item, c.stringValue x = value) ∧ c.holds item p = false
    Xml.Document.parse? "<l><r a='1' b='2'>x<c>y</c></r></l>" = some d ∧ item ∈ c.inOrder ∧
      misses "text()" "x" "text()='x'" ∧ misses "@*" "2" "@*='2'" ∧
      c.strings "/l/r/text()" = ["x"] ∧ c.strings "/l/r/@*" = ["1", "2"] ∧
      c.strings "/l/r[text()='x']" = [] ∧ c.strings "/l/r[@*='2']" = [] := by
  intro r d c item misses
  have hitem : item ∈ c.inOrder := node_mem_inOrder (mem_of_nodeAt? rfl)
  have htexts : misses "text()" "x" "text()='x'" := by
    refine ⟨Subject.texts.step, .comparesSelf "x" false, by decide +kernel, by decide +kernel, ?_,
      by decide +kernel⟩
    exact ⟨.node ⟨[0, 0, 0], .text "x"⟩, .head _, rfl⟩
  have hattributes : misses "@*" "2" "@*='2'" := by
    let star : NamePattern := ⟨none, "*"⟩
    refine ⟨(Subject.part (.attribute star)).step, .compares (.attribute star) "2" false,
      by decide +kernel, by decide +kernel, ?_, by decide +kernel⟩
    exact ⟨.attribute ⟨[0, 0], r⟩ ⟨⟨none, "b"⟩, "2"⟩, .tail _ (.head _), rfl⟩
  exact ⟨rfl, hitem, htexts, hattributes, by decide +kernel, by decide +kernel, by decide +kernel,
    by decide +kernel⟩

end Crosswalk.Query
