import Crosswalk.Proofs.Extraction.Substitution
import Crosswalk.Proofs.Mapping.Marks
import Crosswalk.Proofs.Mapping.Target

/-!
Rendering a pattern segment by segment.

The placeholders, the expressions and the marks that are put in are found by three scans of their
own. On a pattern put together from segments all three agree with the segments, so what a pattern
renders is what its segments render, one after the other.
-/

namespace Crosswalk.Extraction

open Crosswalk.Mapping

variable (source : Source) (raw : String)

/-- What a segment renders. -/
def rendered : Segment → String
  | .literal s => String.ofList s
  | .placeholder name =>
    if name = "__value__".toList ∨ name = "__label__".toList then raw
    else (source.first? (String.ofList name)).getD ""
  | .expression body =>
    let p := Filter.Pipeline.ofBody body
    p.apply (if p.subject ∈ ["value", "__value__", "label", "__label__"] then raw
      else (source.first? p.subject).getD "")

theorem substitutions_eq (target : Target) :
    substitutions target raw source =
      (((target.filters.mapValues (expressionValue source raw)).setAll
        (target.replace.entries.map fun entry =>
          (entry.1, placeholderValue source raw entry.1 entry.2))).setIfAbsent
            valueMarker raw).setIfAbsent labelMarker raw := by
  have hlisted := (target.filters.mapValues (expressionValue source raw)).ofList_entries
  rw [← hlisted]
  rfl

theorem get?_substitutions (target : Target) (key : String) :
    (substitutions target raw source).get? key =
      (((target.replace.get? key).map (placeholderValue source raw key)).or
        ((target.filters.get? key).map (expressionValue source raw))).or
        ((if key = valueMarker then some raw else none).or
          (if key = labelMarker then some raw else none)) := by
  have hnodup : (entryKeys (target.replace.entries.map fun entry =>
      (entry.1, placeholderValue source raw entry.1 entry.2))).Nodup := by
    simpa [entryKeys, Function.comp_def] using target.replace.nodup
  have hlookup := lookup_map_values (placeholderValue source raw) key target.replace.entries
  rw [substitutions_eq, Table.get?_setIfAbsent, Table.get?_setIfAbsent, Table.get?_setAll _ hnodup,
    hlookup, Table.get?_mapValues, Option.or_assoc]
  rfl

theorem valueMarker_eq : valueMarker = placeholderText "__value__".toList := by
  decide

theorem labelMarker_eq : labelMarker = placeholderText "__label__".toList := by
  decide

theorem dropWhile_of_forall {p : Char → Bool} {s : List Char} (h : ∀ c ∈ s, p c = false) :
    s.dropWhile p = s := by
  cases s with
  | nil => rfl
  | cons c tail =>
    rw [List.dropWhile_cons, h c List.mem_cons_self]
    rfl

theorem placeholderLocator_placeholderText {name : List Char} (h : IsBraceFree name) :
    placeholderLocator (placeholderText name) = String.ofList name := by
  have hlist : (placeholderText name).toList = '\x7b' :: (name ++ ['\x7d']) := by
    simp [placeholderText, openBrace, closeBrace]
  have hopen : (name ++ ['\x7d']).dropWhile (· == openBrace) = name ++ ['\x7d'] := by
    apply dropWhile_of_forall
    intro c hc
    rcases List.mem_append.mp hc with hname | hclose
    · exact beq_false_of_ne (isBrace_eq_false_iff.mp (h c hname)).1
    · rw [List.mem_singleton.mp hclose]
      decide
  have hclose : name.reverse.dropWhile (· == closeBrace) = name.reverse := by
    apply dropWhile_of_forall
    intro c hc
    exact beq_false_of_ne (isBrace_eq_false_iff.mp (h c (List.mem_reverse.mp hc))).2
  rw [placeholderLocator, hlist, List.dropWhile_cons_of_pos (by decide), hopen,
    List.reverse_append, List.reverse_singleton, List.singleton_append,
    List.dropWhile_cons_of_pos (by decide), hclose, List.reverse_reverse]

theorem placeholderValue_eq_rendered {name : List Char} (h : IsBraceFree name) :
    placeholderValue source raw (placeholderText name) "" =
      rendered source raw (.placeholder name) := by
  rw [placeholderValue, rendered, placeholderLocator_placeholderText h]
  simp only [valueMarker_eq, labelMarker_eq, placeholderText_injective.eq_iff]

/-- The variable of an expression without braces is none of the markers in braces. -/
theorem subject_mem_ownVariables {body : List Char} (h : IsBraceFree body) :
    (Filter.Pipeline.ofBody body).subject ∈ ownVariables ↔
      (Filter.Pipeline.ofBody body).subject ∈ ["value", "__value__", "label", "__label__"] := by
  have hopen : '\x7b' ∉ (Filter.Pipeline.ofBody body).subject.toList := by
    intro hmem
    have hbody : '\x7b' ∈ body := by
      apply Filter.mem_of_mem_subjectPart
      apply Text.mem_of_mem_trim
      simpa [Filter.Pipeline.ofBody] using hmem
    exact (isBrace_eq_false_iff.mp (h _ hbody)).1 rfl
  have hmarker : ∀ marker : String, '\x7b' ∈ marker.toList →
      (Filter.Pipeline.ofBody body).subject ≠ marker := by
    rintro marker hmem rfl
    exact hopen hmem
  have hvalue := hmarker valueMarker (by decide)
  have hlabel := hmarker labelMarker (by decide)
  simp [ownVariables, hvalue, hlabel]

theorem expressionValue_eq_rendered {body : List Char} (h : IsBraceFree body) :
    expressionValue source raw (Filter.Pipeline.ofBody body) =
      rendered source raw (.expression body) := by
  rw [expressionValue, rendered]
  simp only [subject_mem_ownVariables h]

section Pattern

variable {spec : Field.Spec} {segs : List Segment}

/-- The marks of a target with what is put in for them. -/
def freshMarks (spec : Field.Spec) : List (List Char × String) :=
  marksOf (substitutions (.ofSpec spec) raw source)

variable (plain : ∀ seg ∈ segs, seg.IsPlain)
variable (pattern : spec.pattern = some (String.ofList (Segment.text segs)))

include pattern in
theorem get?_substitutions_ofSpec (key : String) :
    (substitutions (.ofSpec spec) raw source).get? key =
      ((((Target.replaceOf (Segment.text segs)).get? key).map
          (placeholderValue source raw key)).or
        (((Target.filtersOf (Segment.text segs)).get? key).map (expressionValue source raw))).or
        ((if key = valueMarker then some raw else none).or
          (if key = labelMarker then some raw else none)) := by
  rw [get?_substitutions, Target.ofSpec, pattern]
  simp only [String.toList_ofList]

include plain pattern

/-- Every mark of a pattern has what it renders put in. -/
theorem mem_freshMarks {mark : Segment} (hmem : mark ∈ segs) (hmark : mark.IsMark) :
    (mark.write, rendered source raw mark) ∈ freshMarks source raw spec := by
  rw [freshMarks, mem_marksOf, get?_substitutions_ofSpec source raw pattern]
  have hplain := plain mark hmem
  cases mark with
  | literal s => cases hmark
  | placeholder name =>
    have hkey : String.ofList (Segment.placeholder name).write = placeholderText name := rfl
    rw [hkey, get?_replaceOf_placeholder plain hmem, Option.map_some, Option.some_or,
      Option.some_or, placeholderValue_eq_rendered source raw hplain.1]
  | expression body =>
    have hkey : String.ofList (Segment.expression body).write = expressionText body := rfl
    rw [hkey, get?_replaceOf_expression plain hmem, get?_filtersOf_expression plain hmem,
      Option.map_none, Option.none_or, Option.map_some, Option.some_or,
      expressionValue_eq_rendered source raw hplain.1]

/-- Nothing but a written mark has anything put in. -/
theorem exists_mark_of_freshMarks {key : List Char} {fresh : String}
    (hkey : (key, fresh) ∈ freshMarks source raw spec) :
    ∃ mark : Segment, mark.IsPlain ∧ mark.IsMark ∧ key = mark.write := by
  have hwritten : ∀ {mark : Segment}, String.ofList key = String.ofList mark.write →
      key = mark.write := String.ofList_injective
  by_cases htable : (Target.replaceOf (Segment.text segs)).get? (String.ofList key) ≠ none ∨
      (Target.filtersOf (Segment.text segs)).get? (String.ofList key) ≠ none
  · obtain ⟨mark, hmem, hmark, hwrite⟩ := exists_mark_of_key plain htable
    exact ⟨mark, plain mark hmem, hmark, hwritten hwrite⟩
  · obtain ⟨hreplace, hfilters⟩ := not_or.mp htable
    rw [freshMarks, mem_marksOf, get?_substitutions_ofSpec source raw pattern,
      not_not.mp hreplace, not_not.mp hfilters] at hkey
    by_cases hvalue : String.ofList key = valueMarker
    · exact ⟨.placeholder _, by decide, trivial, hwritten (hvalue.trans valueMarker_eq)⟩
    · by_cases hlabel : String.ofList key = labelMarker
      · exact ⟨.placeholder _, by decide, trivial, hwritten (hlabel.trans labelMarker_eq)⟩
      · simp [hvalue, hlabel] at hkey

/-- A literal is put out as it is. -/
theorem substituteFrom_literal {s : List Char} (hs : IsBraceFree s) (rest : List Char) :
    substituteFrom (freshMarks source raw spec) 0 (s ++ rest) =
      s ++ substituteFrom (freshMarks source raw spec) 0 rest := by
  apply substituteFrom_append
  rintro c hc ⟨key, fresh⟩ hentry hhead
  obtain ⟨mark, -, hmark, hwrite⟩ := exists_mark_of_freshMarks source raw plain pattern hentry
  rw [hwrite, Segment.head?_write hmark] at hhead
  have hopen : c ≠ '\x7b' := (isBrace_eq_false_iff.mp (hs c hc)).1
  exact hopen (Option.some.inj hhead).symm

/-- In front of a mark the scan puts out what the mark renders, and goes on behind it. -/
theorem substituteFrom_write_mark {mark : Segment} (hmem : mark ∈ segs) (hmark : mark.IsMark)
    (rest : List Char) :
    substituteFrom (freshMarks source raw spec) 0 (mark.write ++ rest) =
      (rendered source raw mark).toList ++
        substituteFrom (freshMarks source raw spec) 0 rest := by
  have hfresh := mem_freshMarks source raw plain pattern hmem hmark
  have hne : mark.write ≠ [] := by
    intro hnil
    have hhead := Segment.head?_write hmark
    rw [hnil] at hhead
    cases hhead
  apply substituteFrom_mark hne
  apply longestMark?_eq_some hfresh hne (List.prefix_append _ rest)
  -- whatever else is listed is a mark too, and one that begins here is this one
  rintro ⟨key, fresh⟩ hentry - hbegins
  obtain ⟨other, hplain, hother, rfl⟩ := exists_mark_of_freshMarks source raw plain pattern hentry
  have hsame : other = mark :=
    Segment.eq_of_write_isPrefix hplain (plain mark hmem) hother hmark hbegins
  rw [hsame, freshMarks, mem_marksOf] at hentry
  rw [freshMarks, mem_marksOf, hentry] at hfresh
  rw [hsame, Option.some.inj hfresh]

theorem substituteFrom_write {seg : Segment} (hmem : seg ∈ segs) (rest : List Char) :
    substituteFrom (freshMarks source raw spec) 0 (seg.write ++ rest) =
      (rendered source raw seg).toList ++
        substituteFrom (freshMarks source raw spec) 0 rest := by
  cases seg with
  | literal s =>
    rw [rendered, String.toList_ofList]
    exact substituteFrom_literal source raw plain pattern (plain _ hmem) rest
  | placeholder name =>
    exact substituteFrom_write_mark source raw plain pattern hmem trivial rest
  | expression body =>
    exact substituteFrom_write_mark source raw plain pattern hmem trivial rest

theorem substituteFrom_text {part : List Segment} (hpart : part ⊆ segs) :
    String.ofList (substituteFrom (freshMarks source raw spec) 0 (Segment.text part)) =
      String.join (part.map (rendered source raw)) := by
  induction part with
  | nil => rw [Segment.text, List.flatMap_nil, List.map_nil, String.join_nil, substituteFrom]
  | cons seg rest ih =>
    obtain ⟨hseg, hrest⟩ := List.cons_subset.mp hpart
    have hstep := substituteFrom_write source raw plain pattern hseg (Segment.text rest)
    have htext : Segment.text (seg :: rest) = seg.write ++ Segment.text rest :=
      List.flatMap_cons
    rw [htext, hstep, String.ofList_append, String.ofList_toList, ih hrest, List.map_cons,
      String.join_cons]

end Pattern

/-- A pattern renders what its segments render, one after the other. -/
theorem render_segments (spec : Field.Spec) (segs : List Segment)
    (plain : ∀ seg ∈ segs, seg.IsPlain)
    (pattern : spec.pattern = some (String.ofList (Segment.text segs)))
    (text_ne_nil : Segment.text segs ≠ []) :
    render (.ofSpec spec) raw source = String.join (segs.map (rendered source raw)) := by
  have hempty : String.ofList (Segment.text segs) ≠ "" := by
    intro heq
    exact text_ne_nil (String.ofList_injective heq)
  have hpattern : (Target.ofSpec spec).pattern? = some (String.ofList (Segment.text segs)) := by
    rw [Target.pattern?, Target.spec_ofSpec, pattern]
    simp [hempty]
  have htext := substituteFrom_text source raw plain pattern (List.Subset.refl segs)
  rw [render, hpattern, ← htext, freshMarks]
  exact (substitute_eq _ _).trans (by rw [String.toList_ofList])

/-- What is put in may look like a placeholder, and an expression may stand between two. -/
theorem render_segments_adjacent :
    let segs : List Segment :=
      [.placeholder "a".toList, .expression "a|upper".toList, .placeholder "b".toList,
        .literal " by ".toList, .placeholder "__value__".toList]
    let text := "\x7ba\x7d\x7b\x7ba|upper\x7d\x7d\x7bb\x7d by \x7b__value__\x7d"
    let spec : Field.Spec := { Field.Spec.ofField "dcterms:title" with pattern := some text }
    let source := Source.ofJson false (.object [("a", .text "\x7bb\x7d"), ("b", .text "x")])
    (∀ seg ∈ segs, seg.IsPlain) ∧ Segment.text segs = text.toList ∧
      render (.ofSpec spec) "me" source = "\x7bb\x7d\x7bB\x7dx by me" := by
  intro segs text spec source
  have hplain : ∀ seg ∈ segs, seg.IsPlain := by decide
  have htext : Segment.text segs = text.toList := by decide
  have hpattern : spec.pattern = some (String.ofList (Segment.text segs)) := by
    rw [htext, String.ofList_toList]
  have hjoined : String.join (segs.map (rendered source "me")) = "\x7bb\x7d\x7bB\x7dx by me" := by
    decide +kernel
  exact ⟨hplain, htext,
    (render_segments source "me" spec segs hplain hpattern (by decide)).trans hjoined⟩

end Crosswalk.Extraction
