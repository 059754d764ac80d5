import Mathlib.Data.List.Induction
import Crosswalk.Proofs.Mapping.Segments
import Crosswalk.Proofs.Table

/-!
The marks of a pattern, and the tables in which a target keeps them.

A target finds under a written placeholder an empty default, under a written expression the filters
that it runs, and under anything else nothing. Of two marks that begin the same text neither goes
on where the other ends, so at no place of a pattern is there a choice between them.
-/

namespace Crosswalk.Mapping

theorem placeholderText_injective : Function.Injective placeholderText := by
  intro first second h
  have hlist := String.ofList_injective h
  exact List.append_cancel_right (List.cons.inj hlist).2

theorem expressionText_injective : Function.Injective expressionText := by
  intro first second h
  have hlist := String.ofList_injective h
  exact List.append_cancel_right (List.cons.inj (List.cons.inj hlist).2).2

namespace Target

theorem get?_replaceOf (pattern : List Char) (key : String) :
    (replaceOf pattern).get? key =
      if key ∈ (placeholderNames (withoutExpressions pattern)).map placeholderText then some ""
      else none := by
  rw [replaceOf]
  induction placeholderNames (withoutExpressions pattern) using List.reverseRecOn with
  | nil => rfl
  | append_singleton names name ih =>
    rw [List.foldl_concat, Table.get?_setIfAbsent, ih, List.map_append, List.map_singleton]
    simp only [List.mem_append, List.mem_singleton]
    by_cases hmem : key ∈ names.map placeholderText
    · rw [if_pos hmem, if_pos (Or.inl hmem), Option.some_or]
    · simp only [hmem, if_false, false_or, Option.none_or]

theorem get?_filtersOf {pattern : List Char} {key : String} {p : Filter.Pipeline} :
    (filtersOf pattern).get? key = some p ↔
      ∃ body ∈ expressionBodies pattern,
        expressionText body = key ∧ Filter.Pipeline.read? body = some p := by
  rw [filtersOf]
  induction expressionBodies pattern using List.reverseRecOn with
  | nil => simp [Table.get?, Table.empty]
  | append_singleton bodies body ih =>
    rw [List.foldl_concat]
    cases hread : Filter.Pipeline.read? body with
    | none =>
      rw [ih]
      simp [hread, or_and_right, exists_or]
    | some kept =>
      rw [Table.get?_set]
      by_cases hkey : key = expressionText body
      · -- the same text is the same expression, so an earlier entry had this value already
        subst hkey
        simp [hread, expressionText_injective.eq_iff]
      · simp [hkey, ih, Ne.symm hkey, or_and_right, exists_or]

end Target

namespace Segment

/-- The segments that stand for a value. -/
def IsMark : Segment → Prop
  | .literal _ => False
  | _ => True

theorem head?_write {mark : Segment} (h : mark.IsMark) : mark.write.head? = some '\x7b' := by
  cases mark with
  | literal s => cases h
  | placeholder name => rfl
  | expression body => rfl

theorem eq_of_append_close {first second : List Char} (hfirst : IsBraceFree first)
    (hsecond : IsBraceFree second) {after rest : List Char}
    (h : first ++ '\x7d' :: after = second ++ '\x7d' :: rest) : first = second := by
  rw [← takeWhile_append_close hfirst after, h, takeWhile_append_close hsecond rest]

theorem append_ne_open_cons {name after rest : List Char} (hname : IsBraceFree name)
    (hne : name ≠ []) : name ++ after ≠ '\x7b' :: rest := by
  intro heq
  cases name with
  | nil => exact hne rfl
  | cons c tail =>
    rw [(List.cons.inj heq).1] at hname
    have hopen := hname '\x7b' List.mem_cons_self
    revert hopen
    decide

/-- No mark goes on where another one ends. -/
theorem eq_of_write_isPrefix {first second : Segment} (hfirst : first.IsPlain)
    (hsecond : second.IsPlain) (hmark : first.IsMark) (hmark' : second.IsMark) {rest : List Char}
    (h : first.write <+: second.write ++ rest) : first = second := by
  obtain ⟨after, hafter⟩ := h
  cases first with
  | literal s => cases hmark
  | placeholder name =>
    obtain ⟨hname, hne, -⟩ := hfirst
    rw [write_placeholder_append] at hafter
    cases second with
    | literal s => cases hmark'
    | placeholder other =>
      rw [write_placeholder_append] at hafter
      rw [eq_of_append_close hname hsecond.1 (List.cons.inj hafter).2]
    | expression body =>
      rw [write_expression_append] at hafter
      exact absurd (List.cons.inj hafter).2 (append_ne_open_cons hname hne)
  | expression body =>
    rw [write_expression_append] at hafter
    cases second with
    | literal s => cases hmark'
    | placeholder name =>
      obtain ⟨hname, hne, -⟩ := hsecond
      rw [write_placeholder_append] at hafter
      exact absurd (List.cons.inj hafter).2.symm (append_ne_open_cons hname hne)
    | expression other =>
      rw [write_expression_append] at hafter
      have hinner := (List.cons.inj (List.cons.inj hafter).2).2
      rw [eq_of_append_close hfirst.1 hsecond.1 hinner]

end Segment

variable {segs : List Segment}

theorem get?_replaceOf_placeholder (h : ∀ seg ∈ segs, seg.IsPlain) {name : List Char}
    (hname : .placeholder name ∈ segs) :
    (Target.replaceOf (Segment.text segs)).get? (placeholderText name) = some "" := by
  rw [Target.get?_replaceOf, placeholderNames_text h, if_pos]
  exact List.mem_map_of_mem (mem_names.mpr hname)

theorem get?_replaceOf_expression (h : ∀ seg ∈ segs, seg.IsPlain) {body : List Char}
    (hbody : .expression body ∈ segs) :
    (Target.replaceOf (Segment.text segs)).get? (expressionText body) = none := by
  rw [Target.get?_replaceOf, placeholderNames_text h, if_neg]
  intro hmem
  obtain ⟨name, hname, hkey⟩ := List.mem_map.mp hmem
  have hwrite : (Segment.placeholder name).write = (Segment.expression body).write :=
    String.ofList_injective hkey
  have hplain := h _ (mem_names.mp hname)
  have heq : Segment.placeholder name = Segment.expression body := by
    apply Segment.eq_of_write_isPrefix hplain (h _ hbody) trivial trivial
    exact ⟨[], by rw [hwrite]⟩
  cases heq

theorem get?_filtersOf_expression (h : ∀ seg ∈ segs, seg.IsPlain) {body : List Char}
    (hbody : .expression body ∈ segs) :
    (Target.filtersOf (Segment.text segs)).get? (expressionText body) =
      some (Filter.Pipeline.ofBody body) := by
  rw [Target.get?_filtersOf, expressionBodies_text h]
  obtain ⟨-, -, hsubject⟩ := h _ hbody
  exact ⟨body, mem_bodies.mpr hbody, rfl, Filter.Pipeline.read?_eq_ofBody hsubject⟩

/-- Only what is written of a mark is a key of the tables. -/
theorem exists_mark_of_key (h : ∀ seg ∈ segs, seg.IsPlain) {key : String}
    (hkey : (Target.replaceOf (Segment.text segs)).get? key ≠ none ∨
      (Target.filtersOf (Segment.text segs)).get? key ≠ none) :
    ∃ mark ∈ segs, mark.IsMark ∧ key = String.ofList mark.write := by
  rcases hkey with hreplace | hfilters
  · rw [Target.get?_replaceOf, placeholderNames_text h, ite_ne_right_iff] at hreplace
    obtain ⟨name, hname, rfl⟩ := List.mem_map.mp hreplace.1
    exact ⟨_, mem_names.mp hname, trivial, rfl⟩
  · obtain ⟨p, hp⟩ := Option.ne_none_iff_exists'.mp hfilters
    rw [Target.get?_filtersOf, expressionBodies_text h] at hp
    obtain ⟨body, hbody, rfl, -⟩ := hp
    exact ⟨_, mem_bodies.mp hbody, trivial, rfl⟩

end Crosswalk.Mapping
