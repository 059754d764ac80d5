import Crosswalk.Proofs.Extraction.Outcomes

/-!
What each rule of a mapping adds to a result.

The label of a run is the first label that a rule gives, its terms and values are those that the
rules give, one rule after the other. So the result of two mappings, one behind the other, is put
together from the results of both.
-/

namespace Crosswalk.Extraction

open Mapping

/-- Whether a rule fills a field. -/
def fillsField (rule : Rule) : Bool := rule.target.role = .field

/-- Whether a rule fills the field of a term. -/
def fillsTerm (term : String) (rule : Rule) : Bool := fillsField rule && rule.target.field = term

variable (e : Extractor) (source : Source) (rule : Rule) (rules : List Rule) (term : String)

/-- What the texts of a rule come to. -/
def ruleOutcomes : List Outcome := (texts source rule).map (outcome e rule)

/-- The labels that a rule gives. -/
def ruleLabels : List String := (ruleOutcomes e source rule).filterMap Outcome.label?

/-- The values that a rule gives, with their terms. -/
def ruleEntries : List (String × Value) := (ruleOutcomes e source rule).filterMap Outcome.entry?

theorem label_run :
    (run e source rules).label = (rules.flatMap (ruleLabels e source)).head? := by
  rw [run, Result.label_ofOutcomes, outcomes, List.filterMap_flatMap]
  rfl

theorem terms_run :
    (run e source rules).terms =
      (rules.flatMap fun rule => (ruleEntries e source rule).map Prod.fst).eraseDups := by
  rw [run, Result.terms_ofOutcomes, outcomes, List.filterMap_flatMap, List.map_flatMap]
  rfl

theorem get_run :
    (run e source rules).get term =
      rules.flatMap fun rule => valuesUnder term (ruleEntries e source rule) := by
  rw [run, Result.get_ofOutcomes, outcomes, List.filterMap_flatMap, valuesUnder,
    List.filter_flatMap, List.map_flatMap]
  rfl

theorem ruleLabels_of_role {rule : Rule} (h : rule.target.role ≠ .label) :
    ruleLabels e source rule = [] := by
  rw [ruleLabels, List.filterMap_eq_nil_iff]
  intro o ho
  obtain ⟨text, -, rfl⟩ := List.mem_map.mp ho
  by_cases htext : text = "" <;> simp [outcome, htext, h, Outcome.label?]

/-- A rule gives values under its field only, and none unless it fills a field. -/
theorem mem_ruleEntries {rule : Rule} {entry : String × Value}
    (h : entry ∈ ruleEntries e source rule) : fillsTerm entry.1 rule = true := by
  obtain ⟨o, ho, hentry⟩ := List.mem_filterMap.mp h
  obtain ⟨text, htext, rfl⟩ := List.mem_map.mp ho
  have hlist : rule.target.role ≠ .list := by
    intro hrole
    simp [texts, hrole] at htext
  by_cases hempty : text = ""
  · simp [outcome, hempty, Outcome.entry?] at hentry
  · cases hrole : rule.target.role with
    | list => exact absurd hrole hlist
    | label => simp [outcome, hempty, hrole, Outcome.entry?] at hentry
    | field =>
      have hvalue : outcome e rule text =
          .value rule.target.field (e.shape rule.target text).1 (e.shape rule.target text).2 := by
        simp [outcome, hempty, hrole]
      rw [hvalue] at hentry
      cases hentry
      simp [fillsTerm, fillsField, hrole]

/-- Every term of a result is the field of a rule. -/
theorem mem_terms_run {term : String} (h : term ∈ (run e source rules).terms) :
    ∃ rule ∈ rules, fillsTerm term rule = true := by
  rw [terms_run, List.mem_eraseDups, List.mem_flatMap] at h
  obtain ⟨rule, hrule, hterm⟩ := h
  obtain ⟨entry, hentry, rfl⟩ := List.mem_map.mp hterm
  exact ⟨rule, hrule, mem_ruleEntries e source hentry⟩

theorem flatMap_filter_of_nil {β : Type} {picks : Rule → Bool} {f : Rule → List β}
    (h : ∀ rule, picks rule = false → f rule = []) (rules : List Rule) :
    (rules.filter picks).flatMap f = rules.flatMap f := by
  induction rules with
  | nil => rfl
  | cons rule rest ih =>
    cases hpick : picks rule with
    | true => rw [List.filter_cons_of_pos hpick, List.flatMap_cons, List.flatMap_cons, ih]
    | false =>
      rw [List.filter_cons_of_neg (by simp [hpick]), List.flatMap_cons, h rule hpick, ih]
      rfl

theorem valuesUnder_of_not_fills {rule : Rule} (h : fillsTerm term rule = false) :
    valuesUnder term (ruleEntries e source rule) = [] := by
  rw [valuesUnder, List.map_eq_nil_iff, List.filter_eq_nil_iff]
  intro entry hentry heq
  have hfills := mem_ruleEntries e source hentry
  rw [decide_eq_true_eq.mp heq, h] at hfills
  cases hfills

/-- A result that two results make, one behind the other. -/
structure IsJoin (front back r : Result) : Prop where
  label : r.label = (front.label <|> back.label)
  terms : r.terms = front.terms ++ back.terms.filter fun term => term ∉ front.terms
  values : ∀ term, r.get term = front.get term ++ back.get term

theorem isJoin_run (front back : List Rule) :
    IsJoin (run e source front) (run e source back) (run e source (front ++ back)) := by
  constructor
  · rw [label_run, label_run, label_run, List.flatMap_append, List.head?_append,
      Option.orElse_eq_orElse, Option.orElse_eq_or]
  · rw [terms_run, terms_run, terms_run, List.flatMap_append, List.eraseDups_append,
      List.removeAll, eraseDups_filter]
    congr 1
    apply List.filter_congr
    intro term _
    simp [List.mem_eraseDups]
  · intro term
    rw [get_run, get_run, get_run, List.flatMap_append]

end Crosswalk.Extraction
