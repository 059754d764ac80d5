import Crosswalk.Proofs.Extraction.Rules

/-!
How the ways of extracting agree.

The list of texts that a mapping gives says all that the other ways need: a run takes its label and
its values from the texts that are listed for each rule, and asking for one rule gives the first of
its texts. So what a run gives for two mappings, one behind the other, is what it gives for both,
put together.
-/

namespace Crosswalk

/-- The table that puts each value behind those of its term. -/
def ValueTable.ofEntries (entries : List (String × Value)) : ValueTable :=
  entries.foldl (fun values entry => values.append entry.1 entry.2) Table.empty

namespace Extraction

open Mapping

variable (e : Extractor) (source : Source) (rule : Rule) (rules : List Rule)

/-- The texts that are listed when a rule is all of the mapping. -/
def listedTexts : List String := (runSimple source [rule]).map Triple.text

/-- The texts that are listed for the rules that give a label. -/
def listedLabels : List String :=
  (rules.filter fun rule => rule.target.role = .label).flatMap (listedTexts source)

/-- The listed texts of a rule that are not empty, each as a value under the field of the rule. -/
def shapedTexts : List (String × Value) :=
  ((listedTexts source rule).filter (· ≠ "")).map fun text =>
    (rule.target.field, (e.shape rule.target text).1)

/-- The values that the texts listed for the rules for fields make, with their terms. -/
def listedValues : List (String × Value) :=
  (rules.filter fillsField).flatMap (shapedTexts e source)

theorem listedTexts_eq_texts : listedTexts source rule = texts source rule := by
  simp [listedTexts, runSimple, Function.comp_def]

theorem runSimple_singleton :
    runSimple source [rule] =
      (listedTexts source rule).map fun text => ⟨rule.source, targetName rule, text⟩ := by
  rw [listedTexts_eq_texts]
  simp [runSimple]

/-- Each rule has its own place in the list. -/
theorem runSimple_eq_flatMap :
    runSimple source rules = rules.flatMap fun rule => runSimple source [rule] := by
  simp [runSimple]

/-- One rule gives the first of its texts; only rules that select records have no text listed. -/
theorem head_listedTexts :
    (listedTexts source rule).head? =
      if rule.target.role = .list then none else runRule? source rule := by
  rw [listedTexts_eq_texts, texts]
  split
  · rfl
  · rw [List.head?_map, runRule?]

theorem ruleLabels_of_label {rule : Rule} (h : rule.target.role = .label) :
    ruleLabels e source rule = (listedTexts source rule).filter (· ≠ "") := by
  rw [ruleLabels, ruleOutcomes, listedTexts_eq_texts, List.filterMap_map]
  induction texts source rule with
  | nil => rfl
  | cons text rest ih =>
    by_cases htext : text = ""
    · simpa [outcome, htext, Outcome.label?] using ih
    · simpa [outcome, htext, h, Outcome.label?] using ih

theorem ruleEntries_of_field {rule : Rule} (h : rule.target.role = .field) :
    ruleEntries e source rule = shapedTexts e source rule := by
  rw [ruleEntries, ruleOutcomes, shapedTexts, listedTexts_eq_texts, List.filterMap_map]
  induction texts source rule with
  | nil => rfl
  | cons text rest ih =>
    by_cases htext : text = ""
    · simpa [outcome, htext, Outcome.entry?] using ih
    · simpa [outcome, htext, h, Outcome.entry?] using ih

theorem ruleEntries_of_not_field {rule : Rule} (h : fillsField rule = false) :
    ruleEntries e source rule = [] := by
  rw [List.eq_nil_iff_forall_not_mem]
  intro entry hentry
  have hfills := mem_ruleEntries e source hentry
  simp [fillsTerm, h] at hfills

theorem flatMap_ruleEntries :
    rules.flatMap (ruleEntries e source) = listedValues e source rules := by
  have hfield : ∀ rule ∈ rules.filter fillsField,
      ruleEntries e source rule = shapedTexts e source rule := by
    intro rule hrule
    apply ruleEntries_of_field
    simpa [fillsField] using (List.mem_filter.mp hrule).2
  rw [← flatMap_filter_of_nil (fun _ => ruleEntries_of_not_field e source),
    List.flatMap_congr hfield, listedValues]

/-- The label of a run is the first text listed for a label that is not empty. -/
theorem label_run_eq_find :
    (run e source rules).label = (listedLabels source rules).find? (· ≠ "") := by
  have hother : ∀ rule : Rule, decide (rule.target.role = .label) = false →
      ruleLabels e source rule = [] := by
    intro rule hrole
    exact ruleLabels_of_role e source (by simpa using hrole)
  have hlabel : ∀ rule ∈ rules.filter fun rule => rule.target.role = .label,
      ruleLabels e source rule = (listedTexts source rule).filter (· ≠ "") := by
    intro rule hrule
    exact ruleLabels_of_label e source (by simpa using (List.mem_filter.mp hrule).2)
  rw [label_run, ← flatMap_filter_of_nil hother, List.flatMap_congr hlabel, ← List.filter_flatMap,
    List.head?_filter, listedLabels]

namespace Result

theorem values_foldl_add (outcomes : List Outcome) (r : Result) :
    (outcomes.foldl add r).values =
      (outcomes.filterMap Outcome.entry?).foldl
        (fun values entry => values.append entry.1 entry.2) r.values := by
  induction outcomes generalizing r with
  | nil => rfl
  | cons o rest ih =>
    rw [List.foldl_cons, ih]
    cases o <;> rfl

end Result

/-- A run puts the listed values, one after the other, behind those of their terms. -/
theorem values_run_eq_ofEntries :
    (run e source rules).values = ValueTable.ofEntries (listedValues e source rules) := by
  rw [run, Result.ofOutcomes, Result.values_foldl_add, outcomes, List.filterMap_flatMap,
    ← flatMap_ruleEntries]
  rfl

theorem terms_run_eq_eraseDups :
    (run e source rules).terms = ((listedValues e source rules).map Prod.fst).eraseDups := by
  rw [terms_run, ← flatMap_ruleEntries, List.map_flatMap]

theorem get_run_eq_valuesUnder (term : String) :
    (run e source rules).get term = valuesUnder term (listedValues e source rules) := by
  rw [get_run, ← flatMap_ruleEntries, valuesUnder, List.filter_flatMap, List.map_flatMap]
  rfl

/-- Rules that select records give nothing to a run. -/
theorem run_filter_list :
    run e source (rules.filter fun rule => rule.target.role ≠ .list) = run e source rules := by
  have hlist : ∀ rule : Rule, decide (rule.target.role ≠ .list) = false →
      ruleOutcomes e source rule = [] := by
    intro rule hrole
    have htexts : texts source rule = [] := by
      rw [texts, if_pos (by simpa using hrole)]
    rw [ruleOutcomes, htexts, List.map_nil]
  exact congrArg Result.ofOutcomes (flatMap_filter_of_nil hlist rules)

/-- The list of texts, a run and the text of one rule agree. The list goes rule by rule. The label
of a run is the first text for a label that is not empty; its values are the texts for fields that
are not empty, each put under the field of its rule, terms in the order in which they come first.
Rules that select records give nothing, and any other rule alone gives the first text listed for
it. So the result of two mappings is the result of the one with that of the other behind it. -/
theorem modes_agree (more : List Rule) :
    (runSimple source rules = rules.flatMap fun rule =>
      (listedTexts source rule).map fun text => ⟨rule.source, targetName rule, text⟩) ∧
    (run e source rules).label = (listedLabels source rules).find? (· ≠ "") ∧
    (run e source rules).values = ValueTable.ofEntries (listedValues e source rules) ∧
    (run e source rules).terms = ((listedValues e source rules).map Prod.fst).eraseDups ∧
    (∀ term, (run e source rules).get term =
      valuesUnder term (listedValues e source rules)) ∧
    run e source (rules.filter fun rule => rule.target.role ≠ .list) = run e source rules ∧
    (∀ rule, (listedTexts source rule).head? =
      if rule.target.role = .list then none else runRule? source rule) ∧
    IsJoin (run e source rules) (run e source more) (run e source (rules ++ more)) := by
  refine ⟨?_, label_run_eq_find e source rules, values_run_eq_ofEntries e source rules,
    terms_run_eq_eraseDups e source rules, get_run_eq_valuesUnder e source rules,
    run_filter_list e source rules, head_listedTexts source, isJoin_run e source rules more⟩
  rw [runSimple_eq_flatMap]
  exact List.flatMap_congr fun rule _ => runSimple_singleton source rule

end Extraction

end Crosswalk
