import Mathlib.Data.List.Forall2
import Mathlib.Data.List.Perm.Basic
import Crosswalk.Extraction.Documents
import Crosswalk.Proofs.Extraction.Rules
import Crosswalk.Proofs.Mapping.RoundTrip

/-!
What an extraction makes of rules whose order promotion has changed.

Saved mapping text puts the rules first whose pattern is a marker. All rules that select records or
give a label are among them, so these keep their order. A rule that fills a field may have the
marker of the label for its pattern too, and is then moved in front of other rules for fields: its
values come earlier among those of its term, and its term earlier among the terms. Nothing else
changes.
-/

namespace Crosswalk.Extraction

open Mapping

/-- Among the rules that a test picks, those with a marker for their pattern stand in front. -/
def MarkedFirst (picks : Rule → Bool) (rules : List Rule) : Prop :=
  (rules.filter picks).Pairwise fun a b => b.target.isPromoted = true → a.target.isPromoted = true

theorem promote_append_filter (picks : Rule → Bool) (rules : List Rule) :
    (promote rules).filter picks = promote (rules.filter picks) := by
  simp [promote, List.filter_append, List.filter_filter, Bool.and_comm]

theorem promote_eq_self {rules : List Rule}
    (h : rules.Pairwise fun a b => b.target.isPromoted = true → a.target.isPromoted = true) :
    promote rules = rules := by
  induction rules with
  | nil => rfl
  | cons rule rest ih =>
    obtain ⟨hrule, hrest⟩ := List.pairwise_cons.mp h
    have hkeep := ih hrest
    cases hmarked : rule.target.isPromoted with
    | true =>
      simp only [promote] at hkeep ⊢
      simp [hmarked, hkeep]
    | false =>
      -- no rule behind an unmarked one is marked
      have hnone : ∀ r ∈ rest, r.target.isPromoted = false := by
        intro r hr
        by_contra hmark
        rw [Bool.not_eq_false] at hmark
        rw [hrule r hr hmark] at hmarked
        cases hmarked
      have hfront : rest.filter (·.target.isPromoted) = [] := by
        simpa [List.filter_eq_nil_iff] using hnone
      have hback : rest.filter (fun r => !r.target.isPromoted) = rest := by
        simpa [List.filter_eq_self] using hnone
      simp [promote, hmarked, hfront, hback]

/-- Only rules that fill a field can do without a marker for their pattern. -/
theorem isPromoted_of_role {rule : Rule} (h : rule.target.role ≠ .field) :
    rule.target.isPromoted = true := by
  unfold Target.role at h
  split at h
  · rename_i pattern hpattern
    by_cases hlist : pattern = listMarker
    · simp [Target.isPromoted, hpattern, hlist]
    · by_cases hlabel : pattern = labelMarker
      · simp [Target.isPromoted, hpattern, hlabel]
      · simp [hlist, hlabel] at h
  · exact absurd rfl h

/-- Rules that fill no field keep their order. -/
theorem filter_promote_of_role {role : Role} (hrole : role ≠ .field) (rules : List Rule) :
    (promote rules).filter (fun rule => rule.target.role = role) =
      rules.filter fun rule => rule.target.role = role := by
  rw [promote_append_filter]
  apply promote_eq_self
  apply List.pairwise_of_forall_mem_list
  intro a ha _ _ _
  apply isPromoted_of_role
  have hrole' : a.target.role = role := by simpa using (List.mem_filter.mp ha).2
  exact hrole' ▸ hrole

theorem promote_perm (rules : List Rule) : (promote rules).Perm rules :=
  List.filter_append_perm _ rules

theorem listRule?_promote (rules : List Rule) : listRule? (promote rules) = listRule? rules := by
  have hfilter := @filter_promote_of_role .list (by simp) rules
  rw [listRule?, listRule?, ← List.head?_filter, ← List.head?_filter, hfilter]

/-- The sources of the records of a document are the same. -/
theorem records_promote (isInternal : Bool) (rules : List Rule) (d : Document) :
    d.records isInternal (promote rules) = d.records isInternal rules := by
  rw [Document.records, Document.records, listRule?_promote]

variable (e : Extractor) (source : Source) (rule : Rule) (rules : List Rule) (term : String)

/-- What only picked rules contribute to is the same when the picked rules keep their order. -/
theorem flatMap_promote {β : Type} {picks : Rule → Bool} {f : Rule → List β}
    (hnil : ∀ rule, picks rule = false → f rule = []) (hmarked : MarkedFirst picks rules) :
    (promote rules).flatMap f = rules.flatMap f := by
  rw [← flatMap_filter_of_nil hnil, promote_append_filter, promote_eq_self hmarked,
    flatMap_filter_of_nil hnil]

/-- Rules that give a label keep their order, and with it the label. -/
theorem label_run_promote :
    (run e source (promote rules)).label = (run e source rules).label := by
  have hnil : ∀ rule : Rule, decide (rule.target.role = .label) = false →
      ruleLabels e source rule = [] := by
    intro rule hrule
    exact ruleLabels_of_role e source (by simpa using hrule)
  rw [label_run, label_run, ← flatMap_filter_of_nil hnil, ← flatMap_filter_of_nil hnil rules,
    filter_promote_of_role (by simp)]

theorem terms_run_promote_perm :
    (run e source (promote rules)).terms.Perm (run e source rules).terms := by
  rw [terms_run, terms_run]
  exact eraseDups_perm ((promote_perm rules).flatMap_right _)

theorem get_run_promote_perm :
    ((run e source (promote rules)).get term).Perm ((run e source rules).get term) := by
  rw [get_run, get_run]
  exact (promote_perm rules).flatMap_right _

/-- The values under a term keep their order if the rules for the term do. -/
theorem get_run_promote {rules : List Rule} (h : MarkedFirst (fillsTerm term) rules) :
    (run e source (promote rules)).get term = (run e source rules).get term := by
  rw [get_run, get_run]
  exact flatMap_promote rules (fun _ hrule => valuesUnder_of_not_fills e source term hrule) h

theorem terms_run_promote {rules : List Rule} (h : MarkedFirst fillsField rules) :
    (run e source (promote rules)).terms = (run e source rules).terms := by
  rw [terms_run, terms_run]
  congr 1
  apply flatMap_promote rules _ h
  intro rule hrule
  rw [List.map_eq_nil_iff, List.eq_nil_iff_forall_not_mem]
  intro entry hentry
  have hfills := mem_ruleEntries e source hentry
  simp [fillsTerm, hrule] at hfills

theorem markedFirst_fillsTerm {rules : List Rule} (h : MarkedFirst fillsField rules) :
    MarkedFirst (fillsTerm term) rules := by
  have hfilter : rules.filter (fillsTerm term) =
      (rules.filter fillsField).filter fun rule => rule.target.field = term := by
    rw [List.filter_filter]
    apply List.filter_congr
    intro rule _
    exact Bool.and_comm _ _
  rw [MarkedFirst, hfilter]
  exact List.Pairwise.filter _ h

/-- What comes of rules in a result, before promotion and after it. -/
structure IsRearranged (rules : List Rule) (before after : Result) : Prop where
  label : after.label = before.label
  terms : after.terms.Perm before.terms
  values : ∀ term, (after.get term).Perm (before.get term)
  term_kept : ∀ term, MarkedFirst (fillsTerm term) rules → after.get term = before.get term
  kept : MarkedFirst fillsField rules → after = before

theorem isRearranged_run :
    IsRearranged rules (run e source rules) (run e source (promote rules)) := by
  refine ⟨label_run_promote e source rules, terms_run_promote_perm e source rules,
    get_run_promote_perm e source rules, fun term h => get_run_promote e source term h, ?_⟩
  intro h
  apply Result.ext_get (label_run_promote e source rules) (terms_run_promote e source h)
  intro term
  exact get_run_promote e source term (markedFirst_fillsTerm term h)

/-- A result keeps its use. -/
theorem IsRearranged.isUseful {rules : List Rule} {before after : Result}
    (h : IsRearranged rules before after) : after.isUseful = before.isUseful := by
  have hempty : ∀ r : Result, r.isEmpty = r.terms.isEmpty := by
    intro r
    simp [Result.isEmpty, Table.isEmpty, Result.terms, Table.keys, entryKeys]
  rw [Result.isUseful, Result.isUseful, hempty, hempty, h.label, h.terms.isEmpty_eq]

theorem extract_eq (d : Document) :
    extract e d rules = ((d.source? e.isInternal).map fun source => run e source rules).getD
      Result.empty := by
  rw [extract, documentOutcomes]
  cases d.source? e.isInternal <;> rfl

theorem isRearranged_extract (d : Document) :
    IsRearranged rules (extract e d rules) (extract e d (promote rules)) := by
  rw [extract_eq, extract_eq]
  cases d.source? e.isInternal with
  | none => exact ⟨rfl, .refl _, fun _ => .refl _, fun _ _ => rfl, fun _ => rfl⟩
  | some source => exact isRearranged_run e source rules

theorem isJoin_extract (front back : List Rule) (d : Document) :
    IsJoin (extract e d front) (extract e d back) (extract e d (front ++ back)) := by
  rw [extract_eq, extract_eq, extract_eq]
  cases d.source? e.isInternal with
  | none => exact ⟨rfl, rfl, fun _ => rfl⟩
  | some source => exact isJoin_run e source front back

/-- Record by record, a list of results is rearranged as a single result is. -/
theorem isRearranged_extractList (d : Document) :
    List.Forall₂ (IsRearranged rules) (extractList e d rules)
      (extractList e d (promote rules)) := by
  rw [extractList, extractList, listRule?_promote]
  cases hlist : listRule? rules with
  | none => exact .cons (isRearranged_extract e rules d) .nil
  | some rule =>
    have hmap : ∀ rs : List Rule, (recordOutcomes e d rs).map Result.ofOutcomes =
        (d.records e.isInternal rs).map fun source => run e source rs := by
      intro rs
      rw [recordOutcomes, List.map_map]
      rfl
    have huseful : ∀ source ∈ d.records e.isInternal rules,
        (run e source (promote rules)).isUseful = (run e source rules).isUseful := fun source _ =>
      (isRearranged_run e source rules).isUseful
    simp only [hmap, records_promote, List.filter_map, Function.comp_def]
    rw [List.filter_congr huseful, List.forall₂_map_left_iff, List.forall₂_map_right_iff,
      List.forall₂_same]
    exact fun source _ => isRearranged_run e source rules

/-- Rules that are saved and read again give the same label, the same terms and the same values
under them: what the rules with a marker give comes first, and what the others give behind it. The
order is the same wherever these rules stood in front before, and so is the whole result if they
stood in front of all rules for fields. This holds of every record of a list too. -/
theorem extract_saved {text key : String} {g : Group}
    (hg : (parseGroups text).get? key = some g) :
    ∃ g', (parseGroups (groupsText (parseGroups text))).get? key = some g' ∧
      ∀ (e : Extractor) (d : Document),
        IsRearranged g.rules (extract e d g.rules) (extract e d g'.rules) ∧
        IsJoin (extract e d (g.rules.filter fun rule => rule.target.isPromoted))
          (extract e d (g.rules.filter fun rule => !rule.target.isPromoted))
          (extract e d g'.rules) ∧
        List.Forall₂ (IsRearranged g.rules) (extractList e d g.rules) (extractList e d g'.rules) ∧
        (MarkedFirst fillsField g.rules → extractList e d g'.rules = extractList e d g.rules) := by
  refine ⟨g.promoted, ?_, ?_⟩
  · rw [parseGroups_saved, Table.get?_mapValues, hg]
    rfl
  · intro e d
    have hlist := isRearranged_extractList e g.rules d
    refine ⟨isRearranged_extract e g.rules d, isJoin_extract e _ _ d, hlist, ?_⟩
    intro h
    symm
    rw [← List.forall₂_eq_eq_eq]
    exact hlist.imp fun _ _ hrearranged => (hrearranged.kept h).symm

/-- A group that selects records, with a rule for a field that is moved. -/
theorem extract_saved_group :
    let text := "[a]\nx = dcterms:title\nrows = \x7blist\x7d\ny = dcterms:title ~ \x7b__label__\x7d"
    ∃ g, (parseGroups text).get? "a" = some g ∧
      ∃ g', (parseGroups (groupsText (parseGroups text))).get? "a" = some g' ∧
        ∀ (e : Extractor) (d : Document),
          List.Forall₂ (IsRearranged g.rules) (extractList e d g.rules)
            (extractList e d g'.rules) := by
  intro text
  have hgroup : ((parseGroups text).get? "a").isSome := by decide +kernel
  obtain ⟨g, hg⟩ := Option.isSome_iff_exists.mp hgroup
  obtain ⟨g', hg', hall⟩ := extract_saved hg
  exact ⟨g, hg, g', hg', fun e d => (hall e d).2.2.1⟩

/-- Two values of one term change places when the rule of the second has the marker of the label. -/
theorem extract_saved_moves_values :
    let groups := parseGroups "[a]\nx = dcterms:title\ny = dcterms:title ~ \x7b__label__\x7d"
    let titles := fun groups : Table Group => (groups.get? "a").map fun g =>
      ((extract ⟨⟨fun _ => false, fun _ => none⟩, none, none, false⟩
        (.json (.object [("x", .text "1"), ("y", .text "2")])) g.rules).get "dcterms:title").map
          Value.text
    titles groups = some ["1", "2"] ∧
      titles (parseGroups (groupsText groups)) = some ["2", "1"] := by
  decide +kernel

end Crosswalk.Extraction
