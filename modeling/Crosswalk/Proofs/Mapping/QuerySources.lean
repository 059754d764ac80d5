import Crosswalk.Proofs.Mapping.Rule
import Crosswalk.Proofs.Query.Enclosed

/-!
Queries as the sources of rules.

A rule without a leading tilde is split at its first equals sign, and comparisons in a query are
written with that sign. So a query can be the source of a written rule exactly if it compares
nothing; any other is cut off inside its first predicate that compares.
-/

namespace Crosswalk.Mapping

open Text

/-- A line that no tilde begins is split at the first equals sign in its source, if there is one. -/
theorem splitRule?_cut {before after target : List Char} (hequals : '=' ∉ before)
    (htilde : '~' ∉ before ++ '=' :: after) :
    splitRule? (before ++ '=' :: after ++ target) = some (before, after ++ target) := by
  have hhead : (before ++ '=' :: after ++ target).head? ≠ some '~' := by
    intro hhead
    cases before with
    | nil => cases hhead
    | cons c rest =>
      cases hhead
      exact htilde List.mem_cons_self
  have hback : after ++ target.takeWhile (· != '~') ++ target.dropWhile (· != '~') =
      after ++ target := by
    rw [List.append_assoc, List.takeWhile_append_dropWhile]
  rw [splitRule?_other hhead, takeWhile_append_self htilde, dropWhile_append_self htilde,
    List.append_assoc, List.cons_append, cutAt_append hequals, Option.map_some]
  dsimp only
  rw [hback]

/-- A rule has its source from in front of the sign that splits its line. -/
theorem source_of_readRule? {line source target : List Char} {rule : Rule}
    (hsplit : splitRule? line = some (source, target)) (h : readRule? line = some rule) :
    rule.source = String.ofList (trim source) := by
  rw [readRule?, hsplit, Option.bind_some] at h
  dsimp only at h
  split at h
  · cases h
  · obtain ⟨t, -, rfl⟩ := Option.map_eq_some_iff.mp h
    rfl

variable {text : List Char} {spec : Field.Spec}

/-- A rule is read back if its source holds neither a tilde nor an equals sign. -/
theorem readRule?_source (hne : text ≠ []) (htrimmed : IsTrimmed text) (htilde : '~' ∉ text)
    (hequals : '=' ∉ text) (hspec : spec.IsCanonical) :
    readRule? (text ++ " = ".toList ++ spec.write) =
      some ⟨String.ofList text, .ofSpec spec⟩ := by
  have hsource : IsSplitSource text := .inr ⟨htilde, hequals⟩
  have hfront : '=' ∉ (' ' :: spec.write).takeWhile (· != '~') := by
    simpa using Field.Spec.equals_not_mem_front hspec
  have hline : text ++ " = ".toList ++ spec.write = text ++ [' '] ++ '=' :: ' ' :: spec.write := by
    simp
  obtain ⟨c, rest, hwrite, -⟩ := Field.Spec.head_write hspec
  have htarget : spec.write ≠ [] := by simp [hwrite]
  rw [readRule?, hline, splitRule?_append hsource.append_space hfront]
  simp [trim_append_blank isBlank_space, trim_cons_blank isBlank_space, htrimmed.trim_eq,
    (Field.Spec.isTrimmed_write hspec).trim_eq, hne, htarget, Target.read?_spec hspec]

/-- A rule written with a query as its source and a description in canonical form as its target has
that target, and it is read with this query as its source exactly if the query compares nothing. The
source of a rule that is read is never more than what stands in front of the first equals sign. -/
theorem query_source_read {q : Query} (hq : Query.read? text = some q) (htrimmed : IsTrimmed text)
    (htilde : '~' ∉ text) (hspec : spec.IsCanonical) :
    let line := text ++ " = ".toList ++ spec.write
    ∃ target, Target.read? spec.write = some target ∧
      (readRule? line = some ⟨String.ofList text, target⟩ ↔ q.hasComparison = false) ∧
      ∀ before after, text = before ++ '=' :: after → '=' ∉ before →
        ∀ rule, readRule? line = some rule → rule.source = String.ofList (trim before) := by
  intro line
  have hcut : ∀ before after, text = before ++ '=' :: after → '=' ∉ before →
      ∀ rule, readRule? line = some rule → rule.source = String.ofList (trim before) := by
    intro before after hsplit hequals rule hrule
    have hline : splitRule? line = some (before, after ++ (" = ".toList ++ spec.write)) := by
      simp only [line, hsplit, List.append_assoc _ " = ".toList]
      exact splitRule?_cut hequals (hsplit ▸ htilde)
    exact source_of_readRule? hline hrule
  refine ⟨.ofSpec spec, Target.read?_spec hspec, ?_, hcut⟩
  rw [← Bool.not_eq_true, ← Query.equals_mem_iff hq]
  constructor
  · intro hread hequals
    obtain ⟨before, after, hsplit, hfirst⟩ := List.eq_append_cons_of_mem hequals
    have hsource := hcut before after hsplit hfirst _ hread
    have htext : text = trim before := String.ofList_injective hsource
    -- the query would hold the equals sign that its source lacks
    exact hfirst (mem_of_mem_trim (htext ▸ hequals))
  · intro hequals
    have hne : text ≠ [] := by
      rintro rfl
      cases hq
    exact readRule?_source hne htrimmed htilde hequals hspec

/-- A union with predicates that compare nothing, and a pattern with an equals sign. -/
theorem query_source_read_union :
    let text := "//a[@b][2] | c:*/d[last()]".toList
    let spec : Field.Spec :=
      { Field.Spec.ofField "dcterms:title" with
        language := some "en", pattern := some "x=\x7ba\x7d" }
    (Query.read? text).map Query.hasComparison = some false ∧ IsTrimmed text ∧ '~' ∉ text ∧
      spec.IsCanonical ∧
      readRule? (text ++ " = ".toList ++ spec.write) =
        (Target.read? spec.write).map fun target => ⟨String.ofList text, target⟩ := by
  intro text spec
  have htrimmed : IsTrimmed text := by
    constructor <;>
    · rintro c ⟨⟩
      rfl
  have htilde : '~' ∉ text := by decide +kernel
  have hread : Field.Spec.read? spec.write = some spec := by decide +kernel
  have hspec : spec.IsCanonical := (Field.Spec.isCanonical_of_read? hread).1
  have hcompares : (Query.read? text).map Query.hasComparison = some false := by decide +kernel
  obtain ⟨q, hq, hnone⟩ := Option.map_eq_some_iff.mp hcompares
  obtain ⟨target, htarget, hrule, -⟩ := query_source_read hq htrimmed htilde hspec
  refine ⟨hcompares, htrimmed, htilde, hspec, ?_⟩
  rw [htarget, hrule.mpr hnone]
  rfl

/-- A query with a comparison is read, and so is a rule with it as its source; but the source of
that rule is its beginning, which is no query. -/
theorem query_source_cut :
    let text := "//a[@b='v']".toList
    let spec := Field.Spec.ofField "dcterms:title"
    let line := text ++ " = ".toList ++ spec.write
    (Query.read? text).isSome = true ∧ IsTrimmed text ∧ '~' ∉ text ∧ '\n' ∉ text ∧
      spec.IsCanonical ∧ (readRule? line).map Rule.source = some "//a[@b" ∧
      Query.parse? "//a[@b" = none ∧
      ∀ target, readRule? line ≠ some ⟨String.ofList text, target⟩ := by
  intro text spec line
  have htrimmed : IsTrimmed text := by
    constructor <;>
    · rintro c ⟨⟩
      rfl
  have hread : Field.Spec.read? spec.write = some spec := by decide +kernel
  have hspec : spec.IsCanonical := (Field.Spec.isCanonical_of_read? hread).1
  have hsource : (readRule? line).map Rule.source = some "//a[@b" := by decide +kernel
  have hother : "//a[@b" ≠ String.ofList text := by decide +kernel
  refine ⟨by decide +kernel, htrimmed, by decide +kernel, by decide +kernel, hspec, hsource,
    by decide +kernel, ?_⟩
  intro target hrule
  rw [hrule] at hsource
  exact hother (Option.some.inj hsource).symm

end Crosswalk.Mapping
