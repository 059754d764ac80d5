import Crosswalk.Proofs.Query.Characters

/-!
Equals signs in predicates.

Only comparisons are written with an equals sign: a text that is read as a predicate holds one
exactly if the predicate is a comparison.
-/

namespace Crosswalk.Query

open Text

def Predicate.isComparison : Predicate → Bool
  | .compares _ _ _ | .comparesSelf _ _ => true
  | .position _ | .last | .has _ => false

def Step.hasComparison (step : Step) : Bool := step.predicates.any Predicate.isComparison

def Path.hasComparison (path : Path) : Bool := path.steps.any Step.hasComparison

def hasComparison (q : Query) : Bool := q.paths.any Path.hasComparison

variable {s : List Char}

theorem isComparison_of_readComparison? {left right : List Char} {negated : Bool} {p : Predicate}
    (h : readComparison? left right negated = some p) : p.isComparison = true := by
  obtain ⟨value, -, hrest⟩ := Option.bind_eq_some_iff.mp h
  dsimp only at hrest
  split at hrest
  · cases hrest
    rfl
  · obtain ⟨part, -, hpart⟩ := Option.bind_eq_some_iff.mp hrest
    cases hpart
    rfl

theorem Predicate.equals_mem_iff {p : Predicate} (h : read? s = some p) :
    '=' ∈ s ↔ p.isComparison = true := by
  rw [← mem_trim_iff rfl]
  rw [read?] at h
  split at h
  · rename_i n hnumber
    cases h
    refine iff_of_false (fun hmem => ?_) (by simp [isComparison])
    rw [unsigned?_eq_none hmem rfl (by decide)] at hnumber
    cases hnumber
  · split at h
    · rename_i hlast
      cases h
      rw [hlast]
      exact iff_of_false (by decide) (by simp [isComparison])
    · split at h
      · rename_i left right negated hsplit
        refine iff_of_true ?_ (isComparison_of_readComparison? h)
        obtain ⟨⟨before, after⟩, hcut, -⟩ := Option.map_eq_some_iff.mp hsplit
        rw [cutFrom_eq_some hcut]
        simp
      · obtain ⟨part, hpart, rfl⟩ := Option.map_eq_some_iff.mp h
        exact iff_of_false (Part.isOuter hpart).equals_not_mem (by simp [isComparison])

theorem equals_mem_closeBracket {inner after : List Char}
    (h : closeBracket .square s = some (inner, after)) : '=' ∈ s ↔ '=' ∈ inner ∨ '=' ∈ after := by
  have hreached : Nesting.IsReached ⟨none, 1⟩ := by rintro quote ⟨⟩
  obtain ⟨closing, rfl, hclosing⟩ := closeFrom_eq_some hreached h
  have hne : '=' ≠ closing := by
    rintro rfl
    revert hclosing
    decide
  simp [hne]

end Crosswalk.Query
