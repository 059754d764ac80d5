import Mathlib.Data.List.Forall2
import Crosswalk.Proofs.Query.Equals
import Crosswalk.Proofs.Text.Brackets

/-!
Predicates and the brackets they stand in.

A query that was read has one predicate for each of the outermost square brackets of its text, in
the same order, and each predicate was read from what stands in its bracket. Outside of brackets
there are no equals signs, so a query has a comparison exactly if its text holds one. The readers
are followed from the inside out: what they drop are blanks, and what they split at stands outside.
-/

namespace Crosswalk.Query

open Text

/-- The predicates of a query, in the order in which they are written. -/
def predicates (q : Query) : List Predicate :=
  q.paths.flatMap fun path => path.steps.flatMap Step.predicates

/-- A text that leaves nothing open, and predicates that are read from what stands in its brackets.
Its equals signs are those of comparisons. -/
structure EnclosesPredicates (s : List Char) (ps : List Predicate) : Prop where
  closed : s.foldl (Nesting.step .square) .outside = .outside
  read : List.Forall₂ (fun inside p => Predicate.read? inside = some p) (insides .square s) ps
  equals : '=' ∈ s ↔ ps.any Predicate.isComparison = true

variable {s t : List Char} {ps qs : List Predicate}

theorem isPlain_of_isOuter (h : IsOuter s) : ∀ c ∈ s, Brackets.square.IsPlain c := by
  intro c hc
  have houter := h c hc
  simp only [predicateMarks, List.mem_cons, List.not_mem_nil, or_false, not_or] at houter
  constructor <;> simp [isQuote, Brackets.square, houter]

namespace EnclosesPredicates

theorem outer (h : IsOuter s) : EnclosesPredicates s [] := by
  have hplain := Encloses.plain (isPlain_of_isOuter h)
  refine ⟨hplain.closed, ?_, iff_of_false h.equals_not_mem (by simp)⟩
  rw [hplain.insides_eq]
  exact .nil

theorem append (h : EnclosesPredicates s ps) (h' : EnclosesPredicates t qs) :
    EnclosesPredicates (s ++ t) (ps ++ qs) := by
  have hboth := Encloses.append ⟨h.closed, rfl⟩ ⟨h'.closed, rfl⟩
  refine ⟨hboth.closed, ?_, ?_⟩
  · rw [hboth.insides_eq]
    exact List.rel_append h.read h'.read
  · rw [List.mem_append, List.any_append, Bool.or_eq_true, h.equals, h'.equals]

/-- Blanks around a text change nothing. -/
theorem of_trim (h : EnclosesPredicates (trim s) ps) : EnclosesPredicates s ps := by
  obtain ⟨before, after, hbefore, hafter, heq⟩ := exists_blanks s
  have hfront := outer (isOuter_of_isAllBlank hbefore)
  have hback := outer (isOuter_of_isAllBlank hafter)
  have hall := (hfront.append h).append hback
  rw [List.nil_append, List.append_nil] at hall
  rw [heq]
  exact hall

theorem of_trimStart (h : EnclosesPredicates (trimStart s) ps) : EnclosesPredicates s ps := by
  have hblank : isAllBlank (s.takeWhile isBlank) = true :=
    List.all_eq_true.mpr fun c hc => List.mem_takeWhile_imp hc
  have hall := (outer (isOuter_of_isAllBlank hblank)).append h
  rw [trimStart, List.takeWhile_append_dropWhile] at hall
  exact hall

/-- What stands in a bracket in front is read first. -/
theorem bracket {inside after : List Char} {p : Predicate}
    (hclose : closeBracket .square s = some (inside, after)) (hread : Predicate.read? inside = some p)
    (h : EnclosesPredicates after ps) : EnclosesPredicates ('[' :: s) (p :: ps) := by
  have hall := Encloses.bracket rfl List.mem_cons_self hclose ⟨h.closed, rfl⟩
  refine ⟨hall.closed, ?_, ?_⟩
  · rw [hall.insides_eq]
    exact .cons hread h.read
  · have hopening : '=' ≠ '[' := by decide
    rw [List.mem_cons, or_iff_right hopening, equals_mem_closeBracket hclose, List.any_cons,
      Bool.or_eq_true, Predicate.equals_mem_iff hread, h.equals]

/-- Parts that are joined outside of brackets are read by themselves. -/
theorem join {α : Type} {mark : Char} (hmark : IsOuter [mark]) {f : α → List Predicate}
    {parts : List (List Char)} {xs : List α}
    (h : List.Forall₂ (fun part x => EnclosesPredicates part (f x)) parts xs) :
    EnclosesPredicates (Text.join [mark] parts) (xs.flatMap f) := by
  induction h with
  | nil => exact outer (by intro c hc; cases hc)
  | @cons part x parts xs hpart hrest ih =>
    cases hrest with
    | nil => simpa [Text.join] using hpart
    | cons hnext hmore => simpa [Text.join] using (hpart.append (outer hmark)).append ih

end EnclosesPredicates

theorem enclosesPredicates_of_readPredicatesFrom? {fuel : Nat}
    (h : readPredicatesFrom? fuel s = some ps) : EnclosesPredicates s ps := by
  fun_induction readPredicatesFrom? fuel s generalizing ps with
  | case1 =>
    cases h
    exact .outer (by intro c hc; cases hc)
  | case2 => cases h
  | case3 fuel rest ih =>
    obtain ⟨⟨inside, after⟩, hclose, hrest⟩ := Option.bind_eq_some_iff.mp h
    obtain ⟨p, hp, hmore⟩ := Option.bind_eq_some_iff.mp hrest
    obtain ⟨more, hread, heq⟩ := Option.bind_eq_some_iff.mp hmore
    cases heq
    exact .bracket hclose hp (ih after hread).of_trimStart
  | case4 => cases h

theorem Step.enclosesPredicates {step : Step} (h : read? s = some step) :
    EnclosesPredicates s step.predicates := by
  have hparts : ∀ {head predicates : List Char},
      ((readHead? (trim head)).bind fun found =>
        (readPredicates? predicates).map fun read => (⟨found.1, found.2, read⟩ : Step)) =
          some step →
      EnclosesPredicates (head ++ predicates) step.predicates := by
    intro head predicates hread
    obtain ⟨found, hhead, hrest⟩ := Option.bind_eq_some_iff.mp hread
    obtain ⟨read, hpredicates, rfl⟩ := Option.map_eq_some_iff.mp hrest
    have hfront := EnclosesPredicates.outer (isOuter_of_readHead? hhead).of_trim
    have hback := (enclosesPredicates_of_readPredicatesFrom? hpredicates).of_trim
    exact hfront.append hback
  cases hcut : cutOutside .none '[' s with
  | none =>
    simp only [read?, hcut] at h
    simpa using hparts h
  | some cut =>
    obtain ⟨head, rest⟩ := cut
    simp only [read?, hcut] at h
    rw [cutFrom_eq_some hcut]
    exact hparts h

/-- A blank part between slashes holds no bracket and stands for a step without predicates. -/
theorem enclosesPredicates_of_readSteps? {parts : List (List Char)} {steps : List Step}
    (h : readSteps? parts = some steps) :
    List.Forall₂ (fun part step => EnclosesPredicates part step.predicates) parts steps := by
  induction parts generalizing steps with
  | nil =>
    cases h
    exact .nil
  | cons part rest ih =>
    rw [readSteps?] at h
    split at h
    · rename_i hempty
      split at h
      · cases h
      · obtain ⟨step, hstep, hrest⟩ := Option.bind_eq_some_iff.mp h
        obtain ⟨more, hmore, heq⟩ := Option.bind_eq_some_iff.mp hrest
        cases hstep
        cases heq
        have hblank := trim_eq_nil_iff.mp (List.isEmpty_iff.mp hempty)
        exact .cons (.outer (isOuter_of_isAllBlank hblank)) (ih hmore)
    · obtain ⟨step, hstep, hrest⟩ := Option.bind_eq_some_iff.mp h
      obtain ⟨more, hmore, heq⟩ := Option.bind_eq_some_iff.mp hrest
      cases heq
      exact .cons (Step.enclosesPredicates hstep).of_trim (ih hmore)

theorem Path.enclosesPredicates {path : Path} (h : read? s = some path) :
    EnclosesPredicates s (path.steps.flatMap Step.predicates) := by
  have hsteps : ∀ {text : List Char} {isAbsolute : Bool},
      ((readSteps? (splitOutside .roundAndSquare '/' text)).map fun steps =>
        (⟨isAbsolute, steps⟩ : Path)) = some path →
      EnclosesPredicates text (path.steps.flatMap Step.predicates) := by
    intro text isAbsolute hread
    obtain ⟨steps, hsteps, rfl⟩ := Option.map_eq_some_iff.mp hread
    have hmark : IsOuter ['/'] := by decide
    have hjoin := EnclosesPredicates.join hmark (enclosesPredicates_of_readSteps? hsteps)
    rw [splitOutside, join_splitFrom] at hjoin
    exact hjoin
  have hslash : EnclosesPredicates ['/'] [] := .outer (by decide)
  apply EnclosesPredicates.of_trim
  rw [read?] at h
  split at h
  · cases h
  · rename_i rest htrim
    rw [htrim]
    split at h
    · rename_i hempty
      cases h
      rw [List.isEmpty_iff.mp hempty]
      exact hslash
    · exact hslash.append (hsteps h)
  · exact hsteps h

theorem forall₂_of_mapM {α β : Type} {f : α → Option β} {xs : List α} {ys : List β}
    (h : xs.mapM f = some ys) : List.Forall₂ (fun x y => f x = some y) xs ys := by
  induction xs generalizing ys with
  | nil =>
    cases h
    exact .nil
  | cons x rest ih =>
    rw [List.mapM_cons] at h
    obtain ⟨y, hy, hrest⟩ := Option.bind_eq_some_iff.mp h
    obtain ⟨more, hmore, heq⟩ := Option.bind_eq_some_iff.mp hrest
    cases heq
    exact .cons hy (ih hmore)

theorem exists_of_mem_left {α β : Type} {R : α → β → Prop} {xs : List α} {ys : List β}
    (h : List.Forall₂ R xs ys) {x : α} (hx : x ∈ xs) : ∃ y ∈ ys, R x y := by
  induction h with
  | nil => cases hx
  | @cons a b xs ys hab _ ih =>
    rcases List.mem_cons.mp hx with rfl | hx
    · exact ⟨b, List.mem_cons_self, hab⟩
    · obtain ⟨y, hy, hR⟩ := ih hx
      exact ⟨y, List.mem_cons_of_mem b hy, hR⟩

/-- The predicates of a query are read from what stands in the brackets of its text. -/
theorem enclosesPredicates {q : Query} (h : read? s = some q) :
    EnclosesPredicates s q.predicates := by
  obtain ⟨paths, hpaths, rfl⟩ := Option.map_eq_some_iff.mp h
  have hmark : IsOuter ['|'] := by decide
  have hjoin := EnclosesPredicates.join hmark
    ((forall₂_of_mapM hpaths).imp fun _ _ => Path.enclosesPredicates)
  rw [splitOutside, join_splitFrom] at hjoin
  exact hjoin

/-- A query that was read has a comparison exactly if its text holds an equals sign. -/
theorem equals_mem_iff {q : Query} (h : read? s = some q) :
    '=' ∈ s ↔ q.hasComparison = true := by
  have hany : q.hasComparison = q.predicates.any Predicate.isComparison := by
    simp only [hasComparison, predicates, List.any_flatMap]
    rfl
  rw [hany]
  exact (enclosesPredicates h).equals

end Crosswalk.Query
