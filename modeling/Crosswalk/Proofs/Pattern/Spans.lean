import Mathlib.Data.Finset.Card
import Mathlib.Data.Finset.Range
import Crosswalk.Pattern.Search

/-!
What an expression matches.

An expression stands for the pairs of places between which it matches, said by recursion on the
expression. The search finds from some places exactly those that the expression leads to. Repeated
turns are followed until nothing new is reached, and that is the case after as many turns as the
text has places.
-/

namespace Crosswalk.Pattern

/-- Whether so many steps of a relation lead from one place to another. -/
def Turns (step : Nat → Nat → Prop) : Nat → Nat → Nat → Prop
  | 0, i, j => i = j
  | n + 1, i, j => ∃ k, step i k ∧ Turns step n k j

/-- Whether an expression matches what stands between two places of a text. -/
def Spans (text : Array Char) : Pattern → Nat → Nat → Prop
  | .empty, i, j => i = j
  | .one set, i, j => j = i + 1 ∧ ∃ c, text[i]? = some c ∧ set.contains c = true
  | .assertion a, i, j => i = j ∧ a.holds (charBefore? text i) text[i]? = true
  | .seq p q, i, j => ∃ k, Spans text p i k ∧ Spans text q k j
  | .either p q, i, j => Spans text p i j ∨ Spans text q i j
  | .repeated least most p, i, j =>
    ∃ more, (∀ bound, most = some bound → more ≤ bound - least) ∧
      Turns (Spans text p) (least + more) i j

/-- Whether an expression matches a text from its first to its last character. -/
def MatchesAll (p : Pattern) (text : String) : Prop :=
  Spans text.toList.toArray p 0 text.toList.length

section Turns

variable {step : Nat → Nat → Prop} {size : Nat}

theorem turns_add {m n i j : Nat} :
    Turns step (m + n) i j ↔ ∃ k, Turns step m i k ∧ Turns step n k j := by
  induction m generalizing i with
  | zero => simp [Turns]
  | succ m ih =>
    rw [Nat.add_right_comm]
    simp only [Turns, ih]
    constructor
    · rintro ⟨a, ha, b, hb, hj⟩
      exact ⟨b, ⟨a, ha, hb⟩, hj⟩
    · rintro ⟨b, ⟨a, ha, hb⟩, hj⟩
      exact ⟨a, ha, b, hb, hj⟩

theorem turns_one {i j : Nat} : Turns step 1 i j ↔ step i j := by
  simp [Turns]

theorem turns_le (hstep : ∀ i j, step i j → i ≤ size → j ≤ size) {n i j : Nat}
    (h : Turns step n i j) (hi : i ≤ size) : j ≤ size := by
  induction n generalizing i with
  | zero => exact h ▸ hi
  | succ n ih =>
    obtain ⟨k, hik, hkj⟩ := h
    exact ih hkj (hstep i k hik hi)

end Turns

theorem spans_le {text : Array Char} {p : Pattern} {i j : Nat} (h : Spans text p i j)
    (hi : i ≤ text.size) : j ≤ text.size := by
  induction p generalizing i j with
  | empty => exact h ▸ hi
  | one set =>
    obtain ⟨rfl, c, hc, -⟩ := h
    exact (Array.getElem?_eq_some_iff.mp hc).1
  | assertion a => exact h.1 ▸ hi
  | seq p q ihp ihq =>
    obtain ⟨k, hp, hq⟩ := h
    exact ihq hq (ihp hp hi)
  | either p q ihp ihq => exact h.elim (fun h => ihp h hi) (fun h => ihq h hi)
  | repeated least most p ih =>
    obtain ⟨more, -, hturns⟩ := h
    exact turns_le (fun i j => ih) hturns hi

theorem mem_addPlaces {places more : List Nat} {j : Nat} :
    j ∈ addPlaces places more ↔ j ∈ places ∨ j ∈ more := by
  rw [addPlaces]
  induction more generalizing places with
  | nil => simp
  | cons place rest ih =>
    rw [List.foldl_cons, ih]
    split
    · rename_i hcontains
      have hmem : place ∈ places := by simpa using hcontains
      constructor
      · exact fun h => h.imp_right (List.mem_cons_of_mem place)
      · rintro (h | h)
        · exact Or.inl h
        · rcases List.mem_cons.mp h with rfl | h
          · exact Or.inl hmem
          · exact Or.inr h
    · simp [or_assoc]

/-- A function on lists of places takes those of a text to the places that a relation leads to, and
these are places of the text. -/
structure Follows (size : Nat) (step : Nat → Nat → Prop) (next : List Nat → List Nat) : Prop where
  mem : ∀ places, (∀ i ∈ places, i ≤ size) → ∀ j, j ∈ next places ↔ ∃ i ∈ places, step i j
  le : ∀ i j, step i j → i ≤ size → j ≤ size

namespace Follows

variable {size : Nat} {step : Nat → Nat → Prop} {next : List Nat → List Nat}

theorem le_of_mem (hnext : Follows size step next) {places : List Nat}
    (hplaces : ∀ i ∈ places, i ≤ size) : ∀ j ∈ next places, j ≤ size := by
  intro j hj
  obtain ⟨i, hi, hij⟩ := (hnext.mem places hplaces j).mp hj
  exact hnext.le i j hij (hplaces i hi)

/-- Places that one step only takes to each other are not left in any number of steps. -/
theorem mem_iff_of_fixed {places : List Nat} (h : ∀ j, j ∈ places ↔ ∃ i ∈ places, step i j)
    (n j : Nat) : j ∈ places ↔ ∃ i ∈ places, Turns step n i j := by
  induction n generalizing j with
  | zero => simp [Turns]
  | succ n ih =>
    constructor
    · intro hj
      obtain ⟨k, hk, hkj⟩ := (ih j).mp hj
      obtain ⟨i, hi, hik⟩ := (h k).mp hk
      exact ⟨i, hi, k, hik, hkj⟩
    · rintro ⟨i, hi, k, hik, hkj⟩
      exact (ih j).mpr ⟨k, (h k).mpr ⟨i, hi, hik⟩, hkj⟩

theorem mem_iterate (hnext : Follows size step next) {n : Nat} {places : List Nat}
    (hplaces : ∀ i ∈ places, i ≤ size) {j : Nat} :
    j ∈ iterate next n places ↔ ∃ i ∈ places, Turns step n i j := by
  induction n generalizing places with
  | zero => simp [iterate, Turns]
  | succ n ih =>
    rw [iterate]
    split
    · rename_i hsame
      have hfixed := hnext.mem places hplaces
      rw [eq_of_beq hsame] at hfixed
      exact mem_iff_of_fixed hfixed (n + 1) j
    · rw [ih (hnext.le_of_mem hplaces)]
      constructor
      · rintro ⟨k, hk, hkj⟩
        obtain ⟨i, hi, hik⟩ := (hnext.mem places hplaces k).mp hk
        exact ⟨i, hi, k, hik, hkj⟩
      · rintro ⟨i, hi, k, hik, hkj⟩
        exact ⟨k, (hnext.mem places hplaces k).mpr ⟨i, hi, hik⟩, hkj⟩

/-- Some places of a text of which all that is not among the fresh ones has been followed. -/
structure IsFrontier (size : Nat) (step : Nat → Nat → Prop) (places fresh : List Nat) : Prop where
  le : ∀ i ∈ places, i ≤ size
  subset : ∀ i ∈ fresh, i ∈ places
  followed : ∀ i ∈ places, ∀ j, step i j → j ∈ places ∨ i ∈ fresh

variable {places fresh : List Nat}

theorem isFrontier_self (hplaces : ∀ i ∈ places, i ≤ size) :
    IsFrontier size step places places :=
  ⟨hplaces, fun _ hi => hi, fun _ hi _ _ => Or.inr hi⟩

/-- A way that begins among the places ends there, or it goes on from a fresh one. -/
theorem IsFrontier.turns (h : IsFrontier size step places fresh) {n i j : Nat} (hi : i ∈ places)
    (hturns : Turns step n i j) : j ∈ places ∨ ∃ m ≤ n, ∃ k ∈ fresh, Turns step m k j := by
  induction n generalizing i with
  | zero => exact Or.inl (hturns ▸ hi)
  | succ n ih =>
    obtain ⟨k, hik, hkj⟩ := hturns
    rcases h.followed i hi k hik with hk | hfresh
    · rcases ih hk hkj with hj | ⟨m, hm, l, hl, hlj⟩
      · exact Or.inl hj
      · exact Or.inr ⟨m, Nat.le_succ_of_le hm, l, hl, hlj⟩
    · exact Or.inr ⟨n + 1, Nat.le_refl _, i, hfresh, k, hik, hkj⟩

/-- The places that are reached from the fresh ones and not there yet. -/
def newPlaces (next : List Nat → List Nat) (places fresh : List Nat) : List Nat :=
  (next fresh).filter fun place => !places.contains place

theorem IsFrontier.mem_newPlaces (h : IsFrontier size step places fresh)
    (hnext : Follows size step next) {j : Nat} :
    j ∈ newPlaces next places fresh ↔ (∃ i ∈ fresh, step i j) ∧ j ∉ places := by
  rw [newPlaces, List.mem_filter, hnext.mem fresh fun i hi => h.le i (h.subset i hi)]
  simp

theorem IsFrontier.grow (h : IsFrontier size step places fresh) (hnext : Follows size step next) :
    IsFrontier size step (places ++ newPlaces next places fresh)
      (newPlaces next places fresh) := by
  refine ⟨fun i hi => ?_, fun i hi => List.mem_append_right _ hi, fun i hi j hij => ?_⟩
  · rcases List.mem_append.mp hi with hi | hi
    · exact h.le i hi
    · obtain ⟨⟨k, hk, hki⟩, -⟩ := (h.mem_newPlaces hnext).mp hi
      exact hnext.le k i hki (h.le k (h.subset k hk))
  · rcases List.mem_append.mp hi with hi | hi
    · rcases h.followed i hi j hij with hj | hfresh
      · exact Or.inl (List.mem_append_left _ hj)
      · by_cases hj : j ∈ places
        · exact Or.inl (List.mem_append_left _ hj)
        · exact Or.inl (List.mem_append_right _ ((h.mem_newPlaces hnext).mpr ⟨⟨i, hfresh, hij⟩, hj⟩))
    · exact Or.inr hi

/-- Where nothing new is reached, no way leads out. -/
theorem IsFrontier.closed (h : IsFrontier size step places fresh) (hnext : Follows size step next)
    (hnone : newPlaces next places fresh = []) {n i j : Nat} (hi : i ∈ places)
    (hturns : Turns step n i j) : j ∈ places := by
  have hgrown := h.grow hnext
  rw [hnone, List.append_nil] at hgrown
  rcases hgrown.turns hi hturns with hj | ⟨m, -, k, hk, -⟩
  · exact hj
  · cases hk

theorem reach_succ (n : Nat) :
    reach next (n + 1) places fresh = if newPlaces next places fresh = [] then places
      else reach next n (places ++ newPlaces next places fresh) (newPlaces next places fresh) := by
  rw [reach, ← newPlaces]
  cases newPlaces next places fresh with
  | nil => rfl
  | cons place rest => rfl

/-- In some turns those places are reached to which as many steps lead, or fewer. -/
theorem IsFrontier.mem_reach (h : IsFrontier size step places fresh)
    (hnext : Follows size step next) {n j : Nat} :
    j ∈ reach next n places fresh ↔ j ∈ places ∨ ∃ m ≤ n, ∃ i ∈ fresh, Turns step m i j := by
  induction n generalizing places fresh with
  | zero =>
    rw [reach]
    refine ⟨Or.inl, fun hj => hj.elim id ?_⟩
    rintro ⟨m, hm, i, hi, hij⟩
    obtain rfl := Nat.le_zero.mp hm
    exact hij ▸ h.subset i hi
  | succ n ih =>
    rw [reach_succ]
    split
    · rename_i hnone
      refine ⟨Or.inl, fun hj => hj.elim id ?_⟩
      rintro ⟨m, -, i, hi, hij⟩
      exact h.closed hnext hnone (h.subset i hi) hij
    · rw [ih (h.grow hnext)]
      constructor
      · rintro (hj | ⟨m, hm, k, hk, hkj⟩)
        · rcases List.mem_append.mp hj with hj | hj
          · exact Or.inl hj
          · obtain ⟨⟨i, hi, hij⟩, -⟩ := (h.mem_newPlaces hnext).mp hj
            exact Or.inr ⟨1, Nat.le_add_left 1 n, i, hi, turns_one.mpr hij⟩
        · obtain ⟨⟨i, hi, hik⟩, -⟩ := (h.mem_newPlaces hnext).mp hk
          exact Or.inr ⟨m + 1, Nat.succ_le_succ hm, i, hi, k, hik, hkj⟩
      · rintro (hj | ⟨m, hm, i, hi, hij⟩)
        · exact Or.inl (List.mem_append_left _ hj)
        · cases m with
          | zero => exact Or.inl (List.mem_append_left _ (hij ▸ h.subset i hi))
          | succ m =>
            obtain ⟨k, hik, hkj⟩ := hij
            have hk : k ∈ places ++ newPlaces next places fresh := by
              by_cases hk : k ∈ places
              · exact List.mem_append_left _ hk
              · exact List.mem_append_right _ ((h.mem_newPlaces hnext).mpr ⟨⟨i, hi, hik⟩, hk⟩)
            rcases (h.grow hnext).turns hk hkj with hj | ⟨l, hl, f, hf, hfj⟩
            · exact Or.inl hj
            · exact Or.inr ⟨l, hl.trans (Nat.le_of_succ_le_succ hm), f, hf, hfj⟩

/-- The places of a text that are not reached yet. -/
def unreached (size : Nat) (places : List Nat) : Finset Nat :=
  (Finset.range (size + 1)).filter (· ∉ places)

/-- Every turn reaches a new place or is the last, so as many turns as there are places left reach
all that any number of steps leads to. -/
theorem IsFrontier.mem_reach_of_card (h : IsFrontier size step places fresh)
    (hnext : Follows size step next) {n m i j : Nat} (hcard : (unreached size places).card ≤ n)
    (hi : i ∈ fresh) (hturns : Turns step m i j) : j ∈ reach next n places fresh := by
  induction n generalizing places fresh m i with
  | zero =>
    have hle : j ≤ size := turns_le hnext.le hturns (h.le i (h.subset i hi))
    have hempty := Finset.card_eq_zero.mp (Nat.le_zero.mp hcard)
    have hj : j ∉ unreached size places := by rw [hempty]; exact Finset.notMem_empty j
    rw [reach]
    by_contra hplaces
    exact hj (Finset.mem_filter.mpr ⟨Finset.mem_range.mpr (Nat.lt_succ_of_le hle), hplaces⟩)
  | succ n ih =>
    rw [reach_succ]
    split
    · rename_i hnone
      exact h.closed hnext hnone (h.subset i hi) hturns
    · rename_i hsome
      have hgrown := h.grow hnext
      have hfewer : (unreached size (places ++ newPlaces next places fresh)).card ≤ n := by
        obtain ⟨k, hk⟩ := List.exists_mem_of_ne_nil _ hsome
        have hnew := ((h.mem_newPlaces hnext).mp hk).2
        have hlt := Finset.card_lt_card (s := unreached size (places ++ newPlaces next places fresh))
          (t := unreached size places) ?_
        · omega
        · refine Finset.ssubset_iff_of_subset ?_ |>.mpr ⟨k, ?_, ?_⟩
          · intro l hl
            obtain ⟨hrange, hl⟩ := Finset.mem_filter.mp hl
            exact Finset.mem_filter.mpr
              ⟨hrange, fun hmem => hl (List.mem_append_left _ hmem)⟩
          · have hle := hgrown.le k (hgrown.subset k hk)
            exact Finset.mem_filter.mpr ⟨Finset.mem_range.mpr (Nat.lt_succ_of_le hle), hnew⟩
          · intro hl
            exact (Finset.mem_filter.mp hl).2 (hgrown.subset k hk)
      rcases hgrown.turns (List.mem_append_left _ (h.subset i hi)) hturns with
        hj | ⟨l, -, f, hf, hfj⟩
      · exact (hgrown.mem_reach hnext).mpr (Or.inl hj)
      · exact ih hgrown hfewer hf hfj

end Follows

open Follows

/-- Repeating an expression leads where a permitted number of turns leads. -/
theorem mem_repeated {size : Nat} {step : Nat → Nat → Prop} {next : List Nat → List Nat}
    (hnext : Follows size step next) {places : List Nat} (hplaces : ∀ i ∈ places, i ≤ size)
    (least : Nat) (most : Option Nat) {j : Nat} :
    j ∈ reach next (match most with | some most => most - least | none => size + 1)
        (iterate next least places) (iterate next least places) ↔
      ∃ i ∈ places, ∃ more, (∀ bound, most = some bound → more ≤ bound - least) ∧
        Turns step (least + more) i j := by
  have hstart : ∀ i ∈ iterate next least places, i ≤ size := by
    intro i hi
    obtain ⟨k, hk, hki⟩ := (hnext.mem_iterate hplaces).mp hi
    exact turns_le hnext.le hki (hplaces k hk)
  have hfrontier : IsFrontier size step _ _ := isFrontier_self hstart
  -- as many turns as are followed lead from the start wherever a permitted number of turns leads
  have hreach : j ∈ reach next (match most with | some most => most - least | none => size + 1)
        (iterate next least places) (iterate next least places) ↔
      ∃ more, (∀ bound, most = some bound → more ≤ bound - least) ∧
        ∃ k ∈ iterate next least places, Turns step more k j := by
    cases most with
    | some bound =>
      rw [hfrontier.mem_reach hnext]
      constructor
      · rintro (hj | ⟨more, hmore, k, hk, hkj⟩)
        · exact ⟨0, fun _ _ => Nat.zero_le _, j, hj, rfl⟩
        · exact ⟨more, fun _ h => Option.some.inj h ▸ hmore, k, hk, hkj⟩
      · rintro ⟨more, hmore, k, hk, hkj⟩
        exact Or.inr ⟨more, hmore bound rfl, k, hk, hkj⟩
    | none =>
      constructor
      · intro hj
        rcases (hfrontier.mem_reach hnext).mp hj with hj | ⟨more, -, k, hk, hkj⟩
        · exact ⟨0, by simp, j, hj, rfl⟩
        · exact ⟨more, by simp, k, hk, hkj⟩
      · rintro ⟨more, -, k, hk, hkj⟩
        have hcard : (unreached size (iterate next least places)).card ≤ size + 1 := by
          have hle := Finset.card_filter_le (Finset.range (size + 1))
            (· ∉ iterate next least places)
          rwa [Finset.card_range] at hle
        exact hfrontier.mem_reach_of_card hnext hcard hk hkj
  rw [hreach]
  constructor
  · rintro ⟨more, hmore, k, hk, hkj⟩
    obtain ⟨i, hi, hik⟩ := (hnext.mem_iterate hplaces).mp hk
    exact ⟨i, hi, more, hmore, turns_add.mpr ⟨k, hik, hkj⟩⟩
  · rintro ⟨i, hi, more, hmore, hij⟩
    obtain ⟨k, hik, hkj⟩ := turns_add.mp hij
    exact ⟨more, hmore, k, (hnext.mem_iterate hplaces).mpr ⟨i, hi, hik⟩, hkj⟩

/-- The search leads from some places of a text to those up to which the expression matches from one
of them. -/
theorem mem_ends {text : Array Char} {p : Pattern} {places : List Nat}
    (hplaces : ∀ i ∈ places, i ≤ text.size) {j : Nat} :
    j ∈ ends text p places ↔ ∃ i ∈ places, Spans text p i j := by
  induction p generalizing places j with
  | empty => simp [ends, Spans]
  | one set =>
    rw [ends, List.mem_filterMap]
    refine exists_congr fun i => and_congr_right fun _ => ?_
    rw [Spans]
    cases text[i]? with
    | none => simp
    | some c => simp [and_comm, eq_comm (a := j)]
  | assertion a =>
    rw [ends, List.mem_filter]
    constructor
    · rintro ⟨hj, hholds⟩
      exact ⟨j, hj, rfl, hholds⟩
    · rintro ⟨i, hi, rfl, hholds⟩
      exact ⟨hi, hholds⟩
  | seq p q ihp ihq =>
    have hmiddle : ∀ k ∈ ends text p places, k ≤ text.size := by
      intro k hk
      obtain ⟨i, hi, hik⟩ := (ihp hplaces).mp hk
      exact spans_le hik (hplaces i hi)
    rw [ends, ihq hmiddle]
    constructor
    · rintro ⟨k, hk, hkj⟩
      obtain ⟨i, hi, hik⟩ := (ihp hplaces).mp hk
      exact ⟨i, hi, k, hik, hkj⟩
    · rintro ⟨i, hi, k, hik, hkj⟩
      exact ⟨k, (ihp hplaces).mpr ⟨i, hi, hik⟩, hkj⟩
  | either p q ihp ihq =>
    rw [ends, mem_addPlaces, ihp hplaces, ihq hplaces]
    simp only [Spans, and_or_left, exists_or]
  | repeated least most p ih =>
    have hnext : Follows text.size (Spans text p) (ends text p) :=
      ⟨fun places hplaces j => ih hplaces, fun i j h hi => spans_le h hi⟩
    exact mem_repeated hnext hplaces least most

theorem isFoundIn_iff {p : Pattern} {text : String} :
    p.isFoundIn text = true ↔
      ∃ i j, i ≤ text.toList.length ∧ Spans text.toList.toArray p i j := by
  have hplaces : ∀ i ∈ List.range (text.toList.toArray.size + 1),
      i ≤ text.toList.toArray.size := by
    intro i hi
    exact Nat.lt_succ_iff.mp (List.mem_range.mp hi)
  rw [isFoundIn, Bool.not_eq_true', List.isEmpty_eq_false_iff_exists_mem]
  constructor
  · rintro ⟨j, hj⟩
    obtain ⟨i, hi, hij⟩ := (mem_ends hplaces).mp hj
    exact ⟨i, j, hplaces i hi, hij⟩
  · rintro ⟨i, j, hi, hij⟩
    exact ⟨j, (mem_ends hplaces).mpr ⟨i, List.mem_range.mpr (Nat.lt_succ_of_le hi), hij⟩⟩

/-- An expression between the start and the end of a text. -/
def anchored (p : Pattern) : Pattern :=
  .seq (.assertion .textStart) (.seq p (.assertion .textEnd))

/-- Between the start and the end of a text an expression is found exactly in the texts that it
matches from their first to their last character. -/
theorem isFoundIn_anchored {p : Pattern} {text : String} :
    p.anchored.isFoundIn text = true ↔ p.MatchesAll text := by
  rw [isFoundIn_iff, MatchesAll]
  constructor
  · rintro ⟨i, j, hi, k, ⟨rfl, hstart⟩, l, hp, rfl, hend⟩
    have hzero : i = 0 := by
      by_contra hpos
      have hbefore : charBefore? text.toList.toArray i = some text.toList[i - 1] := by
        rw [charBefore?, if_neg hpos]
        exact List.getElem?_toArray .. ▸ List.getElem?_eq_getElem (by omega)
      rw [Assertion.holds, hbefore] at hstart
      cases hstart
    have hle : l ≤ text.toList.length := spans_le hp hi
    have hlast : l = text.toList.length := by
      by_contra hdiffer
      have hlt : l < text.toList.length := by omega
      have hafter : text.toList.toArray[l]? = some text.toList[l] :=
        List.getElem?_toArray .. ▸ List.getElem?_eq_getElem hlt
      rw [Assertion.holds, hafter] at hend
      cases hend
    rwa [hzero, hlast] at hp
  · intro hp
    refine ⟨0, text.toList.length, Nat.zero_le _, 0, ⟨rfl, rfl⟩, _, hp, rfl, ?_⟩
    simp [Assertion.holds]

instance (p : Pattern) (text : String) : Decidable (p.MatchesAll text) :=
  decidable_of_iff _ isFoundIn_anchored

end Crosswalk.Pattern
