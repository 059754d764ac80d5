import Mathlib.Data.List.Basic
import Crosswalk.Extraction.Render
import Crosswalk.Proofs.Table
import Crosswalk.Proofs.Text.Pieces

/-!
The scan that puts texts in for marks.

At a place where no mark stands the scan passes one character on. Where marks stand, the text of the
longest is put in and the scan goes on behind this mark, whatever was put in.
-/

namespace Crosswalk.Extraction

variable {marks : List (List Char × String)} {mark s : List Char} {fresh : String}

/-- The marks of a table with the texts that are put in for them. -/
def marksOf (t : Table String) : List (List Char × String) :=
  t.entries.map fun (mark, fresh) => (mark.toList, fresh)

theorem substitute_eq (t : Table String) (pattern : String) :
    substitute t pattern = String.ofList (substituteFrom (marksOf t) 0 pattern.toList) := rfl

theorem mem_marksOf {t : Table String} :
    (mark, fresh) ∈ marksOf t ↔ t.get? (String.ofList mark) = some fresh := by
  rw [marksOf, List.mem_map]
  constructor
  · rintro ⟨⟨key, value⟩, hentry, heq⟩
    obtain ⟨rfl, rfl⟩ := Prod.mk.inj heq
    rw [String.ofList_toList]
    exact t.get?_of_mem hentry
  · intro h
    exact ⟨_, Table.mem_of_get? h, by simp⟩

/-- The marks that stand at the front of a text. -/
def standing (marks : List (List Char × String)) (s : List Char) : List (List Char × String) :=
  marks.filter fun mark => !mark.1.isEmpty && Text.beginsWith mark.1 s

theorem longestMark?_eq_foldl : longestMark? marks s = (standing marks s).foldl longer none := rfl

theorem mem_standing {entry : List Char × String} :
    entry ∈ standing marks s ↔ entry ∈ marks ∧ entry.1 ≠ [] ∧ entry.1 <+: s := by
  simp [standing, List.mem_filter, Text.beginsWith_iff]

theorem longestMark?_eq_none (h : ∀ entry ∈ marks, entry.1 ≠ [] → ¬ entry.1 <+: s) :
    longestMark? marks s = none := by
  have hnone : standing marks s = [] := by
    rw [List.eq_nil_iff_forall_not_mem]
    intro entry hentry
    obtain ⟨hmem, hne, hbegins⟩ := mem_standing.mp hentry
    exact h entry hmem hne hbegins
  rw [longestMark?_eq_foldl, hnone]
  rfl

/-- Comparing marks one after the other keeps one of them than which none is longer. -/
theorem foldl_longer (best : List Char × String) (found : List (List Char × String)) :
    ∃ result ∈ best :: found, found.foldl longer (some best) = some result ∧
      ∀ entry ∈ best :: found, entry.1.length ≤ result.1.length := by
  induction found generalizing best with
  | nil => exact ⟨best, by simp, rfl, by simp⟩
  | cons entry rest ih =>
    by_cases hlonger : best.1.length < entry.1.length
    · obtain ⟨result, hmem, hfold, hall⟩ := ih entry
      have hstep : longer (some best) entry = some entry := if_pos hlonger
      refine ⟨result, List.mem_cons_of_mem best hmem, by rw [List.foldl_cons, hstep, hfold], ?_⟩
      have hentry := hall entry List.mem_cons_self
      exact List.forall_mem_cons.mpr ⟨by omega, hall⟩
    · obtain ⟨result, hmem, hfold, hall⟩ := ih best
      have hstep : longer (some best) entry = some best := if_neg hlonger
      obtain ⟨hbest, hrest⟩ := List.forall_mem_cons.mp hall
      refine ⟨result, ?_, by rw [List.foldl_cons, hstep, hfold], ?_⟩
      · rcases List.mem_cons.mp hmem with rfl | hmem
        · exact List.mem_cons_self
        · exact List.mem_cons_of_mem _ (List.mem_cons_of_mem _ hmem)
      · exact List.forall_mem_cons.mpr ⟨hbest, List.forall_mem_cons.mpr ⟨by omega, hrest⟩⟩

/-- The mark that is found where marks stand is one of them, and none of them is longer. -/
theorem exists_longestMark? (h : standing marks s ≠ []) :
    ∃ result ∈ standing marks s, longestMark? marks s = some result ∧
      ∀ entry ∈ standing marks s, entry.1.length ≤ result.1.length := by
  rw [longestMark?_eq_foldl]
  cases hfound : standing marks s with
  | nil => exact absurd hfound h
  | cons first rest => exact foldl_longer first rest

/-- A mark than which none that stands at the same place is longer is the one that is found. -/
theorem longestMark?_of_longest (hmem : (mark, fresh) ∈ marks) (hne : mark ≠ []) (hs : mark <+: s)
    (hfresh : ∀ other, (mark, other) ∈ marks → other = fresh)
    (hlongest : ∀ entry ∈ marks, entry.1 ≠ [] → entry.1 <+: s → entry.1.length ≤ mark.length) :
    longestMark? marks s = some (mark, fresh) := by
  have hstands := mem_standing.mpr ⟨hmem, hne, hs⟩
  obtain ⟨⟨other, text⟩, hresult, hfound, hall⟩ := exists_longestMark? (List.ne_nil_of_mem hstands)
  obtain ⟨hentry, hentry_ne, hbegins⟩ := mem_standing.mp hresult
  have hlength : other.length = mark.length :=
    Nat.le_antisymm (hlongest _ hentry hentry_ne hbegins) (hall _ hstands)
  -- of one text there is one beginning of a given length
  have hother : other = mark :=
    (List.prefix_of_prefix_length_le hbegins hs hlength.le).eq_of_length hlength
  subst hother
  rw [hfound, hfresh text hentry]

/-- Where one mark stands and no other one, it is the longest. -/
theorem longestMark?_eq_some (hmem : (mark, fresh) ∈ marks) (hne : mark ≠ []) (hs : mark <+: s)
    (honly : ∀ entry ∈ marks, entry.1 ≠ [] → entry.1 <+: s → entry = (mark, fresh)) :
    longestMark? marks s = some (mark, fresh) := by
  apply longestMark?_of_longest hmem hne hs
  · intro other hother
    exact (Prod.mk.inj (honly _ hother hne hs)).2
  · intro entry hentry hentry_ne hbegins
    rw [honly entry hentry hentry_ne hbegins]

theorem substituteFrom_skip (passed rest : List Char) :
    substituteFrom marks passed.length (passed ++ rest) = substituteFrom marks 0 rest := by
  induction passed with
  | nil => rfl
  | cons c tail ih => exact ih

/-- A mark is replaced by its text, and the scan goes on behind it. -/
theorem substituteFrom_mark {rest : List Char} (hne : mark ≠ [])
    (h : longestMark? marks (mark ++ rest) = some (mark, fresh)) :
    substituteFrom marks 0 (mark ++ rest) = fresh.toList ++ substituteFrom marks 0 rest := by
  cases mark with
  | nil => exact absurd rfl hne
  | cons c tail =>
    rw [List.cons_append] at h ⊢
    rw [substituteFrom, h]
    exact congrArg (fresh.toList ++ ·) (substituteFrom_skip tail rest)

/-- A text is passed on if no mark stands at any place of it. -/
theorem substituteFrom_pass {text rest : List Char}
    (h : ∀ front back, text = front ++ back → back ≠ [] →
      longestMark? marks (back ++ rest) = none) :
    substituteFrom marks 0 (text ++ rest) = text ++ substituteFrom marks 0 rest := by
  induction text with
  | nil => rfl
  | cons c tail ih =>
    have hnone := h [] (c :: tail) rfl (by simp)
    have htail := ih fun front back hsplit hback => h (c :: front) back (by simp [hsplit]) hback
    rw [List.cons_append] at hnone ⊢
    rw [substituteFrom, hnone]
    exact congrArg (c :: ·) htail

/-- A text where no mark begins is passed on. -/
theorem substituteFrom_append {text : List Char} (rest : List Char)
    (h : ∀ c ∈ text, ∀ entry ∈ marks, entry.1.head? ≠ some c) :
    substituteFrom marks 0 (text ++ rest) = text ++ substituteFrom marks 0 rest := by
  apply substituteFrom_pass
  intro front back hsplit hback
  obtain ⟨c, tail, rfl⟩ := List.exists_cons_of_ne_nil hback
  apply longestMark?_eq_none
  rintro entry hentry hne ⟨after, hafter⟩
  obtain ⟨d, more, hmark⟩ := List.exists_cons_of_ne_nil hne
  have hd : d = c := by
    rw [hmark] at hafter
    exact (List.cons.inj hafter).1
  exact h c (by simp [hsplit]) entry hentry (by rw [hmark, hd]; rfl)

end Crosswalk.Extraction
