import Mathlib.Data.List.Basic
import Mathlib.Data.List.Induction
import Mathlib.Data.List.TakeWhile
import Crosswalk.Text.Basic

/-!
Trimmed texts.

A text is trimmed when no blank stands at either end. Trimming gives such a text and leaves one as
it is, so whatever a reader has trimmed can be written and trimmed again without loss.
-/

namespace Crosswalk.Text

/-- No blank stands at either end. -/
structure IsTrimmed (s : List Char) : Prop where
  first : ∀ c, s.head? = some c → isBlank c = false
  last : ∀ c, s.getLast? = some c → isBlank c = false

/-- A text that trimming keeps, on one line. -/
structure IsTitle (s : List Char) : Prop where
  ne_nil : s ≠ []
  trimmed : IsTrimmed s
  oneLine : '\n' ∉ s

theorem trimStart_eq_self {s : List Char} (h : ∀ c, s.head? = some c → isBlank c = false) :
    trimStart s = s := by
  cases s with
  | nil => rfl
  | cons c rest => simp [trimStart, h c rfl]

theorem trimStart_append {before s : List Char} (hbefore : isAllBlank before = true)
    (h : ∀ c, s.head? = some c → isBlank c = false) : trimStart (before ++ s) = s := by
  rw [isAllBlank, List.all_eq_true] at hbefore
  rw [trimStart, List.dropWhile_append_of_pos hbefore]
  exact trimStart_eq_self h

theorem trimEnd_eq_self {s : List Char} (h : ∀ c, s.getLast? = some c → isBlank c = false) :
    trimEnd s = s := by
  have hreverse : trimStart s.reverse = s.reverse := by
    apply trimStart_eq_self
    simpa using h
  have hback := congrArg List.reverse hreverse
  rw [List.reverse_reverse] at hback
  exact hback

theorem IsTrimmed.trim_eq {s : List Char} (h : IsTrimmed s) : trim s = s := by
  rw [trim, trimStart_eq_self h.first, trimEnd_eq_self h.last]

theorem isTrimmed_of_forall {s : List Char} (h : ∀ c ∈ s, isBlank c = false) : IsTrimmed s :=
  ⟨fun c hc => h c (List.mem_of_head? hc), fun c hc => h c (List.mem_of_getLast? hc)⟩

theorem trimEnd_isPrefix (s : List Char) : trimEnd s <+: s := by
  have hsuffix : s.reverse.dropWhile isBlank <:+ s.reverse := List.dropWhile_suffix _
  simpa [trimEnd] using List.reverse_prefix.mpr hsuffix

theorem head_trimStart (s : List Char) :
    ∀ c, (trimStart s).head? = some c → isBlank c = false := by
  intro c hc
  have hhead := List.head?_dropWhile_not isBlank s
  rw [trimStart] at hc
  rw [hc] at hhead
  simpa using hhead

theorem isTrimmed_trim (s : List Char) : IsTrimmed (trim s) := by
  constructor
  · intro c hc
    obtain ⟨rest, hrest⟩ := List.head?_eq_some_iff.mp hc
    obtain ⟨back, hback⟩ := trimEnd_isPrefix (trimStart s)
    apply head_trimStart s c
    rw [← hback, show trimEnd (trimStart s) = c :: rest from hrest]
    rfl
  · intro c hc
    apply head_trimStart (trimStart s).reverse c
    rw [trim, trimEnd, List.getLast?_reverse] at hc
    exact hc

/-- A text is trimmed when trimming leaves it as it is. -/
theorem isTrimmed_iff {s : List Char} : IsTrimmed s ↔ trim s = s :=
  ⟨IsTrimmed.trim_eq, fun h => h ▸ isTrimmed_trim s⟩

instance : DecidablePred IsTrimmed := fun _ => decidable_of_iff' _ isTrimmed_iff

theorem mem_of_mem_trimStart {c : Char} {s : List Char} (h : c ∈ trimStart s) : c ∈ s :=
  (List.dropWhile_sublist _).subset h

theorem mem_of_mem_trim {c : Char} {s : List Char} (h : c ∈ trim s) : c ∈ s :=
  mem_of_mem_trimStart ((trimEnd_isPrefix _).subset h)

/-- Only blanks are trimmed off. -/
theorem exists_blanks (s : List Char) :
    ∃ before after, isAllBlank before = true ∧ isAllBlank after = true ∧
      s = before ++ trim s ++ after := by
  have htaken : ∀ t : List Char, isAllBlank (t.takeWhile isBlank) = true := fun t =>
    List.all_eq_true.mpr fun c hc => List.mem_takeWhile_imp hc
  have hback : trimEnd (trimStart s) ++ ((trimStart s).reverse.takeWhile isBlank).reverse =
      trimStart s := by
    rw [trimEnd, ← List.reverse_append, List.takeWhile_append_dropWhile, List.reverse_reverse]
  refine ⟨s.takeWhile isBlank, ((trimStart s).reverse.takeWhile isBlank).reverse, htaken s, ?_, ?_⟩
  · rw [isAllBlank, List.all_reverse]
    exact htaken _
  · rw [List.append_assoc, trim, hback]
    exact List.takeWhile_append_dropWhile.symm

/-- What is no blank is never trimmed off. -/
theorem mem_trimStart_iff {c : Char} {s : List Char} (hc : isBlank c = false) :
    c ∈ trimStart s ↔ c ∈ s := by
  refine ⟨mem_of_mem_trimStart, fun h => ?_⟩
  rw [← List.takeWhile_append_dropWhile (p := isBlank) (l := s), List.mem_append] at h
  refine h.resolve_left fun hblank => ?_
  rw [List.mem_takeWhile_imp hblank] at hc
  cases hc

theorem mem_trim_iff {c : Char} {s : List Char} (hc : isBlank c = false) :
    c ∈ trim s ↔ c ∈ s := by
  have hback : trim s = (trimStart (trimStart s).reverse).reverse := rfl
  rw [hback, List.mem_reverse, mem_trimStart_iff hc, List.mem_reverse, mem_trimStart_iff hc]

/-- Only blank texts are trimmed to nothing. -/
theorem trim_eq_nil_iff {s : List Char} : trim s = [] ↔ isAllBlank s = true := by
  have hend : trim s = [] ↔ ∀ c ∈ trimStart s, isBlank c = true := by
    simp [trim, trimEnd, List.dropWhile_eq_nil_iff]
  rw [hend, isAllBlank, List.all_eq_true]
  constructor
  · intro h
    cases hstart : trimStart s with
    | nil => exact List.dropWhile_eq_nil_iff.mp hstart
    | cons c rest =>
      have hc := head_trimStart s c (by rw [hstart]; rfl)
      rw [h c (by rw [hstart]; simp)] at hc
      cases hc
  · exact fun h c hc => h c (mem_of_mem_trimStart hc)

theorem trimStart_cons_blank {c : Char} (hc : isBlank c = true) (s : List Char) :
    trimStart (c :: s) = trimStart s := by
  simp [trimStart, hc]

theorem trimEnd_append_blank {c : Char} (hc : isBlank c = true) (s : List Char) :
    trimEnd (s ++ [c]) = trimEnd s := by
  simp [trimEnd, hc]

theorem trim_cons_blank {c : Char} (hc : isBlank c = true) (s : List Char) :
    trim (c :: s) = trim s := by
  rw [trim, trimStart_cons_blank hc, trim]

theorem trim_append_blank {c : Char} (hc : isBlank c = true) (s : List Char) :
    trim (s ++ [c]) = trim s := by
  have hstart : trimStart (s ++ [c]) = if (trimStart s).isEmpty then [] else trimStart s ++ [c] := by
    simp [trimStart, List.dropWhile_append, hc]
  rw [trim, hstart, trim]
  split
  · rename_i hempty
    rw [List.isEmpty_iff.mp hempty]
  · exact trimEnd_append_blank hc _

theorem isAllBlank_nil : isAllBlank [] = true := rfl

theorem isAllBlank_space : isAllBlank [' '] = true := rfl

theorem isAllBlank_cons_iff {c : Char} {s : List Char} :
    isAllBlank (c :: s) = true ↔ isBlank c = true ∧ isAllBlank s = true := by
  rw [isAllBlank, List.all_cons, Bool.and_eq_true]
  rfl

theorem isAllBlank_append {s t : List Char} (hs : isAllBlank s = true)
    (ht : isAllBlank t = true) : isAllBlank (s ++ t) = true := by
  rw [isAllBlank, List.all_append, Bool.and_eq_true]
  exact ⟨hs, ht⟩

/-- Blanks around a trimmed text are what trimming removes. -/
theorem trim_around {before s after : List Char} (hbefore : isAllBlank before = true)
    (hafter : isAllBlank after = true) (h : IsTrimmed s) : trim (before ++ s ++ after) = s := by
  rw [isAllBlank, List.all_eq_true] at hbefore hafter
  have hback : trim (s ++ after) = s := by
    induction after using List.reverseRecOn with
    | nil => rw [List.append_nil, h.trim_eq]
    | append_singleton front c ih =>
      have hc : isBlank c = true := hafter c (by simp)
      have hrest := ih fun x hx => hafter x (List.mem_append_left _ hx)
      rw [← List.append_assoc, trim_append_blank hc, hrest]
  rw [List.append_assoc]
  induction before with
  | nil => exact hback
  | cons c rest ih =>
    have hrest := ih fun x hx => hbefore x (List.mem_cons_of_mem c hx)
    rw [List.cons_append, trim_cons_blank (hbefore c List.mem_cons_self), hrest]

theorem trim_blanks_append {before s : List Char} (hbefore : isAllBlank before = true)
    (h : IsTrimmed s) : trim (before ++ s) = s := by
  simpa using trim_around hbefore isAllBlank_nil h

theorem trim_append_blanks {s after : List Char} (hafter : isAllBlank after = true)
    (h : IsTrimmed s) : trim (s ++ after) = s := by
  simpa using trim_around isAllBlank_nil hafter h

theorem trimEnd_cons {c : Char} (hc : isBlank c = false) (s : List Char) :
    trimEnd (c :: s) = c :: trimEnd s := by
  by_cases hempty : (s.reverse.dropWhile isBlank).isEmpty = true
  · have hnil := List.isEmpty_iff.mp hempty
    simp [trimEnd, List.dropWhile_append, hnil, hc]
  · simp [trimEnd, List.dropWhile_append, hempty]

theorem trim_cons {c : Char} (hc : isBlank c = false) (s : List Char) :
    trim (c :: s) = c :: trimEnd s := by
  have hstart : trimStart (c :: s) = c :: s := by simp [trimStart, hc]
  rw [trim, hstart, trimEnd_cons hc]

/-- Two texts together are trimmed when their outer ends are not blank. -/
theorem IsTrimmed.append {a b : List Char} (ha : a ≠ []) (hb : b ≠ [])
    (hfirst : ∀ c, a.head? = some c → isBlank c = false)
    (hlast : ∀ c, b.getLast? = some c → isBlank c = false) : IsTrimmed (a ++ b) := by
  constructor
  · intro c hc
    rw [List.head?_append_of_ne_nil _ ha] at hc
    exact hfirst c hc
  · intro c hc
    rw [List.getLast?_append_of_ne_nil _ hb] at hc
    exact hlast c hc

/-- Two trimmed texts with anything between them are trimmed. -/
theorem IsTrimmed.around {a b : List Char} (ha : IsTrimmed a) (hb : IsTrimmed b) (hane : a ≠ [])
    (hbne : b ≠ []) (middle : List Char) : IsTrimmed (a ++ middle ++ b) := by
  refine .append (List.append_ne_nil_of_left_ne_nil hane _) hbne ?_ hb.last
  intro c hc
  rw [List.head?_append_of_ne_nil _ hane] at hc
  exact ha.first c hc

end Crosswalk.Text
