import Mathlib.Data.Finset.Max
import Mathlib.Data.Finset.Image
import Mathlib.Data.Nat.Find
import Crosswalk.Proofs.Extraction.Substitution

/-!
The one scan of a pattern, whatever is put in.

A pattern and a set of marks determine how the pattern is cut: up to the first place where a mark
stands it is kept, the longest mark there is to be replaced, and what follows is cut in the same
way. Putting texts in for the marks fills this cut. Neither the texts nor the order of the marks
has a part in it, so no text that is put in is ever looked through for marks.
-/

namespace Crosswalk.Extraction

variable {marks : Finset String} {s before rest : List Char} {mark : String}

/-- A stretch of a pattern: text that is kept, or a mark that is replaced. -/
inductive Stretch where
  | kept (text : List Char)
  | mark (name : String)
deriving DecidableEq

/-- What a stretch becomes when the texts of a table are put in for its marks. -/
def Stretch.fill (t : Table String) : Stretch → List Char
  | .kept text => text
  | .mark name => ((t.get? name).getD "").toList

/-- The first place of a text where one of some marks stands, and the longest mark there: what is
in front of it, the mark, and what follows it. -/
structure IsFirstMark (marks : Finset String) (s before : List Char) (mark : String)
    (rest : List Char) : Prop where
  split : s = before ++ (mark.toList ++ rest)
  mem : mark ∈ marks
  first : ∀ other ∈ marks, ∀ front back, s = front ++ (other.toList ++ back) →
    before.length ≤ front.length
  longest : ∀ other ∈ marks, ∀ back, s = before ++ (other.toList ++ back) →
    other.toList.length ≤ mark.toList.length

/-- How a text is cut at its marks, from the left. -/
inductive IsCut (marks : Finset String) : List Char → List Stretch → Prop where
  | last {s : List Char} (hnone : ∀ mark ∈ marks, ¬ mark.toList <:+: s) : IsCut marks s [.kept s]
  | mark {s before rest : List Char} {mark : String} {stretches : List Stretch}
      (hmark : IsFirstMark marks s before mark rest) (hrest : IsCut marks rest stretches) :
      IsCut marks s (.kept before :: .mark mark :: stretches)

theorem IsFirstMark.isInfix (h : IsFirstMark marks s before mark rest) : mark.toList <:+: s :=
  ⟨before, rest, by rw [h.split, List.append_assoc]⟩

/-- There is one first mark. -/
theorem IsFirstMark.unique {before' rest' : List Char} {mark' : String}
    (h : IsFirstMark marks s before mark rest) (h' : IsFirstMark marks s before' mark' rest') :
    before = before' ∧ mark = mark' ∧ rest = rest' := by
  have hlength : before.length = before'.length :=
    Nat.le_antisymm (h.first _ h'.mem _ _ h'.split) (h'.first _ h.mem _ _ h.split)
  obtain ⟨rfl, htail⟩ := List.append_inj (h.split.symm.trans h'.split) hlength
  have hmark : mark.toList.length = mark'.toList.length :=
    Nat.le_antisymm (h'.longest _ h.mem _ h.split) (h.longest _ h'.mem _ h'.split)
  obtain ⟨hname, hrest⟩ := List.append_inj htail hmark
  exact ⟨rfl, String.toList_inj.mp hname, hrest⟩

/-- Where a mark stands there is a first one. -/
theorem exists_isFirstMark (hmem : mark ∈ marks) (h : mark.toList <:+: s) :
    ∃ before mark rest, IsFirstMark marks s before mark rest := by
  classical
  let stands := fun n => ∃ other ∈ marks, ∃ front back,
    s = front ++ (other.toList ++ back) ∧ front.length = n
  have hstands : ∃ n, stands n := by
    obtain ⟨front, back, hsplit⟩ := h
    exact ⟨_, mark, hmem, front, back, by rw [← hsplit, List.append_assoc], rfl⟩
  obtain ⟨found, hfound, before, after, hsplit, hlength⟩ := Nat.find_spec hstands
  -- of the marks that stand at the first place, the longest
  obtain ⟨longest, hlongest, hmax⟩ := Finset.exists_max_image
    (marks.filter fun other => other.toList <+: found.toList ++ after)
    (fun other => other.toList.length)
    ⟨found, Finset.mem_filter.mpr ⟨hfound, List.prefix_append _ _⟩⟩
  obtain ⟨hlongest_mem, rest, hrest⟩ := Finset.mem_filter.mp hlongest
  refine ⟨before, longest, rest, by rw [hsplit, hrest], hlongest_mem, ?_, ?_⟩
  · intro other hother front back hother_split
    rw [hlength]
    exact Nat.find_min' hstands ⟨other, hother, front, back, hother_split, rfl⟩
  · intro other hother back hother_split
    have htail := List.append_cancel_left (hsplit.symm.trans hother_split)
    exact hmax other (Finset.mem_filter.mpr ⟨hother, back, htail.symm⟩)

/-- Every text is cut, since something is left over for shorter and shorter texts only. -/
theorem exists_isCut (hmarks : "" ∉ marks) (s : List Char) :
    ∃ stretches, IsCut marks s stretches := by
  induction hn : s.length using Nat.strong_induction_on generalizing s with
  | h n ih =>
    by_cases hnone : ∀ mark ∈ marks, ¬ mark.toList <:+: s
    · exact ⟨_, .last hnone⟩
    · push Not at hnone
      obtain ⟨found, hfound, hinfix⟩ := hnone
      obtain ⟨before, mark, rest, hmark⟩ := exists_isFirstMark hfound hinfix
      have hne : mark.toList ≠ [] := by
        rw [Ne, String.toList_eq_nil_iff]
        rintro rfl
        exact hmarks hmark.mem
      have hshorter : rest.length < n := by
        have hpos := List.length_pos_of_ne_nil hne
        rw [← hn, hmark.split, List.length_append, List.length_append]
        omega
      obtain ⟨stretches, hrest⟩ := ih _ hshorter rest rfl
      exact ⟨_, .mark hmark hrest⟩

/-- A text is cut in one way. -/
theorem IsCut.unique {stretches other : List Stretch} (h : IsCut marks s stretches)
    (hother : IsCut marks s other) : other = stretches := by
  induction h generalizing other with
  | last hnone =>
    cases hother with
    | last => rfl
    | mark hmark => exact absurd hmark.isInfix (hnone _ hmark.mem)
  | mark hmark hrest ih =>
    cases hother with
    | last hnone => exact absurd hmark.isInfix (hnone _ hmark.mem)
    | mark hmark' hrest' =>
      obtain ⟨rfl, rfl, rfl⟩ := hmark.unique hmark'
      rw [ih hrest']

variable {t : Table String}

/-- The marks of a table, in the form in which the scan compares them with a text. -/
theorem mem_of_mem_marksOf (ht : t.keys.toFinset = marks) {entry : List Char × String}
    (h : entry ∈ marksOf t) : String.ofList entry.1 ∈ marks := by
  rw [← ht, List.mem_toFinset, Table.mem_keys_iff]
  exact ⟨entry.2, mem_marksOf.mp h⟩

theorem substituteFrom_kept (ht : t.keys.toFinset = marks)
    (hnone : ∀ mark ∈ marks, ¬ mark.toList <:+: s) : substituteFrom (marksOf t) 0 s = s := by
  have hpass : substituteFrom (marksOf t) 0 (s ++ []) = s ++ substituteFrom (marksOf t) 0 [] := by
    apply substituteFrom_pass
    intro front back hsplit _
    apply longestMark?_eq_none
    rintro entry hentry - ⟨after, hafter⟩
    apply hnone _ (mem_of_mem_marksOf ht hentry)
    rw [String.toList_ofList, hsplit]
    exact ⟨front, after, by rw [List.append_assoc, hafter, List.append_nil]⟩
  simpa [substituteFrom] using hpass

/-- Up to the first mark the scan keeps the text, and there it puts in the text of the mark. -/
theorem substituteFrom_firstMark (hmarks : "" ∉ marks) (ht : t.keys.toFinset = marks)
    (h : IsFirstMark marks s before mark rest) :
    substituteFrom (marksOf t) 0 s =
      before ++ (Stretch.mark mark).fill t ++ substituteFrom (marksOf t) 0 rest := by
  have hkey : mark ∈ t.keys := List.mem_toFinset.mp (ht ▸ h.mem)
  obtain ⟨fresh, hfresh⟩ := Table.mem_keys_iff.mp hkey
  have hne : mark.toList ≠ [] := by
    rw [Ne, String.toList_eq_nil_iff]
    rintro rfl
    exact hmarks h.mem
  have hentry : (mark.toList, fresh) ∈ marksOf t := by
    rw [mem_marksOf, String.ofList_toList]
    exact hfresh
  have hfound : longestMark? (marksOf t) (mark.toList ++ rest) = some (mark.toList, fresh) := by
    apply longestMark?_of_longest hentry hne (List.prefix_append _ _)
    · intro other hother
      rw [mem_marksOf, String.ofList_toList, hfresh] at hother
      exact (Option.some.inj hother).symm
    · rintro entry hmem - ⟨back, hback⟩
      have hlongest := h.longest _ (mem_of_mem_marksOf ht hmem) back
      rw [String.toList_ofList, hback] at hlongest
      exact hlongest h.split
  have hpass : substituteFrom (marksOf t) 0 (before ++ (mark.toList ++ rest)) =
      before ++ substituteFrom (marksOf t) 0 (mark.toList ++ rest) := by
    apply substituteFrom_pass
    intro front back hsplit hback
    apply longestMark?_eq_none
    rintro entry hmem - ⟨after, hafter⟩
    -- a mark that begins inside what is kept would stand in front of the first one
    have hfirst := h.first _ (mem_of_mem_marksOf ht hmem) front after
    rw [String.toList_ofList, hafter, ← List.append_assoc, ← hsplit] at hfirst
    have hle := hfirst h.split
    have hpos := List.length_pos_of_ne_nil hback
    rw [hsplit, List.length_append] at hle
    omega
  rw [h.split, hpass, substituteFrom_mark hne hfound, Stretch.fill, hfresh, List.append_assoc]
  rfl

theorem IsCut.substituteFrom_eq (hmarks : "" ∉ marks) (ht : t.keys.toFinset = marks)
    {stretches : List Stretch} (h : IsCut marks s stretches) :
    substituteFrom (marksOf t) 0 s = stretches.flatMap (Stretch.fill t) := by
  induction h with
  | last hnone => simpa [Stretch.fill] using substituteFrom_kept ht hnone
  | mark hmark _ ih =>
    rw [substituteFrom_firstMark hmarks ht hmark, ih]
    simp [Stretch.fill]

/-- A pattern is cut at the marks of a set in exactly one way. Every table that has these marks,
whatever texts it puts in for them and in whatever order it lists them, makes of the pattern the
stretches of this cut with its texts in the place of the marks. -/
theorem substitute_fills_cut (marks : Finset String) (hmarks : "" ∉ marks) (pattern : String) :
    ∃ stretches, IsCut marks pattern.toList stretches ∧
      (∀ other, IsCut marks pattern.toList other → other = stretches) ∧
      (∀ t : Table String, t.keys.toFinset = marks →
        substitute t pattern = String.ofList (stretches.flatMap (Stretch.fill t))) ∧
      ∀ t u : Table String, t.keys.toFinset = marks → (∀ key, t.get? key = u.get? key) →
        substitute t pattern = substitute u pattern := by
  obtain ⟨stretches, hcut⟩ := exists_isCut hmarks pattern.toList
  have hfills : ∀ t : Table String, t.keys.toFinset = marks →
      substitute t pattern = String.ofList (stretches.flatMap (Stretch.fill t)) := by
    intro t ht
    rw [substitute_eq, hcut.substituteFrom_eq hmarks ht]
  refine ⟨stretches, hcut, fun other hother => hcut.unique hother, hfills, fun t u ht hsame => ?_⟩
  have hu : u.keys.toFinset = marks := by
    rw [← ht]
    ext key
    simp only [List.mem_toFinset, Table.mem_keys_iff, hsame]
  have hfill : Stretch.fill t = Stretch.fill u := by
    funext stretch
    cases stretch with
    | kept text => rfl
    | mark name => rw [Stretch.fill, Stretch.fill, hsame]
  rw [hfills t ht, hfills u hu, hfill]

/-- Marks that begin and overlap each other, with texts that are marks themselves: two tables with
different texts, in different orders, fill one cut. -/
theorem substitute_fills_cut_overlapping :
    let marks : Finset String := {"ab", "abc", "bc"}
    let t := Table.ofList [("ab", "abc"), ("abc", "ab"), ("bc", "")]
    let u := Table.ofList [("bc", "ab"), ("abc", ""), ("ab", "bc")]
    "" ∉ marks ∧ t.keys.toFinset = marks ∧ u.keys.toFinset = marks ∧
      ∃ stretches, IsCut marks "xabcbcab".toList stretches ∧
        stretches.flatMap (Stretch.fill t) = "xababc".toList ∧
        stretches.flatMap (Stretch.fill u) = "xabbc".toList := by
  intro marks t u
  have hmarks : "" ∉ marks := by decide
  have ht : t.keys.toFinset = marks := by decide
  have hu : u.keys.toFinset = marks := by decide
  obtain ⟨stretches, hcut, -, hfills, -⟩ := substitute_fills_cut marks hmarks "xabcbcab"
  refine ⟨hmarks, ht, hu, stretches, hcut, ?_, ?_⟩
  · rw [← String.ofList_inj, ← hfills t ht]
    decide +kernel
  · rw [← String.ofList_inj, ← hfills u hu]
    decide +kernel

end Crosswalk.Extraction
