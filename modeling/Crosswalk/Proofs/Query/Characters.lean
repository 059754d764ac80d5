import Crosswalk.Proofs.Query.Reading

/-!
Characters that stand in predicates only.

Quotes, square brackets and equals signs belong to predicates: no axis, no test and no name of a
query that was read holds any of them.
-/

namespace Crosswalk.Query

open Text

/-- The characters that stand in predicates only. -/
def predicateMarks : List Char := ['"', '\'', '[', ']', '=']

/-- A text that holds nothing of what stands in predicates only. -/
def IsOuter (s : List Char) : Prop := ∀ c ∈ s, c ∉ predicateMarks

instance (s : List Char) : Decidable (IsOuter s) := List.decidableBAll (· ∉ predicateMarks) s

variable {s : List Char}

theorem isOuter_of_not_mem_marks (h : ∀ c ∈ s, c ∉ marks) : IsOuter s := by
  have hmarks : ∀ c ∈ predicateMarks, c ∈ marks := by
    simp [predicateMarks, marks, enclosing]
  exact fun c hc hmem => h c hc (hmarks c hmem)

theorem isOuter_of_isAllBlank (h : isAllBlank s = true) : IsOuter s :=
  isOuter_of_not_mem_marks (not_mem_marks_of_isAllBlank h)

theorem IsOuter.append {t : List Char} (hs : IsOuter s) (ht : IsOuter t) : IsOuter (s ++ t) :=
  fun c hc => (List.mem_append.mp hc).elim (hs c) (ht c)

theorem IsOuter.of_trim (h : IsOuter (trim s)) : IsOuter s := by
  obtain ⟨before, after, hbefore, hafter, heq⟩ := exists_blanks s
  rw [heq]
  exact ((isOuter_of_isAllBlank hbefore).append h).append (isOuter_of_isAllBlank hafter)

theorem IsOuter.equals_not_mem (h : IsOuter s) : '=' ∉ s := fun hmem => h '=' hmem (by decide)

theorem NamePattern.isOuter {p : NamePattern} (h : read? s = some p) : IsOuter s := by
  obtain ⟨hreadable, htrim⟩ := NamePattern.read?_eq_some_iff.mp h
  apply IsOuter.of_trim
  rw [htrim]
  exact isOuter_of_not_mem_marks fun c hc => (NamePattern.isBare_write hreadable c hc).notMark

theorem Part.isOuter {part : Part} (h : read? s = some part) : IsOuter s := by
  unfold read? at h
  split at h
  · obtain ⟨p, hp, -⟩ := Option.map_eq_some_iff.mp h
    have hat : IsOuter ['@'] := by decide
    exact hat.append (NamePattern.isOuter hp)
  · obtain ⟨p, hp, -⟩ := Option.map_eq_some_iff.mp h
    exact NamePattern.isOuter hp

theorem Axis.isOuter {axis : Axis} (h : ofName? s = some axis) : IsOuter s := by
  have hnames : ∀ name ∈ ["child", "descendant", "descendant-or-self", "self", "parent",
      "attribute"], ∀ c ∈ name.toList, c ∉ predicateMarks := by
    simp [predicateMarks]
  have hname : ∀ {name : String}, name ∈ ["child", "descendant", "descendant-or-self", "self",
      "parent", "attribute"] → String.ofList s = name → IsOuter s := by
    intro name hmem hs
    have hlist : s = name.toList := by rw [← hs, String.toList_ofList]
    rw [hlist]
    exact hnames name hmem
  unfold ofName? at h
  split at h <;> rename_i heq
  case h_7 => cases h
  all_goals exact hname (by decide) heq

theorem NodeTest.isOuter {test : NodeTest} (h : read? s = some test) : IsOuter s := by
  rw [read?] at h
  split at h
  · rename_i htext
    apply IsOuter.of_trim
    rw [htext]
    decide
  · split at h
    · rename_i hnode
      apply IsOuter.of_trim
      rw [hnode]
      decide
    · obtain ⟨p, hp, -⟩ := Option.map_eq_some_iff.mp h
      exact (NamePattern.isOuter hp).of_trim

theorem isOuter_of_readHead? {head : Axis × NodeTest} (h : readHead? s = some head) : IsOuter s := by
  rw [readHead?] at h
  split at h
  · rename_i hself
    rw [hself]
    decide
  · split at h
    · rename_i hparent
      rw [hparent]
      decide
    · obtain ⟨⟨axis, rest⟩, hsplit, hrest⟩ := Option.bind_eq_some_iff.mp h
      obtain ⟨test, htest, -⟩ := Option.bind_eq_some_iff.mp hrest
      have htest := NodeTest.isOuter htest
      unfold splitAxis? at hsplit
      split at hsplit
      · cases hsplit
        have hat : IsOuter ['@'] := by decide
        exact hat.append htest
      · split at hsplit
        · rename_i name after hcut
          obtain ⟨named, hname, heq⟩ := Option.map_eq_some_iff.mp hsplit
          cases heq
          have hcolons : IsOuter "::".toList := by decide
          rw [cutAtText_eq_some hcut]
          exact ((Axis.isOuter hname).of_trim.append hcolons).append htest
        · cases hsplit
          exact htest

end Crosswalk.Query
