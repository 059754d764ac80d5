import Mathlib.Data.List.Basic
import Crosswalk.Proofs.Text.Pieces

/-!
Replacing a text everywhere.

At a place where the text stands the replacement is written and the scan goes on behind it; at any
other place one character is passed on. Characters that stand neither in the text nor in its
replacement are left alone.
-/

namespace Crosswalk.Text

variable {mark fresh s : List Char}

theorem replaceTextFrom_skip (passed rest : List Char) :
    replaceTextFrom mark fresh passed.length (passed ++ rest) =
      replaceTextFrom mark fresh 0 rest := by
  induction passed with
  | nil => rfl
  | cons c tail ih => exact ih

theorem replaceText_of_ne_nil (hmark : mark ≠ []) (s : List Char) :
    replaceText mark fresh s = replaceTextFrom mark fresh 0 s := by
  rw [replaceText, if_neg (by simpa using hmark)]

/-- Where the text stands it is replaced, and the scan goes on behind it. -/
theorem replaceText_mark (hmark : mark ≠ []) (rest : List Char) :
    replaceText mark fresh (mark ++ rest) = fresh ++ replaceText mark fresh rest := by
  rw [replaceText_of_ne_nil hmark, replaceText_of_ne_nil hmark]
  cases mark with
  | nil => exact absurd rfl hmark
  | cons c tail =>
    have hbegins : beginsWith (c :: tail) (c :: (tail ++ rest)) = true :=
      beginsWith_iff.mpr ⟨rest, rfl⟩
    rw [List.cons_append, replaceTextFrom, if_pos hbegins]
    exact congrArg (fresh ++ ·) (replaceTextFrom_skip tail rest)

/-- Where the text does not stand a character is passed on. -/
theorem replaceText_cons {c : Char} (hmark : mark ≠ []) (h : ¬ mark <+: c :: s) :
    replaceText mark fresh (c :: s) = c :: replaceText mark fresh s := by
  rw [replaceText_of_ne_nil hmark, replaceText_of_ne_nil hmark, replaceTextFrom,
    if_neg (mt beginsWith_iff.mp h)]

/-- Characters with which the text does not begin are passed on. -/
theorem replaceText_append {passed : List Char} (hmark : mark ≠ [])
    (h : ∀ c ∈ passed, mark.head? ≠ some c) (rest : List Char) :
    replaceText mark fresh (passed ++ rest) = passed ++ replaceText mark fresh rest := by
  induction passed with
  | nil => rfl
  | cons c tail ih =>
    obtain ⟨hc, htail⟩ := List.forall_mem_cons.mp h
    have hnot : ¬ mark <+: c :: (tail ++ rest) := by
      rintro ⟨after, hafter⟩
      cases mark with
      | nil => exact hmark rfl
      | cons d more => exact hc (congrArg some (List.cons.inj hafter).1)
    rw [List.cons_append, replaceText_cons hmark hnot, ih htail, List.cons_append]

/-- Characters that stand neither in the text nor in its replacement stay, in their order. -/
theorem filter_replaceText {keep : Char → Bool} (hmark : ∀ c ∈ mark, keep c = false)
    (hfresh : ∀ c ∈ fresh, keep c = false) (s : List Char) :
    (replaceText mark fresh s).filter keep = s.filter keep := by
  by_cases hempty : mark = []
  · rw [replaceText, hempty, if_pos List.isEmpty_nil]
  · induction hlen : s.length using Nat.strongRecOn generalizing s with
    | _ n ih =>
      cases s with
      | nil => rw [replaceText_of_ne_nil hempty, replaceTextFrom]
      | cons c rest =>
        by_cases hbegins : mark <+: c :: rest
        · obtain ⟨after, hafter⟩ := hbegins
          have hshorter : after.length < n := by
            have hpos := List.length_pos_iff.mpr hempty
            have htotal := congrArg List.length hafter
            rw [List.length_append, hlen] at htotal
            omega
          have hnone : ∀ {part : List Char}, (∀ c ∈ part, keep c = false) →
              part.filter keep = [] := by
            intro part hpart
            exact List.filter_eq_nil_iff.mpr fun c hc => by simp [hpart c hc]
          rw [← hafter, replaceText_mark hempty, List.filter_append, List.filter_append,
            hnone hmark, hnone hfresh, List.nil_append, List.nil_append]
          exact ih after.length hshorter after rfl
        · have hrest := ih rest.length (by rw [← hlen]; exact Nat.lt_succ_self _) rest rfl
          rw [replaceText_cons hempty hbegins, List.filter_cons, List.filter_cons, hrest]

end Crosswalk.Text
