import Crosswalk.Proofs.Text.Nesting

/-!
What stands in brackets.

An opening bracket outside quotes encloses all that stands up to the bracket that closes it, with
the brackets and quotes in between. Texts that leave nothing open can be put together: what stands
in the brackets of the whole is what stands in those of its parts, one part after the other.
-/

namespace Crosswalk.Text

/-- What stands in the outermost brackets of a text, from a place where something may be open. What
is left open extends to the end of the text. -/
def insidesFrom (b : Brackets) (n : Nesting) : List Char → List (List Char)
  | [] => if n.depth = 0 then [] else [[]]
  | c :: rest =>
    let next := n.step b c
    if n.depth = 0 then insidesFrom b next rest
    else if next.depth = 0 then [] :: insidesFrom b next rest
    else consFirst c (insidesFrom b next rest)

/-- What stands in the outermost brackets of a text, outside of quotes. -/
def insides (b : Brackets) (s : List Char) : List (List Char) := insidesFrom b .outside s

/-- A text that leaves nothing open, with what stands in its brackets. -/
structure Encloses (b : Brackets) (s : List Char) (found : List (List Char)) : Prop where
  closed : s.foldl (Nesting.step b) .outside = .outside
  insides_eq : insides b s = found

variable {b : Brackets} {n : Nesting} {s t : List Char}

theorem insidesFrom_ne_nil (h : n.depth ≠ 0) : insidesFrom b n s ≠ [] := by
  cases s with
  | nil => simp [insidesFrom, h]
  | cons c rest =>
    rw [insidesFrom, if_neg h]
    split
    · simp
    · cases insidesFrom b (n.step b c) rest <;> simp [consFirst]

/-- Behind a text that leaves no bracket open others are found by themselves. -/
theorem insidesFrom_append (h : (s.foldl (Nesting.step b) n).depth = 0) :
    insidesFrom b n (s ++ t) =
      insidesFrom b n s ++ insidesFrom b (s.foldl (Nesting.step b) n) t := by
  induction s generalizing n with
  | nil =>
    have hdepth : n.depth = 0 := h
    simp [insidesFrom, hdepth]
  | cons c rest ih =>
    have hrest := ih h
    rw [List.cons_append, insidesFrom, insidesFrom, List.foldl_cons, hrest]
    split
    · rfl
    · split
      · rfl
      · rename_i hopen
        exact consFirst_append c (insidesFrom_ne_nil hopen) _

theorem depth_outside : Nesting.outside.depth = 0 := rfl

/-- Out of a bracket leads only the one that closes it. -/
theorem isOutside_step {c : Char} (hn : n.depth ≠ 0) (h : (n.step b c).depth = 0) :
    (n.step b c).isOutside = true := by
  obtain ⟨quote, depth⟩ := n
  cases quote with
  | some q =>
    by_cases hc : c = q
    · simp only [Nesting.step, hc, if_true] at h
      exact absurd h hn
    · simp only [Nesting.step, hc, if_false] at h
      exact absurd h hn
  | none =>
    by_cases hquote : isQuote c = true
    · rw [step_of_isQuote hquote] at h
      exact absurd h hn
    · have hquote : ¬(c = '"' ∨ c = '\'') := mt isQuote_iff.mpr hquote
      simp only [Nesting.step, hquote, if_false] at h ⊢
      split at h
      · cases h
      · rename_i hopening
        rw [if_neg hopening]
        split at h
        · rename_i hclosing
          simpa [hclosing, Nesting.isOutside] using h
        · exact absurd h hn

theorem eq_outside (h : n.isOutside = true) : n = .outside := by
  obtain ⟨hquote, hdepth⟩ := Bool.and_eq_true_iff.mp h
  obtain ⟨quote, depth⟩ := n
  rw [Nesting.outside, Nesting.mk.injEq]
  exact ⟨Option.isNone_iff_eq_none.mp hquote, beq_iff_eq.mp hdepth⟩

/-- Up to the bracket that closes it stands what is in a bracket, and behind it what is left. -/
theorem insidesFrom_of_closeFrom {inner after : List Char} (hn : n.depth ≠ 0)
    (h : closeFrom b n s = some (inner, after)) :
    insidesFrom b n s = inner :: insides b after ∧
      s.foldl (Nesting.step b) n = after.foldl (Nesting.step b) .outside := by
  induction s generalizing n inner with
  | nil => cases h
  | cons c rest ih =>
    have hinside : n.isOutside = false := by simp [Nesting.isOutside, hn]
    rw [closeFrom] at h
    rw [insidesFrom, if_neg hn, List.foldl_cons]
    split at h
    · rename_i hstop
      cases h
      rw [eq_outside (Bool.and_eq_true_iff.mp hstop).2, if_pos depth_outside]
      exact ⟨rfl, rfl⟩
    · rename_i hstop
      obtain ⟨⟨front, back⟩, hclose, heq⟩ := Option.map_eq_some_iff.mp h
      cases heq
      have hdepth : (n.step b c).depth ≠ 0 := by
        intro hzero
        exact hstop (by rw [hinside, isOutside_step hn hzero]; rfl)
      obtain ⟨hfound, hfold⟩ := ih hdepth hclose
      rw [if_neg hdepth, hfound]
      exact ⟨rfl, hfold⟩

namespace Encloses

variable {found more : List (List Char)}

theorem nil : Encloses b [] [] := ⟨rfl, rfl⟩

theorem append (h : Encloses b s found) (h' : Encloses b t more) :
    Encloses b (s ++ t) (found ++ more) := by
  constructor
  · rw [List.foldl_append, h.closed, h'.closed]
  · have hdepth : (s.foldl (Nesting.step b) .outside).depth = 0 := by rw [h.closed]; rfl
    rw [insides, insidesFrom_append hdepth, h.closed, ← h.insides_eq, ← h'.insides_eq]
    rfl

theorem plain (h : ∀ c ∈ s, b.IsPlain c) : Encloses b s [] := by
  induction s with
  | nil => exact nil
  | cons c rest ih =>
    have hrest := ih fun x hx => h x (List.mem_cons_of_mem c hx)
    have hstep : Nesting.step b .outside c = .outside := step_of_isPlain (h c List.mem_cons_self)
    constructor
    · rw [List.foldl_cons, hstep, hrest.closed]
    · rw [insides, insidesFrom, if_pos depth_outside, hstep]
      exact hrest.insides_eq

/-- A bracket that is closed stands in front of the others. -/
theorem bracket {opening : Char} {inner after : List Char} (hquote : isQuote opening = false)
    (hopening : opening ∈ b.opening) (hclose : closeBracket b s = some (inner, after))
    (h : Encloses b after found) : Encloses b (opening :: s) (inner :: found) := by
  have hstep : Nesting.step b .outside opening = ⟨none, 1⟩ := step_of_mem_opening hquote hopening
  obtain ⟨hinsides, hfold⟩ := insidesFrom_of_closeFrom Nat.one_ne_zero hclose
  constructor
  · rw [List.foldl_cons, hstep, hfold, h.closed]
  · rw [insides, insidesFrom, if_pos depth_outside, hstep, hinsides, h.insides_eq]

end Encloses

end Crosswalk.Text
