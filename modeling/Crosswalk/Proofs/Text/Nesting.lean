import Crosswalk.Proofs.Text.Pieces
import Crosswalk.Proofs.Text.Trim
import Crosswalk.Text.Nesting

/-!
Scans that know what is open.

Splitting, cutting and closing go through a text with the same record of open quotes and brackets,
and each stops at characters of its own. What a scan passes over stays together, whatever stands
behind it. Such texts are put together from plain characters, texts in quotes and texts in brackets.
-/

namespace Crosswalk.Text

def isQuote (c : Char) : Bool := c == '"' || c == '\''

theorem isQuote_iff {c : Char} : isQuote c = true ↔ c = '"' ∨ c = '\'' := by simp [isQuote]

theorem isQuote_eq_false_iff {c : Char} : isQuote c = false ↔ ¬(c = '"' ∨ c = '\'') := by
  simp [isQuote]

/-- A character that opens and closes nothing. -/
structure Brackets.IsPlain (b : Brackets) (c : Char) : Prop where
  notQuote : isQuote c = false
  notOpening : c ∉ b.opening
  notClosing : c ∉ b.closing

/-- Where splitting and cutting stop: at a mark outside quotes and brackets. -/
def counts (mark : Char) (n : Nesting) (c : Char) : Bool := n.isOutside && c == mark

/-- Where closing stops: at the character that leaves nothing open. -/
def closes (b : Brackets) (n : Nesting) (c : Char) : Bool :=
  !n.isOutside && (n.step b c).isOutside

/-- A scan goes through a text without a stop, from one record of what is open to another. -/
def Passes (b : Brackets) (stops : Nesting → Char → Bool) : Nesting → List Char → Nesting → Prop
  | n, [], last => n = last
  | n, c :: rest, last => stops n c = false ∧ Passes b stops (n.step b c) rest last

section Step

variable {b : Brackets} {c : Char} {depth : Nat}

theorem step_of_isPlain (h : b.IsPlain c) : Nesting.step b ⟨none, depth⟩ c = ⟨none, depth⟩ := by
  simp [Nesting.step, isQuote_eq_false_iff.mp h.notQuote, h.notOpening, h.notClosing]

theorem step_of_isQuote (h : isQuote c = true) :
    Nesting.step b ⟨none, depth⟩ c = ⟨some c, depth⟩ := by
  simp [Nesting.step, isQuote_iff.mp h]

theorem step_of_mem_opening (hquote : isQuote c = false) (h : c ∈ b.opening) :
    Nesting.step b ⟨none, depth⟩ c = ⟨none, depth + 1⟩ := by
  simp [Nesting.step, isQuote_eq_false_iff.mp hquote, h]

theorem step_of_mem_closing (hquote : isQuote c = false) (hopen : c ∉ b.opening)
    (h : c ∈ b.closing) : Nesting.step b ⟨none, depth⟩ c = ⟨none, depth - 1⟩ := by
  simp [Nesting.step, isQuote_eq_false_iff.mp hquote, hopen, h]

end Step

namespace Passes

variable {b : Brackets} {stops : Nesting → Char → Bool} {n m last : Nesting} {depth : Nat}
  {s t : List Char}

theorem append (h : Passes b stops n s m) (h' : Passes b stops m t last) :
    Passes b stops n (s ++ t) last := by
  induction s generalizing n with
  | nil =>
    obtain rfl : n = m := h
    exact h'
  | cons c rest ih => exact ⟨h.1, ih h.2⟩

theorem plain (h : ∀ c ∈ s, b.IsPlain c) (hstops : ∀ c ∈ s, stops ⟨none, depth⟩ c = false) :
    Passes b stops ⟨none, depth⟩ s ⟨none, depth⟩ := by
  induction s with
  | nil => rfl
  | cons c rest ih =>
    refine ⟨hstops c List.mem_cons_self, ?_⟩
    rw [step_of_isPlain (h c List.mem_cons_self)]
    exact ih (fun x hx => h x (List.mem_cons_of_mem c hx))
      fun x hx => hstops x (List.mem_cons_of_mem c hx)

/-- Where quotes alone matter, a text without quotes is passed over up to the mark. -/
theorem quoteless {mark : Char} (h : ∀ c ∈ s, isQuote c = false ∧ c ≠ mark) :
    Passes .none (counts mark) .outside s .outside := by
  apply plain
  · exact fun c hc => ⟨(h c hc).1, by simp [Brackets.none], by simp [Brackets.none]⟩
  · intro c hc
    simp [counts, (h c hc).2]

/-- Between its quotes a text may hold anything but that quote. -/
theorem quoted {quote : Char} (hquote : isQuote quote = true) (hs : quote ∉ s)
    (hopen : stops ⟨none, depth⟩ quote = false)
    (hinside : ∀ c, stops ⟨some quote, depth⟩ c = false) :
    Passes b stops ⟨none, depth⟩ (quote :: s ++ [quote]) ⟨none, depth⟩ := by
  refine ⟨hopen, ?_⟩
  rw [step_of_isQuote hquote]
  induction s with
  | nil => exact ⟨hinside quote, by simp [Passes, Nesting.step]⟩
  | cons c rest ih =>
    have hc : c ≠ quote := fun heq => hs (heq ▸ List.mem_cons_self)
    have hstep : Nesting.step b ⟨some quote, depth⟩ c = ⟨some quote, depth⟩ := by
      simp [Nesting.step, hc]
    refine ⟨hinside c, ?_⟩
    rw [hstep]
    exact ih fun hmem => hs (List.mem_cons_of_mem c hmem)

/-- Between its brackets a text stays one level further in. -/
theorem bracketed {opening closing : Char} (hopening : isQuote opening = false)
    (hclosing : isQuote closing = false) (ho : opening ∈ b.opening) (hc : closing ∈ b.closing)
    (hdistinct : closing ∉ b.opening) (hopen : stops ⟨none, depth⟩ opening = false)
    (hclose : stops ⟨none, depth + 1⟩ closing = false)
    (h : Passes b stops ⟨none, depth + 1⟩ s ⟨none, depth + 1⟩) :
    Passes b stops ⟨none, depth⟩ (opening :: s ++ [closing]) ⟨none, depth⟩ := by
  refine ⟨hopen, ?_⟩
  rw [step_of_mem_opening hopening ho]
  refine h.append ⟨hclose, ?_⟩
  exact step_of_mem_closing hclosing hdistinct hc

end Passes

section Stops

variable {b : Brackets} {mark : Char} {n m : Nesting} {s : List Char}

theorem splitFrom_append (h : Passes b (counts mark) n s m) (rest : List Char) :
    splitFrom b mark n (s ++ rest) = s.foldr consFirst (splitFrom b mark m rest) := by
  induction s generalizing n with
  | nil =>
    obtain rfl : n = m := h
    rfl
  | cons c more ih =>
    have hstop : ¬ (n.isOutside && c == mark) = true := by simpa [counts] using h.1
    rw [List.cons_append, splitFrom, if_neg hstop, ih h.2, List.foldr_cons]

/-- A text that is passed over is not split. -/
theorem splitOutside_eq_self (h : Passes b (counts mark) .outside s m) :
    splitOutside b mark s = [s] := by
  have hsplit := splitFrom_append h []
  rw [List.append_nil, splitFrom, foldr_consFirst, List.append_nil] at hsplit
  exact hsplit

/-- Behind a text that leaves nothing open a mark separates. -/
theorem splitOutside_append_cons (h : Passes b (counts mark) .outside s .outside)
    (rest : List Char) :
    splitOutside b mark (s ++ mark :: rest) = s :: splitOutside b mark rest := by
  have hstop : (Nesting.outside.isOutside && mark == mark) = true := by
    simp [Nesting.outside, Nesting.isOutside]
  rw [splitOutside, splitFrom_append h, splitFrom, if_pos hstop, foldr_consFirst, List.append_nil,
    splitOutside]

theorem splitFrom_ne_nil (b : Brackets) (mark : Char) (n : Nesting) (s : List Char) :
    splitFrom b mark n s ≠ [] := by
  cases s with
  | nil => simp [splitFrom]
  | cons c rest =>
    rw [splitFrom]
    split
    · simp
    · cases splitFrom b mark (n.step b c) rest <;> simp [consFirst]

theorem cutFrom_append (h : Passes b (counts mark) n s m) (rest : List Char) :
    cutFrom b mark n (s ++ rest) =
      (cutFrom b mark m rest).map fun (before, after) => (s ++ before, after) := by
  induction s generalizing n with
  | nil =>
    obtain rfl : n = m := h
    simp
  | cons c more ih =>
    have hstop : ¬ (n.isOutside && c == mark) = true := by simpa [counts] using h.1
    rw [List.cons_append, cutFrom, if_neg hstop, ih h.2]
    cases cutFrom b mark m rest <;> rfl

/-- A text that is passed over holds no mark that counts. -/
theorem cutOutside_eq_none (h : Passes b (counts mark) .outside s m) :
    cutOutside b mark s = none := by
  have hcut := cutFrom_append h []
  rw [List.append_nil] at hcut
  exact hcut

/-- The first mark that counts is the one behind a text that leaves nothing open. -/
theorem cutOutside_append_cons (h : Passes b (counts mark) .outside s .outside)
    (rest : List Char) : cutOutside b mark (s ++ mark :: rest) = some (s, rest) := by
  rw [cutOutside, cutFrom_append h]
  simp [cutFrom, Nesting.outside, Nesting.isOutside]

theorem closeFrom_append (h : Passes b (closes b) n s m) {c : Char} (hc : closes b m c = true)
    (rest : List Char) : closeFrom b n (s ++ c :: rest) = some (s, rest) := by
  induction s generalizing n with
  | nil =>
    obtain rfl : n = m := h
    simp only [closes] at hc
    simp [closeFrom, hc]
  | cons d more ih =>
    have hstop : ¬ (!n.isOutside && (n.step b d).isOutside) = true := by
      simpa [closes] using h.1
    rw [List.cons_append, closeFrom, if_neg hstop, ih h.2]
    rfl

end Stops

section Inversion

variable {b : Brackets} {mark c : Char} {n : Nesting} {s before after : List Char}

/-- Joining the parts with what they were split at gives the text back. -/
theorem join_splitFrom (b : Brackets) (mark : Char) (n : Nesting) (s : List Char) :
    join [mark] (splitFrom b mark n s) = s := by
  induction s generalizing n with
  | nil => rfl
  | cons c rest ih =>
    rw [splitFrom]
    split
    · rename_i hstop
      obtain ⟨first, more, hparts⟩ := List.exists_cons_of_ne_nil (splitFrom_ne_nil b mark n rest)
      have hrest := ih n
      rw [hparts] at hrest ⊢
      rw [beq_iff_eq.mp (Bool.and_eq_true_iff.mp hstop).2]
      simp [join, hrest]
    · rw [join_consFirst c _ (splitFrom_ne_nil b mark _ rest), ih]

theorem cutFrom_eq_some (h : cutFrom b mark n s = some (before, after)) :
    s = before ++ mark :: after := by
  induction s generalizing n before with
  | nil => cases h
  | cons first rest ih =>
    rw [cutFrom] at h
    split at h
    · rename_i hstop
      cases h
      rw [beq_iff_eq.mp (Bool.and_eq_true_iff.mp hstop).2]
      rfl
    · obtain ⟨⟨front, back⟩, hcut, heq⟩ := Option.map_eq_some_iff.mp h
      cases heq
      rw [ih hcut]
      rfl

/-- What is open as a quote is one. -/
def Nesting.IsReached (n : Nesting) : Prop := ∀ quote, n.quote = some quote → isQuote quote = true

theorem Nesting.IsReached.step (h : n.IsReached) (b : Brackets) (c : Char) :
    (n.step b c).IsReached := by
  intro quote hquote
  unfold Nesting.step at hquote
  split at hquote
  · split at hquote
    · cases hquote
    · exact h quote hquote
  · split at hquote
    · rename_i hc
      cases hquote
      exact isQuote_iff.mpr hc
    · split at hquote
      · exact h quote hquote
      · split at hquote <;> exact h quote hquote

/-- Only a quote or a closing bracket leaves nothing open. -/
theorem isQuote_or_mem_of_closes (hn : n.IsReached) (h : closes b n c = true) :
    isQuote c = true ∨ c ∈ b.closing := by
  obtain ⟨hinside, houtside⟩ := Bool.and_eq_true_iff.mp h
  obtain ⟨quote, depth⟩ := n
  cases quote with
  | some quote =>
    by_cases hc : c = quote
    · exact .inl (hc ▸ hn quote rfl)
    · simp [Nesting.step, hc, Nesting.isOutside] at houtside
  | none =>
    by_contra hplain
    rw [not_or, Bool.not_eq_true] at hplain
    by_cases hopen : c ∈ b.opening
    · rw [step_of_mem_opening hplain.1 hopen] at houtside
      cases houtside
    · rw [step_of_isPlain ⟨hplain.1, hopen, hplain.2⟩] at houtside
      rw [houtside] at hinside
      cases hinside

theorem closeFrom_eq_some (hn : n.IsReached) (h : closeFrom b n s = some (before, after)) :
    ∃ closing, s = before ++ closing :: after ∧
      (isQuote closing = true ∨ closing ∈ b.closing) := by
  induction s generalizing n before with
  | nil => cases h
  | cons first rest ih =>
    rw [closeFrom] at h
    split at h
    · rename_i hstop
      cases h
      exact ⟨first, rfl, isQuote_or_mem_of_closes hn hstop⟩
    · obtain ⟨⟨front, back⟩, hclose, heq⟩ := Option.map_eq_some_iff.mp h
      cases heq
      obtain ⟨closing, hrest, hclosing⟩ := ih (hn.step b first) hclose
      exact ⟨closing, by rw [hrest]; rfl, hclosing⟩

end Inversion

end Crosswalk.Text
