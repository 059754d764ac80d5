import Crosswalk.Proofs.Text.Pieces
import Crosswalk.Proofs.Text.Trim
import Crosswalk.Text.Basic

/-!
Words with single spaces between them.

Such a text is in canonical spacing already, provided that no word begins or ends with a colon:
there is no run of blanks to collapse and no space beside a colon to drop.
-/

namespace Crosswalk.Text

/-- A text that canonical spacing leaves alone among others: it holds no blank, and no colon stands
at its ends. -/
structure IsWord (w : List Char) : Prop where
  ne_nil : w ≠ []
  plain : ∀ c ∈ w, isBlank c = false
  first : w.head? ≠ some ':'
  last : w.getLast? ≠ some ':'

theorem isBlank_space : isBlank ' ' = true := rfl

theorem IsWord.space_not_mem {w : List Char} (h : IsWord w) : ' ' ∉ w := by
  intro hmem
  have hblank := h.plain ' ' hmem
  rw [isBlank_space] at hblank
  cases hblank

theorem join_cons_cons (between w next : List Char) (more : List (List Char)) :
    join between (w :: next :: more) = w ++ between ++ join between (next :: more) := rfl

theorem mem_join {between : List Char} {words : List (List Char)} {c : Char}
    (h : c ∈ join between words) : c ∈ between ∨ ∃ w ∈ words, c ∈ w := by
  induction words with
  | nil => cases h
  | cons w more ih =>
    cases more with
    | nil => exact Or.inr ⟨w, by simp, h⟩
    | cons next more =>
      rw [join_cons_cons, List.mem_append, List.mem_append] at h
      rcases h with (h | h) | h
      · exact Or.inr ⟨w, by simp, h⟩
      · exact Or.inl h
      · rcases ih h with hbetween | ⟨v, hv, hc⟩
        · exact Or.inl hbetween
        · exact Or.inr ⟨v, List.mem_cons_of_mem w hv, hc⟩

theorem head_join {w : List Char} (h : w ≠ []) (between : List Char) (more : List (List Char)) :
    (join between (w :: more)).head? = w.head? := by
  cases more with
  | nil => rfl
  | cons next more =>
    rw [join_cons_cons, List.append_assoc, List.head?_append_of_ne_nil w h]

/-- Joined words end with the last word. -/
theorem getLast_join {words : List (List Char)} (h : ∀ w ∈ words, w ≠ []) (between : List Char)
    (hne : words ≠ []) : (join between words).getLast? = (words.getLast hne).getLast? := by
  induction words with
  | nil => exact absurd rfl hne
  | cons w more ih =>
    cases more with
    | nil => rfl
    | cons next more =>
      have hmore : ∀ v ∈ next :: more, v ≠ [] := fun v hv => h v (List.mem_cons_of_mem w hv)
      have hlast : (next :: more).getLast (by simp) ≠ [] := hmore _ (List.getLast_mem _)
      have hrest := ih hmore (by simp)
      have hjoin : join between (next :: more) ≠ [] := by
        intro hnil
        rw [hnil, List.getLast?_nil] at hrest
        exact hlast (List.getLast?_eq_none_iff.mp hrest.symm)
      rw [join_cons_cons, List.getLast?_append_of_ne_nil _ hjoin, hrest]
      rfl

theorem collapseBlanks_cons {c : Char} (hc : isBlank c = false) (s : List Char) :
    collapseBlanks (c :: s) = c :: collapseBlanks s := by
  cases s with
  | nil => simp [collapseBlanks, hc]
  | cons d s => simp [collapseBlanks, hc]

theorem collapseBlanks_append {w : List Char} (h : ∀ c ∈ w, isBlank c = false) (s : List Char) :
    collapseBlanks (w ++ s) = w ++ collapseBlanks s := by
  induction w with
  | nil => rfl
  | cons c w ih =>
    have hw := ih fun x hx => h x (List.mem_cons_of_mem c hx)
    rw [List.cons_append, collapseBlanks_cons (h c (by simp)), hw, List.cons_append]

theorem collapseBlanks_space_cons {c : Char} (hc : isBlank c = false) (s : List Char) :
    collapseBlanks (' ' :: c :: s) = ' ' :: collapseBlanks (c :: s) := by
  simp [collapseBlanks, isBlank_space, hc]

/-- A character is kept unless it is a space in front of a colon or a colon in front of a space. -/
theorem tightenColons_cons {c : Char} {s : List Char} (hspace : c = ' ' → s.head? ≠ some ':')
    (hcolon : c = ':' → s.head? ≠ some ' ') : tightenColons (c :: s) = c :: tightenColons s := by
  rw [tightenColons]
  · rintro rest rfl rfl
    simp at hspace
  · rintro rest rfl rfl
    simp at hspace
  · rintro rest rfl rfl
    simp at hcolon

theorem tightenColons_append {w : List Char} (hspace : ' ' ∉ w) (hlast : w.getLast? ≠ some ':')
    (s : List Char) : tightenColons (w ++ s) = w ++ tightenColons s := by
  induction w with
  | nil => rfl
  | cons c w ih =>
    simp only [List.mem_cons, not_or] at hspace
    have hc : c ≠ ' ' := Ne.symm hspace.1
    have hw : tightenColons (w ++ s) = w ++ tightenColons s := by
      apply ih hspace.2
      cases w with
      | nil => simp
      | cons d w => simpa using hlast
    -- a colon is followed by a character of the word, which is no space
    have hnext : c = ':' → (w ++ s).head? ≠ some ' ' := by
      rintro rfl
      cases w with
      | nil => simp at hlast
      | cons d w =>
        intro hd
        simp only [List.cons_append, List.head?_cons, Option.some.injEq] at hd
        simp [hd] at hspace
    rw [List.cons_append, tightenColons_cons (fun hsp => absurd hsp hc) hnext, hw,
      List.cons_append]

variable {words : List (List Char)}

theorem isTrimmed_join (hne : words ≠ []) (h : ∀ w ∈ words, IsWord w) :
    IsTrimmed (join [' '] words) := by
  constructor
  · intro c hc
    obtain ⟨w, more, rfl⟩ := List.exists_cons_of_ne_nil hne
    have hw := h w (by simp)
    rw [head_join hw.ne_nil] at hc
    exact hw.plain c (List.mem_of_head? hc)
  · intro c hc
    rw [getLast_join (fun w hw => (h w hw).ne_nil) _ hne] at hc
    exact (h _ (List.getLast_mem hne)).plain c (List.mem_of_getLast? hc)

theorem collapseBlanks_join (h : ∀ w ∈ words, IsWord w) :
    collapseBlanks (join [' '] words) = join [' '] words := by
  induction words with
  | nil => rfl
  | cons w more ih =>
    have hw := h w (by simp)
    cases more with
    | nil => simpa [join, collapseBlanks] using collapseBlanks_append hw.plain []
    | cons next more =>
      have hnext := h next (by simp)
      have hrest := ih fun v hv => h v (List.mem_cons_of_mem w hv)
      obtain ⟨c, rest, hc⟩ : ∃ c rest, join [' '] (next :: more) = c :: rest := by
        have hhead := head_join hnext.ne_nil [' '] more
        cases hj : join [' '] (next :: more) with
        | nil =>
          rw [hj] at hhead
          exact absurd (List.head?_eq_none_iff.mp hhead.symm) hnext.ne_nil
        | cons c rest => exact ⟨c, rest, rfl⟩
      have hblank : isBlank c = false := by
        have hhead := head_join hnext.ne_nil [' '] more
        rw [hc] at hhead
        exact hnext.plain c (List.mem_of_head? hhead.symm)
      rw [join_cons_cons, List.append_assoc, collapseBlanks_append hw.plain, hc,
        List.singleton_append, collapseBlanks_space_cons hblank, ← hc, hrest]

theorem tightenColons_join (h : ∀ w ∈ words, IsWord w) :
    tightenColons (join [' '] words) = join [' '] words := by
  induction words with
  | nil => rfl
  | cons w more ih =>
    have hw := h w (by simp)
    cases more with
    | nil =>
      simpa [join, tightenColons] using tightenColons_append hw.space_not_mem hw.last []
    | cons next more =>
      have hnext := h next (by simp)
      have hrest := ih fun v hv => h v (List.mem_cons_of_mem w hv)
      have hcolon : (join [' '] (next :: more)).head? ≠ some ':' := by
        rw [head_join hnext.ne_nil]
        exact hnext.first
      rw [join_cons_cons, List.append_assoc, tightenColons_append hw.space_not_mem hw.last,
        List.singleton_append, tightenColons_cons (fun _ => hcolon) (by simp), hrest]

/-- Words with single spaces between them are in canonical spacing. -/
theorem normalizeSpacing_join (hne : words ≠ []) (h : ∀ w ∈ words, IsWord w) :
    normalizeSpacing (join [' '] words) = join [' '] words := by
  rw [normalizeSpacing, (isTrimmed_join hne h).trim_eq, collapseBlanks_join h,
    tightenColons_join h]

theorem normalizeSpacing_append_space (s : List Char) :
    normalizeSpacing (s ++ [' ']) = normalizeSpacing s := by
  rw [normalizeSpacing, trim_append_blank isBlank_space, normalizeSpacing]

end Crosswalk.Text
