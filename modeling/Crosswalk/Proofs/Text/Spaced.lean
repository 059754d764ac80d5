import Crosswalk.Proofs.Text.Words

/-!
Words with runs of blanks between them.

Whatever blanks stand between words and around them, canonical spacing leaves the words in their
order with one space between any two of them.
-/

namespace Crosswalk.Text

/-- Words one after the other, with one or more blanks between any two of them. -/
inductive Spaced : List (List Char) → List Char → Prop where
  | nil : Spaced [] []
  | word (w : List Char) : Spaced [w] w
  | cons {w next gap s : List Char} {more : List (List Char)} (hgap : gap ≠ [])
    (hblank : isAllBlank gap = true) (h : Spaced (next :: more) s) :
    Spaced (w :: next :: more) (w ++ gap ++ s)

/-- A run of blanks in front of a word is put down as one space. -/
theorem collapseBlanks_gap {gap s : List Char} {c : Char} (hgap : gap ≠ [])
    (hblank : isAllBlank gap = true) (hc : isBlank c = false) :
    collapseBlanks (gap ++ c :: s) = ' ' :: collapseBlanks (c :: s) := by
  rw [isAllBlank, List.all_eq_true] at hblank
  induction gap with
  | nil => exact absurd rfl hgap
  | cons b rest ih =>
    have hb : isBlank b = true := hblank b List.mem_cons_self
    cases rest with
    | nil => simp [collapseBlanks, hb, hc]
    | cons b' rest =>
      have hb' : isBlank b' = true := hblank b' (by simp)
      have hrest := ih (by simp) fun x hx => hblank x (List.mem_cons_of_mem b hx)
      rw [List.cons_append] at hrest
      rw [List.cons_append, List.cons_append, collapseBlanks, if_pos hb, if_pos hb', hrest]

namespace Spaced

variable {words : List (List Char)} {s : List Char}

theorem ne_nil (h : Spaced words s) (hwords : ∀ w ∈ words, IsWord w) (hne : words ≠ []) :
    s ≠ [] := by
  cases h with
  | nil => exact absurd rfl hne
  | word => exact (hwords s List.mem_cons_self).ne_nil
  | cons => simp [(hwords _ List.mem_cons_self).ne_nil]

theorem isTrimmed (h : Spaced words s) (hwords : ∀ w ∈ words, IsWord w) : IsTrimmed s := by
  induction h with
  | nil => exact isTrimmed_of_forall fun c hc => nomatch hc
  | word w => exact isTrimmed_of_forall (hwords w List.mem_cons_self).plain
  | cons _ _ h ih =>
    have hw := hwords _ List.mem_cons_self
    have hmore := fun v hv => hwords v (List.mem_cons_of_mem _ hv)
    exact (isTrimmed_of_forall hw.plain).around (ih hmore) hw.ne_nil (h.ne_nil hmore (by simp)) _

theorem collapseBlanks_eq (h : Spaced words s) (hwords : ∀ w ∈ words, IsWord w) :
    collapseBlanks s = join [' '] words := by
  induction h with
  | nil => rfl
  | word w =>
    have hw := collapseBlanks_append (hwords w List.mem_cons_self).plain []
    rw [List.append_nil] at hw
    rw [hw, collapseBlanks, List.append_nil, join]
  | @cons w next gap rest more hgap hblank h ih =>
    have hmore := fun v hv => hwords v (List.mem_cons_of_mem w hv)
    obtain ⟨c, tail, rfl⟩ := List.exists_cons_of_ne_nil (h.ne_nil hmore (by simp))
    have hc : isBlank c = false := (h.isTrimmed hmore).first c rfl
    rw [List.append_assoc, collapseBlanks_append (hwords w List.mem_cons_self).plain,
      collapseBlanks_gap hgap hblank hc, ih hmore, join_cons_cons, List.append_assoc,
      List.singleton_append]

/-- Canonical spacing leaves one space between words. -/
theorem normalizeSpacing_eq (h : Spaced words s) (hwords : ∀ w ∈ words, IsWord w)
    {before after : List Char} (hbefore : isAllBlank before = true)
    (hafter : isAllBlank after = true) :
    normalizeSpacing (before ++ s ++ after) = join [' '] words := by
  rw [normalizeSpacing, trim_around hbefore hafter (h.isTrimmed hwords),
    h.collapseBlanks_eq hwords, tightenColons_join hwords]

/-- A character of spaced words is a blank between them or stands in one of them. -/
theorem mem (h : Spaced words s) {c : Char} (hc : c ∈ s) :
    isBlank c = true ∨ ∃ w ∈ words, c ∈ w := by
  induction h with
  | nil => cases hc
  | word w => exact .inr ⟨w, List.mem_cons_self, hc⟩
  | @cons w next gap rest more hgap hblank h ih =>
    rw [List.mem_append, List.mem_append] at hc
    rcases hc with (hc | hc) | hc
    · exact .inr ⟨w, List.mem_cons_self, hc⟩
    · exact .inl (List.all_eq_true.mp hblank c hc)
    · exact (ih hc).imp_right fun ⟨v, hv, hcv⟩ => ⟨v, List.mem_cons_of_mem w hv, hcv⟩

end Spaced

end Crosswalk.Text
