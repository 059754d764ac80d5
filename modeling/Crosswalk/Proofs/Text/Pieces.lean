import Mathlib.Data.List.Basic
import Crosswalk.Text.Basic

/-!
What cutting and joining do to each other.

Cutting everywhere is additive over a separator, so the pieces of joined texts are the texts
themselves when none of them holds the separator. Cutting once is described by an equivalence: the
text is the front, the mark and the back, and the front does not hold the mark.
-/

namespace Crosswalk.Text

variable {sep : Char → Bool} {mark : Char}

theorem beginsWith_iff {lead s : List Char} : beginsWith lead s = true ↔ lead <+: s := by
  rw [beginsWith, Option.isSome_iff_exists]
  constructor
  · rintro ⟨rest, hrest⟩
    exact ⟨rest, (stripLead?_eq_some_iff.mp hrest).symm⟩
  · rintro ⟨rest, hrest⟩
    exact ⟨rest, stripLead?_eq_some_iff.mpr hrest.symm⟩

theorem beginsWith_append {lead s : List Char} (h : beginsWith lead s = true) (t : List Char) :
    beginsWith lead (s ++ t) = true := by
  obtain ⟨rest, hrest⟩ := Option.isSome_iff_exists.mp h
  rw [stripLead?_eq_some_iff] at hrest
  exact Option.isSome_iff_exists.mpr
    ⟨rest ++ t, stripLead?_eq_some_iff.mpr (by rw [hrest, List.append_assoc])⟩

/-- A beginning without a certain character ends before that character stands in the text. -/
theorem beginsWith_of_append {lead s t : List Char} {c : Char} (hc : c ∉ lead)
    (h : beginsWith lead (s ++ c :: t) = true) : beginsWith lead s = true := by
  obtain ⟨rest, hrest⟩ := Option.isSome_iff_exists.mp h
  rw [stripLead?_eq_some_iff] at hrest
  rcases List.append_eq_append_iff.mp hrest with ⟨more, hlead, -⟩ | ⟨more, hs, -⟩
  · cases more with
    | nil =>
      rw [List.append_nil] at hlead
      exact Option.isSome_iff_exists.mpr ⟨[], stripLead?_eq_some_iff.mpr (by simp [hlead])⟩
    | cons d more =>
      rw [hlead, List.append_assoc, List.append_cancel_left_eq, List.cons_append,
        List.cons.injEq] at hrest
      exact absurd (by simp [hlead, hrest.1]) hc
  · exact Option.isSome_iff_exists.mpr ⟨more, stripLead?_eq_some_iff.mpr hs⟩

theorem pieces_ne_nil (s : List Char) : pieces sep s ≠ [] := by
  induction s with
  | nil => simp [pieces]
  | cons c rest ih =>
    by_cases hc : sep c = true
    · simp [pieces, hc]
    · cases hp : pieces sep rest with
      | nil => exact absurd hp ih
      | cons part more => simp [pieces, hc, hp, consFirst]

theorem consFirst_append (c : Char) {parts : List (List Char)} (h : parts ≠ [])
    (more : List (List Char)) : consFirst c (parts ++ more) = consFirst c parts ++ more := by
  cases parts with
  | nil => exact absurd rfl h
  | cons part rest => rfl

theorem foldr_consFirst (front part : List Char) (more : List (List Char)) :
    front.foldr consFirst (part :: more) = (front ++ part) :: more := by
  induction front with
  | nil => rfl
  | cons c rest ih => rw [List.foldr_cons, ih]; rfl

/-- The pieces on both sides of a separator are found independently of each other. -/
theorem pieces_append_cons {c : Char} (hc : sep c = true) (a b : List Char) :
    pieces sep (a ++ c :: b) = pieces sep a ++ pieces sep b := by
  induction a with
  | nil => simp [pieces, hc]
  | cons x a ih =>
    by_cases hx : sep x = true
    · simp [pieces, hx, ih]
    · have hstep := consFirst_append x (@pieces_ne_nil sep a) (pieces sep b)
      simp [pieces, hx, ih, hstep]

theorem pieces_eq_self {s : List Char} (h : ∀ c ∈ s, sep c = false) : pieces sep s = [s] := by
  induction s with
  | nil => rfl
  | cons c rest ih =>
    have hrest := ih fun x hx => h x (List.mem_cons_of_mem c hx)
    simp [pieces, h c (by simp), hrest, consFirst]

/-- A character of a piece stands in the text and separates nothing. -/
theorem mem_of_mem_pieces {s part : List Char} {c : Char} (hpart : part ∈ pieces sep s)
    (hc : c ∈ part) : c ∈ s ∧ sep c = false := by
  induction s generalizing part with
  | nil =>
    simp only [pieces, List.mem_singleton] at hpart
    subst hpart
    cases hc
  | cons x rest ih =>
    by_cases hx : sep x = true
    · simp only [pieces, hx, if_true, List.mem_cons] at hpart
      rcases hpart with rfl | hpart
      · cases hc
      · obtain ⟨hmem, hsep⟩ := ih hpart hc
        exact ⟨List.mem_cons_of_mem x hmem, hsep⟩
    · cases hp : pieces sep rest with
      | nil => exact absurd hp (pieces_ne_nil rest)
      | cons first more =>
        simp only [pieces, hx, hp, consFirst, Bool.false_eq_true, if_false, List.mem_cons]
          at hpart
        rcases hpart with rfl | hpart
        · rcases List.mem_cons.mp hc with rfl | hc
          · exact ⟨by simp, by simpa using hx⟩
          · obtain ⟨hmem, hsep⟩ := ih (by simp [hp]) hc
            exact ⟨List.mem_cons_of_mem x hmem, hsep⟩
        · obtain ⟨hmem, hsep⟩ := ih (by simp [hp, hpart]) hc
          exact ⟨List.mem_cons_of_mem x hmem, hsep⟩

theorem join_consFirst (c : Char) (between : List Char) {parts : List (List Char)}
    (h : parts ≠ []) : join between (consFirst c parts) = c :: join between parts := by
  match parts, h with
  | [part], _ => rfl
  | part :: next :: more, _ => rfl

/-- Joining the pieces with what they were cut at gives the text back. -/
theorem join_pieces (s : List Char) : join [mark] (pieces (· == mark) s) = s := by
  induction s with
  | nil => rfl
  | cons c rest ih =>
    have hne := @pieces_ne_nil (· == mark) rest
    by_cases hc : c = mark
    · obtain ⟨first, more, hp⟩ := List.exists_cons_of_ne_nil hne
      rw [hp] at ih
      simp [pieces, hc, hp, join, ih]
    · simp [pieces, hc, join_consFirst c _ hne, ih]

/-- A character of a text separates its pieces or stands in one of them. -/
theorem mem_pieces_of_mem {s : List Char} {c : Char} (h : c ∈ s) :
    sep c = true ∨ ∃ part ∈ pieces sep s, c ∈ part := by
  induction s with
  | nil => cases h
  | cons x rest ih =>
    by_cases hx : sep x = true
    · rcases List.mem_cons.mp h with rfl | h
      · exact Or.inl hx
      · rcases ih h with hsep | ⟨part, hpart, hmem⟩
        · exact Or.inl hsep
        · exact Or.inr ⟨part, by simp [pieces, hx, hpart], hmem⟩
    · obtain ⟨first, more, hp⟩ := List.exists_cons_of_ne_nil (@pieces_ne_nil sep rest)
      have hpieces : pieces sep (x :: rest) = (x :: first) :: more := by
        simp [pieces, hx, hp, consFirst]
      rw [hpieces]
      rcases List.mem_cons.mp h with rfl | h
      · exact Or.inr ⟨c :: first, by simp, by simp⟩
      · rcases ih h with hsep | ⟨part, hpart, hmem⟩
        · exact Or.inl hsep
        · rw [hp] at hpart
          rcases List.mem_cons.mp hpart with rfl | hpart
          · exact Or.inr ⟨x :: part, by simp, by simp [hmem]⟩
          · exact Or.inr ⟨part, by simp [hpart], hmem⟩

/-- Joined texts are cut back into themselves. -/
theorem pieces_join {parts : List (List Char)} (hne : parts ≠ [])
    (h : ∀ part ∈ parts, mark ∉ part) : pieces (· == mark) (join [mark] parts) = parts := by
  have hself : ∀ part ∈ parts, pieces (· == mark) part = [part] := by
    intro part hpart
    apply pieces_eq_self
    intro c hc
    exact beq_false_of_ne fun heq => h part hpart (heq ▸ hc)
  clear h
  induction parts with
  | nil => exact absurd rfl hne
  | cons part more ih =>
    cases more with
    | nil => exact hself part (by simp)
    | cons next more =>
      have hrest := ih (by simp) fun p hp => hself p (List.mem_cons_of_mem part hp)
      simp only [join, List.append_assoc, List.singleton_append]
      rw [pieces_append_cons (by simp), hself part (by simp), hrest]
      rfl

theorem cutAt_eq_some_iff {s before after : List Char} :
    cutAt mark s = some (before, after) ↔ s = before ++ mark :: after ∧ mark ∉ before := by
  induction s generalizing before with
  | nil => simp [cutAt, cutWhere]
  | cons c rest ih =>
    rw [cutAt] at ih
    by_cases hc : c = mark
    · subst hc
      cases before with
      | nil => simp [cutAt, cutWhere, eq_comm]
      | cons b before =>
        simp only [cutAt, cutWhere, beq_self_eq_true, if_true, Option.some.injEq, Prod.mk.injEq,
          List.cons_append, List.cons.injEq, List.mem_cons, not_or]
        constructor
        · rintro ⟨hnil, -⟩
          cases hnil
        · rintro ⟨⟨heq, -⟩, hne, -⟩
          exact absurd heq hne
    · cases before with
      | nil => simp [cutAt, cutWhere, hc]
      | cons b before =>
        have hstep := @ih before
        simp only [cutAt, cutWhere, beq_eq_false_iff_ne.mpr hc, Bool.false_eq_true, if_false,
          Option.map_eq_some_iff, Prod.exists, Prod.mk.injEq, List.cons.injEq, List.cons_append,
          List.mem_cons, not_or]
        constructor
        · rintro ⟨u, v, huv, ⟨rfl, rfl⟩, rfl⟩
          obtain ⟨hsplit, hmem⟩ := hstep.mp huv
          exact ⟨⟨rfl, hsplit⟩, Ne.symm hc, hmem⟩
        · rintro ⟨⟨rfl, hsplit⟩, -, hmem⟩
          exact ⟨before, after, hstep.mpr ⟨hsplit, hmem⟩, ⟨rfl, rfl⟩, rfl⟩

theorem cutAt_append {before : List Char} (h : mark ∉ before) (after : List Char) :
    cutAt mark (before ++ mark :: after) = some (before, after) :=
  cutAt_eq_some_iff.mpr ⟨rfl, h⟩

theorem cutAt_eq_none {s : List Char} (h : mark ∉ s) : cutAt mark s = none := by
  cases hcut : cutAt mark s with
  | none => rfl
  | some found =>
    obtain ⟨hsplit, -⟩ := cutAt_eq_some_iff.mp hcut
    exact absurd (hsplit ▸ by simp) h

theorem notMem_of_cutAt {s : List Char} (h : cutAt mark s = none) : mark ∉ s := by
  intro hmem
  obtain ⟨before, after, rfl, hbefore⟩ := List.eq_append_cons_of_mem hmem
  rw [cutAt_append hbefore] at h
  cases h

section CutAtText

variable {first : Char} {more front : List Char}

/-- What does not hold the first character of a text holds no beginning of that text. -/
theorem cutAtText_append (h : first ∉ front) (s : List Char) :
    cutAtText (first :: more) (front ++ s) =
      (cutAtText (first :: more) s).map fun (before, after) => (front ++ before, after) := by
  induction front with
  | nil => simp
  | cons c rest ih =>
    have hc : first ≠ c := fun heq => h (heq ▸ List.mem_cons_self)
    have hrest := ih fun hmem => h (List.mem_cons_of_mem c hmem)
    rw [List.cons_append, cutAtText]
    simp only [stripLead?, if_neg hc, hrest]
    cases cutAtText (first :: more) s <;> rfl

theorem cutAtText_append_mark (h : first ∉ front) (after : List Char) :
    cutAtText (first :: more) (front ++ first :: more ++ after) = some (front, after) := by
  have hmark : stripLead? (first :: more) (first :: (more ++ after)) = some after :=
    stripLead?_eq_some_iff.mpr rfl
  rw [List.append_assoc, cutAtText_append h, List.cons_append, cutAtText, hmark]
  simp

theorem cutAtText_eq_none (h : first ∉ front) : cutAtText (first :: more) front = none := by
  have hcut : cutAtText (first :: more) (front ++ []) = _ := cutAtText_append h []
  rw [List.append_nil] at hcut
  exact hcut

theorem cutAtText_eq_some {mark s before after : List Char}
    (h : cutAtText mark s = some (before, after)) : s = before ++ mark ++ after := by
  induction s generalizing before with
  | nil =>
    rw [cutAtText] at h
    split at h
    · rename_i hempty
      cases h
      simpa using hempty
    · cases h
  | cons c rest ih =>
    rw [cutAtText] at h
    split at h
    · rename_i found hlead
      cases h
      exact stripLead?_eq_some_iff.mp hlead
    · obtain ⟨⟨front, back⟩, hcut, heq⟩ := Option.map_eq_some_iff.mp h
      cases heq
      rw [ih hcut]
      rfl

end CutAtText

theorem cutAtLast_eq_some_iff {s before after : List Char} :
    cutAtLast mark s = some (before, after) ↔ s = before ++ mark :: after ∧ mark ∉ after := by
  simp only [cutAtLast, Option.map_eq_some_iff, Prod.exists, Prod.mk.injEq]
  constructor
  · rintro ⟨u, v, huv, rfl, rfl⟩
    obtain ⟨hsplit, hmem⟩ := cutAt_eq_some_iff.mp huv
    have hback := congrArg List.reverse hsplit
    exact ⟨by simpa using hback, by simpa using hmem⟩
  · rintro ⟨rfl, hmem⟩
    refine ⟨after.reverse, before.reverse, cutAt_eq_some_iff.mpr ⟨?_, ?_⟩, ?_, ?_⟩ <;> simp [hmem]

end Crosswalk.Text
