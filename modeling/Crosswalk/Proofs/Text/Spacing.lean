import Crosswalk.Proofs.Text.Spaced

/-!
Canonical spacing.

A text is a row of characters that are no blanks, each with the blanks behind it. Canonical spacing
keeps the characters and treats every gap between neighbours by itself: one space is left where
there was a blank and neither neighbour is a colon, and nothing otherwise.
-/

namespace Crosswalk.Text

/-- The characters of a text that are no blanks. -/
def solid (s : List Char) : List Char := s.filter fun c => !isBlank c

/-- Two characters that are no blanks, the blanks between them, and the number of characters that
are no blanks in front of them. -/
inductive Neighbours : List Char → Nat → Char → List Char → Char → Prop where
  | of {before gap after : List Char} {c d : Char} (hc : isBlank c = false)
    (hgap : isAllBlank gap = true) (hd : isBlank d = false) :
    Neighbours (before ++ c :: (gap ++ d :: after)) (solid before).length c gap d

/-- The blanks that a text begins with, and its other characters, each with the blanks behind it. -/
def rowOf : List Char → List Char × List (Char × List Char)
  | [] => ([], [])
  | c :: rest =>
    if isBlank c then (c :: (rowOf rest).1, (rowOf rest).2)
    else ([], (c, (rowOf rest).1) :: (rowOf rest).2)

def rowText (row : List (Char × List Char)) : List Char := row.flatMap fun (c, gap) => c :: gap

/-- A row as a text gives it. -/
def IsRow (row : List (Char × List Char)) : Prop :=
  ∀ cell ∈ row, isBlank cell.1 = false ∧ isAllBlank cell.2 = true

/-- Puts other gaps between neighbours, and none behind the last character. -/
def respace (f : Char → List Char → Char → List Char) :
    List (Char × List Char) → List (Char × List Char)
  | [] => []
  | (c, gap) :: row => (c, row.head?.elim [] fun cell => f c gap cell.1) :: respace f row

def kept (_ : Char) (gap : List Char) (_ : Char) : List Char := gap

/-- One space for a gap. -/
def collapsed (_ : Char) (gap : List Char) (_ : Char) : List Char := if gap = [] then [] else [' ']

/-- One space for a gap, unless there is a colon beside it. -/
def tightened (c : Char) (gap : List Char) (d : Char) : List Char :=
  if gap ≠ [] ∧ c ≠ ':' ∧ d ≠ ':' then [' '] else []

variable {s lead gap next : List Char} {row : List (Char × List Char)} {c d : Char} {n : Nat}
  {f : Char → List Char → Char → List Char}

/-! A text as a row. -/

theorem solid_append (s t : List Char) : solid (s ++ t) = solid s ++ solid t :=
  List.filter_append s t

theorem solid_cons (hc : isBlank c = false) (s : List Char) : solid (c :: s) = c :: solid s := by
  simp [solid, hc]

theorem solid_blanks (h : isAllBlank s = true) : solid s = [] := by
  rw [isAllBlank, List.all_eq_true] at h
  rw [solid, List.filter_eq_nil_iff]
  intro c hc
  simp [h c hc]

theorem rowOf_blank (hc : isBlank c = true) (s : List Char) :
    rowOf (c :: s) = (c :: (rowOf s).1, (rowOf s).2) := by
  rw [rowOf, if_pos hc]

theorem rowOf_solid (hc : isBlank c = false) (s : List Char) :
    rowOf (c :: s) = ([], (c, (rowOf s).1) :: (rowOf s).2) := by
  rw [rowOf, hc]
  rfl

theorem rowOf_blanks (hlead : isAllBlank lead = true) (s : List Char) :
    rowOf (lead ++ s) = (lead ++ (rowOf s).1, (rowOf s).2) := by
  induction lead with
  | nil => rfl
  | cons c rest ih =>
    obtain ⟨hc, hrest⟩ := isAllBlank_cons_iff.mp hlead
    rw [List.cons_append, rowOf_blank hc, ih hrest]
    rfl

theorem isRow_cons_iff : IsRow ((c, gap) :: row) ↔
    (isBlank c = false ∧ isAllBlank gap = true) ∧ IsRow row :=
  List.forall_mem_cons

theorem rowText_cons (c : Char) (gap : List Char) (row : List (Char × List Char)) :
    rowText ((c, gap) :: row) = c :: (gap ++ rowText row) := rfl

theorem rowText_append (row more : List (Char × List Char)) :
    rowText (row ++ more) = rowText row ++ rowText more := List.flatMap_append

/-- A row is that of its text. -/
theorem rowOf_rowText (h : IsRow row) : rowOf (rowText row) = ([], row) := by
  induction row with
  | nil => rfl
  | cons cell row ih =>
    obtain ⟨c, gap⟩ := cell
    obtain ⟨⟨hc, hgap⟩, hrow⟩ := isRow_cons_iff.mp h
    rw [rowText_cons, rowOf_solid hc, rowOf_blanks hgap, ih hrow, List.append_nil]

theorem isRow_rowOf (s : List Char) : isAllBlank (rowOf s).1 = true ∧ IsRow (rowOf s).2 := by
  induction s with
  | nil => exact ⟨rfl, fun cell hcell => nomatch hcell⟩
  | cons c rest ih =>
    cases hc : isBlank c with
    | true =>
      rw [rowOf_blank hc]
      exact ⟨isAllBlank_cons_iff.mpr ⟨hc, ih.1⟩, ih.2⟩
    | false =>
      rw [rowOf_solid hc]
      exact ⟨rfl, isRow_cons_iff.mpr ⟨⟨hc, ih.1⟩, ih.2⟩⟩

theorem rowText_rowOf (s : List Char) : (rowOf s).1 ++ rowText (rowOf s).2 = s := by
  induction s with
  | nil => rfl
  | cons c rest ih =>
    cases hc : isBlank c with
    | true => rw [rowOf_blank hc, List.cons_append, ih]
    | false => rw [rowOf_solid hc, List.nil_append, rowText_cons, ih]

theorem solid_rowText (h : IsRow row) : solid (rowText row) = row.map Prod.fst := by
  induction row with
  | nil => rfl
  | cons cell row ih =>
    obtain ⟨c, gap⟩ := cell
    obtain ⟨⟨hc, hgap⟩, hrow⟩ := isRow_cons_iff.mp h
    rw [rowText_cons, solid_cons hc, solid_append, solid_blanks hgap, List.nil_append, ih hrow,
      List.map_cons]

theorem map_rowOf (s : List Char) : (rowOf s).2.map Prod.fst = solid s := by
  obtain ⟨hlead, hrow⟩ := isRow_rowOf s
  have hsolid := solid_append (rowOf s).1 (rowText (rowOf s).2)
  rw [rowText_rowOf, solid_blanks hlead, List.nil_append, solid_rowText hrow] at hsolid
  exact hsolid.symm

/-- Behind some characters the row of a text goes on as that of what is left. -/
theorem drop_rowOf (s t : List Char) : (rowOf (s ++ t)).2.drop (solid s).length = (rowOf t).2 := by
  induction s with
  | nil => rfl
  | cons c rest ih =>
    cases hc : isBlank c with
    | true => simpa [rowOf_blank hc, solid, hc] using ih
    | false => simpa [rowOf_solid hc, solid, hc] using ih

/-- Neighbours stand side by side in the row. -/
theorem neighbours_iff : Neighbours s n c gap d ↔
    ∃ next more, (rowOf s).2.drop n = (c, gap) :: (d, next) :: more := by
  constructor
  · rintro ⟨hc, hgap, hd⟩
    rename_i before after
    refine ⟨(rowOf after).1, (rowOf after).2, ?_⟩
    rw [drop_rowOf, rowOf_solid hc, rowOf_blanks hgap, rowOf_solid hd, List.append_nil]
  · rintro ⟨next, more, hdrop⟩
    obtain ⟨hlead, hrow⟩ := isRow_rowOf s
    have hn : n ≤ (rowOf s).2.length := by
      by_contra hlong
      rw [List.drop_eq_nil_of_le (by omega)] at hdrop
      cases hdrop
    have hfront : IsRow ((rowOf s).2.take n) := fun cell hcell =>
      hrow cell (List.mem_of_mem_take hcell)
    have hback : IsRow ((c, gap) :: (d, next) :: more) := fun cell hcell =>
      hrow cell (List.mem_of_mem_drop (hdrop ▸ hcell))
    obtain ⟨⟨hc, hgap⟩, hmore⟩ := isRow_cons_iff.mp hback
    obtain ⟨⟨hd, -⟩, -⟩ := isRow_cons_iff.mp hmore
    have htext : (rowOf s).1 ++ rowText ((rowOf s).2.take n) ++
        c :: (gap ++ d :: (next ++ rowText more)) = s := by
      rw [← rowText_cons d, ← rowText_cons c, ← hdrop, List.append_assoc, ← rowText_append,
        List.take_append_drop, rowText_rowOf]
    have hcount : (solid ((rowOf s).1 ++ rowText ((rowOf s).2.take n))).length = n := by
      rw [solid_append, solid_blanks hlead, List.nil_append, solid_rowText hfront,
        List.length_map, List.length_take_of_le hn]
    have hneighbours := @Neighbours.of ((rowOf s).1 ++ rowText ((rowOf s).2.take n)) gap
      (next ++ rowText more) c d hc hgap hd
    rwa [htext, hcount] at hneighbours

/-! Other gaps. -/

theorem map_respace (f : Char → List Char → Char → List Char) (row : List (Char × List Char)) :
    (respace f row).map Prod.fst = row.map Prod.fst := by
  induction row with
  | nil => rfl
  | cons cell row ih => rw [respace, List.map_cons, ih, List.map_cons]

theorem drop_respace (f : Char → List Char → Char → List Char) (row : List (Char × List Char))
    (n : Nat) : (respace f row).drop n = respace f (row.drop n) := by
  induction n generalizing row with
  | zero => rfl
  | succ n ih =>
    cases row with
    | nil => rfl
    | cons cell row => exact ih row

theorem respace_respace (f g : Char → List Char → Char → List Char)
    (row : List (Char × List Char)) :
    respace f (respace g row) = respace (fun c gap d => f c (g c gap d) d) row := by
  induction row with
  | nil => rfl
  | cons cell row ih =>
    cases row with
    | nil => rfl
    | cons next row => rw [respace, respace, ih]; rfl

theorem isRow_respace (hf : ∀ c gap d, isAllBlank gap = true → isAllBlank (f c gap d) = true)
    (h : IsRow row) : IsRow (respace f row) := by
  induction row with
  | nil => exact h
  | cons cell row ih =>
    obtain ⟨⟨hc, hgap⟩, hrow⟩ := isRow_cons_iff.mp h
    refine isRow_cons_iff.mpr ⟨⟨hc, ?_⟩, ih hrow⟩
    cases row with
    | nil => rfl
    | cons next row => exact hf _ _ _ hgap

theorem rowText_respace_cons_cons (f : Char → List Char → Char → List Char) :
    rowText (respace f ((c, gap) :: (d, next) :: row)) =
      c :: (f c gap d ++ rowText (respace f ((d, next) :: row))) := rfl

/-- A text with other gaps begins and ends with characters that are no blanks. -/
theorem isTrimmed_respace (h : IsRow row) : IsTrimmed (rowText (respace f row)) := by
  induction row with
  | nil => exact isTrimmed_of_forall fun c hc => nomatch hc
  | cons cell row ih =>
    obtain ⟨c, gap⟩ := cell
    obtain ⟨⟨hc, -⟩, hrow⟩ := isRow_cons_iff.mp h
    have hfirst : IsTrimmed [c] := isTrimmed_of_forall (List.forall_mem_singleton.mpr hc)
    cases row with
    | nil => exact hfirst
    | cons next row =>
      exact hfirst.around (ih hrow) (by simp) (by simp [respace, rowText]) (f c gap next.1)

theorem exists_rowText_kept (h : IsRow row) :
    ∃ after, isAllBlank after = true ∧ rowText row = rowText (respace kept row) ++ after := by
  induction row with
  | nil => exact ⟨[], rfl, rfl⟩
  | cons cell row ih =>
    obtain ⟨c, gap⟩ := cell
    obtain ⟨⟨hc, hgap⟩, hrow⟩ := isRow_cons_iff.mp h
    cases row with
    | nil => exact ⟨gap, hgap, by simp [rowText, respace]⟩
    | cons next row =>
      obtain ⟨after, hafter, htext⟩ := ih hrow
      refine ⟨after, hafter, ?_⟩
      rw [rowText_cons, htext, rowText_respace_cons_cons, kept, List.cons_append, List.append_assoc]

theorem trim_eq (s : List Char) : trim s = rowText (respace kept (rowOf s).2) := by
  obtain ⟨hlead, hrow⟩ := isRow_rowOf s
  obtain ⟨after, hafter, htext⟩ := exists_rowText_kept hrow
  have hwhole := rowText_rowOf s
  rw [htext, ← List.append_assoc] at hwhole
  conv_lhs => rw [← hwhole]
  exact trim_around hlead hafter (isTrimmed_respace hrow)

theorem rowText_respace_eq_cons (f : Char → List Char → Char → List Char) (d : Char)
    (next : List Char) (row : List (Char × List Char)) :
    ∃ t, rowText (respace f ((d, next) :: row)) = d :: t := ⟨_, rfl⟩

theorem collapseBlanks_respace (h : IsRow row) :
    collapseBlanks (rowText (respace kept row)) = rowText (respace collapsed row) := by
  induction row with
  | nil => rfl
  | cons cell row ih =>
    obtain ⟨c, gap⟩ := cell
    obtain ⟨⟨hc, hgap⟩, hrow⟩ := isRow_cons_iff.mp h
    cases row with
    | nil => exact collapseBlanks_cons hc []
    | cons next row =>
      obtain ⟨d, next⟩ := next
      obtain ⟨⟨hd, -⟩, -⟩ := isRow_cons_iff.mp hrow
      obtain ⟨t, ht⟩ := rowText_respace_eq_cons kept d next row
      rw [rowText_respace_cons_cons, rowText_respace_cons_cons, kept, collapsed,
        collapseBlanks_cons hc, ← ih hrow, ht]
      by_cases hnil : gap = []
      · rw [if_pos hnil, hnil, List.nil_append, List.nil_append]
      · rw [if_neg hnil, collapseBlanks_gap hnil hgap hd, List.singleton_append]

/-- A space in front of a colon is dropped, whatever follows the colon. -/
theorem tightenColons_space_colon (s : List Char) :
    tightenColons (' ' :: ':' :: s) = tightenColons (':' :: s) := by
  by_cases hs : s.head? = some ' '
  · obtain ⟨rest, rfl⟩ := List.head?_eq_some_iff.mp hs
    simp [tightenColons]
  · rw [tightenColons_cons (by simp) fun _ => hs]
    rw [tightenColons]
    rintro rest rfl
    simp at hs

theorem ne_space_of_isBlank (hc : isBlank c = false) : c ≠ ' ' := by
  rintro rfl
  rw [isBlank_space] at hc
  cases hc

theorem tightenColons_respace (h : IsRow row) :
    tightenColons (rowText (respace collapsed row)) = rowText (respace tightened row) := by
  induction row with
  | nil => rfl
  | cons cell row ih =>
    obtain ⟨c, gap⟩ := cell
    obtain ⟨⟨hc, -⟩, hrow⟩ := isRow_cons_iff.mp h
    have hcspace := ne_space_of_isBlank hc
    cases row with
    | nil => exact tightenColons_cons (fun heq => absurd heq hcspace) (by simp [respace])
    | cons next row =>
      obtain ⟨d, next⟩ := next
      obtain ⟨⟨hd, -⟩, -⟩ := isRow_cons_iff.mp hrow
      have hdspace := ne_space_of_isBlank hd
      obtain ⟨t, ht⟩ := rowText_respace_eq_cons collapsed d next row
      rw [rowText_respace_cons_cons, rowText_respace_cons_cons, ← ih hrow, ht, collapsed, tightened]
      by_cases hnil : gap = []
      · rw [if_pos hnil, if_neg (by simp [hnil]), List.nil_append, List.nil_append]
        exact tightenColons_cons (fun heq => absurd heq hcspace) (by simpa using fun _ => hdspace)
      · rw [if_neg hnil]
        -- the space goes with the colon in front of it, or else with the one behind it
        by_cases hccolon : c = ':'
        · rw [if_neg (by simp [hccolon]), hccolon]
          rfl
        · rw [List.singleton_append, tightenColons_cons (fun heq => absurd heq hcspace)
            fun heq => absurd heq hccolon]
          by_cases hdcolon : d = ':'
          · rw [if_neg (by simp [hdcolon]), hdcolon, tightenColons_space_colon, List.nil_append]
          · rw [if_pos ⟨hnil, hccolon, hdcolon⟩,
              tightenColons_cons (by simpa using hdcolon) (by simp), List.singleton_append]

/-- Canonical spacing keeps the row of a text and gives every gap its canonical form. -/
theorem normalizeSpacing_eq_rowText (s : List Char) :
    normalizeSpacing s = rowText (respace tightened (rowOf s).2) := by
  obtain ⟨-, hrow⟩ := isRow_rowOf s
  rw [normalizeSpacing, trim_eq, collapseBlanks_respace hrow, tightenColons_respace hrow]

theorem rowOf_normalizeSpacing (s : List Char) :
    rowOf (normalizeSpacing s) = ([], respace tightened (rowOf s).2) := by
  rw [normalizeSpacing_eq_rowText]
  refine rowOf_rowText (isRow_respace ?_ (isRow_rowOf s).2)
  intro c gap d _
  rw [tightened]
  split <;> rfl

theorem tightened_tightened (c : Char) (gap : List Char) (d : Char) :
    tightened c (tightened c gap d) d = tightened c gap d := by
  by_cases hspace : gap ≠ [] ∧ c ≠ ':' ∧ d ≠ ':'
  · simp [tightened, hspace]
  · simp [tightened, hspace]

/-- Canonical spacing changes gaps only, each by itself. -/
theorem neighbours_normalizeSpacing_iff : Neighbours (normalizeSpacing s) n c gap d ↔
    ∃ old, Neighbours s n c old d ∧ gap = tightened c old d := by
  simp only [neighbours_iff, rowOf_normalizeSpacing, drop_respace]
  constructor
  · rintro ⟨next, more, hrow⟩
    match hdrop : (rowOf s).2.drop n, hrow with
    | (c, old) :: (d, behind) :: rest, rfl => exact ⟨old, ⟨behind, rest, rfl⟩, rfl⟩
  · rintro ⟨old, ⟨next, more, hdrop⟩, rfl⟩
    rw [hdrop]
    exact ⟨_, _, rfl⟩

theorem isAllBlank_or_exists_first (s : List Char) : isAllBlank s = true ∨
    ∃ gap y back, s = gap ++ y :: back ∧ isAllBlank gap = true ∧ isBlank y = false := by
  induction s with
  | nil => exact .inl rfl
  | cons c rest ih =>
    cases hc : isBlank c with
    | false => exact .inr ⟨[], c, rest, rfl, rfl, hc⟩
    | true =>
      rcases ih with hblank | ⟨gap, y, back, rfl, hgap, hy⟩
      · exact .inl (isAllBlank_cons_iff.mpr ⟨hc, hblank⟩)
      · exact .inr ⟨c :: gap, y, back, rfl, isAllBlank_cons_iff.mpr ⟨hc, hgap⟩, hy⟩

theorem isAllBlank_or_exists_last (s : List Char) : isAllBlank s = true ∨
    ∃ front x gap, s = front ++ x :: gap ∧ isBlank x = false ∧ isAllBlank gap = true := by
  rcases isAllBlank_or_exists_first s.reverse with hblank | ⟨gap, x, back, hs, hgap, hx⟩
  · rw [isAllBlank, List.all_reverse] at hblank
    exact .inl hblank
  · have hback := congrArg List.reverse hs
    rw [List.reverse_reverse, List.reverse_append, List.reverse_cons, List.append_assoc] at hback
    refine .inr ⟨back.reverse, x, gap.reverse, hback, hx, ?_⟩
    rw [isAllBlank, List.all_reverse]
    exact hgap

/-- A blank inside a trimmed text stands between neighbours. -/
theorem exists_neighbours {before after : List Char} (h : IsTrimmed (before ++ c :: after))
    (hc : isBlank c = true) :
    ∃ front x left right y back, before = front ++ x :: left ∧ after = right ++ y :: back ∧
      isBlank x = false ∧ isBlank y = false ∧
      Neighbours (before ++ c :: after) (solid front).length x (left ++ c :: right) y := by
  obtain hblank | ⟨front, x, left, rfl, hx, hleft⟩ := isAllBlank_or_exists_last before
  · have hblanks : isAllBlank (before ++ [c]) = true :=
      isAllBlank_append hblank (isAllBlank_cons_iff.mpr ⟨hc, rfl⟩)
    obtain ⟨d, rest, hd⟩ := List.exists_cons_of_ne_nil (List.concat_ne_nil c before)
    have hfirst := h.first d (by rw [List.append_cons, hd]; rfl)
    rw [hd, isAllBlank_cons_iff, hfirst] at hblanks
    cases hblanks.1
  obtain hblank | ⟨right, y, back, rfl, hright, hy⟩ := isAllBlank_or_exists_first after
  · have hblanks : isAllBlank (c :: after) = true := isAllBlank_cons_iff.mpr ⟨hc, hblank⟩
    have hne : c :: after ≠ [] := List.cons_ne_nil c after
    have hlast := h.last ((c :: after).getLast hne)
      (by rw [List.getLast?_append_of_ne_nil _ hne, List.getLast?_eq_some_getLast hne])
    rw [List.all_eq_true.mp hblanks _ (List.getLast_mem hne)] at hlast
    cases hlast
  refine ⟨front, x, left, right, y, back, rfl, rfl, hx, hy, ?_⟩
  have hgap : isAllBlank (left ++ c :: right) = true :=
    isAllBlank_append hleft (isAllBlank_cons_iff.mpr ⟨hc, hright⟩)
  have hneighbours := @Neighbours.of front _ back x y hx hgap hy
  simpa using hneighbours

/-- Canonical spacing is canonical. The text has no blank at its ends; all its blanks are single
spaces that stand between two characters neither of which is a blank or a colon. The characters that
are no blanks stay as they are, and between two neighbours among them there is a space exactly when
there was a blank and neither is a colon. Once more changes nothing. -/
theorem normalizeSpacing_canonical (s : List Char) :
    IsTrimmed (normalizeSpacing s) ∧
      (∀ before c after, normalizeSpacing s = before ++ c :: after → isBlank c = true →
        c = ' ' ∧ ∃ x y, before.getLast? = some x ∧ after.head? = some y ∧
          (isBlank x = false ∧ x ≠ ':') ∧ (isBlank y = false ∧ y ≠ ':')) ∧
      solid (normalizeSpacing s) = solid s ∧
      (∀ n c gap d, Neighbours (normalizeSpacing s) n c gap d ↔
        ∃ old, Neighbours s n c old d ∧
          gap = if old ≠ [] ∧ c ≠ ':' ∧ d ≠ ':' then [' '] else []) ∧
      normalizeSpacing (normalizeSpacing s) = normalizeSpacing s := by
  have htrimmed : IsTrimmed (normalizeSpacing s) := by
    rw [normalizeSpacing_eq_rowText]
    exact isTrimmed_respace (isRow_rowOf s).2
  refine ⟨htrimmed, ?_, ?_, fun n c gap d => neighbours_normalizeSpacing_iff, ?_⟩
  · intro before c after hsplit hc
    rw [hsplit] at htrimmed
    obtain ⟨front, x, left, right, y, back, rfl, rfl, hx, hy, hneighbours⟩ :=
      exists_neighbours htrimmed hc
    rw [← hsplit] at hneighbours
    -- the whole gap around the blank is one space
    obtain ⟨old, -, hgap⟩ := neighbours_normalizeSpacing_iff.mp hneighbours
    rw [tightened] at hgap
    split at hgap
    · rename_i hspace
      cases left with
      | nil =>
        obtain ⟨rfl, rfl⟩ := List.cons.inj hgap
        exact ⟨rfl, x, y, List.getLast?_concat, rfl, ⟨hx, hspace.2.1⟩, ⟨hy, hspace.2.2⟩⟩
      | cons => simp at hgap
    · simp at hgap
  · rw [← map_rowOf, rowOf_normalizeSpacing, map_respace, map_rowOf]
  · rw [normalizeSpacing_eq_rowText, rowOf_normalizeSpacing, respace_respace]
    simp only [tightened_tightened]
    rw [normalizeSpacing_eq_rowText]

/-- Two colons with spaces on all sides, and several kinds of blanks between two letters. -/
theorem normalizeSpacing_canonical_colons :
    let s := "\t a : :b \u00a0 c\n".toList
    let t := normalizeSpacing s
    t = "a::b".toList ++ ' ' :: "c".toList ∧ IsTrimmed t ∧
      (∃ x y, "a::b".toList.getLast? = some x ∧ "c".toList.head? = some y ∧
        (isBlank x = false ∧ x ≠ ':') ∧ (isBlank y = false ∧ y ≠ ':')) ∧
      solid t = solid s ∧ Neighbours t 0 'a' [] ':' ∧ Neighbours t 3 'b' [' '] 'c' ∧
      normalizeSpacing t = t := by
  intro s t
  have hcolon : Neighbours s 0 'a' [' '] ':' := neighbours_iff.mpr ⟨_, _, rfl⟩
  have hletters : Neighbours s 3 'b' " \u00a0 ".toList 'c' := neighbours_iff.mpr ⟨_, _, rfl⟩
  have ht : t = "a::b".toList ++ ' ' :: "c".toList := by decide +kernel
  obtain ⟨htrimmed, hblanks, hsolid, hneighbours, hagain⟩ := normalizeSpacing_canonical s
  exact ⟨ht, htrimmed, (hblanks _ _ _ ht isBlank_space).2, hsolid,
    (hneighbours ..).mpr ⟨_, hcolon, rfl⟩, (hneighbours ..).mpr ⟨_, hletters, by decide⟩, hagain⟩

end Crosswalk.Text
