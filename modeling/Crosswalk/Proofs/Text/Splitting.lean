import Crosswalk.Proofs.Text.Brackets

/-!
Where a text is split.

A separator divides a text where nothing is open in front of it. This can be said without a scan:
in front of it the quotes come in pairs with nothing of their kind in between, and outside these
pairs no end of the text opens more brackets than it closes. So a bracket that closes nothing does
no harm, and what is opened and never closed keeps all that follows in the last part.
-/

namespace Crosswalk.Text

/-- A text whose quotes are closed, each by the next one of its kind, and what of it stands outside
the quotes. -/
inductive Unquoted : List Char → List Char → Prop where
  | nil : Unquoted [] []
  | plain {c : Char} {s outer : List Char} (hc : isQuote c = false) (h : Unquoted s outer) :
    Unquoted (c :: s) (c :: outer)
  | quoted {quote : Char} {inner s outer : List Char} (hquote : isQuote quote = true)
    (hinner : quote ∉ inner) (h : Unquoted s outer) :
    Unquoted (quote :: inner ++ quote :: s) outer

namespace Brackets

def opened (b : Brackets) (s : List Char) : Nat := s.countP (· ∈ b.opening)

def closed (b : Brackets) (s : List Char) : Nat := s.countP (· ∈ b.closing)

/-- Every bracket that is opened is closed behind it: no end of the text opens more brackets than
it closes. -/
def IsLevel (b : Brackets) (s : List Char) : Prop :=
  ∀ back, back <:+ s → b.opened back ≤ b.closed back

/-- Nothing is open behind a text: its quotes are closed, and so are the brackets outside them. -/
def IsClosed (b : Brackets) (s : List Char) : Prop := ∃ outer, Unquoted s outer ∧ b.IsLevel outer

end Brackets

/-- A place where parts were divided: joined, the parts in front of it and those behind it are the
text in front of a separator and the text behind it. -/
def IsDivided (sep : Char) (parts : List (List Char)) (before after : List Char) : Prop :=
  ∃ front back, front ≠ [] ∧ back ≠ [] ∧ parts = front ++ back ∧
    join [sep] front = before ∧ join [sep] back = after

variable {b : Brackets} {sep : Char} {n : Nesting} {depth : Nat}
  {s t outer before after : List Char}

/-! What is open behind a text. -/

theorem Unquoted.append {more : List Char} (h : Unquoted s outer) (h' : Unquoted t more) :
    Unquoted (s ++ t) (outer ++ more) := by
  induction h with
  | nil => exact h'
  | plain hc _ ih => exact .plain hc ih
  | quoted hquote hinner _ ih =>
    rw [List.append_assoc]
    exact .quoted hquote hinner ih

/-- A text without quotes stands outside them. -/
theorem Unquoted.of_forall (h : ∀ c ∈ s, isQuote c = false) : Unquoted s s := by
  induction s with
  | nil => exact .nil
  | cons c rest ih =>
    obtain ⟨hc, hrest⟩ := List.forall_mem_cons.mp h
    exact .plain hc (ih hrest)

theorem Unquoted.isQuote_eq_false (h : Unquoted s outer) : ∀ c ∈ outer, isQuote c = false := by
  induction h with
  | nil => exact fun c hc => nomatch hc
  | plain hc _ ih => exact List.forall_mem_cons.mpr ⟨hc, ih⟩
  | quoted _ _ _ ih => exact ih

/-- Outside quotes a character changes the number of open brackets only. -/
theorem step_of_not_isQuote {c : Char} (hc : isQuote c = false) :
    Nesting.step b ⟨none, depth⟩ c =
      ⟨none, if c ∈ b.opening then depth + 1 else if c ∈ b.closing then depth - 1 else depth⟩ := by
  by_cases hopen : c ∈ b.opening
  · rw [step_of_mem_opening hc hopen, if_pos hopen]
  · by_cases hclose : c ∈ b.closing
    · rw [step_of_mem_closing hc hopen hclose, if_neg hopen, if_pos hclose]
    · rw [step_of_isPlain ⟨hc, hopen, hclose⟩, if_neg hopen, if_neg hclose]

/-- A quote stays open where it does not occur again. -/
theorem foldl_step_inside {quote : Char} (h : quote ∉ s) :
    s.foldl (Nesting.step b) ⟨some quote, depth⟩ = ⟨some quote, depth⟩ := by
  induction s with
  | nil => rfl
  | cons c rest ih =>
    rw [List.mem_cons, not_or] at h
    have hstep : Nesting.step b ⟨some quote, depth⟩ c = ⟨some quote, depth⟩ := by
      simp [Nesting.step, Ne.symm h.1]
    rw [List.foldl_cons, hstep, ih h.2]

/-- Quotes that are closed change nothing. -/
theorem Unquoted.foldl_step (h : Unquoted s outer) (depth : Nat) :
    s.foldl (Nesting.step b) ⟨none, depth⟩ = outer.foldl (Nesting.step b) ⟨none, depth⟩ := by
  induction h generalizing depth with
  | nil => rfl
  | plain hc _ ih => rw [List.foldl_cons, List.foldl_cons, step_of_not_isQuote hc, ih]
  | @quoted quote inner s outer hquote hinner _ ih =>
    have hclose : Nesting.step b ⟨some quote, depth⟩ quote = ⟨none, depth⟩ := by
      simp [Nesting.step]
    rw [List.cons_append, List.foldl_cons, step_of_isQuote hquote, List.foldl_append,
      foldl_step_inside hinner, List.foldl_cons, hclose, ih]

theorem foldl_step_outer (h : ∀ c ∈ outer, isQuote c = false) (depth : Nat) :
    ∃ next, outer.foldl (Nesting.step b) ⟨none, depth⟩ = ⟨none, next⟩ := by
  induction outer generalizing depth with
  | nil => exact ⟨depth, rfl⟩
  | cons c rest ih =>
    obtain ⟨hc, hrest⟩ := List.forall_mem_cons.mp h
    rw [List.foldl_cons, step_of_not_isQuote hc]
    exact ih hrest _

/-- Behind a quote that is not closed something is open. -/
theorem isOutside_of_open {quote : Char} {inner : List Char} (h : Unquoted s outer)
    (hquote : isQuote quote = true) (hinner : quote ∉ inner) :
    ((s ++ quote :: inner).foldl (Nesting.step b) ⟨none, depth⟩).isOutside = false := by
  obtain ⟨next, hnext⟩ := foldl_step_outer h.isQuote_eq_false depth
  rw [List.foldl_append, h.foldl_step, hnext, List.foldl_cons, step_of_isQuote hquote,
    foldl_step_inside hinner]
  rfl

/-- The quotes of a text are closed, or the last one that was opened stays open. -/
theorem exists_unquoted_or_open (s : List Char) :
    (∃ outer, Unquoted s outer) ∨
      ∃ before quote inner outer, s = before ++ quote :: inner ∧ Unquoted before outer ∧
        isQuote quote = true ∧ quote ∉ inner := by
  induction s using List.reverseRecOn with
  | nil => exact .inl ⟨[], .nil⟩
  | append_singleton front c ih =>
    obtain ⟨outer, h⟩ | ⟨before, quote, inner, outer, rfl, h, hquote, hinner⟩ := ih
    · cases hc : isQuote c with
      | true => exact .inr ⟨front, c, [], outer, rfl, h, hc, List.not_mem_nil⟩
      | false => exact .inl ⟨_, h.append (.plain hc .nil)⟩
    · by_cases hc : c = quote
      · subst hc
        refine .inl ⟨outer ++ [], ?_⟩
        rw [List.append_assoc]
        exact h.append (.quoted hquote hinner .nil)
      · refine .inr ⟨before, quote, inner ++ [c], outer, by simp, h, hquote, ?_⟩
        simpa [hinner] using Ne.symm hc

theorem isLevel_cons_iff {c : Char} :
    b.IsLevel (c :: s) ↔ b.opened (c :: s) ≤ b.closed (c :: s) ∧ b.IsLevel s := by
  simp only [Brackets.IsLevel, List.suffix_cons_iff, forall_eq_or_imp]

/-- Behind a text without quotes nothing is open when the text is level and closes the brackets that
were open in front of it. -/
theorem isOutside_foldl_outer (hb : b.opening.Disjoint b.closing)
    (h : ∀ c ∈ outer, isQuote c = false) (depth : Nat) :
    (outer.foldl (Nesting.step b) ⟨none, depth⟩).isOutside = true ↔
      b.IsLevel outer ∧ depth + b.opened outer ≤ b.closed outer := by
  induction outer generalizing depth with
  | nil => simp [Nesting.isOutside, Brackets.IsLevel, Brackets.opened, Brackets.closed]
  | cons c rest ih =>
    obtain ⟨hc, hrest⟩ := List.forall_mem_cons.mp h
    rw [List.foldl_cons, step_of_not_isQuote hc, ih hrest, isLevel_cons_iff]
    by_cases hlevel : b.IsLevel rest
    · -- what the rest closes too much closes what was open in front of it
      have hcount : b.opened rest ≤ b.closed rest := hlevel rest List.suffix_rfl
      have hboth : c ∈ b.opening → c ∉ b.closing := fun hopen => hb hopen
      simp only [hlevel, true_and, and_true]
      simp only [Brackets.opened, Brackets.closed, List.countP_cons, decide_eq_true_eq] at hcount ⊢
      by_cases hopen : c ∈ b.opening
      · simp only [hopen, hboth hopen, if_true, if_false]
        omega
      · by_cases hclose : c ∈ b.closing
        · simp only [hopen, hclose, if_true, if_false]
          omega
        · simp only [hopen, hclose, if_false]
          omega
    · simp [hlevel]

/-- Nothing is open behind a text when its quotes and brackets are closed. -/
theorem isOutside_foldl_iff (hb : b.opening.Disjoint b.closing) (s : List Char) :
    (s.foldl (Nesting.step b) .outside).isOutside = true ↔ b.IsClosed s := by
  constructor
  · intro houtside
    obtain ⟨outer, h⟩ | ⟨before, quote, inner, outer, rfl, h, hquote, hinner⟩ :=
      exists_unquoted_or_open s
    · rw [Nesting.outside, h.foldl_step] at houtside
      exact ⟨outer, h, ((isOutside_foldl_outer hb h.isQuote_eq_false 0).mp houtside).1⟩
    · rw [Nesting.outside, isOutside_of_open h hquote hinner] at houtside
      cases houtside
  · rintro ⟨outer, h, hlevel⟩
    rw [Nesting.outside, h.foldl_step, isOutside_foldl_outer hb h.isQuote_eq_false, Nat.zero_add]
    exact ⟨hlevel, hlevel outer List.suffix_rfl⟩

/-! Where parts are divided. -/

section Divided

variable {parts : List (List Char)}

/-- In front of other parts an empty one adds the separator behind it. -/
theorem isDivided_nil_cons (hparts : parts ≠ []) :
    IsDivided sep ([] :: parts) before after ↔
      (before = [] ∧ join [sep] parts = after) ∨
        ∃ front, before = sep :: front ∧ IsDivided sep parts front after := by
  constructor
  · rintro ⟨front, back, hfront, hback, hsplit, rfl, rfl⟩
    obtain ⟨part, more, rfl⟩ := List.exists_cons_of_ne_nil hfront
    obtain ⟨rfl, rfl⟩ := List.cons.inj hsplit
    cases more with
    | nil => exact .inl ⟨rfl, rfl⟩
    | cons next more => exact .inr ⟨_, rfl, next :: more, back, by simp, hback, rfl, rfl, rfl⟩
  · rintro (⟨rfl, rfl⟩ | ⟨_, rfl, front, back, hfront, hback, rfl, rfl, rfl⟩)
    · exact ⟨[[]], parts, by simp, hparts, rfl, rfl, rfl⟩
    · obtain ⟨next, more, rfl⟩ := List.exists_cons_of_ne_nil hfront
      exact ⟨[] :: next :: more, back, by simp, hback, rfl, rfl, rfl⟩

theorem isDivided_consFirst {c : Char} (hparts : parts ≠ []) :
    IsDivided sep (consFirst c parts) before after ↔
      ∃ front, before = c :: front ∧ IsDivided sep parts front after := by
  constructor
  · rintro ⟨front, back, hfront, hback, hsplit, rfl, rfl⟩
    obtain ⟨part, more, rfl⟩ := List.exists_cons_of_ne_nil hparts
    obtain ⟨first, rest, rfl⟩ := List.exists_cons_of_ne_nil hfront
    obtain ⟨rfl, rfl⟩ := List.cons.inj hsplit
    exact ⟨_, join_consFirst c _ (List.cons_ne_nil part rest), part :: rest, back, by simp, hback,
      rfl, rfl, rfl⟩
  · rintro ⟨_, rfl, front, back, hfront, hback, rfl, rfl, rfl⟩
    obtain ⟨part, more, rfl⟩ := List.exists_cons_of_ne_nil hfront
    exact ⟨(c :: part) :: more, back, by simp, hback, rfl,
      join_consFirst c _ (List.cons_ne_nil part more), rfl⟩

end Divided

/-- The parts are divided at the separators that stand where nothing is open. -/
theorem isDivided_splitFrom_iff (hsep : b.IsPlain sep) :
    IsDivided sep (splitFrom b sep n s) before after ↔
      s = before ++ sep :: after ∧ (before.foldl (Nesting.step b) n).isOutside = true := by
  -- both sides lose the first character of the text, and what is open changes with it
  induction s generalizing n before with
  | nil =>
    constructor
    · rintro ⟨front, back, hfront, hback, hsplit, -⟩
      obtain ⟨part, more, rfl⟩ := List.exists_cons_of_ne_nil hfront
      obtain ⟨-, hnil⟩ := List.cons.inj hsplit
      exact absurd (List.append_eq_nil_iff.mp hnil.symm).2 hback
    · rintro ⟨hsplit, -⟩
      simp at hsplit
  | cons c rest ih =>
    rw [splitFrom]
    split
    · rename_i hstop
      obtain ⟨houtside, hc⟩ := Bool.and_eq_true_iff.mp hstop
      obtain rfl := eq_outside houtside
      obtain rfl := beq_iff_eq.mp hc
      rw [isDivided_nil_cons (splitFrom_ne_nil b _ _ _), join_splitFrom]
      cases before with
      | nil => simp [houtside]
      | cons x before =>
        have hstep : Nesting.step b .outside c = .outside := step_of_isPlain hsep
        constructor
        · rintro (⟨hnil, -⟩ | ⟨front, hfront, h⟩)
          · cases hnil
          · obtain ⟨rfl, rfl⟩ := List.cons.inj hfront
            obtain ⟨rfl, hclosed⟩ := ih.mp h
            exact ⟨rfl, by rwa [List.foldl_cons, hstep]⟩
        · rintro ⟨hsplit, hclosed⟩
          obtain ⟨rfl, hrest⟩ := List.cons.inj hsplit
          rw [List.foldl_cons, hstep] at hclosed
          exact .inr ⟨before, rfl, ih.mpr ⟨hrest, hclosed⟩⟩
    · rename_i hstop
      rw [isDivided_consFirst (splitFrom_ne_nil b _ _ _)]
      constructor
      · rintro ⟨front, rfl, h⟩
        obtain ⟨rfl, hclosed⟩ := ih.mp h
        exact ⟨rfl, hclosed⟩
      · rintro ⟨hsplit, hclosed⟩
        cases before with
        | nil =>
          obtain ⟨rfl, -⟩ := List.cons.inj hsplit
          exact absurd (Bool.and_eq_true_iff.mpr ⟨hclosed, beq_self_eq_true c⟩) hstop
        | cons x before =>
          obtain ⟨rfl, hrest⟩ := List.cons.inj hsplit
          exact ⟨before, rfl, ih.mpr ⟨hrest, hclosed⟩⟩

theorem isDivided_splitOutside_iff (hb : b.opening.Disjoint b.closing) (hsep : b.IsPlain sep) :
    IsDivided sep (splitOutside b sep s) before after ↔
      s = before ++ sep :: after ∧ b.IsClosed before := by
  rw [splitOutside, isDivided_splitFrom_iff hsep, isOutside_foldl_iff hb]

/-! What is never closed. -/

/-- A text closes no bracket that is open in front of it. -/
def Brackets.KeepsOpen (b : Brackets) (s : List Char) : Prop :=
  ∀ front outer, front <+: s → Unquoted front outer → b.closed outer ≤ b.opened outer

theorem not_isClosed_quote (hb : b.opening.Disjoint b.closing) {quote : Char} {inner : List Char}
    (h : Unquoted s outer) (hquote : isQuote quote = true) (hinner : quote ∉ inner) :
    ¬ b.IsClosed (s ++ quote :: inner) := by
  rw [← isOutside_foldl_iff hb, Nesting.outside, isOutside_of_open h hquote hinner]
  exact Bool.false_ne_true

theorem not_isClosed_bracket (hb : b.opening.Disjoint b.closing) {opening : Char}
    {inner : List Char} (h : Unquoted s outer) (hquote : isQuote opening = false)
    (hopening : opening ∈ b.opening) (hinner : b.KeepsOpen inner) :
    ¬ b.IsClosed (s ++ opening :: inner) := by
  obtain ⟨more, hmore⟩ | ⟨front, quote, rest, more, rfl, hfront, hopen, hrest⟩ :=
    exists_unquoted_or_open inner
  · have hwhole := h.append (.plain hquote hmore)
    rw [← isOutside_foldl_iff hb, Nesting.outside, hwhole.foldl_step,
      isOutside_foldl_outer hb hwhole.isQuote_eq_false]
    rintro ⟨hlevel, -⟩
    -- from this bracket on more is opened than closed
    have hcount := hlevel (opening :: more) (List.suffix_append outer _)
    have hkept := hinner inner more List.prefix_rfl hmore
    have hclosing : opening ∉ b.closing := hb hopening
    simp only [Brackets.opened, Brackets.closed, List.countP_cons, hopening, hclosing,
      decide_true, decide_false, if_true, Bool.false_eq_true, if_false] at hcount hkept
    omega
  · have hopened := not_isClosed_quote hb (h.append (.plain hquote hfront)) hopen hrest
    rwa [List.append_assoc] at hopened

/-- What is opened and never closed stands in the last part, with all that follows. -/
theorem suffix_last_part (hb : b.opening.Disjoint b.closing) (hsep : b.IsPlain sep) {c : Char}
    {rest : List Char} (hc : c ≠ sep)
    (h : ∀ front, front <+: rest → ¬ b.IsClosed (before ++ c :: front)) :
    ∃ last, (splitOutside b sep (before ++ c :: rest)).getLast? = some last ∧
      c :: rest <:+ last := by
  obtain ⟨front, last, hparts⟩ :=
    (List.eq_nil_or_concat _).resolve_left (splitFrom_ne_nil b sep .outside (before ++ c :: rest))
  rw [List.concat_eq_append] at hparts
  refine ⟨last, by rw [splitOutside, hparts, List.getLast?_concat], ?_⟩
  by_cases hfront : front = []
  · have hjoin := join_splitFrom b sep .outside (before ++ c :: rest)
    rw [hparts, hfront] at hjoin
    have hlast : last = before ++ c :: rest := hjoin
    exact hlast ▸ List.suffix_append before _
  · have hdivided : IsDivided sep (splitOutside b sep (before ++ c :: rest))
        (join [sep] front) last :=
      ⟨front, [last], hfront, by simp, hparts, rfl, rfl⟩
    obtain ⟨hsplit, hclosed⟩ := (isDivided_splitOutside_iff hb hsep).mp hdivided
    rcases List.append_eq_append_iff.mp hsplit with ⟨more, hbefore, htail⟩ | ⟨more, hbefore, htail⟩
    · cases more with
      | nil => exact absurd (List.cons.inj htail).1 hc
      | cons x more =>
        obtain ⟨rfl, rfl⟩ := List.cons.inj htail
        rw [hbefore] at hclosed
        exact absurd hclosed (h more (List.prefix_append more _))
    · cases more with
      | nil => exact absurd (List.cons.inj htail).1.symm hc
      | cons x more =>
        obtain ⟨-, rfl⟩ := List.cons.inj htail
        exact List.suffix_append more _

theorem disjoint_round : Brackets.round.opening.Disjoint Brackets.round.closing := by
  simp [Brackets.round]

instance : DecidablePred Brackets.round.IsClosed := fun s =>
  decidable_of_iff _ (isOutside_foldl_iff disjoint_round s)

/-- Splitting outside quotes and parentheses loses nothing and splits where it should. The parts,
joined with the separator, give the text back. They are divided at an occurrence of the separator
exactly when every quote in front of it is closed by the next one of its kind, and every parenthesis
outside the quotes too, while a closing one that closes nothing does not count. A quote or a
parenthesis that is never closed keeps all that follows in the last part. -/
theorem splitOutside_exact {sep : Char} (hsep : Brackets.round.IsPlain sep) (s : List Char) :
    let parts := splitOutside .round sep s
    join [sep] parts = s ∧
      (∀ before after, IsDivided sep parts before after ↔
        s = before ++ sep :: after ∧ Brackets.round.IsClosed before) ∧
      (∀ before outer quote rest, s = before ++ quote :: rest → Unquoted before outer →
        isQuote quote = true → quote ∉ rest →
        ∃ last, parts.getLast? = some last ∧ quote :: rest <:+ last) ∧
      ∀ before outer rest, s = before ++ '(' :: rest → Unquoted before outer →
        Brackets.round.KeepsOpen rest →
        ∃ last, parts.getLast? = some last ∧ '(' :: rest <:+ last := by
  intro parts
  refine ⟨join_splitFrom .round sep .outside s,
    fun before after => isDivided_splitOutside_iff disjoint_round hsep, ?_, ?_⟩
  · rintro before outer quote rest rfl h hquote hrest
    refine suffix_last_part disjoint_round hsep ?_ fun front hfront => ?_
    · rintro rfl
      rw [hsep.notQuote] at hquote
      cases hquote
    · exact not_isClosed_quote disjoint_round h hquote fun hmem => hrest (hfront.subset hmem)
  · rintro before outer rest rfl h hrest
    have hopening : '(' ∈ Brackets.round.opening := List.mem_singleton_self _
    refine suffix_last_part disjoint_round hsep ?_ fun front hfront => ?_
    · rintro rfl
      exact hsep.notOpening hopening
    · exact not_isClosed_bracket disjoint_round h rfl hopening fun more outer hmore =>
        hrest more outer (hmore.trans hfront)

/-- A parenthesis that closes nothing, separators and parentheses in quotes, and a quote that is
never closed. -/
theorem splitOutside_exact_mixed :
    let s := "a)|(b|\"(|\")|'c|\")".toList
    let parts := splitOutside .round '|' s
    Brackets.round.IsPlain '|' ∧ join ['|'] parts = s ∧
      IsDivided '|' parts "a)".toList "(b|\"(|\")|'c|\")".toList ∧
      ¬ IsDivided '|' parts "a)|(b".toList "\"(|\")|'c|\")".toList ∧
      IsDivided '|' parts "a)|(b|\"(|\")".toList "'c|\")".toList ∧
      ∃ last, parts.getLast? = some last ∧ "'c|\")".toList <:+ last := by
  intro s parts
  have hsep : Brackets.round.IsPlain '|' := ⟨rfl, by decide, by decide⟩
  have hquotes : Unquoted ("a)|(b|".toList ++ ('"' :: "(|".toList ++ '"' :: ")|".toList))
      ("a)|(b|".toList ++ ")|".toList) :=
    .append (.of_forall (by simp [isQuote]))
      (.quoted rfl (by decide) (.of_forall (by simp [isQuote])))
  obtain ⟨hjoin, hdivided, hquote, -⟩ := splitOutside_exact hsep s
  refine ⟨hsep, hjoin, (hdivided _ _).mpr ⟨rfl, by decide⟩, ?_, (hdivided _ _).mpr ⟨rfl, by decide⟩,
    hquote _ _ '\'' "c|\")".toList rfl hquotes rfl (by decide)⟩
  exact fun h => absurd ((hdivided _ _).mp h).2 (by decide)

end Crosswalk.Text
