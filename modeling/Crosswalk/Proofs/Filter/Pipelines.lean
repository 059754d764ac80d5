import Crosswalk.Filter.Call
import Crosswalk.Proofs.Text.Nesting

/-!
Filter expressions, written and read again.

A pipeline is written as its variable and its filters with bars between them, the arguments of a
filter in quotes between parentheses. Blanks may stand around bars and commas. Whatever the
arguments hold apart from the quote, such a text is read as the pipeline it was written for: a bar,
a comma or a parenthesis in quotes separates and closes nothing.
-/

namespace Crosswalk.Filter

open Text

/-- A character that means nothing between the parts of a pipeline. -/
structure IsPlain (c : Char) : Prop where
  notQuote : isQuote c = false
  notOpening : c ≠ '('
  notClosing : c ≠ ')'
  notBar : c ≠ '|'

instance : DecidablePred IsPlain := fun c =>
  decidable_of_iff (isQuote c = false ∧ c ≠ '(' ∧ c ≠ ')' ∧ c ≠ '|')
    ⟨fun h => ⟨h.1, h.2.1, h.2.2.1, h.2.2.2⟩,
      fun h => ⟨h.notQuote, h.notOpening, h.notClosing, h.notBar⟩⟩

/-- A name of a variable or of a filter. -/
structure IsName (s : List Char) : Prop where
  ne_nil : s ≠ []
  trimmed : IsTrimmed s
  plain : ∀ c ∈ s, IsPlain c

instance : DecidablePred IsName := fun s =>
  -- the characters of the name are looked at, not every character there is
  letI : Decidable (∀ c ∈ s, IsPlain c) := List.decidableBAll IsPlain s
  decidable_of_iff (s ≠ [] ∧ IsTrimmed s ∧ ∀ c ∈ s, IsPlain c)
    ⟨fun h => ⟨h.1, h.2.1, h.2.2⟩, fun h => ⟨h.ne_nil, h.trimmed, h.plain⟩⟩

/-- A filter that can be written: its arguments hold no quote. -/
structure Call.IsWritable (call : Call) : Prop where
  name : IsName call.name.toList
  args : ∀ arg ∈ call.args, '"' ∉ arg.toList

instance : DecidablePred Call.IsWritable := fun call =>
  decidable_of_iff (IsName call.name.toList ∧ ∀ arg ∈ call.args, '"' ∉ arg.toList)
    ⟨fun h => ⟨h.1, h.2⟩, fun h => ⟨h.name, h.args⟩⟩

structure Pipeline.IsWritable (p : Pipeline) : Prop where
  subject : IsName p.subject.toList
  calls : ∀ call ∈ p.calls, call.IsWritable

def quoted (arg : String) : List Char := '"' :: arg.toList ++ ['"']

/-- Arguments in quotes with commas between them, and blanks around the commas. -/
inductive AreArguments : List String → List Char → Prop where
  | last {arg : String} {before after : List Char} (hbefore : isAllBlank before = true)
    (hafter : isAllBlank after = true) : AreArguments [arg] (before ++ quoted arg ++ after)
  | cons {arg : String} {more : List String} {before after rest : List Char}
    (hbefore : isAllBlank before = true) (hafter : isAllBlank after = true)
    (h : AreArguments more rest) :
    AreArguments (arg :: more) (before ++ quoted arg ++ after ++ ',' :: rest)

/-- A filter without arguments is written as its name. -/
inductive Call.IsWrittenAs : Call → List Char → Prop where
  | bare (name : String) : IsWrittenAs ⟨name, []⟩ name.toList
  | applied {name : String} {args : List String} {s : List Char} (h : AreArguments args s) :
    IsWrittenAs ⟨name, args⟩ (name.toList ++ '(' :: (s ++ [')']))

/-- Filters one behind the other, each behind a bar with blanks around it. -/
inductive Call.AreWrittenAs : List Call → List Char → Prop where
  | nil : AreWrittenAs [] []
  | cons {call : Call} {more : List Call} {before s after rest : List Char}
    (hbefore : isAllBlank before = true) (hafter : isAllBlank after = true)
    (h : call.IsWrittenAs s) (hmore : AreWrittenAs more rest) :
    AreWrittenAs (call :: more) ('|' :: (before ++ s ++ after ++ rest))

/-- The variable, then the filters. -/
inductive Pipeline.IsWrittenAs (p : Pipeline) : List Char → Prop where
  | of {before after calls : List Char} (hbefore : isAllBlank before = true)
    (hafter : isAllBlank after = true) (h : Call.AreWrittenAs p.calls calls) :
    IsWrittenAs p (before ++ p.subject.toList ++ after ++ calls)

/-! What a scan passes over. -/

theorem isPlain_of_isBlank {c : Char} (h : isBlank c = true) : IsPlain c := by
  constructor
  · by_contra hquote
    rw [Bool.not_eq_false, isQuote_iff] at hquote
    rcases hquote with rfl | rfl <;> cases h
  all_goals
    rintro rfl
    cases h

theorem IsPlain.brackets {c : Char} (h : IsPlain c) : Brackets.round.IsPlain c :=
  ⟨h.notQuote, by simpa [Brackets.round] using h.notOpening,
    by simpa [Brackets.round] using h.notClosing⟩

section Passes

variable {mark : Char} {depth : Nat} {before after s : List Char}

theorem passes_plain (h : ∀ c ∈ s, IsPlain c ∧ c ≠ mark) :
    Passes .round (counts mark) ⟨none, depth⟩ s ⟨none, depth⟩ := by
  refine .plain (fun c hc => (h c hc).1.brackets) fun c hc => ?_
  simp [counts, (h c hc).2]

theorem passes_blanks (hmark : isBlank mark = false) (h : isAllBlank s = true) :
    Passes .round (counts mark) ⟨none, depth⟩ s ⟨none, depth⟩ := by
  refine passes_plain fun c hc => ?_
  have hblank := List.all_eq_true.mp h c hc
  refine ⟨isPlain_of_isBlank hblank, ?_⟩
  rintro rfl
  rw [hmark] at hblank
  cases hblank

/-- Blanks around a text are passed over with it. -/
theorem passes_around (hmark : isBlank mark = false) (hbefore : isAllBlank before = true)
    (hafter : isAllBlank after = true)
    (h : Passes .round (counts mark) ⟨none, depth⟩ s ⟨none, depth⟩) :
    Passes .round (counts mark) ⟨none, depth⟩ (before ++ s ++ after) ⟨none, depth⟩ :=
  ((passes_blanks hmark hbefore).append h).append (passes_blanks hmark hafter)

/-- In quotes nothing counts, neither the mark nor a parenthesis. -/
theorem passes_quoted {arg : String} (hmark : mark ≠ '"') (h : '"' ∉ arg.toList) :
    Passes .round (counts mark) ⟨none, depth⟩ (quoted arg) ⟨none, depth⟩ := by
  refine .quoted rfl h ?_ fun c => rfl
  simpa [counts] using fun _ => hmark.symm

theorem passes_argument {arg : String} (hmark : mark ≠ '"') (hblank : isBlank mark = false)
    (hbefore : isAllBlank before = true) (hafter : isAllBlank after = true)
    (h : '"' ∉ arg.toList) :
    Passes .round (counts mark) ⟨none, depth⟩ (before ++ quoted arg ++ after) ⟨none, depth⟩ :=
  passes_around hblank hbefore hafter (passes_quoted hmark h)

theorem passes_arguments {args : List String} (hargs : ∀ arg ∈ args, '"' ∉ arg.toList)
    (h : AreArguments args s) : Passes .round (counts '|') ⟨none, depth⟩ s ⟨none, depth⟩ := by
  have hcomma : Passes .round (counts '|') ⟨none, depth⟩ [','] ⟨none, depth⟩ :=
    passes_plain (List.forall_mem_singleton.mpr (by decide))
  induction h with
  | last hbefore hafter =>
    exact passes_argument (by decide) rfl hbefore hafter (hargs _ List.mem_cons_self)
  | cons hbefore hafter _ ih =>
    have hmore := ih fun arg harg => hargs arg (List.mem_cons_of_mem _ harg)
    exact (passes_argument (by decide) rfl hbefore hafter (hargs _ List.mem_cons_self)).append
      (hcomma.append hmore)

theorem passes_name (h : IsName s) : Passes .round (counts '|') ⟨none, depth⟩ s ⟨none, depth⟩ :=
  passes_plain fun c hc => ⟨h.plain c hc, (h.plain c hc).notBar⟩

theorem passes_call {call : Call} (hcall : call.IsWritable) (h : call.IsWrittenAs s) :
    Passes .round (counts '|') .outside s .outside := by
  cases h with
  | bare name => exact passes_name hcall.name
  | applied h =>
    refine (passes_name hcall.name).append ?_
    exact .bracketed rfl rfl (by simp [Brackets.round]) (by simp [Brackets.round])
      (by simp [Brackets.round]) rfl rfl (passes_arguments hcall.args h)

end Passes

/-! Reading a filter. -/

theorem unquote_quoted (arg : String) : unquote (quoted arg) = arg.toList := by
  simp [unquote, quoted]

theorem isTrimmed_quoted (arg : String) : IsTrimmed (quoted arg) := by
  constructor
  · rintro c ⟨rfl⟩
    rfl
  · intro c hc
    rw [quoted, List.getLast?_append_of_ne_nil _ (by simp)] at hc
    cases hc
    rfl

section Reading

variable {args : List String} {before s after : List Char}

/-- The parts between the commas are the arguments. -/
theorem map_splitOutside_arguments (hargs : ∀ arg ∈ args, '"' ∉ arg.toList)
    (h : AreArguments args s) :
    (splitOutside .round ',' s).map (fun part => String.ofList (unquote (trim part))) = args := by
  have hread : ∀ {arg : String} {before after : List Char}, isAllBlank before = true →
      isAllBlank after = true →
      String.ofList (unquote (trim (before ++ quoted arg ++ after))) = arg := by
    intro arg before after hbefore hafter
    rw [trim_around hbefore hafter (isTrimmed_quoted arg), unquote_quoted, String.ofList_toList]
  induction h with
  | @last arg before after hbefore hafter =>
    have hpasses : Passes .round (counts ',') .outside (before ++ quoted arg ++ after) .outside :=
      passes_argument (by decide) rfl hbefore hafter (hargs arg List.mem_cons_self)
    rw [splitOutside_eq_self hpasses, List.map_singleton, hread hbefore hafter]
  | @cons arg more before after rest hbefore hafter _ ih =>
    have hpasses : Passes .round (counts ',') .outside (before ++ quoted arg ++ after) .outside :=
      passes_argument (by decide) rfl hbefore hafter (hargs arg List.mem_cons_self)
    have hmore := ih fun arg harg => hargs arg (List.mem_cons_of_mem _ harg)
    rw [splitOutside_append_cons hpasses, List.map_cons, hread hbefore hafter, hmore]

theorem quote_mem_of_areArguments (h : AreArguments args s) : '"' ∈ s := by
  cases h <;> simp [quoted]

theorem arguments_eq (hargs : ∀ arg ∈ args, '"' ∉ arg.toList) (h : AreArguments args s) :
    arguments s = args := by
  have hblank : ¬ isAllBlank s = true := fun hblank =>
    nomatch List.all_eq_true.mp hblank '"' (quote_mem_of_areArguments h)
  rw [arguments, if_neg hblank, map_splitOutside_arguments hargs h]

theorem isTrimmed_of_isWrittenAs {call : Call} (hcall : call.IsWritable)
    (h : call.IsWrittenAs s) : s ≠ [] ∧ IsTrimmed s := by
  have hname := hcall.name
  cases h with
  | bare name => exact ⟨hname.ne_nil, hname.trimmed⟩
  | @applied name args inner h =>
    refine ⟨by simp, .append hname.ne_nil (by simp) hname.trimmed.first ?_⟩
    intro c hc
    rw [← List.cons_append, List.getLast?_append_of_ne_nil _ (by simp)] at hc
    cases hc
    rfl

theorem parenthesis_not_mem (h : IsName s) : '(' ∉ s := fun hmem =>
  (h.plain '(' hmem).notOpening rfl

/-- A filter is read from what it is written as, with any blanks around it. -/
theorem read?_call {call : Call} (hcall : call.IsWritable) (hbefore : isAllBlank before = true)
    (hafter : isAllBlank after = true) (h : call.IsWrittenAs s) :
    Call.read? (before ++ s ++ after) = some call := by
  obtain ⟨hne, htrimmed⟩ := isTrimmed_of_isWrittenAs hcall h
  have hempty : ¬ s.isEmpty = true := mt List.isEmpty_iff.mp hne
  have hname := hcall.name
  simp only [Call.read?, trim_around hbefore hafter htrimmed, if_neg hempty]
  cases h with
  | bare name => rw [cutAt_eq_none (parenthesis_not_mem hname), String.ofList_toList]
  | @applied name args inner h =>
    simp only [cutAt_append (parenthesis_not_mem hname)]
    rw [List.getLast?_concat, if_pos rfl, List.dropLast_concat, hname.trimmed.trim_eq,
      arguments_eq hcall.args h, String.ofList_toList]

/-- Behind a text that leaves nothing open, the filters are the parts behind the bars. -/
theorem exists_parts_of_areWrittenAs {calls : List Call} {front : List Char}
    (hcalls : ∀ call ∈ calls, call.IsWritable) (h : Call.AreWrittenAs calls s)
    (hfront : Passes .round (counts '|') .outside front .outside) :
    ∃ parts, splitOutside .round '|' (front ++ s) = front :: parts ∧
      parts.filterMap Call.read? = calls := by
  induction h generalizing front with
  | nil =>
    rw [List.append_nil]
    exact ⟨[], splitOutside_eq_self hfront, rfl⟩
  | @cons call more before text after rest hbefore hafter h hmore ih =>
    have hcall := hcalls call List.mem_cons_self
    obtain ⟨parts, hsplit, hread⟩ := ih (fun call hmem => hcalls call (List.mem_cons_of_mem _ hmem))
      (passes_around rfl hbefore hafter (passes_call hcall h))
    refine ⟨(before ++ text ++ after) :: parts, ?_, ?_⟩
    · rw [splitOutside_append_cons hfront, hsplit]
    · rw [List.filterMap_cons, read?_call hcall hbefore hafter h, hread]

end Reading

/-- A pipeline is read from every text that it can be written as. -/
theorem written_pipeline_read {p : Pipeline} {s : List Char} (hp : p.IsWritable)
    (h : p.IsWrittenAs s) : Pipeline.read? s = some p := by
  obtain ⟨hbefore, hafter, hcalls⟩ := h
  obtain ⟨parts, hsplit, hread⟩ := exists_parts_of_areWrittenAs hp.calls hcalls
    (passes_around rfl hbefore hafter (passes_name hp.subject))
  have hempty : ¬ p.subject.toList.isEmpty = true := mt List.isEmpty_iff.mp hp.subject.ne_nil
  rw [Pipeline.read?, hsplit]
  simp only [trim_around hbefore hafter hp.subject.trimmed, if_neg hempty, hread,
    String.ofList_toList]

/-- Arguments with bars, commas, parentheses, single quotes and blanks, and one that is empty. -/
theorem written_pipeline_read_marks :
    let p : Pipeline :=
      ⟨"dcterms:date", [⟨"date", ["Y|m", ""]⟩, ⟨"trim", []⟩, ⟨"format", [" (a, 'b) ", ",|)"]⟩]⟩
    let s := " dcterms:date | date(\"Y|m\", \"\")|trim | format(\" (a, 'b) \" ,\",|)\")".toList
    p.IsWritable ∧ p.IsWrittenAs s ∧ Pipeline.read? s = some p := by
  intro p s
  have hp : p.IsWritable := ⟨by decide +kernel, by decide +kernel⟩
  have hdate : AreArguments ["Y|m", ""] _ :=
    .cons isAllBlank_nil isAllBlank_nil (.last isAllBlank_space isAllBlank_nil)
  have hformat : AreArguments [" (a, 'b) ", ",|)"] _ :=
    .cons isAllBlank_nil isAllBlank_space (.last isAllBlank_nil isAllBlank_nil)
  have hcalls : Call.AreWrittenAs p.calls _ :=
    .cons isAllBlank_space isAllBlank_nil (.applied hdate)
      (.cons isAllBlank_nil isAllBlank_space (.bare "trim")
        (.cons isAllBlank_space isAllBlank_nil (.applied hformat) .nil))
  have hs : p.IsWrittenAs s := by
    convert Pipeline.IsWrittenAs.of isAllBlank_space isAllBlank_space hcalls using 1
    decide +kernel
  exact ⟨hp, hs, written_pipeline_read hp hs⟩

end Crosswalk.Filter
