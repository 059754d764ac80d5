import Mathlib.Data.List.TakeWhile
import Crosswalk.Mapping.Printer
import Crosswalk.Mapping.Reader
import Crosswalk.Proofs.Mapping.Target

/-!
Rules, written and read again.

A rule is split at an equals sign in front of its pattern: the first one or, behind a leading
tilde, the last one. The source of a rule that was read holds nothing that moves this sign when the
rule is written, and nothing that makes its line a header, a comment, a query or an address.
-/

namespace Crosswalk.Mapping

open Text

/-- Whether a line begins like something else than a rule. -/
def isOtherLine (s : List Char) : Bool :=
  s.head? == some '[' || s.head? == some ';' || s.head? == some '?' ||
    beginsWith "http://".toList s || beginsWith "https://".toList s

/-- A source in front of which the sign that splits its rule cannot be mistaken. -/
def IsSplitSource (s : List Char) : Prop :=
  (∃ rest, s = '~' :: rest ∧ '~' ∉ rest) ∨ '~' ∉ s ∧ '=' ∉ s

/-- A rule as reading gives it. -/
structure Rule.IsCanonical (rule : Rule) : Prop where
  title : IsTitle rule.source.toList
  isSplit : IsSplitSource rule.source.toList
  isRule : isOtherLine rule.source.toList = false
  target : rule.target.IsCanonical

/-- A line begins like its source, if the source is followed by a space. -/
theorem isOtherLine_append {s : List Char} (hne : s ≠ []) (h : isOtherLine s = false)
    (t : List Char) : isOtherLine (s ++ ' ' :: t) = false := by
  simp only [isOtherLine, Bool.or_eq_false_iff, List.head?_append_of_ne_nil s hne] at h ⊢
  refine ⟨⟨h.1.1, ?_⟩, ?_⟩
  · by_contra hbegins
    rw [Bool.not_eq_false] at hbegins
    rw [beginsWith_of_append (by decide) hbegins] at h
    simp at h
  · by_contra hbegins
    rw [Bool.not_eq_false] at hbegins
    rw [beginsWith_of_append (by decide) hbegins] at h
    simp at h

/-- A source begins like its line. -/
theorem isOtherLine_of_append {s t : List Char} (hne : s ≠ []) (h : isOtherLine (s ++ t) = false) :
    isOtherLine s = false := by
  simp only [isOtherLine, Bool.or_eq_false_iff, List.head?_append_of_ne_nil s hne] at h ⊢
  refine ⟨⟨h.1.1, ?_⟩, ?_⟩
  · by_contra hbegins
    rw [Bool.not_eq_false] at hbegins
    rw [beginsWith_append hbegins] at h
    simp at h
  · by_contra hbegins
    rw [Bool.not_eq_false] at hbegins
    rw [beginsWith_append hbegins] at h
    simp at h

theorem drop_takeWhile (p : Char → Bool) (s : List Char) :
    s.drop (s.takeWhile p).length = s.dropWhile p := by
  induction s with
  | nil => rfl
  | cons c rest ih =>
    by_cases hc : p c = true
    · simpa [hc] using ih
    · simp [hc]

/-- Behind a tilde, a line is split at the last equals sign in front of the next tilde. -/
theorem splitRule?_tilde (rest : List Char) :
    splitRule? ('~' :: rest) =
      (cutAtLast '=' (rest.takeWhile (· != '~'))).map fun (source, target) =>
        ('~' :: source, target ++ rest.dropWhile (· != '~')) := by
  simp only [splitRule?, drop_takeWhile]

/-- Any other line is split at the first equals sign, if no tilde stands in front of it. -/
theorem splitRule?_other {line : List Char} (h : line.head? ≠ some '~') :
    splitRule? line =
      (cutAt '=' (line.takeWhile (· != '~'))).map fun (source, target) =>
        (source, target ++ line.dropWhile (· != '~')) := by
  unfold splitRule?
  split
  · simp at h
  · simp only [drop_takeWhile]

theorem takeWhile_append_self {s : List Char} (h : '~' ∉ s) (t : List Char) :
    (s ++ t).takeWhile (· != '~') = s ++ t.takeWhile (· != '~') := by
  apply List.takeWhile_append_of_pos
  intro c hc
  simpa using fun heq : c = '~' => h (heq ▸ hc)

theorem dropWhile_append_self {s : List Char} (h : '~' ∉ s) (t : List Char) :
    (s ++ t).dropWhile (· != '~') = t.dropWhile (· != '~') := by
  apply List.dropWhile_append_of_pos
  intro c hc
  simpa using fun heq : c = '~' => h (heq ▸ hc)

/-- A line is split behind its source again. -/
theorem splitRule?_append {source target : List Char} (hsource : IsSplitSource source)
    (htarget : '=' ∉ target.takeWhile (· != '~')) :
    splitRule? (source ++ '=' :: target) = some (source, target) := by
  have hequals : ∀ s : List Char, '~' ∉ s →
      (s ++ '=' :: target).takeWhile (· != '~') = s ++ '=' :: target.takeWhile (· != '~') := by
    intro s hs
    rw [takeWhile_append_self hs]
    rfl
  have hback : ∀ s : List Char, '~' ∉ s →
      (s ++ '=' :: target).dropWhile (· != '~') = target.dropWhile (· != '~') := by
    intro s hs
    rw [dropWhile_append_self hs]
    rfl
  rcases hsource with ⟨rest, rfl, htilde⟩ | ⟨htilde, hfree⟩
  · have hcut : cutAtLast '=' (rest ++ '=' :: target.takeWhile (· != '~')) =
        some (rest, target.takeWhile (· != '~')) := cutAtLast_eq_some_iff.mpr ⟨rfl, htarget⟩
    rw [List.cons_append, splitRule?_tilde, hequals rest htilde, hcut, hback rest htilde]
    simp
  · have hhead : (source ++ '=' :: target).head? ≠ some '~' := by
      cases source with
      | nil => simp
      | cons c rest =>
        intro hc
        simp only [List.cons_append, List.head?_cons, Option.some.injEq] at hc
        simp [hc] at htilde
    rw [splitRule?_other hhead, hequals source htilde, cutAt_append hfree, hback source htilde]
    simp

/-- A line that was split is its source, the sign and its target. -/
theorem splitRule?_eq_some {line source target : List Char}
    (h : splitRule? line = some (source, target)) :
    line = source ++ '=' :: target ∧ IsSplitSource source := by
  by_cases htilde : ∃ rest, line = '~' :: rest
  · obtain ⟨rest, rfl⟩ := htilde
    rw [splitRule?_tilde] at h
    obtain ⟨⟨before, after⟩, hcut, heq⟩ := Option.map_eq_some_iff.mp h
    obtain ⟨hsplit, -⟩ := cutAtLast_eq_some_iff.mp hcut
    obtain ⟨rfl, rfl⟩ := Prod.mk.inj heq
    have hrest := @List.takeWhile_append_dropWhile _ (· != '~') rest
    rw [hsplit] at hrest
    refine ⟨by simpa using hrest.symm, Or.inl ⟨before, rfl, ?_⟩⟩
    intro hmem
    have hfree : '~' ∈ rest.takeWhile (· != '~') := by simp [hsplit, hmem]
    simpa using List.mem_takeWhile_imp hfree
  · have hhead : line.head? ≠ some '~' := by
      intro hhead
      obtain ⟨rest, hrest⟩ := List.head?_eq_some_iff.mp hhead
      exact htilde ⟨rest, hrest⟩
    rw [splitRule?_other hhead] at h
    obtain ⟨⟨before, after⟩, hcut, heq⟩ := Option.map_eq_some_iff.mp h
    obtain ⟨hsplit, hfree⟩ := cutAt_eq_some_iff.mp hcut
    obtain ⟨rfl, rfl⟩ := Prod.mk.inj heq
    have hline := @List.takeWhile_append_dropWhile _ (· != '~') line
    rw [hsplit] at hline
    refine ⟨by simpa using hline.symm, Or.inr ⟨?_, hfree⟩⟩
    intro hmem
    have htaken : '~' ∈ line.takeWhile (· != '~') := by simp [hsplit, hmem]
    simpa using List.mem_takeWhile_imp htaken

variable {rule : Rule}

theorem write_eq_append (rule : Rule) :
    rule.write = (rule.source.toList ++ [' ']) ++ '=' :: ' ' :: rule.target.write := by
  simp [Rule.write]

/-- A space behind the source does not move the sign that splits its rule. -/
theorem IsSplitSource.append_space {s : List Char} (h : IsSplitSource s) :
    IsSplitSource (s ++ [' ']) := by
  rcases h with ⟨rest, rfl, htilde⟩ | ⟨htilde, hequals⟩
  · exact Or.inl ⟨rest ++ [' '], rfl, by simpa using htilde⟩
  · exact Or.inr ⟨by simpa using htilde, by simpa using hequals⟩

/-- A written rule is read back. -/
theorem readRule?_write (h : rule.IsCanonical) : readRule? rule.write = some rule := by
  have htarget := Target.isWritten_write h.target
  have hequals : '=' ∉ (' ' :: rule.target.write).takeWhile (· != '~') := by
    simpa using htarget.equals
  rw [readRule?, write_eq_append, splitRule?_append h.isSplit.append_space hequals]
  simp [trim_append_blank isBlank_space, trim_cons_blank isBlank_space, h.title.trimmed.trim_eq,
    htarget.title.trimmed.trim_eq, h.title.ne_nil, htarget.title.ne_nil, Target.read?_write h.target]

/-- Blanks at the end of a source can be taken off, and what is left splits its rule as well. -/
theorem IsSplitSource.trim {s : List Char} (h : IsSplitSource s) : IsSplitSource (trim s) := by
  rcases h with ⟨rest, rfl, htilde⟩ | ⟨htilde, hequals⟩
  · refine Or.inl ⟨trimEnd rest, trim_cons (by decide) rest, ?_⟩
    exact fun hmem => htilde ((trimEnd_isPrefix rest).subset hmem)
  · exact Or.inr ⟨fun hmem => htilde (mem_of_mem_trim hmem),
      fun hmem => hequals (mem_of_mem_trim hmem)⟩

/-- A rule that was read from a line is canonical. -/
theorem isCanonical_of_readRule? {line : List Char} (htitle : IsTitle line)
    (hline : isOtherLine line = false)
    (h : readRule? line = some rule) : rule.IsCanonical := by
  obtain ⟨⟨source, target⟩, hsplit, hrest⟩ := Option.bind_eq_some_iff.mp h
  obtain ⟨rfl, hsource⟩ := splitRule?_eq_some hsplit
  simp only [List.isEmpty_iff] at hrest
  split at hrest
  · cases hrest
  · rename_i hne
    rw [not_or] at hne
    obtain ⟨t, ht, rfl⟩ := Option.map_eq_some_iff.mp hrest
    have hsourceNe : source ≠ [] := by
      rintro rfl
      exact hne.1 rfl
    have hfirst : ∀ c, source.head? = some c → isBlank c = false := by
      intro c hc
      exact htitle.trimmed.first c (by rw [List.head?_append_of_ne_nil _ hsourceNe, hc])
    have hbegin : trim source <+: source := by
      rw [trim, trimStart_eq_self hfirst]
      exact trimEnd_isPrefix source
    have htargetLine : '\n' ∉ trim target := by
      intro hmem
      exact htitle.oneLine (by simp [mem_of_mem_trim hmem])
    refine ⟨⟨by simpa using hne.1, by simpa using isTrimmed_trim source, ?_⟩,
      by simpa using hsource.trim, ?_, Target.isCanonical_of_read? htargetLine ht⟩
    · intro hmem
      rw [String.toList_ofList] at hmem
      exact htitle.oneLine (by simp [mem_of_mem_trim hmem])
    · obtain ⟨back, hback⟩ := hbegin
      rw [← hback, List.append_assoc] at hline
      simpa using isOtherLine_of_append hne.1 hline

theorem isTitle_write (h : rule.IsCanonical) : IsTitle rule.write := by
  have htarget := Target.isWritten_write h.target
  refine ⟨by simp [Rule.write], ?_, ?_⟩
  · have hfirst : ∀ c, (rule.source.toList ++ " = ".toList).head? = some c → isBlank c = false := by
      intro c hc
      rw [List.head?_append_of_ne_nil _ h.title.ne_nil] at hc
      exact h.title.trimmed.first c hc
    exact IsTrimmed.append (by simp) htarget.title.ne_nil hfirst htarget.title.trimmed.last
  · simpa [Rule.write] using And.intro h.title.oneLine htarget.title.oneLine

/-- The line of a rule is nothing else. -/
theorem isOtherLine_write (h : rule.IsCanonical) : isOtherLine rule.write = false := by
  rw [Rule.write, List.append_assoc]
  exact isOtherLine_append h.title.ne_nil h.isRule _

end Crosswalk.Mapping
