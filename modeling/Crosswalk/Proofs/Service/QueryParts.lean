import Mathlib.Data.List.Induction
import Crosswalk.Proofs.Mapping.Marks
import Crosswalk.Proofs.Text.Replacement
import Crosswalk.Proofs.Url.Percent
import Crosswalk.Service.Suggestion

/-!
The query of a service, taken apart.

One scan from the left finds the placeholders of a query; every other character is its own. Values
are put in for one placeholder after the other. As long as no placeholder stands between braces of
the query's own, each of these steps finds the placeholders of the scan and no others, whatever has
been put in before.
-/

namespace Crosswalk.Service

open Mapping Text

/-- A part of a query: a character of its own, a placeholder, or a value in the place of one. -/
inductive QueryPart where
  | own (c : Char)
  | placeholder (mark : List Char)
  | value (text : List Char)
deriving DecidableEq

/-- The placeholders that a query may have. -/
def placeholders : List (List Char) :=
  ["\x7bquery\x7d".toList, "\x7blanguage\x7d".toList, "\x7bmax_results\x7d".toList,
    "\x7busername\x7d".toList]

/-- The parts of a query in one scan from the left; `skip` characters of a placeholder that is found
already are still to be passed over. -/
def partsFrom : Nat → List Char → List QueryPart
  | _, [] => []
  | skip + 1, _ :: rest => partsFrom skip rest
  | 0, c :: rest =>
    match placeholders.find? fun mark => beginsWith mark (c :: rest) with
    | some mark => .placeholder mark :: partsFrom (mark.length - 1) rest
    | none => .own c :: partsFrom 0 rest

/-- The parts of a query. -/
def partsOf (template : List Char) : List QueryPart := partsFrom 0 template

namespace QueryPart

def write : QueryPart → List Char
  | own c => [c]
  | placeholder mark => mark
  | value text => text

/-- The character of a part that is one of the query's own. -/
def own? : QueryPart → Option Char
  | own c => some c
  | _ => none

/-- Puts a text in for a placeholder. -/
def put (mark text : List Char) : QueryPart → QueryPart
  | placeholder other => if other = mark then value text else placeholder other
  | part => part

/-- Puts the values of parameters in for their placeholders, each in the form of HTML forms. -/
def fill (parameters : List (List Char × List Char)) : QueryPart → QueryPart
  | placeholder mark =>
    match parameters.lookup mark with
    | some text => value (Url.Percent.form text)
    | none => placeholder mark
  | part => part

/-- A placeholder is one that a query may have, and a value holds no brace. -/
def IsSound : QueryPart → Prop
  | own _ => True
  | placeholder mark => mark ∈ placeholders
  | value text => IsBraceFree text

end QueryPart

open QueryPart

def writeParts (parts : List QueryPart) : List Char := parts.flatMap write

theorem writeParts_cons (part : QueryPart) (rest : List QueryPart) :
    writeParts (part :: rest) = part.write ++ writeParts rest := List.flatMap_cons

theorem writeParts_append (front back : List QueryPart) :
    writeParts (front ++ back) = writeParts front ++ writeParts back := List.flatMap_append

/-- Whether a placeholder stands between braces of the query's own, which have no others of its own
between them. -/
def Encloses (parts : List QueryPart) : Prop :=
  ∃ before inner after,
    parts = before ++ own '\x7b' :: (inner ++ own '\x7d' :: after) ∧
      (∃ mark, placeholder mark ∈ inner) ∧ ∀ c, own c ∈ inner → isBrace c = false

/-- Whether a brace of the query's own is closed with no other one in between, and with a
placeholder in front of the closing one; `found` tells whether there has been a placeholder. -/
def closesAround : Bool → List QueryPart → Bool
  | _, [] => false
  | found, own c :: rest =>
    if c = '\x7d' then found else if c = '\x7b' then false else closesAround found rest
  | _, placeholder _ :: rest => closesAround true rest
  | found, value _ :: rest => closesAround found rest

/-- Computes whether a placeholder stands between braces of the query's own. -/
def encloses : List QueryPart → Bool
  | [] => false
  | own c :: rest => c == '\x7b' && closesAround false rest || encloses rest
  | _ :: rest => encloses rest

/-- No placeholder begins at a character of the query's own. -/
def IsClear (parts : List QueryPart) : Prop :=
  ∀ before c after, parts = before ++ own c :: after →
    ∀ mark ∈ placeholders, ¬ mark <+: c :: writeParts after

variable {mark : List Char} {parts : List QueryPart}

theorem closesAround_iff {found : Bool} :
    closesAround found parts = true ↔ ∃ inner after, parts = inner ++ own '\x7d' :: after ∧
      (found = true ∨ ∃ mark, placeholder mark ∈ inner) ∧
        ∀ c, own c ∈ inner → isBrace c = false := by
  induction parts generalizing found with
  | nil => simp [closesAround]
  | cons part rest ih =>
    constructor
    · intro h
      cases part with
      | own c =>
        rw [closesAround] at h
        split at h
        · subst_vars
          exact ⟨[], rest, rfl, Or.inl rfl, by simp⟩
        · split at h
          · cases h
          · rename_i hclose hopen
            obtain ⟨inner, after, rfl, hfound, hown⟩ := ih.mp h
            have hc : isBrace c = false := by simp [isBrace, openBrace, closeBrace, hclose, hopen]
            exact ⟨own c :: inner, after, rfl, by simpa using hfound, by simpa [hc] using hown⟩
      | placeholder mark =>
        obtain ⟨inner, after, rfl, -, hown⟩ := ih.mp h
        exact ⟨placeholder mark :: inner, after, rfl, Or.inr ⟨mark, by simp⟩, by simpa using hown⟩
      | value text =>
        obtain ⟨inner, after, rfl, hfound, hown⟩ := ih.mp h
        exact ⟨value text :: inner, after, rfl, by simpa using hfound, by simpa using hown⟩
    · rintro ⟨inner, after, hsplit, hfound, hown⟩
      cases inner with
      | nil =>
        obtain ⟨rfl, rfl⟩ := List.cons.inj hsplit
        simpa [closesAround] using hfound
      | cons first inner =>
        obtain ⟨rfl, rfl⟩ := List.cons.inj hsplit
        have hinner : ∀ c, own c ∈ inner → isBrace c = false := fun c hc =>
          hown c (List.mem_cons_of_mem _ hc)
        cases part with
        | own c =>
          have hc := hown c List.mem_cons_self
          have hclose : c ≠ '\x7d' := by rintro rfl; exact absurd hc (by decide)
          have hopen : c ≠ '\x7b' := by rintro rfl; exact absurd hc (by decide)
          rw [closesAround, if_neg hclose, if_neg hopen]
          exact ih.mpr ⟨inner, after, rfl, by simpa using hfound, hinner⟩
        | placeholder mark => exact ih.mpr ⟨inner, after, rfl, Or.inl rfl, hinner⟩
        | value text => exact ih.mpr ⟨inner, after, rfl, by simpa using hfound, hinner⟩

theorem encloses_iff : encloses parts = true ↔ Encloses parts := by
  induction parts with
  | nil => simp [encloses, Encloses]
  | cons part rest ih =>
    have hcons : Encloses (part :: rest) ↔
        part = own '\x7b' ∧ closesAround false rest = true ∨ Encloses rest := by
      constructor
      · rintro ⟨before, inner, after, hsplit, hfound, hown⟩
        cases before with
        | nil =>
          obtain ⟨rfl, rfl⟩ := List.cons.inj hsplit
          exact Or.inl ⟨rfl, closesAround_iff.mpr ⟨inner, after, rfl, Or.inr hfound, hown⟩⟩
        | cons first before =>
          exact Or.inr ⟨before, inner, after, (List.cons.inj hsplit).2, hfound, hown⟩
      · rintro (⟨rfl, hcloses⟩ | ⟨before, inner, after, rfl, hfound, hown⟩)
        · obtain ⟨inner, after, rfl, hfound, hown⟩ := closesAround_iff.mp hcloses
          exact ⟨[], inner, after, rfl, by simpa using hfound, hown⟩
        · exact ⟨part :: before, inner, after, rfl, hfound, hown⟩
    rw [hcons, ← ih]
    cases part <;> simp [encloses]

instance (parts : List QueryPart) : Decidable (Encloses parts) :=
  decidable_of_iff _ encloses_iff

theorem exists_name_of_mem (h : mark ∈ placeholders) :
    ∃ name, IsBraceFree name ∧ mark = '\x7b' :: (name ++ ['\x7d']) := by
  have hall : ∀ mark ∈ placeholders,
      IsBraceFree mark.tail.dropLast ∧ mark = '\x7b' :: (mark.tail.dropLast ++ ['\x7d']) := by
    decide
  exact ⟨_, hall mark h⟩

theorem ne_nil_of_mem (h : mark ∈ placeholders) : mark ≠ [] := by
  obtain ⟨name, -, rfl⟩ := exists_name_of_mem h
  exact List.cons_ne_nil _ _

theorem head?_of_mem (h : mark ∈ placeholders) : mark.head? = some '\x7b' := by
  obtain ⟨name, -, rfl⟩ := exists_name_of_mem h
  rfl

/-- Of two placeholders none goes on where the other ends. -/
theorem eq_of_isPrefix {other rest : List Char} (hmark : mark ∈ placeholders)
    (hother : other ∈ placeholders) (h : mark <+: other ++ rest) : mark = other := by
  obtain ⟨name, hname, rfl⟩ := exists_name_of_mem hmark
  obtain ⟨second, hsecond, rfl⟩ := exists_name_of_mem hother
  obtain ⟨after, hafter⟩ := h
  simp only [List.cons_append, List.append_assoc, List.cons.injEq, true_and] at hafter
  rw [Segment.eq_of_append_close hname hsecond hafter]

theorem partsFrom_skip (passed rest : List Char) :
    partsFrom passed.length (passed ++ rest) = partsOf rest := by
  induction passed with
  | nil => rfl
  | cons c tail ih => exact ih

theorem partsOf_mark (hmark : mark ∈ placeholders) (rest : List Char) :
    partsOf (mark ++ rest) = placeholder mark :: partsOf rest := by
  have hfind : (placeholders.find? fun other => beginsWith other (mark ++ rest)) = some mark := by
    have hstands : beginsWith mark (mark ++ rest) = true := beginsWith_iff.mpr ⟨rest, rfl⟩
    cases hfound : placeholders.find? fun other => beginsWith other (mark ++ rest) with
    | none => exact absurd hstands (List.find?_eq_none.mp hfound mark hmark)
    | some found =>
      have hbegins : found <+: mark ++ rest :=
        beginsWith_iff.mp (List.find?_some (p := fun other => beginsWith other _) hfound)
      rw [eq_of_isPrefix (List.mem_of_find?_eq_some hfound) hmark hbegins]
  cases mark with
  | nil => exact absurd rfl (ne_nil_of_mem hmark)
  | cons c tail =>
    rw [List.cons_append] at hfind ⊢
    rw [partsOf, partsFrom, hfind]
    exact congrArg (placeholder (c :: tail) :: ·) (partsFrom_skip tail rest)

theorem partsOf_own {c : Char} {rest : List Char}
    (h : ∀ mark ∈ placeholders, ¬ mark <+: c :: rest) :
    partsOf (c :: rest) = own c :: partsOf rest := by
  have hfind : (placeholders.find? fun other => beginsWith other (c :: rest)) = none := by
    rw [List.find?_eq_none]
    intro mark hmark hbegins
    exact h mark hmark (beginsWith_iff.mp hbegins)
  rw [partsOf, partsFrom, hfind]
  rfl

/-- A query is scanned placeholder by placeholder and, where none stands, character by character. -/
theorem scan_induction {motive : List Char → Prop} (nil : motive [])
    (mark : ∀ mark ∈ placeholders, ∀ rest, motive rest → motive (mark ++ rest))
    (own : ∀ c rest, (∀ mark ∈ placeholders, ¬ mark <+: c :: rest) → motive rest →
      motive (c :: rest)) (template : List Char) : motive template := by
  induction hlen : template.length using Nat.strongRecOn generalizing template with
  | _ n ih =>
    cases template with
    | nil => exact nil
    | cons c rest =>
      by_cases hstands : ∃ mark ∈ placeholders, mark <+: c :: rest
      · obtain ⟨found, hfound, after, hafter⟩ := hstands
        have hpos := List.length_pos_iff.mpr (ne_nil_of_mem hfound)
        have htotal := congrArg List.length hafter
        rw [List.length_append, hlen] at htotal
        rw [← hafter]
        exact mark found hfound after (ih after.length (by omega) after rfl)
      · rw [not_exists] at hstands
        refine own c rest (fun found hfound hbegins => hstands found ⟨hfound, hbegins⟩) ?_
        exact ih rest.length (by rw [← hlen]; exact Nat.lt_succ_self _) rest rfl

/-- The parts of a query are written one after the other as the query. -/
theorem writeParts_partsOf (template : List Char) : writeParts (partsOf template) = template := by
  induction template using scan_induction with
  | nil => rfl
  | mark found hfound rest ih =>
    rw [partsOf_mark hfound, writeParts_cons, ih, write]
  | own c rest hnone ih =>
    rw [partsOf_own hnone, writeParts_cons, ih, write, List.singleton_append]

theorem isSound_of_mem_partsOf {part : QueryPart} {template : List Char}
    (h : part ∈ partsOf template) : part.IsSound := by
  induction template using scan_induction with
  | nil => cases h
  | mark found hfound rest ih =>
    rw [partsOf_mark hfound] at h
    rcases List.mem_cons.mp h with rfl | h
    · exact hfound
    · exact ih h
  | own c rest hnone ih =>
    rw [partsOf_own hnone] at h
    rcases List.mem_cons.mp h with rfl | h
    · trivial
    · exact ih h

theorem isClear_partsOf (template : List Char) : IsClear (partsOf template) := by
  induction template using scan_induction with
  | nil =>
    intro before c after hsplit
    exact absurd hsplit.symm (by simp [partsOf, partsFrom])
  | mark found hfound rest ih =>
    intro before c after hsplit
    rw [partsOf_mark hfound] at hsplit
    cases before with
    | nil => cases (List.cons.inj hsplit).1
    | cons part before => exact ih before c after (List.cons.inj hsplit).2
  | own d rest hnone ih =>
    intro before c after hsplit
    rw [partsOf_own hnone] at hsplit
    cases before with
    | nil =>
      obtain ⟨hchar, hrest⟩ := List.cons.inj hsplit
      obtain rfl := QueryPart.own.inj hchar
      rw [← hrest, writeParts_partsOf]
      exact hnone
    | cons part before => exact ih before c after (List.cons.inj hsplit).2

theorem open_not_mem_tail (hmark : mark ∈ placeholders) : '\x7b' ∉ mark.tail := by
  obtain ⟨name, hname, rfl⟩ := exists_name_of_mem hmark
  rw [List.tail_cons, List.mem_append, List.mem_singleton]
  rintro (hmem | hclose)
  · exact absurd (hname _ hmem) (by decide)
  · exact absurd hclose (by decide)

/-- A placeholder that stands in a query is found by the scan. -/
theorem placeholder_mem_partsOf {template : List Char} (hmark : mark ∈ placeholders)
    (h : mark <:+: template) : placeholder mark ∈ partsOf template := by
  obtain ⟨before, after, hsplit⟩ := h
  rw [List.append_assoc] at hsplit
  induction template using scan_induction generalizing before with
  | nil => simp [ne_nil_of_mem hmark] at hsplit
  | mark found hfound rest ih =>
    rw [partsOf_mark hfound]
    rcases List.append_eq_append_iff.mp hsplit with ⟨more, hfront, hback⟩ | ⟨more, -, hback⟩
    · cases before with
      | nil =>
        rw [eq_of_isPrefix hmark hfound ⟨after, hsplit⟩]
        exact List.mem_cons_self
      | cons c before =>
        -- the brace that begins it would stand inside the placeholder found here
        cases more with
        | nil => exact List.mem_cons_of_mem _ (ih [] hback)
        | cons d more =>
          have hopen := head?_of_mem hmark
          have hfirst : (mark ++ after).head? = mark.head? :=
            List.head?_append_of_ne_nil mark (ne_nil_of_mem hmark)
          rw [← hfirst, hback] at hopen
          obtain rfl := Option.some.inj hopen
          refine absurd ?_ (open_not_mem_tail hfound)
          simp [hfront]
    · exact List.mem_cons_of_mem _ (ih more hback.symm)
  | own c rest hnone ih =>
    rw [partsOf_own hnone]
    cases before with
    | nil => exact absurd ⟨after, hsplit⟩ (hnone mark hmark)
    | cons d before => exact List.mem_cons_of_mem _ (ih before (List.cons.inj hsplit).2)

/-- Putting a text in for a placeholder everywhere puts it in at the places where the scan has found
it, if no placeholder begins elsewhere. -/
theorem replaceText_writeParts {text : List Char} (hmark : mark ∈ placeholders)
    (hsound : ∀ part ∈ parts, part.IsSound) (hclear : IsClear parts) :
    replaceText mark text (writeParts parts) = writeParts (parts.map (put mark text)) := by
  have hne := ne_nil_of_mem hmark
  induction parts with
  | nil => rw [writeParts, List.flatMap_nil, replaceText_of_ne_nil hne]; rfl
  | cons part rest ih =>
    obtain ⟨hpart, hrest⟩ := List.forall_mem_cons.mp hsound
    have htail : IsClear rest := by
      intro before c after hsplit
      exact hclear (part :: before) c after (by rw [hsplit, List.cons_append])
    have hstep := ih hrest htail
    rw [writeParts_cons, List.map_cons, writeParts_cons]
    cases part with
    | own c =>
      rw [write, List.singleton_append,
        replaceText_cons hne (hclear [] c rest rfl mark hmark), hstep]
      rfl
    | value t =>
      have hpass : ∀ c ∈ t, mark.head? ≠ some c := by
        intro c hc hopen
        rw [head?_of_mem hmark] at hopen
        obtain rfl := Option.some.inj hopen
        exact absurd (hpart _ hc) (by decide)
      rw [write, replaceText_append hne hpass, hstep]
      rfl
    | placeholder other =>
      by_cases hsame : other = mark
      · rw [hsame, write, replaceText_mark hne, hstep, put, if_pos rfl]
        rfl
      · rw [put, if_neg hsame, write, ← hstep]
        obtain ⟨c, tail, rfl⟩ := List.exists_cons_of_ne_nil (ne_nil_of_mem hpart)
        have hnot : ¬ mark <+: c :: (tail ++ writeParts rest) := by
          intro hbegins
          exact hsame (eq_of_isPrefix hmark hpart hbegins).symm
        have hpass : ∀ d ∈ tail, mark.head? ≠ some d := by
          intro d hd hopen
          rw [head?_of_mem hmark] at hopen
          obtain rfl := Option.some.inj hopen
          exact open_not_mem_tail hpart hd
        rw [List.cons_append, replaceText_cons hne hnot, replaceText_append hne hpass,
          List.cons_append]

/-- A name that is closed by a brace ends at a brace of the query's own, and no placeholder stands
in front of it. -/
theorem exists_close {name : List Char} (hname : IsBraceFree name)
    (hsound : ∀ part ∈ parts, part.IsSound) (h : name ++ ['\x7d'] <+: writeParts parts) :
    ∃ inner after, parts = inner ++ own '\x7d' :: after ∧ writeParts inner = name ∧
      (∀ c, own c ∈ inner → isBrace c = false) ∧ ∀ mark, placeholder mark ∉ inner := by
  obtain ⟨back, hback⟩ := h
  rw [List.append_assoc, List.singleton_append] at hback
  induction parts generalizing name with
  | nil => exact absurd hback (by simp [writeParts])
  | cons part rest ih =>
    obtain ⟨hpart, hrest⟩ := List.forall_mem_cons.mp hsound
    rw [writeParts_cons] at hback
    cases part with
    | own c =>
      cases name with
      | nil =>
        obtain rfl := (List.cons.inj hback).1
        exact ⟨[], rest, rfl, rfl, by simp, by simp⟩
      | cons d name =>
        obtain ⟨hd, hname⟩ := List.forall_mem_cons.mp hname
        obtain ⟨rfl, hmore⟩ := List.cons.inj hback
        obtain ⟨inner, after, rfl, rfl, hown, hnone⟩ := ih hname hrest hmore
        refine ⟨own d :: inner, after, rfl, rfl, ?_, by simpa using hnone⟩
        simpa [hd] using hown
    | placeholder mark =>
      have hopen := congrArg List.head? hback
      rw [write, List.head?_append_of_ne_nil _ (ne_nil_of_mem hpart), head?_of_mem hpart] at hopen
      cases name with
      | nil => exact absurd (Option.some.inj hopen) (by decide)
      | cons d name =>
        obtain rfl := Option.some.inj hopen
        exact absurd (hname _ List.mem_cons_self) (by decide)
    | value text =>
      rw [write] at hback
      have hfront : ∃ more, name = text ++ more ∧ more ++ '\x7d' :: back = writeParts rest := by
        rcases List.append_eq_append_iff.mp hback with ⟨more, htext, hmore⟩ | ⟨more, hfront, hmore⟩
        · cases more with
          | nil => exact ⟨[], by rw [htext, List.append_nil, List.append_nil], hmore⟩
          | cons d more =>
            -- the closing brace would stand in the value
            obtain rfl := (List.cons.inj hmore).1
            have hclose : '\x7d' ∈ text := by simp [htext]
            exact absurd (hpart _ hclose) (by decide)
        · exact ⟨more, hfront, hmore.symm⟩
      obtain ⟨more, rfl, hmore⟩ := hfront
      obtain ⟨inner, after, rfl, rfl, hown, hnone⟩ :=
        ih (fun c hc => hname c (List.mem_append_right _ hc)) hrest hmore
      exact ⟨value text :: inner, after, rfl, rfl, by simpa using hown, by simpa using hnone⟩

variable {parameters : List (List Char × List Char)} {template : List Char}

theorem isSound_fill {part : QueryPart} (h : part.IsSound) : (part.fill parameters).IsSound := by
  cases part with
  | own c => exact h
  | value text => exact h
  | placeholder mark =>
    rw [fill]
    split
    · intro c hc
      have hform := Url.Percent.isFormChar_of_mem_form hc
      by_contra hbrace
      simp only [isBrace, Bool.not_eq_false, Bool.or_eq_true, beq_iff_eq] at hbrace
      rcases hbrace with rfl | rfl <;> exact absurd hform (by decide)
    · exact h

theorem fill_eq_own_iff {part : QueryPart} {c : Char} :
    part.fill parameters = own c ↔ part = own c := by
  cases part with
  | own d => rfl
  | value text => rfl
  | placeholder mark =>
    rw [fill]
    split <;> simp

/-- A list of parts in which nothing can be put in. -/
theorem map_fill_eq_self {inner : List QueryPart} (h : ∀ mark, placeholder mark ∉ inner) :
    inner.map (fill parameters) = inner := by
  have hsame : inner.map (fill parameters) = inner.map id := by
    refine List.map_congr_left fun part hpart => ?_
    cases part with
    | own c => rfl
    | value text => rfl
    | placeholder mark => exact absurd hpart (h mark)
  rw [hsame, List.map_id]

/-- Values that are put in make no new placeholder with the characters of the query, if it has no
placeholder between braces of its own. -/
theorem isClear_map_fill (h : ¬ Encloses (partsOf template)) :
    IsClear ((partsOf template).map (fill parameters)) := by
  intro before c after hsplit mark hmark hbegins
  obtain ⟨front, tail, hparts, -, htail⟩ := List.map_eq_append_iff.mp hsplit
  obtain ⟨part, back, rfl, hpart, rfl⟩ := List.map_eq_cons_iff.mp htail
  obtain rfl := fill_eq_own_iff.mp hpart
  obtain ⟨name, hname, rfl⟩ := exists_name_of_mem hmark
  have hopen : c = '\x7b' := (List.cons_prefix_cons.mp hbegins).1.symm
  have hsound : ∀ part ∈ back.map (fill parameters), part.IsSound := by
    intro part hmem
    obtain ⟨origin, horigin, rfl⟩ := List.mem_map.mp hmem
    have hpart : origin ∈ partsOf template := by simp [hparts, horigin]
    exact isSound_fill (isSound_of_mem_partsOf hpart)
  obtain ⟨inner, rest, hinner, hwritten, hown, hnone⟩ :=
    exists_close hname hsound (List.cons_prefix_cons.mp hbegins).2
  obtain ⟨filled, closing, hback, rfl, hclosing⟩ := List.map_eq_append_iff.mp hinner
  obtain ⟨close, last, rfl, hclose, rfl⟩ := List.map_eq_cons_iff.mp hclosing
  obtain rfl := fill_eq_own_iff.mp hclose
  by_cases hplaceholder : ∃ mark, placeholder mark ∈ filled
  · -- a value was put in between braces of the query's own
    refine h ⟨front, filled, last, by rw [hparts, hback, hopen], hplaceholder, fun d hd => ?_⟩
    exact hown d (List.mem_map.mpr ⟨own d, hd, rfl⟩)
  · -- nothing was put in, so the placeholder has stood there before
    rw [not_exists] at hplaceholder
    refine isClear_partsOf template front c back hparts _ hmark ?_
    rw [map_fill_eq_self hplaceholder] at hwritten
    rw [hopen, hback, writeParts_append, writeParts_cons, hwritten]
    exact ⟨writeParts last, by simp [write]⟩

theorem fill_concat (mark text : List Char) (part : QueryPart) :
    part.fill (parameters ++ [(mark, text)]) =
      (part.fill parameters).put mark (Url.Percent.form text) := by
  cases part with
  | own c => rfl
  | value t => rfl
  | placeholder other =>
    simp only [fill, List.lookup_append]
    cases parameters.lookup other with
    | some found => rfl
    | none =>
      by_cases hsame : other = mark
      · simp [hsame, put]
      · simp [hsame, put]

/-- Filling a query with one parameter after the other fills the placeholders that the scan has
found, each with the value of its own parameter. -/
theorem fillQuery_eq (hparameters : ∀ parameter ∈ parameters, parameter.1 ∈ placeholders)
    (h : ¬ Encloses (partsOf template)) :
    fillQuery parameters template = writeParts ((partsOf template).map (fill parameters)) := by
  induction parameters using List.reverseRecOn with
  | nil =>
    have hself : (partsOf template).map (fill []) = partsOf template :=
      List.map_id'' (fun part => by cases part <;> rfl) _
    rw [hself, writeParts_partsOf]
    rfl
  | append_singleton earlier parameter ih =>
    obtain ⟨mark, text⟩ := parameter
    obtain ⟨hearlier, hmark⟩ := List.forall_mem_append.mp hparameters
    have hsound : ∀ part ∈ (partsOf template).map (fill earlier), part.IsSound := by
      intro part hmem
      obtain ⟨origin, horigin, rfl⟩ := List.mem_map.mp hmem
      exact isSound_fill (isSound_of_mem_partsOf horigin)
    rw [fillQuery, List.foldl_concat, ← fillQuery, ih hearlier]
    refine (replaceText_writeParts (hmark (mark, text) List.mem_cons_self) hsound
      (isClear_map_fill h)).trans ?_
    rw [List.map_map]
    congr 1
    exact List.map_congr_left fun part _ => (fill_concat mark text part).symm

end Crosswalk.Service
