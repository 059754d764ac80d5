import Crosswalk.Proofs.Pattern.Spans
import Crosswalk.Proofs.Pattern.Steps

/-!
Expressions that are read between the start and the end of a text.

The frame opens a group and reads the expression in it, so the reader goes the same way as without
the frame, with one group more around it. It comes to the frame's own parenthesis unless a comment
of the expression takes in the end of the frame, or the expression closes a group that it did not
open.
-/

namespace Crosswalk.Pattern

namespace Reading

/-- Puts groups around all that are open. -/
def under (r : Reading) (around : List Level) : Reading :=
  { r with levels := r.levels ++ around }

variable {around : List Level}

@[simp] theorem under_flags (r : Reading) : (r.under around).flags = r.flags := rfl

@[simp] theorem under_names (r : Reading) : (r.under around).names = r.names := rfl

@[simp] theorem under_group (r : Reading) : (r.under around).group = r.group := rfl

@[simp] theorem under_levels (r : Reading) : (r.under around).levels = r.levels ++ around := rfl

theorem under_nil (r : Reading) : r.under [] = r := by
  rw [under, List.append_nil]

theorem repeatLast?_under (r : Reading) (least : Nat) (most : Option Nat) :
    (r.under around).repeatLast? least most = (r.repeatLast? least most).map (·.under around) := by
  obtain ⟨flags, _ | ⟨⟨_ | p, depth⟩, items⟩, branches, levels, names⟩ := r <;> rfl

theorem close?_under {r : Reading} (hlevels : r.levels ≠ []) :
    (r.under around).close? = r.close?.map (·.under around) := by
  obtain ⟨flags, items, branches, _ | ⟨level, levels⟩, names⟩ := r
  · exact absurd rfl hlevels
  · rfl

end Reading

section Under

variable {around : List Level} (r : Reading)

theorem openNamed?_under (s : List Char) :
    openNamed? (r.under around) s =
      (openNamed? r s).map fun found => (found.1.under around, found.2) := by
  unfold openNamed?
  cases readGroupName? s with
  | none => rfl
  | some found =>
    obtain ⟨name, rest⟩ := found
    rw [Option.bind_some, Option.bind_some, Reading.under_names]
    dsimp only
    by_cases hname : r.names.contains name = true
    · rw [if_pos hname, if_pos hname, Option.map_none]
    · rw [if_neg hname, if_neg hname]
      rfl

theorem closeFlags?_under (t : FlagText) (s : List Char) :
    closeFlags? (r.under around) t s =
      (closeFlags? r t s).map fun found => (found.1.under around, found.2) := by
  unfold closeFlags?
  split
  · rfl
  · split <;> rfl
  · rfl

theorem openFlagged?_under (s : List Char) :
    openFlagged? (r.under around) s =
      (openFlagged? r s).map fun found => (found.1.under around, found.2) := by
  change (FlagText.read? ⟨[], r.flags, true⟩ s).bind (fun found =>
    closeFlags? (r.under around) found.1 found.2) = ((FlagText.read? ⟨[], r.flags, true⟩ s).bind
      fun found => closeFlags? r found.1 found.2).map _
  cases FlagText.read? ⟨[], r.flags, true⟩ s with
  | none => rfl
  | some found => exact closeFlags?_under r found.1 found.2

theorem openMarked?_under (s : List Char) :
    openMarked? (r.under around) s =
      (openMarked? r s).map fun found => (found.1.under around, found.2) := by
  unfold openMarked?
  split
  · exact openNamed?_under r _
  · exact openNamed?_under r _
  · exact openFlagged?_under r _

theorem openGroup?_under (s : List Char) :
    openGroup? (r.under around) s =
      (openGroup? r s).map fun found => (found.1.under around, found.2) := by
  unfold openGroup?
  rw [Reading.under_flags]
  generalize r.flags.skip s = skipped
  dsimp only
  split
  · rfl
  · split
    · exact openMarked?_under r _
    · rfl

end Under

section Compiler

variable [Compiler]

/-- A step is the same in a group as outside of it, if it does not close the group. -/
theorem step?_under {around : List Level} (r : Reading) {c : Char} (rest : List Char)
    (hclose : c = ')' → r.levels ≠ []) :
    (r.under around).step? (c :: rest) =
      (r.step? (c :: rest)).map fun found => (found.1.under around, found.2) := by
  by_cases hsign : c ∈ signs
  · simp only [signs, List.mem_cons, List.not_mem_nil, or_false] at hsign
    have hrepeat : ∀ least most (t : List Char),
        ((r.under around).repeatLast? least most).map (·, t) =
          ((r.repeatLast? least most).map (·, t)).map fun found =>
            (found.1.under around, found.2) := by
      intro least most t
      rw [Reading.repeatLast?_under, Option.map_map, Option.map_map]
      rfl
    rcases hsign with rfl | rfl | rfl | rfl | rfl | rfl | rfl | rfl | rfl | rfl | rfl | rfl
    · exact openGroup?_under r rest
    · change (r.under around).close?.map (·, rest) = (r.close?.map (·, rest)).map _
      rw [Reading.close?_under (hclose rfl), Option.map_map, Option.map_map]
      rfl
    · rfl
    · change (readSet? r.flags rest).map _ = ((readSet? r.flags rest).map _).map _
      rw [Option.map_map]
      rfl
    · exact hrepeat 0 (some 1) _
    · exact hrepeat 0 none _
    · exact hrepeat 1 none _
    · change (readBounds? r.flags rest).bind _ = ((readBounds? r.flags rest).bind _).map _
      rw [Option.map_bind]
      exact congrArg _ (funext fun bounds => hrepeat bounds.1.1 bounds.1.2 _)
    · rw [step?_escape, step?_escape, Option.map_bind]
      refine congrArg _ (funext fun found => ?_)
      rw [Function.comp_apply, Option.map_map]
      rfl
    · change (if r.flags.unicode then _ else _) = Option.map _ (if r.flags.unicode then _ else _)
      split <;> rfl
    · rfl
    · rfl
  · rw [step?_plain hsign, step?_plain hsign, Option.map_map]
    rfl

namespace Reading

theorem run?_fuel (r : Reading) {n m : Nat} {s : List Char} (hn : s.length < n)
    (hm : s.length < m) : r.run? n s = r.run? m s := by
  refine fuel_irrelevant (fun n (r : Reading) => r.run? n) (fun n m r s h => ?_) r hn hm
  unfold run?
  cases hskip : r.flags.skip s with
  | nil => rfl
  | cons c rest =>
    have hlong := r.flags.skip_length s
    rw [hskip, List.length_cons] at hlong
    cases hstep : r.step? (c :: rest) with
    | none => simp only [hstep, Option.bind_none]
    | some found =>
      simp only [hstep, Option.bind_some]
      exact h found.1 found.2 (lt_of_le_of_lt (step?_suffix hstep).length_le hlong)

/-- Reads on to the end of the text. -/
def finish? (r : Reading) (s : List Char) : Option (Nested Pattern) := r.run? (s.length + 1) s

theorem finish?_end {r : Reading} {s : List Char} (hskip : r.flags.skip s = []) :
    r.finish? s = if r.levels.isEmpty then some r.group else none := by
  rw [finish?, run?, hskip]

theorem finish?_step {r : Reading} {s rest : List Char} {c : Char}
    (hskip : r.flags.skip s = c :: rest) :
    r.finish? s = (r.step? (c :: rest)).bind fun found => found.1.finish? found.2 := by
  have hlong := r.flags.skip_length s
  rw [hskip, List.length_cons] at hlong
  rw [finish?, run?, hskip]
  cases hstep : r.step? (c :: rest) with
  | none => simp only [hstep, Option.bind_none]
  | some found =>
    simp only [hstep, Option.bind_some]
    exact found.1.run?_fuel (lt_of_le_of_lt (step?_suffix hstep).length_le hlong)
      (Nat.lt_succ_self _)

theorem finish?_nil (r : Reading) :
    r.finish? [] = if r.levels.isEmpty then some r.group else none :=
  finish?_end (List.suffix_nil.mp (r.flags.skip_suffix []))

/-- While a group is open, what may be left of a frame behind its parenthesis does not end the
expression. -/
theorem finish?_of_suffix {r : Reading} {rest : List Char} (hrest : rest <:+ ['$'])
    (hlevels : r.levels ≠ []) : r.finish? rest = none := by
  have hempty : ∀ r : Reading, r.levels ≠ [] → r.finish? [] = none := by
    intro r hlevels
    rw [finish?_nil, if_neg (by simpa using hlevels)]
  rcases List.suffix_cons_iff.mp hrest with rfl | hnil
  · rw [finish?_step (r.flags.skip_cons (by decide) (by decide) [])]
    exact hempty (r.push _) hlevels
  · rw [List.suffix_nil.mp hnil]
    exact hempty r hlevels

omit [Compiler] in
theorem skip_frameEnd (f : Flags) : f.skip frameEnd = frameEnd :=
  f.skip_cons (by decide) (by decide) ['$']

/-- At the end of a frame the innermost group is closed. -/
theorem finish?_frameEnd (r : Reading) :
    r.finish? frameEnd = r.close?.bind fun closed => closed.finish? ['$'] := by
  rw [finish?_step (skip_frameEnd r.flags)]
  change (r.close?.map (·, ['$'])).bind _ = _
  cases r.close? <;> rfl

/-- The reader comes to a closing parenthesis while no group is open. -/
inductive ClosesUnopened : Reading → List Char → Prop
  | here {r : Reading} {s rest : List Char} (hskip : r.flags.skip s = ')' :: rest)
    (hlevels : r.levels = []) : ClosesUnopened r s
  | later {r r' : Reading} {s rest : List Char}
    (hstep : r.step? (r.flags.skip s) = some (r', rest)) (hlater : ClosesUnopened r' rest) :
    ClosesUnopened r s

/-- How an expression is read in groups with the end of a frame behind it, when it is read to an
answer on its own. -/
inductive Framed (r : Reading) (s : List Char) : Option (Nested Pattern) → Prop
  /-- The reader comes to the end of the frame. -/
  | left (e : Reading) (hlevels : e.levels = [])
    (h : ∀ around, (r.under around).finish? (s ++ frameEnd) = (e.under around).finish? frameEnd) :
    Framed r s (some e.group)
  /-- A comment goes on over the end of the frame. -/
  | swallowed {p : Nested Pattern}
    (h : ∀ around : List Level, (r.under around).finish? (s ++ frameEnd) =
      if around.isEmpty then some p else none) : Framed r s (some p)
  | failed (h : ∀ around, around ≠ [] → (r.under around).finish? (s ++ frameEnd) = none) :
    Framed r s none
  | unopened (h : r.ClosesUnopened s) : Framed r s none

omit [Compiler] in
theorem under_levels_ne_nil (r : Reading) {around : List Level} (h : around ≠ []) :
    (r.under around).levels ≠ [] := by
  rw [under_levels]
  exact List.append_ne_nil_of_right_ne_nil _ h

/-- At the end of the text. -/
theorem framed_end {r : Reading} {s : List Char} (hskip : r.flags.skip s = []) :
    r.Framed s (r.finish? s) := by
  rw [finish?_end hskip]
  rcases r.flags.skip_frame s with hleft | ⟨-, hframed⟩
  · rw [hskip, List.nil_append] at hleft
    have hsame : ∀ around, (r.under around).finish? (s ++ frameEnd) =
        (r.under around).finish? frameEnd := by
      intro around
      rw [finish?_step (r := r.under around) hleft, finish?_step (skip_frameEnd _)]
    by_cases hlevels : r.levels = []
    · rw [hlevels]
      exact .left r hlevels hsame
    · rw [if_neg (by simpa using hlevels)]
      refine .failed fun around haround => ?_
      rw [hsame, finish?_frameEnd, close?_under hlevels]
      cases r.close? with
      | none => rfl
      | some closed => exact finish?_of_suffix List.suffix_rfl (closed.under_levels_ne_nil haround)
  · have hsame : ∀ around, (r.under around).finish? (s ++ frameEnd) =
        if (r.levels ++ around).isEmpty then some r.group else none := fun around =>
      finish?_end hframed
    by_cases hlevels : r.levels = []
    · rw [hlevels] at hsame ⊢
      exact .swallowed hsame
    · rw [if_neg (by simpa using hlevels)]
      refine .failed fun around haround => ?_
      rw [hsame, if_neg (by simp [haround])]

/-- A comment that a step leaves open takes in the end of the frame. -/
theorem framed_swallowed {r r' : Reading} {s : List Char} (hfinish : r.finish? s = r'.finish? [])
    (hsame : ∀ around, (r.under around).finish? (s ++ frameEnd) = (r'.under around).finish? []) :
    r.Framed s (r.finish? s) := by
  rw [hfinish, finish?_nil]
  by_cases hlevels : r'.levels = []
  · rw [hlevels]
    refine .swallowed fun around => ?_
    rw [hsame, finish?_nil, under_levels, hlevels, List.nil_append, under_group]
  · rw [if_neg (by simpa using hlevels)]
    refine .failed fun around haround => ?_
    rw [hsame, finish?_nil, if_neg (by simp [haround])]

/-- A step that leaves the frame as it is. -/
theorem framed_left {r r' : Reading} {s rest tail : List Char} {c : Char}
    (hskip : r.flags.skip s = c :: tail)
    (hframed : r.flags.skip (s ++ frameEnd) = c :: (tail ++ frameEnd))
    (hclose : c = ')' → r.levels ≠ []) (hstep : r.step? (c :: tail) = some (r', rest))
    (hstepped : r.step? (c :: (tail ++ frameEnd)) = some (r', rest ++ frameEnd))
    (h : r'.Framed rest (r'.finish? rest)) : r.Framed s (r.finish? s) := by
  have hsame : ∀ around, (r.under around).finish? (s ++ frameEnd) =
      (r'.under around).finish? (rest ++ frameEnd) := by
    intro around
    rw [finish?_step (r := r.under around) hframed, step?_under r _ hclose, hstepped]
    rfl
  have hfinish : r.finish? s = r'.finish? rest := by
    rw [finish?_step hskip, hstep]
    rfl
  rw [hfinish]
  generalize r'.finish? rest = found at h
  cases h with
  | left e hlevels h => exact .left e hlevels fun around => (hsame around).trans (h around)
  | swallowed h => exact .swallowed fun around => (hsame around).trans (h around)
  | failed h => exact .failed fun around haround => (hsame around).trans (h around haround)
  | unopened h => exact .unopened (.later (hskip ▸ hstep) h)

/-- The brace of a condition whose name is cut off begins no turns either. -/
theorem framed_cut {r : Reading} {s : List Char} (hcut : IsCutEdge r.flags (r.flags.skip s)) :
    r.Framed s (r.finish? s) := by
  obtain ⟨rest, hskip, hrest⟩ := hcut
  have halone : r.finish? s = none := by
    rw [finish?_step hskip, step?_escape, readEscape?_edge, readEdge?_bare hrest]
    rfl
  have hframed : r.flags.skip (s ++ frameEnd) =
      '\\' :: 'b' :: '\x7b' :: (rest ++ frameEnd) := Flags.skip_frame_cons hskip
  rw [halone]
  refine .failed fun around _ => ?_
  rw [finish?_step (r := r.under around) hframed, step?_escape, readEscape?_edge, under_flags]
  rcases r.flags.skip_frame rest with hleft | ⟨-, hnil⟩
  · rw [hrest, List.nil_append] at hleft
    have hopen : ∀ t, r.flags.skip ('\x7b' :: t) = '\x7b' :: t := fun t =>
      r.flags.skip_cons (by decide) (by decide) t
    have hcount : readBounds? r.flags (rest ++ frameEnd) = none := by
      rw [readBounds?, hleft]
      rfl
    have hedge : readEdge? r.flags ('\x7b' :: (rest ++ frameEnd)) =
        some (.assertion (.wordEdge r.flags.unicode), '\x7b' :: (rest ++ frameEnd)) :=
      (readEdge?_brace hleft).trans (if_neg (by decide))
    rw [hedge]
    change ((r.under around).push (.assertion (.wordEdge r.flags.unicode))).finish?
      ('\x7b' :: (rest ++ frameEnd)) = none
    rw [finish?_step (r := (r.under around).push _) (hopen _)]
    change ((readBounds? r.flags (rest ++ frameEnd)).bind _).bind _ = none
    rw [hcount]
    rfl
  · rw [readEdge?_bare hnil]
    rfl

/-- How an expression is read in groups with the end of a frame behind it. -/
theorem framed_finish? (r : Reading) (s : List Char) : r.Framed s (r.finish? s) := by
  induction hlength : s.length using Nat.strong_induction_on generalizing r s with
  | _ n ih =>
    cases hskip : r.flags.skip s with
    | nil => exact framed_end hskip
    | cons c tail =>
      have hframed := Flags.skip_frame_cons hskip
      have hfinish := finish?_step hskip
      by_cases hclose : c = ')' ∧ r.levels = []
      · obtain ⟨rfl, hlevels⟩ := hclose
        have hnone : r.close? = none := by rw [close?, hlevels]
        have hstep : r.step? (')' :: tail) = none := by
          change r.close?.map (·, tail) = none
          rw [hnone, Option.map_none]
        rw [hfinish, hstep]
        exact .unopened (.here hskip hlevels)
      · have hopen : c = ')' → r.levels ≠ [] := fun hc hlevels => hclose ⟨hc, hlevels⟩
        by_cases hcut : IsCutEdge r.flags (c :: tail)
        · exact framed_cut (hskip ▸ hcut)
        · have hsteps : ∀ around, (r.under around).finish? (s ++ frameEnd) =
              (r.step? (c :: (tail ++ frameEnd))).bind fun found =>
                (found.1.under around).finish? found.2 := by
            intro around
            rw [finish?_step (r := r.under around) hframed, step?_under r _ hopen,
              Option.bind_map]
            rfl
          have hcarries := carries_step? hcut
          generalize hstep : r.step? (c :: tail) = alone at hcarries
          generalize hstepped : r.step? (c :: (tail ++ frameEnd)) = framed at hcarries
          cases hcarries with
          | left r' rest =>
            have hshort := (step?_suffix hstep).length_le
            have hlong := r.flags.skip_length s
            rw [hskip, List.length_cons] at hlong
            exact framed_left hskip hframed hopen hstep hstepped (ih _ (by omega) r' rest rfl)
          | swallowed r' =>
            exact framed_swallowed (hfinish.trans (congrArg (Option.bind · _) hstep))
              fun around => (hsteps around).trans (congrArg (Option.bind · _) hstepped)
          | failed h =>
            rw [hfinish, hstep]
            refine .failed fun around haround => ?_
            rw [hsteps, hstepped]
            cases framed with
            | none => rfl
            | some found =>
              exact finish?_of_suffix (h found.1 found.2 rfl) (found.1.under_levels_ne_nil haround)

end Reading

/-- A comment at the end of an expression takes in what a frame puts behind it. -/
def EndsInComment (s : List Char) : Prop := (parse? (s ++ frameEnd)).isSome = true

instance (s : List Char) : Decidable (EndsInComment s) :=
  inferInstanceAs (Decidable ((parse? (s ++ frameEnd)).isSome = true))

/-- An expression closes a group that it has not opened. -/
def ClosesUnopened (s : List Char) : Prop := Reading.start.ClosesUnopened s

/-- The group around the expression that a frame opens. -/
def frameLevel : Level := ⟨.initial, [.flat (some (.assertion .textStart))], []⟩

/-- How deep the text of an expression is nested in a frame: its group stands between conditions. -/
def framedDepth (depth : Nat) : Nat := depth + 2

theorem parse?_eq (s : List Char) : parse? s = Reading.start.finish? s := rfl

theorem parse?_inFrame (s : List Char) :
    parse? (inFrame s) = (Reading.start.under [frameLevel]).finish? (s ++ frameEnd) := by
  have htext : inFrame s = '^' :: '(' :: '?' :: ':' :: (s ++ frameEnd) := by
    simp [inFrame, frameEnd]
  rw [htext, parse?_eq, Reading.finish?_step rfl]
  change (Reading.start.push (.assertion .textStart)).finish? _ = _
  rw [Reading.finish?_step rfl]
  rfl

theorem finish?_anchored {e : Reading} (hlevels : e.levels = []) :
    (e.under [frameLevel]).finish? frameEnd =
      some ⟨anchored e.group.value, framedDepth e.group.depth⟩ := by
  obtain ⟨flags, items, branches, levels, names⟩ := e
  subst hlevels
  have hdepth : ∀ depth : Nat, Nested.depthOf [0, depth + 1, 0] = framedDepth depth := by
    intro depth
    simp [Nested.depthOf, framedDepth]
  rw [Reading.finish?_frameEnd, ← hdepth]
  rfl

/-- What is read on its own is read in the frame, unless a comment at its end takes in the frame. -/
theorem parse?_inFrame_of_parse? {s : List Char} {p : Nested Pattern} (h : parse? s = some p) :
    parse? (inFrame s) =
      if EndsInComment s then none else some ⟨anchored p.value, framedDepth p.depth⟩ := by
  have hframed := Reading.start.framed_finish? s
  rw [← parse?_eq, h] at hframed
  have hcomment : EndsInComment s ↔
      ((Reading.start.under []).finish? (s ++ frameEnd)).isSome = true := by
    rw [Reading.under_nil, ← parse?_eq]
    rfl
  rw [parse?_inFrame]
  cases hframed with
  | left e hlevels hsame =>
    have hnone : (e.under []).finish? frameEnd = none := by
      rw [Reading.under_nil, Reading.finish?_frameEnd, Reading.close?, hlevels, Option.bind_none]
    rw [hsame, hnone] at hcomment
    rw [hsame, finish?_anchored hlevels, if_neg (mt hcomment.mp (by decide))]
  | swallowed hsame =>
    rw [hsame] at hcomment
    rw [hsame, if_pos (hcomment.mpr rfl)]
    rfl

/-- What is not read on its own is not read in the frame either, unless it closes a group that it
has not opened. -/
theorem parse?_inFrame_eq_none {s : List Char} (h : parse? s = none)
    (hclosed : ¬ ClosesUnopened s) : parse? (inFrame s) = none := by
  have hframed := Reading.start.framed_finish? s
  rw [← parse?_eq, h] at hframed
  cases hframed with
  | failed h => exact (parse?_inFrame s).trans (h [frameLevel] (List.cons_ne_nil _ _))
  | unopened h => exact absurd h hclosed

namespace Reading

/-- What closes a group that it has not opened is not valid. -/
theorem ClosesUnopened.finish?_eq_none {r : Reading} {s : List Char} (h : r.ClosesUnopened s) :
    r.finish? s = none := by
  induction h with
  | @here r s rest hskip hlevels =>
    rw [finish?_step hskip]
    change (r.close?.map _).bind _ = none
    rw [close?, hlevels]
    rfl
  | @later r r' s rest hstep _ ih =>
    cases hskip : r.flags.skip s with
    | nil =>
      rw [hskip] at hstep
      cases hstep
    | cons c tail =>
      rw [hskip] at hstep
      rw [finish?_step hskip, hstep]
      exact ih

end Reading

theorem read?_eq_some_iff {s : List Char} {p : Pattern} :
    read? s = some p ↔ ∃ depth, parse? s = some ⟨p, depth⟩ ∧ depth ≤ nestingLimit ∧
      Compiler.hasMemoryFor s = true := by
  rw [read?, Option.map_eq_some_iff]
  constructor
  · rintro ⟨⟨value, depth⟩, hread, rfl⟩
    obtain ⟨hparse, hlimits⟩ := Option.filter_eq_some_iff.mp hread
    rw [Bool.and_eq_true, decide_eq_true_iff] at hlimits
    exact ⟨depth, hparse, hlimits⟩
  · rintro ⟨depth, hparse, hdepth, hmemory⟩
    refine ⟨⟨p, depth⟩, ?_, rfl⟩
    rw [hparse, Option.filter_some, if_pos]
    rw [hmemory, Bool.and_true]
    exact decide_eq_true hdepth

/-- An expression that a frame leaves what it is. If it is valid, then no comment at its end takes
in the frame, and the frame neither nests it too deep nor takes more memory than there is. If it is
not valid, then neither for a group that it closes and has not opened, nor for memory that it would
have in the frame. -/
structure KeepsFrame (s : List Char) : Prop where
  comment : (read? s).isSome = true → ¬ EndsInComment s
  nesting : ∀ p, parse? s = some p → p.depth ≤ nestingLimit → framedDepth p.depth ≤ nestingLimit
  memory : (parse? s).isSome = true →
    Compiler.hasMemoryFor (inFrame s) = Compiler.hasMemoryFor s
  groups : ¬ ClosesUnopened s

namespace KeepsFrame

/-- In the frame that is read which is valid on its own, and then between the start and the end of
the text. -/
theorem readAnchored?_eq {s : String} (h : KeepsFrame s.toList) :
    readAnchored? s = (read? s.toList).map anchored := by
  cases hparse : parse? s.toList with
  | none =>
    rw [readAnchored?, read?, read?, hparse, parse?_inFrame_eq_none hparse h.groups]
    rfl
  | some p =>
    by_cases hcomment : EndsInComment s.toList
    · have hinvalid : read? s.toList = none := by
        by_contra hvalid
        exact h.comment (Option.isSome_iff_ne_none.mpr hvalid) hcomment
      rw [hinvalid, readAnchored?, read?, parse?_inFrame_of_parse? hparse, if_pos hcomment]
      rfl
    · have hdepth : framedDepth p.depth ≤ nestingLimit ↔ p.depth ≤ nestingLimit :=
        ⟨fun hle => (Nat.le_add_right p.depth 2).trans hle, h.nesting p hparse⟩
      have hmemory := h.memory (by rw [hparse]; rfl)
      rw [readAnchored?, read?, parse?_inFrame_of_parse? hparse, if_neg hcomment, read?, hparse]
      simp only [Option.filter_some, hdepth, hmemory]
      split <;> rfl

end KeepsFrame

/-- The frame leaves a valid expression what it is exactly if it is valid in the frame. -/
theorem keepsFrame_iff {s : String} (h : (read? s.toList).isSome = true) :
    KeepsFrame s.toList ↔ (readAnchored? s).isSome = true := by
  constructor
  · intro hframe
    rwa [hframe.readAnchored?_eq, Option.isSome_map]
  · intro hanchored
    obtain ⟨form, hform⟩ := Option.isSome_iff_exists.mp h
    obtain ⟨depth, hparse, -, hmemory⟩ := read?_eq_some_iff.mp hform
    obtain ⟨framed, hframed⟩ := Option.isSome_iff_exists.mp hanchored
    obtain ⟨deep, hread, hdeep, hframedMemory⟩ := read?_eq_some_iff.mp hframed
    rw [parse?_inFrame_of_parse? hparse] at hread
    obtain ⟨hcomment, hsame⟩ := Option.ite_none_left_eq_some.mp hread
    cases hsame
    refine ⟨fun _ => hcomment, fun p hp _ => ?_, fun _ => hframedMemory.trans hmemory.symm, ?_⟩
    · cases hparse.symm.trans hp
      exact hdeep
    · intro hclosed
      rw [parse?_eq, hclosed.finish?_eq_none] at hparse
      cases hparse

end Compiler

/-- A text whose groups are nested as deep as they may be is too deep in a frame. -/
example : ¬ KeepsFrame (List.replicate 250 '(' ++ 'a' :: List.replicate 250 ')') := by
  intro h
  have hdepth : (parse? (List.replicate 250 '(' ++ 'a' :: List.replicate 250 ')')).map
      Nested.depth = some 250 := by decide +kernel
  obtain ⟨p, hparse, hp⟩ := Option.map_eq_some_iff.mp hdepth
  have hdeep := h.nesting p hparse (by rw [hp]; decide)
  rw [hp] at hdeep
  exact absurd hdeep (by decide)

end Crosswalk.Pattern
