import Mathlib.Data.List.TakeWhile
import Crosswalk.Mapping.Target
import Crosswalk.Proofs.Text.Trim

/-!
Patterns put together from segments.

A pattern may be written as text without braces, placeholders and expressions, one after the other.
Taking it apart finds these segments again, whatever stands next to what: the expressions are those
that were written, and with them taken out so are the placeholders.
-/

namespace Crosswalk.Filter

open Text

/-- The part of an expression in front of its first bar outside quotes and parentheses. -/
def subjectPart (body : List Char) : List Char :=
  ((cutOutside .round '|' body).map Prod.fst).getD body

theorem head_splitFrom (b : Brackets) (sep : Char) (n : Nesting) (s : List Char) :
    ∃ more, splitFrom b sep n s = ((cutFrom b sep n s).map Prod.fst).getD s :: more := by
  induction s generalizing n with
  | nil => exact ⟨[], rfl⟩
  | cons c rest ih =>
    rw [splitFrom, cutFrom]
    split
    · exact ⟨_, rfl⟩
    · obtain ⟨more, hmore⟩ := ih (n.step b c)
      rw [hmore]
      refine ⟨more, ?_⟩
      cases cutFrom b sep (n.step b c) rest <;> rfl

theorem mem_of_mem_cutFrom {b : Brackets} {mark c : Char} {n : Nesting} {s : List Char}
    (h : c ∈ ((cutFrom b mark n s).map Prod.fst).getD s) : c ∈ s := by
  induction s generalizing n with
  | nil => simp [cutFrom] at h
  | cons first rest ih =>
    rw [cutFrom] at h
    split at h
    · simp at h
    · have hstep := @ih (n.step b first)
      cases hcut : cutFrom b mark (n.step b first) rest with
      | none => simpa [hcut] using h
      | some cut =>
        rw [hcut] at h hstep
        rcases List.mem_cons.mp h with rfl | hmem
        · exact List.mem_cons_self
        · exact List.mem_cons_of_mem first (hstep hmem)

theorem mem_of_mem_subjectPart {c : Char} {body : List Char} (h : c ∈ subjectPart body) :
    c ∈ body :=
  mem_of_mem_cutFrom h

/-- The variable in front of the first bar that counts, and the filters behind it. -/
def Pipeline.ofBody (body : List Char) : Pipeline :=
  ⟨String.ofList (trim (subjectPart body)),
    (splitOutside .round '|' body).tail.filterMap Call.read?⟩

/-- An expression is read if its variable is not blank. -/
theorem Pipeline.read?_eq_ofBody {body : List Char}
    (h : isAllBlank (subjectPart body) = false) :
    Pipeline.read? body = some (Pipeline.ofBody body) := by
  obtain ⟨more, hsplit⟩ := head_splitFrom .round '|' .outside body
  have hfirst : ((cutFrom .round '|' .outside body).map Prod.fst).getD body = subjectPart body :=
    rfl
  have hne : (trim (subjectPart body)).isEmpty = false := by
    rw [List.isEmpty_eq_false_iff]
    intro hnil
    rw [trim_eq_nil_iff.mp hnil] at h
    cases h
  rw [hfirst] at hsplit
  simp [Pipeline.read?, Pipeline.ofBody, splitOutside, hsplit, hne]

end Crosswalk.Filter

namespace Crosswalk.Mapping

def IsBraceFree (s : List Char) : Prop := ∀ c ∈ s, isBrace c = false

instance (s : List Char) : Decidable (IsBraceFree s) :=
  List.decidableBAll (fun c => isBrace c = false) s

/-- A segment of a pattern: a text, a placeholder by its name, or an expression by its inside. -/
inductive Segment where
  | literal (s : List Char)
  | placeholder (name : List Char)
  | expression (body : List Char)

namespace Segment

def write : Segment → List Char
  | .literal s => s
  | .placeholder name => '\x7b' :: name ++ ['\x7d']
  | .expression body => '\x7b' :: '\x7b' :: body ++ ['\x7d', '\x7d']

theorem write_placeholder_append (name rest : List Char) :
    (placeholder name).write ++ rest = '\x7b' :: (name ++ '\x7d' :: rest) := by
  simp [write]

theorem write_expression_append (body rest : List Char) :
    (expression body).write ++ rest = '\x7b' :: '\x7b' :: (body ++ '\x7d' :: '\x7d' :: rest) := by
  simp [write]

/-- The pattern that segments make. -/
def text (segs : List Segment) : List Char := segs.flatMap write

/-- What a pattern may be put together from. No segment has a brace inside; the name of a
placeholder is not empty and does not begin with a blank; an expression stays on its line and has a
variable. -/
def IsPlain : Segment → Prop
  | .literal s => IsBraceFree s
  | .placeholder name =>
    IsBraceFree name ∧ name ≠ [] ∧ ∀ c ∈ name.head?, Text.isBlank c = false
  | .expression body =>
    IsBraceFree body ∧ '\n' ∉ body ∧ Text.isAllBlank (Filter.subjectPart body) = false

instance : DecidablePred IsPlain
  | .literal s => inferInstanceAs (Decidable (IsBraceFree s))
  | .placeholder name =>
    -- all that is to be looked at is the first character, not every character there is
    letI : Decidable (∀ c ∈ name.head?, Text.isBlank c = false) :=
      Option.decidableForallMem name.head?
    inferInstanceAs (Decidable (IsBraceFree name ∧ name ≠ [] ∧
      ∀ c ∈ name.head?, Text.isBlank c = false))
  | .expression body =>
    inferInstanceAs (Decidable (IsBraceFree body ∧ '\n' ∉ body ∧
      Text.isAllBlank (Filter.subjectPart body) = false))

/-- The pieces that a segment comes to when its pattern is taken apart. -/
def pieces : Segment → List Piece
  | .literal s => s.map .char
  | .placeholder name => (Segment.placeholder name).write.map .char
  | .expression body => [.expression body]

/-- The insides of the expressions that a segment is. -/
def bodies : Segment → List (List Char)
  | .expression body => [body]
  | _ => []

/-- The names of the placeholders that a segment is. -/
def names : Segment → List (List Char)
  | .placeholder name => [name]
  | _ => []

/-- What is left of a segment when expressions are taken out. -/
def outside : Segment → List Char
  | .expression _ => []
  | seg => seg.write

end Segment

theorem isBrace_eq_false_iff {c : Char} : isBrace c = false ↔ c ≠ '\x7b' ∧ c ≠ '\x7d' := by
  simp [isBrace, openBrace, closeBrace]

/-- Text without braces ends in front of the first brace. -/
theorem takeWhile_append_close {s : List Char} (h : IsBraceFree s) (rest : List Char) :
    (s ++ '\x7d' :: rest).takeWhile (fun c => !isBrace c) = s := by
  have hclose : isBrace '\x7d' = true := by decide
  rw [List.takeWhile_append_of_pos fun c hc => by simp [h c hc]]
  simp [hclose]

theorem dropWhile_append_close {s : List Char} (h : IsBraceFree s) (rest : List Char) :
    (s ++ '\x7d' :: rest).dropWhile (fun c => !isBrace c) = '\x7d' :: rest := by
  have hclose : isBrace '\x7d' = true := by decide
  rw [List.dropWhile_append_of_pos fun c hc => by simp [h c hc]]
  simp [hclose]

theorem expressionBody?_close {c : Char} (hc : c ≠ '\n') (rest : List Char) :
    expressionBody? (c :: '\x7d' :: '\x7d' :: rest) = some ([c], rest) := by
  rw [expressionBody?, if_neg (by simpa using hc)]

theorem expressionBody?_cons {c d : Char} (hc : c ≠ '\n') (hd : d ≠ '\x7d') (rest : List Char) :
    expressionBody? (c :: d :: rest) =
      (expressionBody? (d :: rest)).map fun (body, after) => (c :: body, after) := by
  rw [expressionBody?, if_neg (by simpa using hc)]
  rintro after heq
  exact hd (List.cons.inj heq).1

/-- The inside of an expression ends where the first two braces close it. -/
theorem expressionBody?_append {body : List Char} (h : IsBraceFree body) (hline : '\n' ∉ body)
    (hne : body ≠ []) (rest : List Char) :
    expressionBody? (body ++ '\x7d' :: '\x7d' :: rest) = some (body, rest) := by
  induction body with
  | nil => exact absurd rfl hne
  | cons c tail ih =>
    have hc : c ≠ '\n' := fun heq => hline (by simp [heq])
    cases tail with
    | nil => exact expressionBody?_close hc rest
    | cons d tail =>
      have hd : d ≠ '\x7d' := (isBrace_eq_false_iff.mp (h d (by simp))).2
      have htail := ih (fun x hx => h x (List.mem_cons_of_mem c hx))
        (fun hmem => hline (List.mem_cons_of_mem c hmem)) (by simp)
      rw [List.cons_append] at htail
      rw [List.cons_append, List.cons_append, expressionBody?_cons hc hd, htail]
      rfl

theorem piecesOf_cons {c : Char} (h : c ≠ '\x7b') (rest : List Char) :
    piecesOf (c :: rest) = .char c :: piecesOf rest := by
  rw [piecesOf]
  intro more heq
  exact absurd heq h

theorem piecesOf_open_cons {c : Char} (h : c ≠ '\x7b') (rest : List Char) :
    piecesOf ('\x7b' :: c :: rest) = .char '\x7b' :: piecesOf (c :: rest) := by
  rw [piecesOf]
  rintro more - heq
  exact h (List.cons.inj heq).1

theorem piecesOf_expression {s body after : List Char}
    (h : expressionBody? s = some (body, after)) :
    piecesOf ('\x7b' :: '\x7b' :: s) = .expression body :: piecesOf after := by
  rw [piecesOf]
  split
  · rename_i hread
    rw [h] at hread
    cases hread
    rfl
  · rename_i hread
    rw [h] at hread
    cases hread

theorem piecesOf_append {s : List Char} (h : IsBraceFree s) (rest : List Char) :
    piecesOf (s ++ rest) = s.map .char ++ piecesOf rest := by
  induction s with
  | nil => rfl
  | cons c tail ih =>
    obtain ⟨hc, htail⟩ := List.forall_mem_cons.mp h
    rw [List.cons_append, piecesOf_cons (isBrace_eq_false_iff.mp hc).1, ih htail]
    rfl

/-- A segment is found where it was written, whatever follows. -/
theorem piecesOf_write_append {seg : Segment} (h : seg.IsPlain) (rest : List Char) :
    piecesOf (seg.write ++ rest) = seg.pieces ++ piecesOf rest := by
  cases seg with
  | literal s => exact piecesOf_append h rest
  | placeholder name =>
    obtain ⟨hfree, hne, -⟩ := h
    cases name with
    | nil => exact absurd rfl hne
    | cons c tail =>
      have hc : c ≠ '\x7b' := (isBrace_eq_false_iff.mp (hfree c (by simp))).1
      have hclose : piecesOf ('\x7d' :: rest) = .char '\x7d' :: piecesOf rest :=
        piecesOf_cons (by decide) rest
      have hname := piecesOf_append hfree ('\x7d' :: rest)
      rw [hclose, List.cons_append] at hname
      rw [Segment.write_placeholder_append, List.cons_append, piecesOf_open_cons hc, hname]
      simp [Segment.pieces, Segment.write]
  | expression body =>
    obtain ⟨hfree, hline, hsubject⟩ := h
    have hne : body ≠ [] := by
      rintro rfl
      cases hsubject
    have hread := expressionBody?_append hfree hline hne rest
    rw [Segment.write_expression_append, piecesOf_expression hread]
    rfl

variable {segs : List Segment}

theorem piecesOf_text (h : ∀ seg ∈ segs, seg.IsPlain) :
    piecesOf (Segment.text segs) = segs.flatMap Segment.pieces := by
  induction segs with
  | nil => rw [Segment.text, List.flatMap_nil, piecesOf, List.flatMap_nil]
  | cons seg rest ih =>
    obtain ⟨hseg, hrest⟩ := List.forall_mem_cons.mp h
    rw [Segment.text, List.flatMap_cons, piecesOf_write_append hseg, List.flatMap_cons]
    exact congrArg _ (ih hrest)

theorem expressionBodies_text (h : ∀ seg ∈ segs, seg.IsPlain) :
    expressionBodies (Segment.text segs) = segs.flatMap Segment.bodies := by
  rw [expressionBodies, piecesOf_text h, List.filterMap_flatMap]
  apply List.flatMap_congr
  intro seg _
  cases seg <;> simp [Segment.pieces, Segment.bodies, List.filterMap_map]

theorem withoutExpressions_text (h : ∀ seg ∈ segs, seg.IsPlain) :
    withoutExpressions (Segment.text segs) = segs.flatMap Segment.outside := by
  rw [withoutExpressions, piecesOf_text h, List.filterMap_flatMap]
  apply List.flatMap_congr
  intro seg _
  cases seg <;> simp [Segment.pieces, Segment.outside, Segment.write, List.filterMap_map]

theorem placeholderNames_cons {c : Char} (h : c ≠ '\x7b') (rest : List Char) :
    placeholderNames (c :: rest) = placeholderNames rest := by
  rw [placeholderNames]
  exact h

theorem placeholderNames_append {s : List Char} (h : IsBraceFree s) (rest : List Char) :
    placeholderNames (s ++ rest) = placeholderNames rest := by
  induction s with
  | nil => rfl
  | cons c tail ih =>
    obtain ⟨hc, htail⟩ := List.forall_mem_cons.mp h
    rw [List.cons_append, placeholderNames_cons (isBrace_eq_false_iff.mp hc).1, ih htail]

theorem placeholderName?_append {name : List Char} (h : IsBraceFree name) (hne : name ≠ [])
    (hfirst : ∀ c ∈ name.head?, Text.isBlank c = false) (rest : List Char) :
    placeholderName? (name ++ '\x7d' :: rest) = some (name, rest) := by
  cases name with
  | nil => exact absurd rfl hne
  | cons c tail =>
    obtain ⟨hc, htail⟩ := List.forall_mem_cons.mp h
    rw [List.cons_append, placeholderName?, hc, hfirst c rfl, dropWhile_append_close htail,
      takeWhile_append_close htail]
    rfl

theorem placeholderNames_open {s name after : List Char}
    (h : placeholderName? s = some (name, after)) :
    placeholderNames ('\x7b' :: s) = name :: placeholderNames after := by
  rw [placeholderNames]
  split
  · rename_i hread
    rw [h] at hread
    cases hread
    rfl
  · rename_i hread
    rw [h] at hread
    cases hread

theorem placeholderNames_outside_append {seg : Segment} (h : seg.IsPlain) (rest : List Char) :
    placeholderNames (seg.outside ++ rest) = seg.names ++ placeholderNames rest := by
  cases seg with
  | literal s => exact placeholderNames_append h rest
  | placeholder name =>
    obtain ⟨hfree, hne, hfirst⟩ := h
    have hread := placeholderName?_append hfree hne hfirst rest
    have houtside : (Segment.placeholder name).outside = (Segment.placeholder name).write := rfl
    rw [houtside, Segment.write_placeholder_append, placeholderNames_open hread]
    rfl
  | expression body => rfl

theorem placeholderNames_text (h : ∀ seg ∈ segs, seg.IsPlain) :
    placeholderNames (withoutExpressions (Segment.text segs)) = segs.flatMap Segment.names := by
  rw [withoutExpressions_text h]
  induction segs with
  | nil => rw [List.flatMap_nil, placeholderNames, List.flatMap_nil]
  | cons seg rest ih =>
    obtain ⟨hseg, hrest⟩ := List.forall_mem_cons.mp h
    rw [List.flatMap_cons, placeholderNames_outside_append hseg, List.flatMap_cons, ih hrest]

theorem mem_names {name : List Char} :
    name ∈ segs.flatMap Segment.names ↔ .placeholder name ∈ segs := by
  rw [List.mem_flatMap]
  constructor
  · rintro ⟨seg, hseg, hname⟩
    cases seg with
    | literal s => cases hname
    | placeholder other => exact List.mem_singleton.mp hname ▸ hseg
    | expression body => cases hname
  · intro h
    exact ⟨_, h, List.mem_singleton_self name⟩

theorem mem_bodies {body : List Char} :
    body ∈ segs.flatMap Segment.bodies ↔ .expression body ∈ segs := by
  rw [List.mem_flatMap]
  constructor
  · rintro ⟨seg, hseg, hbody⟩
    cases seg with
    | literal s => cases hbody
    | placeholder name => cases hbody
    | expression other => exact List.mem_singleton.mp hbody ▸ hseg
  · intro h
    exact ⟨_, h, List.mem_singleton_self body⟩

end Crosswalk.Mapping
