import Crosswalk.Pattern.Class
import Crosswalk.Proofs.Pattern.Primitives
import Crosswalk.Proofs.Text.Pieces

/-!
Sets in square brackets are read alike with a frame behind them.
-/

namespace Crosswalk.Pattern

open Crosswalk.Unicode

/-- Reads the name of a set and the two characters that close it. -/
def readSetName? (f : Flags) (isNegated : Bool) (s : List Char) : Option (CharSet × List Char) :=
  (Text.cutAt ':' s).bind fun (name, after) => closeName? f isNegated name after

theorem readAsciiSet?_colon (f : Flags) (s : List Char) :
    readAsciiSet? f (':' :: s) = readSetName? f (readCaret s).1 (readCaret s).2 := rfl

theorem readCaret_of_ne {s : List Char} (hs : s.head? ≠ some '^') : readCaret s = (false, s) := by
  unfold readCaret
  split
  · exact absurd rfl hs
  · rfl

theorem readCaret_frame (s : List Char) :
    readCaret (s ++ frameEnd) = ((readCaret s).1, (readCaret s).2 ++ frameEnd) := by
  by_cases hs : s.head? = some '^'
  · obtain ⟨rest, rfl⟩ := List.head?_eq_some_iff.mp hs
    rfl
  · rw [readCaret_of_ne hs, readCaret_of_ne (head?_frame (by decide) hs)]

theorem readCaret_suffix (s : List Char) : (readCaret s).2 <:+ s := by
  unfold readCaret
  split
  · exact List.suffix_cons _ _
  · exact List.suffix_rfl

theorem closeName?_of_ne {f : Flags} {isNegated : Bool} {name after : List Char}
    (hafter : after.head? ≠ some ']') : closeName? f isNegated name after = none := by
  unfold closeName?
  split
  · exact absurd rfl hafter
  · rfl

theorem closeName?_frame (f : Flags) (isNegated : Bool) (name after : List Char) :
    closeName? f isNegated name (after ++ frameEnd) =
      (closeName? f isNegated name after).map fun found => (found.1, found.2 ++ frameEnd) := by
  by_cases hafter : after.head? = some ']'
  · obtain ⟨rest, rfl⟩ := List.head?_eq_some_iff.mp hafter
    simp only [List.cons_append, closeName?, Option.map_map, Function.comp_def]
  · rw [closeName?_of_ne hafter, closeName?_of_ne (head?_frame (by decide) hafter)]
    rfl

theorem closeName?_suffix {f : Flags} {isNegated : Bool} {name after rest : List Char}
    {set : CharSet} (h : closeName? f isNegated name after = some (set, rest)) :
    rest <:+ after := by
  unfold closeName? at h
  split at h
  · obtain ⟨runs, -, heq⟩ := Option.map_eq_some_iff.mp h
    cases heq
    exact List.suffix_cons _ _
  · cases h

theorem readAsciiSet?_of_ne (f : Flags) {s : List Char} (hs : s.head? ≠ some ':') :
    readAsciiSet? f s = none := by
  unfold readAsciiSet?
  split
  · exact absurd rfl hs
  · rfl

/-- Cutting at a character that the frame does not hold is blind for it. -/
theorem isBlind_cutAt {mark : Char} (hmark : mark ∉ frameEnd) : IsBlind (Text.cutAt mark) where
  suffix h := by
    obtain ⟨rfl, -⟩ := Text.cutAt_eq_some_iff.mp h
    exact (List.suffix_cons mark _).trans (List.suffix_append _ _)
  frame s := by
    cases hcut : Text.cutAt mark s with
    | none =>
      refine Text.cutAt_eq_none ?_
      rw [List.mem_append, not_or]
      exact ⟨Text.notMem_of_cutAt hcut, hmark⟩
    | some found =>
      obtain ⟨before, after⟩ := found
      obtain ⟨rfl, hbefore⟩ := Text.cutAt_eq_some_iff.mp hcut
      rw [List.append_assoc, List.cons_append, Text.cutAt_append hbefore]
      rfl

theorem isBlind_readSetName? (f : Flags) (isNegated : Bool) :
    IsBlind (readSetName? f isNegated) where
  suffix h := by
    obtain ⟨⟨name, after⟩, hcut, hafter⟩ := Option.bind_eq_some_iff.mp h
    exact (closeName?_suffix hafter).trans ((isBlind_cutAt (by decide)).suffix hcut)
  frame s := by
    rw [readSetName?, readSetName?, (isBlind_cutAt (by decide)).frame]
    cases Text.cutAt ':' s with
    | none => rfl
    | some found => exact closeName?_frame f isNegated found.1 found.2

theorem isBlind_readAsciiSet? (f : Flags) : IsBlind (readAsciiSet? f) where
  suffix := by
    intro s set rest h
    by_cases hcolon : s.head? = some ':'
    · obtain ⟨tail, rfl⟩ := List.head?_eq_some_iff.mp hcolon
      rw [readAsciiSet?_colon] at h
      exact ((isBlind_readSetName? f _).suffix h).trans
        ((readCaret_suffix tail).trans (List.suffix_cons ':' tail))
    · rw [readAsciiSet?_of_ne f hcolon] at h
      cases h
  frame s := by
    by_cases hcolon : s.head? = some ':'
    · obtain ⟨rest, rfl⟩ := List.head?_eq_some_iff.mp hcolon
      rw [List.cons_append, readAsciiSet?_colon, readAsciiSet?_colon, readCaret_frame]
      exact (isBlind_readSetName? f _).frame _
    · rw [readAsciiSet?_of_ne f hcolon, readAsciiSet?_of_ne f (head?_frame (by decide) hcolon)]
      rfl

theorem readNegation_of_ne (f : Flags) {s : List Char} (hs : s.head? ≠ some '^') :
    readNegation f s = (false, s) := by
  unfold readNegation
  split
  · exact absurd rfl hs
  · rfl

theorem isReader_readNegation (f : Flags) : IsReader fun s => some (readNegation f s) :=
  .orElse '^' (by decide) ((IsReader.result (some true)).skip f) (.result (some false))
    (fun _ => rfl) fun _ hs => congrArg some (readNegation_of_ne f hs)

theorem leadingHyphens_of_ne (f : Flags) (n : Nat) {s : List Char} (hs : s.head? ≠ some '-') :
    leadingHyphens f (n + 1) s = (0, s) := by
  unfold leadingHyphens
  split
  · exact absurd rfl hs
  · rfl

theorem leadingHyphens_fuel (f : Flags) {n m : Nat} {s : List Char} (hn : s.length < n)
    (hm : s.length < m) : leadingHyphens f n s = leadingHyphens f m s := by
  refine fuel_irrelevant (fun n (_ : Unit) => leadingHyphens f n) (fun n m i s h => ?_) () hn hm
  by_cases hhyphen : s.head? = some '-'
  · obtain ⟨rest, rfl⟩ := List.head?_eq_some_iff.mp hhyphen
    have heq := h () (f.skip rest) (Nat.lt_succ_of_le (f.skip_length rest))
    simp only [leadingHyphens, heq]
  · rw [leadingHyphens_of_ne f n hhyphen, leadingHyphens_of_ne f m hhyphen]

theorem isReader_leadingHyphens (f : Flags) (n : Nat) :
    IsReader fun s => some (leadingHyphens f n s) := by
  induction n with
  | zero => exact .result (some 0)
  | succ n ih =>
    exact .orElse '-' (by decide) ((ih.skip f).map (· + 1)) (.result (some 0))
      (fun _ => rfl) fun s hs => congrArg some (leadingHyphens_of_ne f n hs)

theorem isReader_readLiteral (f : Flags) (hyphens : Nat) :
    IsReader fun s => some (readLiteral f hyphens s) := by
  cases hyphens with
  | succ n => exact .result (some (List.replicate (n + 1) (Nested.flat (CharSet.single '-'))))
  | zero =>
    refine .orElse ']' (by decide)
      ((IsReader.result (some [Nested.flat (CharSet.single ']')])).skip f) (.result (some []))
      (fun _ => rfl) fun s hs => ?_
    unfold readLiteral
    rw [if_neg (Nat.lt_irrefl 0)]
    split
    · exact absurd rfl hs
    · rfl

/-- Reads what opens a bracket: whether it is negated, and its first items. -/
def readBracket? (f : Flags) (s : List Char) :
    Option ((Bool × List (Nested CharSet)) × List Char) :=
  let (isNegated, items, rest) := readOpening f s
  some ((isNegated, items), rest)

theorem isReader_readBracket? (f : Flags) : IsReader (readBracket? f) := by
  have hhyphens : IsReader fun s => some (leadingHyphens f (s.length + 1) s) :=
    .fuelled (isReader_leadingHyphens f) fun hn hm => by rw [leadingHyphens_fuel f hn hm]
  exact ((isReader_readNegation f).skip f).bind fun isNegated =>
    hhyphens.bind fun hyphens =>
      (isReader_readLiteral f hyphens).map fun items => (isNegated, items)

theorem beginsRange_eq (f : Flags) (s : List Char) :
    beginsRange f s = ((f.skip s).head? != some ']' && (f.skip s).head? != some '-') := by
  unfold beginsRange
  split
  · rename_i hskip
    rw [hskip]
    rfl
  · rename_i hskip
    rw [hskip]
    rfl
  · rename_i hbracket hhyphen
    cases hskip : f.skip s with
    | nil => rfl
    | cons c rest =>
      have hc : c ≠ ']' := fun h => hbracket rest (h ▸ hskip)
      have hd : c ≠ '-' := fun h => hhyphen rest (h ▸ hskip)
      simp [hc, hd]

theorem beginsRange_frame (f : Flags) (s : List Char) :
    beginsRange f (s ++ frameEnd) = beginsRange f s := by
  rw [beginsRange_eq, beginsRange_eq]
  rcases f.skip_frame s with hleft | ⟨hnil, hframed⟩
  · rw [hleft]
    cases f.skip s <;> rfl
  · rw [hnil, hframed]

/-- The end of a range, from its first character on. -/
def readRangeEnd? (f : Flags) (first last : Primitive) (rest : List Char) :
    Option (CharSet × List Char) := do
  let a ← memberChar? f first
  let b ← memberChar? f last
  if a.toNat ≤ b.toNat then some (.runs [(a.toNat, b.toNat)], rest) else none

theorem isReader_readRangeEnd? (f : Flags) (first last : Primitive) :
    IsReader (readRangeEnd? f first last) := by
  refine .optional (memberChar? f first) fun a => .optional (memberChar? f last) fun b => ?_
  by_cases hle : a.toNat ≤ b.toNat
  · simp only [hle, if_true]
    exact .result (some (CharSet.runs [(a.toNat, b.toNat)]))
  · simp only [hle, if_false]
    exact .nothing

theorem readRangeEnd?_assertion (f : Flags) (first : Primitive) (a : Assertion) (rest : List Char) :
    readRangeEnd? f first (.assertion a) rest = none := by
  rw [readRangeEnd?]
  cases memberChar? f first <;> rfl

/-- The operation that two equal characters stand for. -/
def operationOf? (c : Char) : Option SetOperation :=
  match c with
  | '&' => some .inter
  | '-' => some .diff
  | '~' => some .symmetricDiff
  | _ => none

theorem readOperation?_cons (c : Char) (rest : List Char) :
    readOperation? (c :: rest) = (operationOf? c).bind fun op =>
      if rest.head? = some c then some (op, rest.tail) else none := by
  unfold readOperation? operationOf?
  split
  · rename_i heq
    cases heq
    rfl
  · rename_i heq
    cases heq
    rfl
  · rename_i heq
    cases heq
    rfl
  · rename_i hinter hdiff hsymmetric
    by_cases hrest : rest.head? = some c
    · obtain ⟨tail, rfl⟩ := List.head?_eq_some_iff.mp hrest
      split
      · exact absurd rfl (hinter tail)
      · exact absurd rfl (hdiff tail)
      · exact absurd rfl (hsymmetric tail)
      · rfl
    · simp only [if_neg hrest]
      split <;> rfl

theorem isBlind_readOperation? (c : Char) : IsBlind fun rest => readOperation? (c :: rest) where
  suffix := by
    intro s op rest h
    rw [readOperation?_cons] at h
    obtain ⟨op, -, hop⟩ := Option.bind_eq_some_iff.mp h
    split at hop
    · cases hop
      exact List.tail_suffix s
    · cases hop
  frame s := by
    rw [readOperation?_cons, readOperation?_cons]
    cases hop : operationOf? c with
    | none => rfl
    | some op =>
      have hc : c ≠ ')' := by
        rintro rfl
        cases hop
      rw [Option.bind_some, Option.bind_some]
      cases s with
      | nil => exact if_neg fun h => hc (Option.some.inj h).symm
      | cons d rest =>
        by_cases hd : d = c
        · simp [hd]
        · simp [hd]

/-- How a bracket is read on, with what is open and the items so far. -/
abbrev NextItems :=
  List Frame → List (Nested CharSet) → List Char → Option (Nested CharSet × List Char)

/-- What a closing bracket ends: a set that stands in another one, or the whole set. -/
def closeItems? (f : Flags) (next : NextItems) (closed : Nested CharSet × List Frame)
    (rest : List Char) : Option (Nested CharSet × List Char) :=
  match closed with
  | (set, .bracket around isNegated :: frames) =>
    if frames.isEmpty then some (set.around (closeSet f isNegated), rest)
    else next frames (set.around (closeSet f isNegated) :: around) rest
  | _ => none

section Closing

variable {f : Flags} {next other : NextItems}

theorem isReader_closeItems? (hnext : ∀ frames items, IsReader (next frames items))
    (closed : Nested CharSet × List Frame) : IsReader (closeItems? f next closed) := by
  obtain ⟨set, _ | ⟨_ | _, frames⟩⟩ := closed
  · exact .nothing
  · exact .ite frames.isEmpty (.result (some (set.around (closeSet f _)))) (hnext frames _)
  · exact .nothing

theorem closeItems?_congr {closed : Nested CharSet × List Frame} {rest : List Char}
    (h : ∀ frames items, next frames items rest = other frames items rest) :
    closeItems? f next closed rest = closeItems? f other closed rest := by
  obtain ⟨set, _ | ⟨_ | _, frames⟩⟩ := closed
  · rfl
  · simp only [closeItems?, h]
  · rfl

end Closing

variable [Compiler]

/-- What follows a member of a bracket is read alike if nothing follows a condition, which is no
member. -/
theorem isReader_member {α : Type} (f : Flags)
    {next : Primitive → List Char → Option (α × List Char)} (hnext : ∀ p, IsReader (next p))
    (hassertion : ∀ a s, next (.assertion a) s = none) (c : Char) :
    IsReader fun rest => (readMember? f (c :: rest)).bind fun found => next found.1 found.2 := by
  by_cases hslash : c = '\\'
  · subst hslash
    refine .head rfl fun c => ?_
    by_cases hedge : c = 'b'
    · subst hedge
      have hnone : ∀ rest, (readEdge? f rest).bind (fun found => next found.1 found.2) = none := by
        intro rest
        cases hread : readEdge? f rest with
        | none => rfl
        | some found =>
          obtain ⟨a, ha⟩ := (readEdge?_sound hread).1
          rw [Option.bind_some, ha, hassertion]
      exact .congr hnone .nothing
    · exact (isReader_readEscape? f hedge).bind hnext
  · have hplain : ∀ rest, readMember? f (c :: rest) = some (.char c false, rest) := by
      intro rest
      unfold readMember?
      split
      · rename_i heq
        cases heq
      · rename_i heq
        exact absurd (List.cons.inj heq).1 hslash
      · rename_i heq
        cases heq
        rfl
    simp only [hplain]
    exact hnext (.char c false)

/-- What follows the first member of a bracket: the end of a range, or nothing that belongs to
it. -/
def readRangeAfter? (f : Flags) (first : Primitive) (s : List Char) :
    Option (CharSet × List Char) :=
  match s with
  | '-' :: after =>
    if beginsRange f after then
      (readMember? f (f.skip after)).bind fun (last, rest) => readRangeEnd? f first last rest
    else (memberSet? f first).bind fun set => some (set, '-' :: after)
  | rest => (memberSet? f first).bind fun set => some (set, rest)

theorem readRange?_eq (f : Flags) (s : List Char) :
    readRange? f s =
      (readMember? f s).bind fun found => readRangeAfter? f found.1 (f.skip found.2) := rfl

/-- Reads the end of a range after its hyphen. -/
def readRangeTail? (f : Flags) (first : Primitive) (s : List Char) :
    Option (CharSet × List Char) :=
  (readMember? f (f.skip s)).bind fun found => readRangeEnd? f first found.1 found.2

theorem isReader_readRangeTail? (f : Flags) (first : Primitive) :
    IsReader (readRangeTail? f first) := by
  have hread : IsReader fun s => (readMember? f s).bind fun found =>
      readRangeEnd? f first found.1 found.2 :=
    .head rfl (isReader_member f (isReader_readRangeEnd? f first) (readRangeEnd?_assertion f first))
  exact hread.skip f

theorem readRangeAfter?_hyphen (f : Flags) (first : Primitive) (after : List Char) :
    readRangeAfter? f first ('-' :: after) =
      if beginsRange f after then readRangeTail? f first after
      else (memberSet? f first).map (·, '-' :: after) := by
  rw [Option.map_eq_bind]
  rfl

theorem readRangeAfter?_of_ne (f : Flags) (first : Primitive) {s : List Char}
    (hs : s.head? ≠ some '-') :
    readRangeAfter? f first s = (memberSet? f first).map (·, s) := by
  unfold readRangeAfter?
  split
  · exact absurd rfl hs
  · rw [Option.map_eq_bind]
    rfl

theorem isReader_readRangeAfter? (f : Flags) (first : Primitive) :
    IsReader (readRangeAfter? f first) where
  suffix := by
    intro s set rest h
    by_cases hs : s.head? = some '-'
    · obtain ⟨after, rfl⟩ := List.head?_eq_some_iff.mp hs
      rw [readRangeAfter?_hyphen] at h
      split at h
      · exact ((isReader_readRangeTail? f first).suffix h).trans (List.suffix_cons '-' after)
      · exact (IsReader.result (memberSet? f first)).suffix h
    · rw [readRangeAfter?_of_ne f first hs] at h
      exact (IsReader.result (memberSet? f first)).suffix h
  carries s := by
    by_cases hs : s.head? = some '-'
    · obtain ⟨after, rfl⟩ := List.head?_eq_some_iff.mp hs
      rw [List.cons_append, readRangeAfter?_hyphen, readRangeAfter?_hyphen, beginsRange_frame]
      split
      · exact (isReader_readRangeTail? f first).carries after
      · exact (IsReader.result (memberSet? f first)).carries ('-' :: after)
    · rw [readRangeAfter?_of_ne f first hs,
        readRangeAfter?_of_ne f first (head?_frame (by decide) hs)]
      exact (IsReader.result (memberSet? f first)).carries s

theorem readRangeAfter?_assertion (f : Flags) (a : Assertion) (s : List Char) :
    readRangeAfter? f (.assertion a) s = none := by
  by_cases hs : s.head? = some '-'
  · obtain ⟨after, rfl⟩ := List.head?_eq_some_iff.mp hs
    rw [readRangeAfter?_hyphen, readRangeTail?]
    cases readMember? f (f.skip after) <;> simp [readRangeEnd?, memberChar?, memberSet?]
  · rw [readRangeAfter?_of_ne f _ hs]
    rfl

theorem isReader_readRange? (f : Flags) (c : Char) :
    IsReader fun rest => readRange? f (c :: rest) := by
  simp only [readRange?_eq]
  exact isReader_member f (fun first => (isReader_readRangeAfter? f first).skip f)
    (fun a s => readRangeAfter?_assertion f a (f.skip s)) c

/-- Reads what an item of a bracket begins with, and then on. -/
def readItem? (f : Flags) (next : NextItems) (frames : List Frame)
    (items : List (Nested CharSet)) (s : List Char) : Option (Nested CharSet × List Char) :=
  match readOperation? s with
  | some (op, rest) =>
    let (left, frames) := closeOperation f frames (union items)
    next (.operation op left :: frames) [] rest
  | none => (readRange? f s).bind fun (set, rest) => next frames (.flat set :: items) rest

/-- Reads a bracket on from its next character that counts. -/
def readItemsFrom? (f : Flags) (next : NextItems) (frames : List Frame)
    (items : List (Nested CharSet)) (s : List Char) : Option (Nested CharSet × List Char) :=
  match s with
  | [] => none
  | '[' :: rest =>
    match readAsciiSet? f rest with
    | some (set, rest) => next frames (.flat set :: items) rest
    | none =>
      (readBracket? f rest).bind fun opening =>
        next (.bracket items opening.1.1 :: frames) opening.1.2 opening.2
  | ']' :: rest => closeItems? f next (closeOperation f frames (union items)) rest
  | s => readItem? f next frames items s

theorem readItems?_succ (f : Flags) (n : Nat) (frames : List Frame) (items : List (Nested CharSet))
    (s : List Char) :
    readItems? f (n + 1) frames items s =
      readItemsFrom? f (readItems? f n) frames items (f.skip s) := rfl

section Items

variable {f : Flags} {next other : NextItems}

theorem isReader_readItem? (hnext : ∀ frames items, IsReader (next frames items))
    (frames : List Frame) (items : List (Nested CharSet)) (c : Char) :
    IsReader fun rest => readItem? f next frames items (c :: rest) := by
  refine .congr (fun rest => ?_) (.choice (isBlind_readOperation? c)
    (fun op => hnext (.operation op (closeOperation f frames (union items)).1 ::
      (closeOperation f frames (union items)).2) [])
    ((isReader_readRange? f c).bind fun set => hnext frames (.flat set :: items)))
  unfold readItem?
  cases readOperation? (c :: rest) <;> rfl

theorem readItemsFrom?_bracket (frames : List Frame) (items : List (Nested CharSet))
    (rest : List Char) :
    readItemsFrom? f next frames items ('[' :: rest) =
      (readAsciiSet? f rest).elim
        ((readBracket? f rest).bind fun opening =>
          next (.bracket items opening.1.1 :: frames) opening.1.2 opening.2)
        fun found => next frames (.flat found.1 :: items) found.2 := by
  rw [readItemsFrom?]
  cases readAsciiSet? f rest <;> rfl

theorem readItemsFrom?_of_ne (frames : List Frame) (items : List (Nested CharSet)) {c : Char}
    (hopening : c ≠ '[') (hclosing : c ≠ ']') (rest : List Char) :
    readItemsFrom? f next frames items (c :: rest) = readItem? f next frames items (c :: rest) := by
  unfold readItemsFrom?
  split
  · rename_i heq
    cases heq
  · rename_i heq
    exact absurd (List.cons.inj heq).1 hopening
  · rename_i heq
    exact absurd (List.cons.inj heq).1 hclosing
  · rfl

theorem isReader_readItemsFrom? (hnext : ∀ frames items, IsReader (next frames items))
    (frames : List Frame) (items : List (Nested CharSet)) :
    IsReader (readItemsFrom? f next frames items) := by
  refine .head rfl fun c => ?_
  by_cases hopening : c = '['
  · subst hopening
    refine .congr (fun rest => readItemsFrom?_bracket frames items rest)
      (.choice (isBlind_readAsciiSet? f) (fun set => hnext frames (.flat set :: items))
        ((isReader_readBracket? f).bind fun opening =>
          hnext (.bracket items opening.1 :: frames) opening.2))
  · by_cases hclosing : c = ']'
    · subst hclosing
      exact isReader_closeItems? hnext _
    · rw [funext (readItemsFrom?_of_ne frames items hopening hclosing)]
      exact isReader_readItem? hnext frames items c

theorem readItem?_congr {frames : List Frame} {items : List (Nested CharSet)} {c : Char}
    {s : List Char}
    (h : ∀ frames items t, t <:+ s → next frames items t = other frames items t) :
    readItem? f next frames items (c :: s) = readItem? f other frames items (c :: s) := by
  unfold readItem?
  split
  · rename_i op rest hop
    exact h _ _ rest ((isBlind_readOperation? c).suffix hop)
  · cases hrange : readRange? f (c :: s) with
    | none => rfl
    | some found => exact h _ _ found.2 ((isReader_readRange? f c).suffix hrange)

/-- A bracket depends on how it is read on only for what follows its next character. -/
theorem readItemsFrom?_congr {frames : List Frame} {items : List (Nested CharSet)} {c : Char}
    {s : List Char}
    (h : ∀ frames items t, t <:+ s → next frames items t = other frames items t) :
    readItemsFrom? f next frames items (c :: s) = readItemsFrom? f other frames items (c :: s) := by
  by_cases hopening : c = '['
  · subst hopening
    rw [readItemsFrom?_bracket, readItemsFrom?_bracket]
    cases hset : readAsciiSet? f s with
    | some found => exact h _ _ found.2 ((isBlind_readAsciiSet? f).suffix hset)
    | none =>
      cases hbracket : readBracket? f s with
      | none => rfl
      | some found => exact h _ _ found.2 ((isReader_readBracket? f).suffix hbracket)
  · by_cases hclosing : c = ']'
    · subst hclosing
      exact closeItems?_congr fun frames items => h frames items s List.suffix_rfl
    · rw [readItemsFrom?_of_ne frames items hopening hclosing,
        readItemsFrom?_of_ne frames items hopening hclosing]
      exact readItem?_congr h

end Items

theorem readItems?_fuel (f : Flags) (frames : List Frame) (items : List (Nested CharSet))
    {n m : Nat} {s : List Char} (hn : s.length < n) (hm : s.length < m) :
    readItems? f n frames items s = readItems? f m frames items s := by
  refine fuel_irrelevant (fun n (i : List Frame × List (Nested CharSet)) => readItems? f n i.1 i.2)
    (fun n m i s h => ?_) (frames, items) hn hm
  rw [readItems?_succ, readItems?_succ]
  cases hskip : f.skip s with
  | nil => rfl
  | cons c rest =>
    have hlong := f.skip_length s
    rw [hskip, List.length_cons] at hlong
    exact readItemsFrom?_congr fun frames items t ht =>
      h (frames, items) t (lt_of_le_of_lt ht.length_le hlong)

theorem isReader_readItems? (f : Flags) (n : Nat) (frames : List Frame)
    (items : List (Nested CharSet)) :
    IsReader (readItems? f n frames items) := by
  induction n generalizing frames items with
  | zero => exact .nothing
  | succ n ih => exact (isReader_readItemsFrom? ih frames items).skip f

/-- A set after its opening bracket is read alike with a frame behind it. -/
theorem isReader_readSet? (f : Flags) : IsReader (readSet? f) := by
  have hitems : ∀ isNegated items, IsReader fun s =>
      readItems? f (s.length + 1) [.bracket [] isNegated] items s := fun isNegated items =>
    .fuelled (fun n => isReader_readItems? f n _ items) (readItems?_fuel f _ items)
  refine .congr (fun s => ?_) (((isReader_readBracket? f).bind fun opening =>
    hitems opening.1 opening.2).filter fun set => f.unicode || !set.value.contains '\u0080')
  have hshort : (readOpening f s).2.2.length ≤ s.length :=
    ((isReader_readBracket? f).suffix (s := s) rfl).length_le
  have hfuel := readItems?_fuel f [.bracket [] (readOpening f s).1] (readOpening f s).2.1
    (Nat.lt_succ_self _) (Nat.lt_succ_of_le hshort)
  exact congrArg (Option.filter _) hfuel.symm

end Crosswalk.Pattern
