import Crosswalk.Pattern.Reader
import Crosswalk.Proofs.Pattern.Sets

/-!
Every step of the reader is taken alike with a frame behind the text.
-/

namespace Crosswalk.Pattern

theorem dropWhile_frame (s : List Char) :
    (s ++ frameEnd).dropWhile Text.isBlank = s.dropWhile Text.isBlank ++ frameEnd := by
  induction s with
  | nil => rfl
  | cons c rest ih =>
    rw [List.cons_append, List.dropWhile_cons, List.dropWhile_cons, ih]
    split <;> rfl

theorem isReader_dropWhile {α : Type} (v : α) :
    IsReader fun s => some (v, s.dropWhile Text.isBlank) where
  suffix h := by
    cases h
    exact List.dropWhile_suffix _
  carries s := by
    rw [dropWhile_frame]
    exact .left v _

/-- A digit at the front of a text. -/
def readDigit? (s : List Char) : Option (Nat × List Char) :=
  match s with
  | c :: rest => if c.isDigit then some (c.toNat - '0'.toNat, rest) else none
  | [] => none

theorem isBlind_readDigit? : IsBlind readDigit? where
  suffix := by
    intro s d rest h
    cases s with
    | nil => cases h
    | cons c tail =>
      rw [readDigit?] at h
      split at h
      · cases h
        exact List.suffix_cons c _
      · cases h
  frame s := by
    cases s with
    | nil => rfl
    | cons c tail =>
      rw [List.cons_append, readDigit?, readDigit?]
      split <;> rfl

theorem readCount_succ (f : Flags) (n : Nat) (found : Option Nat) (s : List Char) :
    some (readCount f (n + 1) found s) =
      (readDigit? s).elim (some (found, s.dropWhile Text.isBlank)) fun digit =>
        some (readCount f n (some (found.getD 0 * 10 + digit.1)) (f.skip digit.2)) := by
  cases s with
  | nil => rfl
  | cons c rest =>
    rw [readCount, readDigit?]
    split <;> rfl

theorem readCount_fuel (f : Flags) (found : Option Nat) {n m : Nat} {s : List Char}
    (hn : s.length < n) (hm : s.length < m) : readCount f n found s = readCount f m found s := by
  refine fuel_irrelevant (fun n found => readCount f n found) (fun n m found s h => ?_) found hn hm
  cases s with
  | nil => rfl
  | cons c rest =>
    have heq := h (some (found.getD 0 * 10 + (c.toNat - '0'.toNat))) (f.skip rest)
      (Nat.lt_succ_of_le (f.skip_length rest))
    simp only [readCount, heq]

theorem isReader_readCount (f : Flags) (n : Nat) (found : Option Nat) :
    IsReader fun s => some (readCount f n found s) := by
  induction n generalizing found with
  | zero => exact .result (some found)
  | succ n ih =>
    exact .congr (readCount_succ f n found) (.choice isBlind_readDigit?
      (fun digit => (ih (some (found.getD 0 * 10 + digit))).skip f) (isReader_dropWhile found))

theorem readCount?_eq (f : Flags) (s : List Char) :
    readCount? f s =
      (some (readCount f ((s.dropWhile Text.isBlank).length + 1) none
        (s.dropWhile Text.isBlank))).bind fun count =>
          (count.1.filter (· < 0x100000000)).map (·, f.skip count.2) := by
  rw [Option.bind_some, readCount?]
  obtain ⟨_ | n, rest⟩ := readCount f ((s.dropWhile Text.isBlank).length + 1) none
    (s.dropWhile Text.isBlank)
  · rfl
  · by_cases hn : n < 0x100000000
    · simp only [hn, if_true, Option.filter, decide_true, Option.map_some]
    · simp only [hn, if_false, Option.filter, decide_false, Bool.false_eq_true, Option.map_none]

theorem isReader_readCount? (f : Flags) : IsReader (readCount? f) := by
  have hcount : IsReader fun s => some (readCount f (s.length + 1) none s) :=
    .fuelled (fun n => isReader_readCount f n none) fun hn hm => by rw [readCount_fuel f none hn hm]
  have hbound : ∀ count : Option Nat, IsReader fun s =>
      (count.filter (· < 0x100000000)).map (·, f.skip s) := fun count =>
    (IsReader.result (count.filter (· < 0x100000000))).skip f
  exact .congr (readCount?_eq f) ((isReader_dropWhile ()).bind fun _ => hcount.bind hbound)

theorem isReader_closeBounds? (bounds : Option (Nat × Option Nat)) :
    IsReader (closeBounds? bounds) := by
  refine .orElse '\x7d' (by decide) (.result bounds) .nothing (fun _ => rfl) fun s hs => ?_
  unfold closeBounds?
  split
  · exact absurd rfl hs
  · rfl

theorem isReader_readMost? (f : Flags) (least : Nat) : IsReader (readMost? f least) := by
  refine .orElse '\x7d' (by decide) (.result (some (least, none)))
    ((isReader_readCount? f).bind fun most =>
      isReader_closeBounds? (if least ≤ most then some (least, some most) else none))
    (fun _ => rfl) fun s hs => ?_
  unfold readMost?
  split
  · exact absurd rfl hs
  · rfl

/-- Reads bounds from behind the least number of turns. -/
def readBoundsAfter? (f : Flags) (least : Nat) (s : List Char) :
    Option ((Nat × Option Nat) × List Char) :=
  match s with
  | ',' :: rest => readMost? f least (f.skip rest)
  | rest => closeBounds? (some (least, some least)) rest

theorem isReader_readBoundsAfter? (f : Flags) (least : Nat) :
    IsReader (readBoundsAfter? f least) := by
  refine .orElse ',' (by decide) ((isReader_readMost? f least).skip f)
    (isReader_closeBounds? (some (least, some least))) (fun _ => rfl) fun s hs => ?_
  unfold readBoundsAfter?
  split
  · exact absurd rfl hs
  · rfl

/-- The bounds of turns are read alike with a frame behind them. -/
theorem isReader_readBounds? (f : Flags) : IsReader (readBounds? f) :=
  ((isReader_readCount? f).skip f).bind (isReader_readBoundsAfter? f)

theorem isReader_dropLazy : IsReader fun s => some ((), dropLazy s) := by
  refine .orElse '?' (by decide) (.result (some ())) (.result (some ())) (fun _ => rfl)
    fun s hs => ?_
  unfold dropLazy
  split
  · exact absurd rfl hs
  · rfl

theorem beginsWith_frame {lead : List Char} (hlead : ')' ∉ lead) (s : List Char) :
    Text.beginsWith lead (s ++ frameEnd) = Text.beginsWith lead s := by
  rw [Bool.eq_iff_iff]
  exact ⟨Text.beginsWith_of_append hlead, fun h => Text.beginsWith_append h frameEnd⟩

theorem looksAround_frame (s : List Char) : looksAround (s ++ frameEnd) = looksAround s := by
  simp only [looksAround, List.any_cons, List.any_nil]
  rw [beginsWith_frame (by decide), beginsWith_frame (by decide), beginsWith_frame (by decide),
    beginsWith_frame (by decide)]

/-- Whether a text names a group. -/
def isGroupName (name : List Char) : Bool :=
  match name with
  | first :: rest => isGroupChar true first && rest.all (isGroupChar false)
  | [] => false

theorem isReader_readGroupName? : IsReader readGroupName? :=
  (isBlind_cutAt (by decide)).isReader.filter isGroupName

theorem isReader_openNamed? (r : Reading) : IsReader (openNamed? r) := by
  have hopen : ∀ name, IsReader fun rest =>
      if r.names.contains name then none
      else some ({ r with names := name :: r.names }.openWith r.flags, rest) := fun name =>
    .ite (r.names.contains name) .nothing
      (.result (some (Reading.openWith { r with names := name :: r.names } r.flags)))
  exact isReader_readGroupName?.bind hopen

/-- What a group does with its flags: it opens, or the group around goes on with them. -/
def closeFlags? (r : Reading) (t : FlagText) (s : List Char) : Option (Reading × List Char) :=
  match s with
  | ':' :: rest => some (r.openWith t.flags, rest)
  | ')' :: rest =>
    if t.letters.isEmpty then none
    else some ({ r with flags := t.flags, items := .flat none :: r.items }, rest)
  | _ => none

/-- Reads flags and what ends them. -/
def readFlags? (r : Reading) (t : FlagText) (s : List Char) : Option (Reading × List Char) :=
  (t.read? s).bind fun (t, rest) => closeFlags? r t rest

theorem isReader_closeFlags? (r : Reading) (t : FlagText) (c : Char) :
    IsReader fun s => closeFlags? r t (c :: s) := by
  by_cases hcolon : c = ':'
  · subst hcolon
    exact .result (some (r.openWith t.flags))
  · by_cases hclose : c = ')'
    · subst hclose
      exact .ite t.letters.isEmpty .nothing
        (.result (some ({ r with flags := t.flags, items := .flat none :: r.items } : Reading)))
    · refine .congr (fun s => ?_) .nothing
      unfold closeFlags?
      split
      · rename_i heq
        exact absurd (List.cons.inj heq).1 hcolon
      · rename_i heq
        exact absurd (List.cons.inj heq).1 hclose
      · rfl

theorem readFlags?_end {r : Reading} {t : FlagText} {c : Char} (hc : (c == ':' || c == ')') = true)
    (s : List Char) :
    readFlags? r t (c :: s) =
      if t.letters.getLast? == some '-' then none else closeFlags? r t (c :: s) := by
  rw [readFlags?, FlagText.read?, if_pos hc]
  split <;> rfl

theorem readFlags?_take {r : Reading} {t : FlagText} {c : Char}
    (hc : (c == ':' || c == ')') = false) (s : List Char) :
    readFlags? r t (c :: s) = (t.take? c).bind fun next => readFlags? r next s := by
  rw [readFlags?, FlagText.read?, hc, if_neg Bool.false_ne_true, Option.bind_assoc]
  rfl

theorem isReader_readFlags? (r : Reading) (t : FlagText) : IsReader (readFlags? r t) := by
  have hsuffix : ∀ {t s r' rest}, readFlags? r t s = some (r', rest) → rest <:+ s := by
    intro t s r' rest h
    induction s generalizing t with
    | nil => cases h
    | cons c s ih =>
      refine List.IsSuffix.trans ?_ (List.suffix_cons c s)
      cases hc : c == ':' || c == ')' with
      | true =>
        rw [readFlags?_end hc] at h
        split at h
        · cases h
        · exact (isReader_closeFlags? r _ _).suffix h
      | false =>
        rw [readFlags?_take hc] at h
        obtain ⟨next, -, hnext⟩ := Option.bind_eq_some_iff.mp h
        exact ih hnext
  refine ⟨hsuffix, fun s => ?_⟩
  -- the flags end at the parenthesis of the frame if they do not end before
  induction s generalizing t with
  | nil =>
    refine .failed fun r' rest h => ?_
    rw [List.nil_append, frameEnd, readFlags?_end rfl] at h
    split at h
    · cases h
    · exact (isReader_closeFlags? r _ _).suffix h
  | cons c s ih =>
    rw [List.cons_append]
    cases hc : c == ':' || c == ')' with
    | true =>
      rw [readFlags?_end hc, readFlags?_end hc]
      split
      · exact carries_none
      · exact (isReader_closeFlags? r t c).carries s
    | false =>
      rw [readFlags?_take hc, readFlags?_take hc]
      cases t.take? c with
      | none => exact carries_none
      | some next => exact ih next

theorem isReader_openFlagged? (r : Reading) : IsReader (openFlagged? r) :=
  isReader_readFlags? r ⟨[], r.flags, true⟩

/-- Opens a group whose mark is no `P`. -/
def openUnprefixed? (r : Reading) (s : List Char) : Option (Reading × List Char) :=
  match s with
  | '<' :: rest => openNamed? r rest
  | s => openFlagged? r s

theorem isReader_openUnprefixed? (r : Reading) : IsReader (openUnprefixed? r) := by
  refine .orElse '<' (by decide) (isReader_openNamed? r) (isReader_openFlagged? r) (fun _ => rfl)
    fun s hs => ?_
  unfold openUnprefixed?
  split
  · exact absurd rfl hs
  · rfl

theorem isReader_openMarked? (r : Reading) : IsReader (openMarked? r) := by
  -- behind a `P` flags would have to begin with it, and there is no such flag
  have hnamed : IsReader fun s => openMarked? r ('P' :: s) := by
    refine .orElse '<' (by decide) (isReader_openNamed? r) .nothing (fun _ => rfl) fun s hs => ?_
    unfold openMarked?
    split
    · rename_i heq
      cases heq
      exact absurd rfl hs
    · rename_i heq
      cases heq
    · rfl
  refine .orElse 'P' (by decide) hnamed (isReader_openUnprefixed? r) (fun _ => rfl) fun s hs => ?_
  unfold openMarked? openUnprefixed?
  split
  · exact absurd rfl hs
  · rfl
  · rename_i hangle
    split
    · exact absurd rfl (hangle _)
    · rfl

/-- Opens a group behind its parenthesis. -/
def openGroupFrom? (r : Reading) (s : List Char) : Option (Reading × List Char) :=
  match s with
  | '?' :: rest => openMarked? r rest
  | s => some (r.openWith r.flags, s)

theorem isReader_openGroupFrom? (r : Reading) : IsReader (openGroupFrom? r) := by
  refine .orElse '?' (by decide) (isReader_openMarked? r) (.result (some (r.openWith r.flags)))
    (fun _ => rfl) fun s hs => ?_
  unfold openGroupFrom?
  split
  · exact absurd rfl hs
  · rfl

/-- A group is opened alike with a frame behind the text. -/
theorem isReader_openGroup? (r : Reading) : IsReader (openGroup? r) :=
  (IsReader.cond looksAround_frame .nothing (isReader_openGroupFrom? r)).skip r.flags

/-- Turns the last expression into turns of it; a question mark may follow. -/
theorem isReader_repeat (r : Reading) (least : Nat) (most : Option Nat) :
    IsReader fun s => (r.repeatLast? least most).map (·, dropLazy s) :=
  isReader_dropLazy.bind fun _ => .result (r.repeatLast? least most)

/-- The characters that do not stand for themselves. -/
def signs : List Char :=
  ['(', ')', '|', '[', '?', '*', '+', '\x7b', '\\', '.', '^', '$']

theorem isReader_push (r : Reading) (primitive : Primitive) :
    IsReader fun rest => (primitivePattern? r.flags primitive).map fun p => (r.push p, rest) :=
  .made (primitivePattern? r.flags primitive) r.push

variable [Compiler]

theorem step?_plain {r : Reading} {c : Char} (hc : c ∉ signs) (rest : List Char) :
    r.step? (c :: rest) = (charPattern? r.flags c false).map fun p => (r.push p, rest) := by
  unfold Reading.step?
  split
  all_goals
    rename_i heq
    cases heq
  all_goals first | exact absurd (by decide) hc | rfl

theorem isReader_step? (r : Reading) {c : Char} (hc : c ≠ '\\') :
    IsReader fun rest => r.step? (c :: rest) := by
  by_cases hsign : c ∈ signs
  · simp only [signs, List.mem_cons, List.not_mem_nil, or_false] at hsign
    rcases hsign with rfl | rfl | rfl | rfl | rfl | rfl | rfl | rfl | rfl | rfl | rfl | rfl
    · exact isReader_openGroup? r
    · exact .result r.close?
    · exact .result (some r.nextBranch)
    · exact (isReader_readSet? r.flags).map fun set => r.pushNested ⟨.one set.value, set.depth⟩
    · exact isReader_repeat r 0 (some 1)
    · exact isReader_repeat r 0 none
    · exact isReader_repeat r 1 none
    · exact (isReader_readBounds? r.flags).bind fun bounds =>
        (isReader_repeat r bounds.1 bounds.2).skip r.flags
    · exact absurd rfl hc
    · exact .ite r.flags.unicode (.result (some (r.push (.one (dotSet r.flags))))) .nothing
    · exact .result (some (r.push (.assertion (startAssertion r.flags))))
    · exact .result (some (r.push (.assertion (endAssertion r.flags))))
  · rw [funext (step?_plain hsign)]
    exact .made (charPattern? r.flags c false) r.push

theorem step?_escape (r : Reading) (rest : List Char) :
    r.step? ('\\' :: rest) = (readEscape? r.flags rest).bind fun found =>
      (primitivePattern? r.flags found.1).map fun p => (r.push p, found.2) := rfl

/-- A step takes the first character. -/
theorem step?_suffix {r r' : Reading} {c : Char} {s rest : List Char}
    (h : r.step? (c :: s) = some (r', rest)) : rest <:+ s := by
  by_cases hc : c = '\\'
  · subst hc
    rw [step?_escape] at h
    obtain ⟨found, hfound, hpush⟩ := Option.bind_eq_some_iff.mp h
    exact ((isReader_push r found.1).suffix hpush).trans (readEscape?_suffix hfound)
  · exact (isReader_step? r hc).suffix h

/-- Where the name of a condition would have to go on, the text ends. -/
def IsCutEdge (f : Flags) (s : List Char) : Prop :=
  ∃ rest, s = '\\' :: 'b' :: '\x7b' :: rest ∧ f.skip rest = []

/-- Every step but one is taken alike with a frame behind the text. -/
theorem carries_step? {r : Reading} {c : Char} {s : List Char}
    (hcut : ¬ IsCutEdge r.flags (c :: s)) :
    Carries (r.step? (c :: s)) (r.step? (c :: (s ++ frameEnd))) := by
  by_cases hc : c = '\\'
  · subst hc
    rw [step?_escape, step?_escape]
    refine Carries.bind ?_ (isReader_push r)
    cases s with
    | nil => exact carries_of_close (isReader_readEscape? r.flags (by decide : ')' ≠ 'b')) rfl
    | cons c s =>
      by_cases hedge : c = 'b'
      · subst hedge
        exact carries_readEdge? fun rest hrest hskip => hcut ⟨rest, by rw [hrest], hskip⟩
      · exact (isReader_readEscape? r.flags hedge).carries s
  · exact (isReader_step? r hc).carries s

end Crosswalk.Pattern
