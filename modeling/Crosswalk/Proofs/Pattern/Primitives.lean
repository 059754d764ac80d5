import Crosswalk.Pattern.Escape
import Crosswalk.Proofs.Pattern.Carrying

/-!
What stands after a backslash is read alike with a frame behind it.

There is one exception: a brace after `\b` opens the name of a condition only if the text goes on.
-/

namespace Crosswalk.Pattern

theorem isReader_readDigits? (f : Flags) (n value : Nat) : IsReader (readDigits? f n value) := by
  induction n generalizing value with
  | zero => exact .result (some value)
  | succ n ih => exact .head rfl fun c => .optional (Text.hexDigit? c) fun d => (ih _).skip f

theorem readBraced?_fuel (f : Flags) (isFirst : Bool) (value : Nat) {n m : Nat} {s : List Char}
    (hn : s.length < n) (hm : s.length < m) :
    readBraced? f n isFirst value s = readBraced? f m isFirst value s := by
  refine fuel_irrelevant (fun n (i : Bool × Nat) => readBraced? f n i.1 i.2)
    (fun n m i s h => ?_) (isFirst, value) hn hm
  cases s with
  | nil => rfl
  | cons c rest =>
    have hskip : (f.skip rest).length < (c :: rest).length :=
      Nat.lt_succ_of_le (f.skip_length rest)
    have heq : ∀ d, readBraced? f n false (i.2 * 16 + d) (f.skip rest) =
        readBraced? f m false (i.2 * 16 + d) (f.skip rest) := fun d => h (false, _) _ hskip
    simp only [readBraced?, heq]

theorem isReader_readBraced? (f : Flags) (n : Nat) (isFirst : Bool) (value : Nat) :
    IsReader (readBraced? f n isFirst value) := by
  induction n generalizing isFirst value with
  | zero => exact .nothing
  | succ n ih =>
    refine .head rfl fun c => .ite (c == '\x7d') ?_ ?_
    · exact .ite isFirst .nothing ((IsReader.result (some value)).skip f)
    · exact .optional (Text.hexDigit? c) fun d => (ih _ _).skip f

/-- Reads the number of a character from its first character on. -/
def readHexadecimalFrom? (f : Flags) (width : Nat) (s : List Char) :
    Option (Primitive × List Char) :=
  match s with
  | '\x7b' :: rest =>
    (readBraced? f (rest.length + 1) true 0 (f.skip rest)).bind fun (n, rest) =>
      (charOf? n).map fun c => (.char c false, rest)
  | s =>
    (readDigits? f width 0 s).bind fun (n, rest) =>
      (charOf? n).map fun c => (.char c (width == 2), rest)

theorem isReader_readHexadecimalFrom? (f : Flags) (width : Nat) :
    IsReader (readHexadecimalFrom? f width) := by
  have hbraced : IsReader fun s => readBraced? f (s.length + 1) true 0 s :=
    .fuelled (fun n => isReader_readBraced? f n true 0) (readBraced?_fuel f true 0)
  refine .orElse '\x7b' (by decide)
    ((hbraced.skip f).filterMap charOf? fun _ c => .char c false)
    ((isReader_readDigits? f width 0).filterMap charOf? fun _ c => .char c (width == 2))
    (fun rest => ?_) fun s hs => ?_
  · have hlong := Nat.lt_succ_of_le (f.skip_length rest)
    simp only [readHexadecimalFrom?, readBraced?_fuel f true 0 hlong (Nat.lt_succ_self _)]
  · unfold readHexadecimalFrom?
    split
    · exact absurd rfl hs
    · rfl

theorem isReader_readHexadecimal? (f : Flags) (width : Nat) :
    IsReader (readHexadecimal? f width) :=
  (isReader_readHexadecimalFrom? f width).skip f

theorem readPropertyName?_fuel (f : Flags) {n m : Nat} {s : List Char}
    (hn : s.length < n) (hm : s.length < m) : readPropertyName? f n s = readPropertyName? f m s := by
  refine fuel_irrelevant (fun n (_ : Unit) => readPropertyName? f n) (fun n m i s h => ?_) () hn hm
  cases s with
  | nil => rfl
  | cons c rest =>
    have heq := h () (f.skip rest) (Nat.lt_succ_of_le (f.skip_length rest))
    simp only [readPropertyName?, heq]

theorem isReader_readPropertyName? (f : Flags) (n : Nat) : IsReader (readPropertyName? f n) := by
  induction n with
  | zero => exact .nothing
  | succ n ih =>
    exact .head rfl fun c => .ite (c == '\x7d') (.result (some [])) ((ih.skip f).map (c :: ·))

/-- Reads the text of a property, from its first character on. -/
def readPropertyText? (f : Flags) (s : List Char) : Option (List Char × List Char) :=
  match s with
  | '\x7b' :: rest => readPropertyName? f (rest.length + 1) (f.skip rest)
  | '\\' :: _ => none
  | c :: rest => some ([c], f.skip rest)
  | [] => none

theorem isReader_readPropertyText? (f : Flags) : IsReader (readPropertyText? f) := by
  have hname : IsReader fun s => readPropertyName? f (s.length + 1) s :=
    .fuelled (isReader_readPropertyName? f) (readPropertyName?_fuel f)
  refine .head rfl fun c => ?_
  unfold readPropertyText?
  by_cases hbrace : c = '\x7b'
  · subst hbrace
    have heq : ∀ rest, readPropertyName? f (rest.length + 1) (f.skip rest) =
        readPropertyName? f ((f.skip rest).length + 1) (f.skip rest) := fun rest =>
      readPropertyName?_fuel f (Nat.lt_succ_of_le (f.skip_length rest)) (Nat.lt_succ_self _)
    simp only [heq]
    exact hname.skip f
  · by_cases hslash : c = '\\'
    · subst hslash
      exact .nothing
    · simp only
      exact (IsReader.result (some [c])).skip f

theorem readEdgeName?_fuel (f : Flags) {n m : Nat} {s : List Char} (hn : s.length < n)
    (hm : s.length < m) : readEdgeName? f n s = readEdgeName? f m s := by
  refine fuel_irrelevant (fun n (_ : Unit) => readEdgeName? f n) (fun n m i s h => ?_) () hn hm
  cases s with
  | nil => rfl
  | cons c rest =>
    have heq := h () (f.skip rest) (Nat.lt_succ_of_le (f.skip_length rest))
    simp only [readEdgeName?, heq]

theorem isReader_readEdgeName? (f : Flags) (n : Nat) : IsReader (readEdgeName? f n) := by
  induction n with
  | zero => exact .nothing
  | succ n ih =>
    refine .head rfl fun c => .ite (isEdgeChar c) ((ih.skip f).map (c :: ·)) ?_
    exact .ite (c == '\x7d') (.result (some [])) .nothing

/-- Reads the name of a condition, with as much fuel as there is text. -/
def readNamedEdge? (f : Flags) (s : List Char) : Option (Primitive × List Char) :=
  (readEdgeName? f (s.length + 1) s).bind fun (name, rest) =>
    (namedEdge? f.unicode name).map fun a => (.assertion a, rest)

theorem isReader_readNamedEdge? (f : Flags) : IsReader (readNamedEdge? f) :=
  (IsReader.fuelled (isReader_readEdgeName? f) (readEdgeName?_fuel f)).filterMap
    (namedEdge? f.unicode) fun _ a => Primitive.assertion a

theorem readEdge?_of_ne {f : Flags} {s : List Char} (hs : s.head? ≠ some '\x7b') :
    readEdge? f s = some (.assertion (.wordEdge f.unicode), s) := by
  unfold readEdge?
  split
  · exact absurd rfl hs
  · rfl

theorem readEdge?_brace {f : Flags} {rest more : List Char} {c : Char}
    (hskip : f.skip rest = c :: more) :
    readEdge? f ('\x7b' :: rest) = if isEdgeChar c then readNamedEdge? f (c :: more)
      else some (.assertion (.wordEdge f.unicode), '\x7b' :: rest) := by
  rw [readEdge?, hskip]
  rfl

theorem readEdge?_bare {f : Flags} {rest : List Char} (hskip : f.skip rest = []) :
    readEdge? f ('\x7b' :: rest) = none := by
  rw [readEdge?, hskip]

/-- What the reader of `\b` can find: a condition, and an end of the text. -/
theorem readEdge?_sound {f : Flags} {s rest : List Char} {v : Primitive}
    (h : readEdge? f s = some (v, rest)) : (∃ a, v = .assertion a) ∧ rest <:+ s := by
  by_cases hs : s.head? = some '\x7b'
  · obtain ⟨tail, rfl⟩ := List.head?_eq_some_iff.mp hs
    cases hskip : f.skip tail with
    | nil => exact nomatch (readEdge?_bare hskip).symm.trans h
    | cons c more =>
      rw [readEdge?_brace hskip] at h
      split at h
      · have hsuffix := ((isReader_readNamedEdge? f).suffix h).trans (hskip ▸ f.skip_suffix tail)
        obtain ⟨⟨name, left⟩, -, hname⟩ := Option.bind_eq_some_iff.mp h
        obtain ⟨a, -, heq⟩ := Option.map_eq_some_iff.mp hname
        cases heq
        exact ⟨⟨a, rfl⟩, hsuffix.trans (List.suffix_cons _ tail)⟩
      · cases h
        exact ⟨⟨_, rfl⟩, List.suffix_rfl⟩
  · rw [readEdge?_of_ne hs] at h
    cases h
    exact ⟨⟨_, rfl⟩, List.suffix_rfl⟩

/-- The condition after `\b` is left alone unless the text ends behind its brace. -/
theorem carries_readEdge? {f : Flags} {s : List Char}
    (hs : ∀ rest, s = '\x7b' :: rest → f.skip rest ≠ []) :
    Carries (readEdge? f s) (readEdge? f (s ++ frameEnd)) := by
  by_cases hhead : s.head? = some '\x7b'
  · obtain ⟨rest, rfl⟩ := List.head?_eq_some_iff.mp hhead
    obtain ⟨c, more, hskip⟩ := List.exists_cons_of_ne_nil (hs rest rfl)
    rw [List.cons_append, readEdge?_brace hskip, readEdge?_brace (Flags.skip_frame_cons hskip)]
    split
    · exact (isReader_readNamedEdge? f).carries (c :: more)
    · exact .left _ _
  · rw [readEdge?_of_ne hhead, readEdge?_of_ne (head?_frame (by decide) hhead)]
    exact .left _ _

variable [Compiler]

theorem isReader_readProperty? (f : Flags) (isNegated : Bool) :
    IsReader (readProperty? f isNegated) := by
  unfold readProperty?
  exact .ite (!f.unicode) .nothing
    (((isReader_readPropertyText? f).skip f).filterMap propertySet? fun _ set =>
      Primitive.set (if isNegated then .complement (f.fold set) else f.fold set))

/-- The letters after which a backslash takes more characters. -/
def takingMore : List Char := ['x', 'u', 'U', 'p', 'P', 'b']

theorem readEscape?_of_notMem {f : Flags} {c : Char} (hc : c ∉ takingMore)
    (rest : List Char) :
    readEscape? f (c :: rest) = ((readEscape? f [c]).map Prod.fst).map (·, rest) := by
  simp only [readEscape?]
  split
  · rfl
  · split
    · rfl
    · split
      · rfl
      · split <;> first | rfl | exact absurd (by decide) hc

/-- A backslash before any letter but `b` takes what it takes, whatever stands behind. -/
theorem isReader_readEscape? (f : Flags) {c : Char} (hc : c ≠ 'b') :
    IsReader fun rest => readEscape? f (c :: rest) := by
  by_cases hmore : c ∈ takingMore
  · simp only [takingMore, List.mem_cons, List.not_mem_nil, or_false] at hmore
    rcases hmore with rfl | rfl | rfl | rfl | rfl | rfl
    · exact isReader_readHexadecimal? f 2
    · exact isReader_readHexadecimal? f 4
    · exact isReader_readHexadecimal? f 8
    · exact isReader_readProperty? f false
    · exact isReader_readProperty? f true
    · exact absurd rfl hc
  · rw [funext (readEscape?_of_notMem (f := f) hmore)]
    exact .result _

theorem readEscape?_edge (f : Flags) (rest : List Char) :
    readEscape? f ('b' :: rest) = readEdge? f rest := rfl

theorem readEscape?_suffix {f : Flags} {s rest : List Char} {v : Primitive}
    (h : readEscape? f s = some (v, rest)) : rest <:+ s := by
  cases s with
  | nil => exact nomatch h
  | cons c tail =>
    by_cases hc : c = 'b'
    · subst hc
      exact (readEdge?_sound h).2.trans (List.suffix_cons 'b' tail)
    · exact ((isReader_readEscape? f hc).suffix h).trans (List.suffix_cons c tail)

end Crosswalk.Pattern
