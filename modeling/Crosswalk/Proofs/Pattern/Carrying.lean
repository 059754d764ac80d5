import Mathlib.Data.List.Infix
import Crosswalk.Pattern.Flags

/-!
Readers that a frame behind their text does not disturb.

A frame ends in `)$`. A reader that stops before the end of its text stops at the same place when
the frame stands behind it, and finds the same. Only two other things can happen: a comment that the
text leaves open takes in the frame, or what the text lacks is looked for in the frame, and then the
closing parenthesis is read.
-/

namespace Crosswalk.Pattern

variable {α β : Type}

/-- What a frame puts behind an expression. -/
def frameEnd : List Char := [')', '$']

/-- What reading a text gives, and what it gives with the end of a frame behind the text. -/
inductive Carries : Option (α × List Char) → Option (α × List Char) → Prop
  /-- The frame is left as it is. -/
  | left (v : α) (rest : List Char) : Carries (some (v, rest)) (some (v, rest ++ frameEnd))
  /-- A comment that is open goes on over the frame. -/
  | swallowed (v : α) : Carries (some (v, [])) (some (v, []))
  /-- Without the frame nothing is read, and with it not less than its closing parenthesis. -/
  | failed {framed : Option (α × List Char)}
    (h : ∀ v rest, framed = some (v, rest) → rest <:+ ['$']) : Carries none framed

/-- A reader leaves an end of its text, and does so with the end of a frame behind the text. -/
structure IsReader (read : List Char → Option (α × List Char)) : Prop where
  suffix : ∀ {s v rest}, read s = some (v, rest) → rest <:+ s
  carries : ∀ s, Carries (read s) (read (s ++ frameEnd))

/-- A reader that is blind for the frame finds with it what it finds without it. -/
structure IsBlind (read : List Char → Option (α × List Char)) : Prop where
  suffix : ∀ {s v rest}, read s = some (v, rest) → rest <:+ s
  frame : ∀ s, read (s ++ frameEnd) = (read s).map fun found => (found.1, found.2 ++ frameEnd)

/-- The frame does not begin with any character but its closing parenthesis. -/
theorem head?_frame {c : Char} {s : List Char} (hc : c ≠ ')') (hs : s.head? ≠ some c) :
    (s ++ frameEnd).head? ≠ some c := by
  cases s with
  | nil => exact fun h => hc (Option.some.inj h).symm
  | cons d rest => exact hs

theorem IsBlind.isReader {read : List Char → Option (α × List Char)} (h : IsBlind read) :
    IsReader read where
  suffix := h.suffix
  carries s := by
    rw [h.frame]
    cases read s with
    | none => exact .failed fun _ _ h => nomatch h
    | some found => exact .left found.1 found.2

theorem carries_none : Carries (none : Option (α × List Char)) none :=
  .failed fun _ _ h => nomatch h

/-- Where a parenthesis stands, its reader leaves an end of what follows. -/
theorem carries_of_close {framed : Option (α × List Char)}
    {read : List Char → Option (α × List Char)} (hread : IsReader read)
    (h : framed = read ['$']) : Carries none framed :=
  .failed fun _ _ hframed => hread.suffix (h ▸ hframed)

/-- What a reading leaves can be read on. -/
theorem Carries.bind {alone framed : Option (α × List Char)}
    {next : α → List Char → Option (β × List Char)} (h : Carries alone framed)
    (hnext : ∀ v, IsReader (next v)) :
    Carries (alone.bind fun found => next found.1 found.2)
      (framed.bind fun found => next found.1 found.2) := by
  cases h with
  | left v rest => exact (hnext v).carries rest
  | swallowed v =>
    rw [Option.bind_some]
    cases hsecond : next v [] with
    | none => exact carries_none
    | some found =>
      obtain ⟨w, rest⟩ := found
      obtain rfl := List.suffix_nil.mp ((hnext v).suffix hsecond)
      exact .swallowed w
  | failed hframed =>
    refine .failed fun w rest hw => ?_
    obtain ⟨⟨v, middle⟩, hfirst, hsecond⟩ := Option.bind_eq_some_iff.mp hw
    exact ((hnext v).suffix hsecond).trans (hframed v middle hfirst)

namespace IsReader

variable {read : List Char → Option (α × List Char)}

theorem congr {other : List Char → Option (α × List Char)} (h : ∀ s, read s = other s)
    (hother : IsReader other) : IsReader read :=
  funext h ▸ hother

theorem nothing : IsReader fun _ => (none : Option (α × List Char)) :=
  ⟨fun h => (nomatch h), fun _ => carries_none⟩

/-- A result that does not depend on the text leaves all of it. -/
theorem result (o : Option α) : IsReader fun s => o.map (·, s) where
  suffix h := by
    obtain ⟨v, -, heq⟩ := Option.map_eq_some_iff.mp h
    cases heq
    exact List.suffix_rfl
  carries s := by
    cases o with
    | none => exact carries_none
    | some v => exact .left v s

theorem made {γ : Type} (o : Option γ) (make : γ → α) :
    IsReader fun s => o.map fun v => (make v, s) := by
  have hresult := result (o.map make)
  simpa only [Option.map_map, Function.comp_def] using hresult

/-- One reader after the other. -/
theorem bind {next : α → List Char → Option (β × List Char)} (hread : IsReader read)
    (hnext : ∀ v, IsReader (next v)) :
    IsReader fun s => (read s).bind fun found => next found.1 found.2 where
  suffix h := by
    obtain ⟨⟨v, middle⟩, hfirst, hsecond⟩ := Option.bind_eq_some_iff.mp h
    exact ((hnext v).suffix hsecond).trans (hread.suffix hfirst)
  carries s := (hread.carries s).bind hnext

theorem map (g : α → β) (hread : IsReader read) :
    IsReader fun s => (read s).map fun found => (g found.1, found.2) := by
  have hbind := hread.bind fun v => result (some (g v))
  simpa only [Option.map_eq_bind, Function.comp_def, Option.bind_some] using hbind

theorem filterMap {γ : Type} (g : α → Option γ) (make : α → γ → β) (hread : IsReader read) :
    IsReader fun s => (read s).bind fun found =>
      (g found.1).map fun c => (make found.1 c, found.2) := by
  have hbind := hread.bind fun v => result ((g v).map (make v))
  simpa only [Option.map_map, Function.comp_def] using hbind

/-- A reader that depends on a value that may be missing. -/
theorem optional {γ : Type} {next : γ → List Char → Option (α × List Char)} (o : Option γ)
    (hnext : ∀ d, IsReader (next d)) : IsReader fun s => o.bind fun d => next d s := by
  cases o with
  | none => exact nothing
  | some d => exact hnext d

theorem ite {other : List Char → Option (α × List Char)} (b : Bool) (hread : IsReader read)
    (hother : IsReader other) : IsReader fun s => if b then read s else other s := by
  cases b
  · exact hother
  · exact hread

/-- A choice that does not depend on the frame. -/
theorem cond {test : List Char → Bool} {other : List Char → Option (α × List Char)}
    (htest : ∀ s, test (s ++ frameEnd) = test s) (hread : IsReader read) (hother : IsReader other) :
    IsReader fun s => if test s then read s else other s where
  suffix h := by
    split at h
    · exact hread.suffix h
    · exact hother.suffix h
  carries s := by
    rw [htest]
    split
    · exact hread.carries s
    · exact hother.carries s

/-- A reader that treats every first character by a reader of its own, and has to have one. -/
theorem head (hnil : read [] = none) (h : ∀ c, IsReader fun rest => read (c :: rest)) :
    IsReader read where
  suffix := by
    intro s v rest hs
    cases s with
    | nil => exact nomatch hnil.symm.trans hs
    | cons c tail => exact ((h c).suffix hs).trans (List.suffix_cons c tail)
  carries s := by
    cases s with
    | nil => rw [hnil]; exact carries_of_close (h ')') rfl
    | cons c tail => exact (h c).carries tail

/-- A reader that treats one first character, which is no closing parenthesis, in its own way. -/
theorem orElse {first other : List Char → Option (α × List Char)} (mark : Char)
    (hmark : mark ≠ ')') (hfirst : IsReader first) (hother : IsReader other)
    (hcons : ∀ rest, read (mark :: rest) = first rest)
    (helse : ∀ s, s.head? ≠ some mark → read s = other s) : IsReader read where
  suffix := by
    intro s v rest hs
    by_cases hhead : s.head? = some mark
    · obtain ⟨tail, rfl⟩ := List.head?_eq_some_iff.mp hhead
      rw [hcons] at hs
      exact (hfirst.suffix hs).trans (List.suffix_cons mark tail)
    · rw [helse s hhead] at hs
      exact hother.suffix hs
  carries s := by
    by_cases hhead : s.head? = some mark
    · obtain ⟨tail, rfl⟩ := List.head?_eq_some_iff.mp hhead
      rw [List.cons_append, hcons, hcons]
      exact hfirst.carries tail
    · rw [helse s hhead, helse _ (head?_frame hmark hhead)]
      exact hother.carries s

theorem filter (keep : α → Bool) (hread : IsReader read) :
    IsReader fun s => (read s).filter fun found => keep found.1 := by
  refine .congr (fun s => ?_) (hread.bind fun v => result (if keep v then some v else none))
  cases read s with
  | none => rfl
  | some found => cases hkeep : keep found.1 <;> simp [Option.filter, hkeep]

/-- A reader that tries another one first, which is blind for the frame. -/
theorem choice {probe : List Char → Option (α × List Char)}
    {yes : α → List Char → Option (β × List Char)} {no : List Char → Option (β × List Char)}
    (hprobe : IsBlind probe) (hyes : ∀ v, IsReader (yes v)) (hno : IsReader no) :
    IsReader fun s => (probe s).elim (no s) fun found => yes found.1 found.2 where
  suffix := by
    intro s w rest h
    cases hfound : probe s with
    | none => exact hno.suffix (hfound ▸ h)
    | some found =>
      rw [hfound] at h
      exact ((hyes found.1).suffix h).trans (hprobe.suffix hfound)
  carries s := by
    rw [hprobe.frame]
    cases probe s with
    | none => exact hno.carries s
    | some found => exact (hyes found.1).carries found.2

end IsReader

theorem dropComments_suffix (inComment : Bool) (s : List Char) :
    dropComments inComment s <:+ s := by
  induction s generalizing inComment with
  | nil => exact List.suffix_rfl
  | cons c rest ih =>
    rw [dropComments]
    split_ifs
    · exact (ih _).trans (List.suffix_cons c rest)
    · exact (ih _).trans (List.suffix_cons c rest)
    · exact (ih _).trans (List.suffix_cons c rest)
    · exact List.suffix_rfl

theorem Flags.skip_suffix (f : Flags) (s : List Char) : f.skip s <:+ s := by
  rw [Flags.skip]
  split
  · exact dropComments_suffix false s
  · exact List.suffix_rfl

theorem Flags.skip_length (f : Flags) (s : List Char) : (f.skip s).length ≤ s.length :=
  (f.skip_suffix s).length_le

/-- A frame behind blanks and comments is left, or it belongs to the last of the comments. -/
theorem dropComments_frame (inComment : Bool) (s : List Char) :
    dropComments inComment (s ++ frameEnd) = dropComments inComment s ++ frameEnd ∨
      dropComments inComment s = [] ∧ dropComments inComment (s ++ frameEnd) = [] := by
  induction s generalizing inComment with
  | nil => cases inComment <;> decide
  | cons c rest ih =>
    rw [List.cons_append, dropComments, dropComments]
    split_ifs
    · exact ih _
    · exact ih _
    · exact ih _
    · exact Or.inl rfl

theorem Flags.skip_frame (f : Flags) (s : List Char) :
    f.skip (s ++ frameEnd) = f.skip s ++ frameEnd ∨
      f.skip s = [] ∧ f.skip (s ++ frameEnd) = [] := by
  rw [Flags.skip, Flags.skip]
  cases f.ignoreSpace with
  | false => exact Or.inl rfl
  | true => exact dropComments_frame false s

/-- What stands behind blanks and comments is found alike with a frame behind the text. -/
theorem Flags.skip_frame_cons {f : Flags} {s rest : List Char} {c : Char}
    (h : f.skip s = c :: rest) : f.skip (s ++ frameEnd) = c :: (rest ++ frameEnd) := by
  rcases f.skip_frame s with hleft | ⟨hnil, -⟩
  · rw [hleft, h, List.cons_append]
  · cases hnil.symm.trans h

/-- Nothing is passed over in front of a character that counts. -/
theorem Flags.skip_cons (f : Flags) {c : Char} (hblank : Text.isBlank c = false) (hc : c ≠ '#')
    (rest : List Char) : f.skip (c :: rest) = c :: rest := by
  rw [Flags.skip]
  split
  · rw [dropComments, if_neg Bool.false_ne_true, if_neg (by simp [hblank]), if_neg (by simpa using hc)]
  · rfl

/-- Passing over blanks and comments is a reader itself, which finds nothing. -/
theorem isReader_skip (f : Flags) : IsReader fun s => some ((), f.skip s) where
  suffix h := by
    cases h
    exact f.skip_suffix _
  carries s := by
    rcases f.skip_frame s with hleft | ⟨hnil, hframed⟩
    · rw [hleft]
      exact .left () (f.skip s)
    · rw [hnil, hframed]
      exact .swallowed ()

theorem IsReader.skip {read : List Char → Option (α × List Char)} (f : Flags)
    (hread : IsReader read) : IsReader fun s => read (f.skip s) :=
  (isReader_skip f).bind fun _ => hread

/-- Fuel does not matter to a function that only calls itself on shorter texts, if there is more of
it than there are characters. -/
theorem fuel_irrelevant {ι : Type} (run : Nat → ι → List Char → β)
    (hstep : ∀ n m i s, (∀ j t, t.length < s.length → run n j t = run m j t) →
      run (n + 1) i s = run (m + 1) i s)
    (i : ι) {n m : Nat} {s : List Char} (hn : s.length < n) (hm : s.length < m) :
    run n i s = run m i s := by
  induction n generalizing m i s with
  | zero => exact absurd hn (Nat.not_lt_zero _)
  | succ n ih =>
    cases m with
    | zero => exact absurd hm (Nat.not_lt_zero _)
    | succ m =>
      refine hstep n m i s fun j t ht => ih j ?_ ?_
      · exact lt_of_lt_of_le ht (Nat.le_of_lt_succ hn)
      · exact lt_of_lt_of_le ht (Nat.le_of_lt_succ hm)

/-- A reader with any fuel is one with as much fuel as its text needs. -/
theorem IsReader.fuelled {run : Nat → List Char → Option (α × List Char)}
    (hread : ∀ n, IsReader (run n))
    (hfuel : ∀ {n m s}, s.length < n → s.length < m → run n s = run m s) :
    IsReader fun s => run (s.length + 1) s where
  suffix h := (hread _).suffix h
  carries s := by
    have hlong : s.length < (s ++ frameEnd).length + 1 := by
      rw [List.length_append]
      omega
    rw [hfuel (Nat.lt_succ_self _) hlong]
    exact (hread _).carries s

end Crosswalk.Pattern
