import Mathlib.Data.Int.Order.Basic
import Crosswalk.Filter.Run
import Crosswalk.Proofs.Text.Numeral
import Crosswalk.Proofs.Text.Trim

/-!
The part of a text that the filter `slice` takes.

The bounds are computed in words of sixty-four bits, with sums that stop at the least and the
greatest word. They are the bounds that exact numbers give, whatever words the arguments write:
between zero and the length of the text, and in order. So what is taken are the characters at the
places between them.
-/

namespace Crosswalk.Filter

open Text

/-! The computation in words. -/

/-- A sum of words that stops at the least and the greatest word. It wrapped around where it went
the wrong way from the second of the two. -/
def wordSum (a b : Int64) : Int64 :=
  if 0 ≤ a then if a + b < b then Int64.maxValue else a + b
  else if b < a + b then Int64.minValue else a + b

/-- The bounds of a part of a text, in words. -/
def wordBounds (total start : Int64) (length : Option Int64) : Int64 × Int64 :=
  let first := if start < 0 then max (wordSum total start) 0 else min start total
  let last :=
    match length with
    | some length => if length < 0 then wordSum total length else min (wordSum first length) total
    | none => total
  (first, max last first)

theorem signedMin_le_toInt (a : Int64) : signedMin ≤ a.toInt := Int64.minValue_le_toInt a

theorem toInt_le_signedMax (a : Int64) : a.toInt ≤ signedMax := by
  have hlt := Int64.toInt_lt a
  rw [signedMax]
  omega

theorem toInt_min (a b : Int64) : (min a b).toInt = min a.toInt b.toInt := by
  have hmin : min a b = if a ≤ b then a else b := rfl
  rw [hmin, apply_ite Int64.toInt, Int.min_def]
  simp only [Int64.le_iff_toInt_le]

theorem toInt_max (a b : Int64) : (max a b).toInt = max a.toInt b.toInt := by
  have hmax : max a b = if a ≤ b then b else a := rfl
  rw [hmax, apply_ite Int64.toInt, Int.max_def]
  simp only [Int64.le_iff_toInt_le]

/-- Adding words gives the exact sum, if that is a word. -/
theorem toInt_add_cases (a b : Int64) :
    signedMin ≤ a.toInt + b.toInt ∧ a.toInt + b.toInt ≤ signedMax ∧
        (a + b).toInt = a.toInt + b.toInt ∨
      signedMax < a.toInt + b.toInt ∧ (a + b).toInt = a.toInt + b.toInt - 2 ^ 64 ∨
      a.toInt + b.toInt < signedMin ∧ (a + b).toInt = a.toInt + b.toInt + 2 ^ 64 := by
  have hamin := signedMin_le_toInt a
  have hamax := toInt_le_signedMax a
  have hbmin := signedMin_le_toInt b
  have hbmax := toInt_le_signedMax b
  rw [Int64.toInt_add, Int.bmod_def]
  simp only [signedMin, signedMax] at *
  split <;> omega

/-- The sum of words is the exact sum, cut off at the bounds of sixty-four bits. -/
theorem toInt_wordSum (a b : Int64) : (wordSum a b).toInt = saturatingAdd a.toInt b.toInt := by
  have hamin := signedMin_le_toInt a
  have hamax := toInt_le_signedMax a
  have hbmin := signedMin_le_toInt b
  have hbmax := toInt_le_signedMax b
  have hsum := toInt_add_cases a b
  have hmax : Int64.maxValue.toInt = signedMax := by decide
  have hmin : Int64.minValue.toInt = signedMin := by decide
  rw [wordSum, saturatingAdd]
  simp only [Int64.le_iff_toInt_le, Int64.lt_iff_toInt_lt, Int64.toInt_zero]
  simp only [signedMin, signedMax] at *
  split_ifs <;> omega

/-- The words that are computed are the numbers that exact sums, cut off at the bounds, give. -/
theorem toInt_wordBounds (total start : Int64) (length : Option Int64) :
    sliceBounds total.toInt start.toInt (length.map Int64.toInt) =
      ((wordBounds total start length).1.toInt, (wordBounds total start length).2.toInt) := by
  have hneg : ∀ a : Int64, a < 0 ↔ a.toInt < 0 := fun a => by
    rw [Int64.lt_iff_toInt_lt, Int64.toInt_zero]
  have hfirst : (wordBounds total start length).1.toInt =
      (sliceBounds total.toInt start.toInt (length.map Int64.toInt)).1 := by
    simp only [wordBounds, sliceBounds, hneg]
    split_ifs
    · rw [toInt_max, toInt_wordSum, Int64.toInt_zero]
    · rw [toInt_min]
  have hlast : (wordBounds total start length).2.toInt =
      (sliceBounds total.toInt start.toInt (length.map Int64.toInt)).2 := by
    cases length with
    | none => exact (toInt_max _ _).trans (congrArg (max _) hfirst)
    | some length =>
      simp only [wordBounds, sliceBounds, Option.map_some, hneg, toInt_max] at hfirst ⊢
      split_ifs at hfirst ⊢ <;> simp only [toInt_min, toInt_wordSum, hfirst]
  rw [hfirst, hlast]

/-! The bounds in exact numbers. -/

/-- The place where a part of a text of `total` characters begins. -/
def exactFirst (total start : Int) : Int :=
  if 0 ≤ start then min start total else max 0 (total + start)

/-- The place before which it ends. -/
def exactLast (total start : Int) : Option Int → Int
  | none => total
  | some length =>
    if 0 ≤ length then min total (exactFirst total start + length) else total + length

theorem exactFirst_mem {total : Int} (htotal : 0 ≤ total) (start : Int) :
    0 ≤ exactFirst total start ∧ exactFirst total start ≤ total := by
  rw [exactFirst]
  split_ifs <;> omega

theorem exactLast_le {total : Int} (start : Int) (length : Option Int) :
    exactLast total start length ≤ total := by
  cases length with
  | none => exact le_refl total
  | some length =>
    rw [exactLast]
    split_ifs <;> omega

/-- The bounds are the exact ones, and nothing lies between them when the exact ones cross. -/
theorem sliceBounds_eq {total start : Int} {length : Option Int} (htotal : 0 ≤ total)
    (hmax : total ≤ signedMax) (hstart : signedMin ≤ start)
    (hlength : ∀ l ∈ length, signedMin ≤ l) :
    sliceBounds total start length =
      (exactFirst total start, max (exactLast total start length) (exactFirst total start)) := by
  have hfirst : (if start < 0 then max (saturatingAdd total start) 0 else min start total) =
      exactFirst total start := by
    simp only [saturatingAdd, exactFirst, signedMin, signedMax] at *
    split_ifs <;> omega
  have hrange := exactFirst_mem htotal start
  cases length with
  | none =>
    rw [sliceBounds, hfirst]
    rfl
  | some length =>
    have hl := hlength length rfl
    rw [sliceBounds, hfirst]
    simp only [saturatingAdd, exactLast, signedMin, signedMax] at *
    congr 1
    split_ifs <;> omega

/-! The characters between the bounds. -/

/-- The characters of a text at the places from `first` on and before `last`. -/
def charactersAt (first last : Int) (s : List Char) : List Char :=
  (s.zipIdx.filter fun (_, place) => first ≤ place ∧ place < last).map Prod.fst

/-- Dropping what stands before the first bound, and after the last one, when counting starts
anywhere. -/
theorem filter_zipIdx (first last : Int) (s : List Char) (origin : Nat) :
    ((s.zipIdx origin).filter fun (_, place) => first ≤ place ∧ place < last).map Prod.fst =
      (s.take (last - origin).toNat).drop (first - origin).toNat := by
  induction s generalizing origin with
  | nil => simp
  | cons c rest ih =>
    have hlast : (last - (origin + 1 : Nat)).toNat = (last - origin).toNat - 1 := by omega
    have hfirst : (first - (origin + 1 : Nat)).toNat = (first - origin).toNat - 1 := by omega
    have hrest := ih (origin + 1)
    rw [hlast, hfirst] at hrest
    rw [List.zipIdx_cons, List.filter_cons]
    by_cases hbefore : (origin : Int) < last
    · obtain ⟨k, hk⟩ : ∃ k, (last - origin).toNat = k + 1 := ⟨(last - origin).toNat - 1, by omega⟩
      rw [hk] at hrest ⊢
      by_cases hbehind : first ≤ origin
      · have hzero : (first - origin).toNat = 0 := by omega
        rw [hzero] at hrest ⊢
        simpa [hbefore, hbehind] using hrest
      · obtain ⟨m, hm⟩ : ∃ m, (first - origin).toNat = m + 1 :=
          ⟨(first - origin).toNat - 1, by omega⟩
        rw [hm] at hrest ⊢
        simpa [hbehind] using hrest
    · have hzero : (last - origin).toNat = 0 := by omega
      rw [hzero] at hrest ⊢
      simpa [hbefore] using hrest

theorem charactersAt_eq (first last : Int) (s : List Char) :
    charactersAt first last s = (s.take last.toNat).drop first.toNat := by
  simpa [charactersAt] using filter_zipIdx first last s 0

/-- Bounds that cross have nothing between them. -/
theorem charactersAt_max (first last : Int) (s : List Char) :
    charactersAt first (max last first) s = charactersAt first last s := by
  have hplace : ∀ place : Int,
      (first ≤ place ∧ place < max last first) ↔ (first ≤ place ∧ place < last) := by
    intro place
    rw [lt_max_iff]
    omega
  simp only [charactersAt, hplace]

/-! The arguments. -/

theorem bounds_of_signed? {s : List Char} {i : Int} (h : signed? s = some i) :
    signedMin ≤ i ∧ i ≤ signedMax := by
  obtain ⟨-, hi⟩ := Option.filter_eq_some_iff.mp h
  simpa using hi

theorem bounds_of_integerArgument? {args : List String} {place : Nat} {i : Int}
    (h : integerArgument? args place = some i) : signedMin ≤ i ∧ i ≤ signedMax := by
  obtain ⟨arg, -, harg⟩ := Option.bind_eq_some_iff.mp h
  exact bounds_of_signed? harg

/-- The arguments that write a start and a length. -/
def sliceArguments (start : Int64) (length : Option Int64) : List String :=
  (start :: length.toList).map fun word => String.ofList (ofInt word.toInt)

theorem isBlank_of_isDigit {c : Char} (h : c.isDigit = true) : isBlank c = false := by
  simp only [Char.isDigit, Bool.and_eq_true, decide_eq_true_eq, ge_iff_le, UInt32.le_iff_toNat_le]
    at h
  have hcode : 48 ≤ c.toNat ∧ c.toNat ≤ 57 := h
  simp only [isBlank, Bool.or_eq_false_iff, Bool.and_eq_false_iff, decide_eq_false_iff_not,
    beq_eq_false_iff_ne]
  omega

theorem integerArgument?_sliceArguments (start : Int64) (length : Option Int64) :
    integerArgument? (sliceArguments start length) 0 = some start.toInt ∧
      integerArgument? (sliceArguments start length) 1 = length.map Int64.toInt := by
  have hread : ∀ word : Int64, signed? (trim (ofInt word.toInt)) = some word.toInt := by
    intro word
    have hblank : ∀ c ∈ ofInt word.toInt, isBlank c = false := by
      intro c hc
      rw [ofInt] at hc
      split_ifs at hc
      · rcases List.mem_cons.mp hc with rfl | hc
        · rfl
        · exact isBlank_of_isDigit (isDigit_of_mem_ofNat hc)
      · exact isBlank_of_isDigit (isDigit_of_mem_ofNat hc)
    rw [(isTrimmed_of_forall hblank).trim_eq]
    exact signed?_ofInt (signedMin_le_toInt word) (toInt_le_signedMax word)
  constructor
  · simp [integerArgument?, sliceArguments, hread]
  · cases length with
    | none => rfl
    | some length => simp [integerArgument?, sliceArguments, hread]

section Taken

variable (args : List String) (s : List Char)

/-- The start that arguments give: zero when it cannot be read. -/
def startOf : Int := (integerArgument? args 0).getD 0

theorem bounds_of_startOf : signedMin ≤ startOf args ∧ startOf args ≤ signedMax := by
  rw [startOf]
  cases h : integerArgument? args 0 with
  | none => decide
  | some start => exact bounds_of_integerArgument? h

variable {s} (hs : s.length < 2 ^ 63)
include hs

theorem length_le_signedMax : (s.length : Int) ≤ signedMax := by
  rw [signedMax]
  omega

theorem sliceBounds_startOf :
    sliceBounds s.length (startOf args) (integerArgument? args 1) =
      (exactFirst s.length (startOf args),
        max (exactLast s.length (startOf args) (integerArgument? args 1))
          (exactFirst s.length (startOf args))) :=
  sliceBounds_eq (Int.natCast_nonneg _) (length_le_signedMax hs) (bounds_of_startOf args).1
    fun _ h => (bounds_of_integerArgument? h).1

theorem slice_eq_charactersAt :
    run "slice" args s =
      charactersAt (exactFirst s.length (startOf args))
        (exactLast s.length (startOf args) (integerArgument? args 1)) s := by
  have hbounds := sliceBounds_startOf args hs
  rw [← charactersAt_max, charactersAt_eq]
  change slice args s = _
  rw [slice]
  rw [startOf] at hbounds ⊢
  rw [hbounds]

/-- The same bounds in words. -/
theorem sliceBounds_eq_wordBounds :
    sliceBounds s.length (startOf args) (integerArgument? args 1) =
      let bounds := wordBounds (.ofInt s.length) (.ofInt (startOf args))
        ((integerArgument? args 1).map .ofInt)
      (bounds.1.toInt, bounds.2.toInt) := by
  have hword : ∀ {i : Int}, signedMin ≤ i ∧ i ≤ signedMax → (Int64.ofInt i).toInt = i := by
    intro i hi
    simp only [signedMin, signedMax] at hi
    exact Int64.toInt_ofInt_of_le (by omega) (by omega)
  have hlength : ((integerArgument? args 1).map Int64.ofInt).map Int64.toInt =
      integerArgument? args 1 := by
    cases h : integerArgument? args 1 with
    | none => rfl
    | some length => exact congrArg some (hword (bounds_of_integerArgument? h))
  have htotal : signedMin ≤ (s.length : Int) ∧ (s.length : Int) ≤ signedMax :=
    ⟨le_trans (by decide) (Int.natCast_nonneg _), length_le_signedMax hs⟩
  have hcomputed := toInt_wordBounds (.ofInt s.length) (.ofInt (startOf args))
    ((integerArgument? args 1).map .ofInt)
  rwa [hword htotal, hword (bounds_of_startOf args), hlength] at hcomputed

end Taken

/-- Whatever the arguments are, the bounds of `slice` are computed in words of sixty-four bits as
exact numbers give them, they are in order and within the text, and the characters taken are those
at the places between the exact bounds. Every word can be given as a start and as a length. -/
theorem slice_in_range (args : List String) (s : List Char) (hs : s.length < 2 ^ 63) :
    let bounds := wordBounds (.ofInt s.length) (.ofInt (startOf args))
      ((integerArgument? args 1).map .ofInt)
    sliceBounds s.length (startOf args) (integerArgument? args 1) =
        (bounds.1.toInt, bounds.2.toInt) ∧
      0 ≤ bounds.1.toInt ∧ bounds.1.toInt ≤ bounds.2.toInt ∧ bounds.2.toInt ≤ s.length ∧
      run "slice" args s = charactersAt (exactFirst s.length (startOf args))
        (exactLast s.length (startOf args) (integerArgument? args 1)) s ∧
      ∀ (start : Int64) (length : Option Int64), run "slice" (sliceArguments start length) s =
        charactersAt (exactFirst s.length start.toInt)
          (exactLast s.length start.toInt (length.map Int64.toInt)) s := by
  intro bounds
  have hwords := sliceBounds_eq_wordBounds args hs
  have hexact := sliceBounds_startOf args hs
  obtain ⟨hfirst, hlast⟩ := Prod.mk.inj (hwords.symm.trans hexact)
  have hrange := exactFirst_mem (Int.natCast_nonneg s.length) (startOf args)
  refine ⟨hwords, ?_, ?_, ?_, slice_eq_charactersAt args hs, ?_⟩
  · exact hfirst ▸ hrange.1
  · rw [hfirst, hlast]
    exact le_max_right _ _
  · rw [hlast]
    exact max_le (exactLast_le _ _) hrange.2
  · intro start length
    obtain ⟨hstart, hlength⟩ := integerArgument?_sliceArguments start length
    have hstartOf : startOf (sliceArguments start length) = start.toInt := by
      rw [startOf, hstart, Option.getD_some]
    rw [slice_eq_charactersAt _ hs, hstartOf, hlength]

/-- The least word as a start, counted from the end, and as a length. -/
theorem slice_in_range_least :
    "Paris".toList.length < 2 ^ 63 ∧
      run "slice" ["-9223372036854775808", "2"] "Paris".toList =
        charactersAt 0 2 "Paris".toList ∧
      run "slice" ["2", "-9223372036854775808"] "Paris".toList =
        charactersAt 2 (-9223372036854775803) "Paris".toList := by
  have hs : "Paris".toList.length < 2 ^ 63 := by decide
  obtain ⟨-, -, -, -, htaken, -⟩ := slice_in_range ["-9223372036854775808", "2"] "Paris".toList hs
  obtain ⟨-, -, -, -, hnone, -⟩ := slice_in_range ["2", "-9223372036854775808"] "Paris".toList hs
  exact ⟨hs, htaken, hnone⟩

end Crosswalk.Filter
