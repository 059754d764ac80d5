import Mathlib.Data.Nat.Digits.Defs
import Crosswalk.Text.Numeral

/-!
Numbers, written and read again.

The digits of a number are read back as that number, and a text with any other character in it,
apart from a plus sign, is no number.
-/

namespace Crosswalk.Text

theorem isDigit_of_mem_ofNat {n : Nat} {c : Char} (h : c ∈ ofNat n) : c.isDigit = true :=
  Nat.isDigit_of_mem_toDigits (by decide) (by decide) h

theorem ofNat_inj {m n : Nat} (h : ofNat m = ofNat n) : m = n := by
  have hvalue := congrArg (fun digits => Nat.ofDigitChars 10 digits 0) h
  simpa only [ofNat, Nat.ofDigitChars_ten_toDigits] using hvalue

theorem digitsFrom_of_isDigit {s : List Char} (h : ∀ c ∈ s, c.isDigit = true) (value : Nat) :
    digitsFrom 10 digit? value s = some (Nat.ofDigitChars 10 s value) := by
  induction s generalizing value with
  | nil => rfl
  | cons c rest ih =>
    have hdigit : digit? c = some (c.toNat - '0'.toNat) := by simp [digit?, h c]
    have hrest := ih (fun x hx => h x (List.mem_cons_of_mem c hx))
      (10 * value + (c.toNat - '0'.toNat))
    simpa [digitsFrom, hdigit, Nat.mul_comm value 10, Nat.ofDigitChars] using hrest

/-- The digits of a number are read back. -/
theorem natural?_ofNat (n : Nat) : natural? (ofNat n) = some n := by
  have hne : (ofNat n).isEmpty = false := List.isEmpty_eq_false_iff.mpr Nat.toDigits_ne_nil
  rw [natural?, hne, digitsFrom_of_isDigit fun c hc => isDigit_of_mem_ofNat hc]
  exact congrArg some Nat.ofDigitChars_ten_toDigits

theorem unsigned?_ofNat {n : Nat} (h : n < wordLimit) : unsigned? (ofNat n) = some n := by
  unfold unsigned?
  split
  · rename_i rest heq
    have hplus : '+' ∈ ofNat n := by
      rw [heq]
      exact List.mem_cons_self
    cases isDigit_of_mem_ofNat hplus
  · simp [natural?_ofNat, h]

theorem digitsFrom_eq_none {s : List Char} {c : Char} (hc : c ∈ s) (hdigit : c.isDigit = false)
    (value : Nat) : digitsFrom 10 digit? value s = none := by
  induction s generalizing value with
  | nil => cases hc
  | cons d rest ih =>
    rcases List.mem_cons.mp hc with rfl | hrest
    · simp [digitsFrom, digit?, hdigit]
    · cases hd : digit? d with
      | none => simp [digitsFrom, hd]
      | some n => simpa [digitsFrom, hd] using ih hrest (value * 10 + n)

theorem unsigned?_eq_none {s : List Char} {c : Char} (hc : c ∈ s) (hdigit : c.isDigit = false)
    (hplus : c ≠ '+') : unsigned? s = none := by
  have hnatural : ∀ {digits : List Char}, c ∈ digits → natural? digits = none := by
    intro digits hmem
    rw [natural?, List.isEmpty_eq_false_iff.mpr (List.ne_nil_of_mem hmem)]
    exact digitsFrom_eq_none hmem hdigit 0
  unfold unsigned?
  split
  · rename_i rest
    simp [hnatural ((List.mem_cons.mp hc).resolve_left hplus)]
  · simp [hnatural hc]

/-- A number of sixty-four bits is read back with its sign. -/
theorem signed?_ofInt {i : Int} (hmin : signedMin ≤ i) (hmax : i ≤ signedMax) :
    signed? (ofInt i) = some i := by
  rw [ofInt]
  split_ifs with hneg
  · have hvalue : -Int.ofNat i.natAbs = i := by
      rw [Int.ofNat_eq_natCast]
      omega
    simp only [signed?, natural?_ofNat, Option.map_some, hvalue]
    simp [hmin, hmax]
  · have hvalue : Int.ofNat i.natAbs = i := by
      rw [Int.ofNat_eq_natCast]
      omega
    have hsign : ∀ {sign : Char} {rest : List Char}, ofNat i.natAbs = sign :: rest →
        sign.isDigit = true := fun h => isDigit_of_mem_ofNat (h ▸ List.mem_cons_self)
    unfold signed?
    split
    · rename_i heq
      cases hsign heq
    · rename_i heq
      cases hsign heq
    · simp only [natural?_ofNat, Option.map_some, hvalue]
      simp [hmin, hmax]

end Crosswalk.Text
