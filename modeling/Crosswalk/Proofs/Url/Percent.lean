import Mathlib.Data.List.Basic
import Crosswalk.Url.Percent

/-!
What percent encoding writes, and that it can be read back.

In the form of HTML forms a value is written in letters, digits and seven marks, none of which
separates anything in a query. Decoding it, with plus signs for spaces, gives the bytes of the
value, so different values are written differently.
-/

namespace Crosswalk.Url.Percent

open Text

/-- The characters that the form of HTML forms is written in. -/
def isFormChar (c : Char) : Bool :=
  c.isAlpha || c.isDigit || "*-._+%".toList.contains c

theorem hexDigit?_hexUpper : ∀ n < 16, hexDigit? (hexUpper n) = some n := by decide

theorem isFormChar_hexUpper : ∀ n < 16, isFormChar (hexUpper n) = true := by decide

theorem hexUpper_ne_plus : ∀ n < 16, hexUpper n ≠ '+' := by decide

theorem high_lt (b : UInt8) : b.toNat / 16 < 16 := by
  have hlt := b.toNat_lt
  omega

theorem low_lt (b : UInt8) : b.toNat % 16 < 16 := Nat.mod_lt _ (by decide)

/-- A triplet stands for the byte that it was written for. -/
theorem byteOf?_triplet (b : UInt8) :
    byteOf? (hexUpper (b.toNat / 16)) (hexUpper (b.toNat % 16)) = some b := by
  have hbyte : b.toNat / 16 * 16 + b.toNat % 16 = b.toNat := by omega
  rw [byteOf?, hexDigit?_hexUpper _ (high_lt b), hexDigit?_hexUpper _ (low_lt b)]
  simp only [hbyte, UInt8.ofNat_toNat]

theorem decode_triplet (b : UInt8) (rest : List Char) :
    decode (triplet b ++ rest) = b :: decode rest := by
  rw [triplet, List.cons_append, List.cons_append, List.cons_append, List.nil_append, decode,
    byteOf?_triplet]

theorem decode_cons {c : Char} (hc : c ≠ '%') (rest : List Char) :
    decode (c :: rest) = String.utf8EncodeChar c ++ decode rest := by
  rw [decode]
  intro high low more hpercent
  exact absurd hpercent hc

theorem toNat_ofNat_of_lt {n : Nat} (h : n < 256) : (Char.ofNat n).val.toNat = n := by
  have hvalid : n.isValidChar := Or.inl (by omega)
  rw [Char.ofNat, dif_pos hvalid]
  rfl

/-- A byte below 128 is all of the encoding of its character. -/
theorem utf8EncodeChar_of_lt {b : UInt8} (hb : b < 128) :
    String.utf8EncodeChar (Char.ofNat b.toNat) = [b] := by
  have hlt : b.toNat < 128 := UInt8.lt_iff_toNat_lt.mp hb
  rw [String.utf8EncodeChar]
  simp only [toNat_ofNat_of_lt b.toNat_lt]
  rw [if_pos (by omega)]
  simp

theorem bytes_injective {s t : List Char} (h : bytes s = bytes t) : s = t := by
  have hbytes : s.utf8Encode = t.utf8Encode := by
    rw [List.utf8Encode, List.utf8Encode]
    exact congrArg List.toByteArray h
  rw [← String.toByteArray_ofList, ← String.toByteArray_ofList, String.toByteArray_inj] at hbytes
  exact String.ofList_injective hbytes

theorem lt_of_isHarmless {b : UInt8} (h : isHarmless b = true) : b < 128 := by
  simp only [isHarmless, Bool.and_eq_true, decide_eq_true_eq] at h
  exact h.1

theorem isFormChar_of_isHarmless {b : UInt8} (h : isHarmless b = true) :
    isFormChar (Char.ofNat b.toNat) = true := by
  simp only [isHarmless, Bool.and_eq_true, Bool.or_eq_true, beq_iff_eq] at h
  rcases h.2 with ((((hc | hc) | hc) | hc) | hc) | hc <;> simp [isFormChar, hc]

theorem isHarmless_marks {b : UInt8} (h : isHarmless b = true) :
    Char.ofNat b.toNat ≠ '%' ∧ Char.ofNat b.toNat ≠ '+' := by
  simp only [isHarmless, Bool.and_eq_true] at h
  constructor <;>
  · intro hc
    rw [hc] at h
    exact absurd h.2 (by decide)

/-- A byte is written as it is, as the plus sign of a space, or as a triplet. -/
theorem formByte_cases (b : UInt8) :
    isHarmless b = true ∧ formByte b = [Char.ofNat b.toNat] ∨
      b = 32 ∧ formByte b = ['+'] ∨ formByte b = triplet b := by
  unfold formByte
  by_cases hharmless : isHarmless b = true
  · exact Or.inl ⟨hharmless, if_pos hharmless⟩
  · by_cases hspace : Char.ofNat b.toNat = ' '
    · have hcode := congrArg (fun c => c.val.toNat) hspace
      rw [toNat_ofNat_of_lt b.toNat_lt] at hcode
      obtain rfl : b = 32 := UInt8.toNat_inj.mp hcode
      exact Or.inr (Or.inl ⟨rfl, rfl⟩)
    · exact Or.inr (Or.inr (by simp [hharmless, hspace]))

theorem isFormChar_of_mem_form {c : Char} {s : List Char} (h : c ∈ form s) :
    isFormChar c = true := by
  obtain ⟨b, -, hc⟩ := List.mem_flatMap.mp h
  rcases formByte_cases b with ⟨hharmless, hbyte⟩ | ⟨-, hbyte⟩ | hbyte
  · rw [hbyte, List.mem_singleton] at hc
    rw [hc]
    exact isFormChar_of_isHarmless hharmless
  · rw [hbyte, List.mem_singleton] at hc
    rw [hc]
    rfl
  · rw [hbyte, triplet] at hc
    simp only [List.mem_cons, List.not_mem_nil, or_false] at hc
    rcases hc with rfl | rfl | rfl
    · rfl
    · exact isFormChar_hexUpper _ (high_lt b)
    · exact isFormChar_hexUpper _ (low_lt b)

/-- Writes a space for a plus sign. -/
def spaceForPlus (c : Char) : Char := if c = '+' then ' ' else c

theorem map_spaceForPlus_triplet (b : UInt8) : (triplet b).map spaceForPlus = triplet b := by
  simp [triplet, spaceForPlus, hexUpper_ne_plus _ (high_lt b), hexUpper_ne_plus _ (low_lt b)]

theorem decode_formByte (b : UInt8) (rest : List Char) :
    decode ((formByte b).map spaceForPlus ++ rest) = b :: decode rest := by
  rcases formByte_cases b with ⟨hharmless, hbyte⟩ | ⟨rfl, hbyte⟩ | hbyte
  · obtain ⟨hpercent, hplus⟩ := isHarmless_marks hharmless
    rw [hbyte, List.map_singleton, spaceForPlus, if_neg hplus, List.singleton_append,
      decode_cons hpercent, utf8EncodeChar_of_lt (lt_of_isHarmless hharmless),
      List.singleton_append]
  · rw [hbyte]
    exact decode_cons (by decide) rest
  · rw [hbyte, map_spaceForPlus_triplet, decode_triplet]

/-- Decoding the form of a text, with spaces for plus signs, gives the bytes of the text. -/
theorem decode_form (s : List Char) : decode ((form s).map spaceForPlus) = bytes s := by
  rw [form]
  induction bytes s with
  | nil => rw [List.flatMap_nil, List.map_nil, decode]
  | cons b rest ih => rw [List.flatMap_cons, List.map_append, decode_formByte, ih]

theorem form_injective {s t : List Char} (h : form s = form t) : s = t := by
  apply bytes_injective
  rw [← decode_form s, ← decode_form t, h]

end Crosswalk.Url.Percent
