import Mathlib.Data.List.Basic

/-!
Characters among the bytes of a text.

The bytes of a text are those of its characters, one behind the other, and a byte below 128 stands
for the one character that has its code.
-/

namespace Crosswalk.Text

theorem toUTF8_eq_flatMap (s : String) :
    s.toUTF8.data.toList = s.toList.flatMap String.utf8EncodeChar := by
  rw [String.toUTF8, ← s.utf8Encode_toList, List.utf8Encode]
  simp

/-- The bytes of a character beyond ASCII are all beyond ASCII. -/
theorem toNat_of_mem_utf8EncodeChar {b : UInt8} {c : Char} (hb : b < 128)
    (h : b ∈ String.utf8EncodeChar c) : c.val.toNat = b.toNat := by
  have hlt : b.toNat < 128 := UInt8.lt_iff_toNat_lt.mp hb
  have hbeyond : ∀ n : Nat, b = UInt8.ofNat n → n % 256 < 128 := by
    rintro n rfl
    simpa using hlt
  unfold String.utf8EncodeChar at h
  dsimp only at h
  split_ifs at h with hascii htwo hthree
  · have hcode := congrArg UInt8.toNat (List.mem_singleton.mp h)
    rw [UInt8.toNat_ofNat'] at hcode
    omega
  all_goals
    exfalso
    simp only [List.mem_cons, List.not_mem_nil, or_false] at h
  · rcases h with h | h <;> have hbyte := hbeyond _ h <;> omega
  · rcases h with h | h | h <;> have hbyte := hbeyond _ h <;> omega
  · rcases h with h | h | h | h <;> have hbyte := hbeyond _ h <;> omega

end Crosswalk.Text
