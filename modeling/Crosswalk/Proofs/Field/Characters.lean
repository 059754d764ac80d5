import Mathlib.Data.Bool.AllAny
import Mathlib.Data.List.Basic
import Crosswalk.Field.Language
import Crosswalk.Field.Spec
import Crosswalk.Proofs.Text.Words

/-!
The characters that terms, data types and language tags are made of.

None of them is a blank, a tilde or an equals sign, and a colon never stands at an end. So each is
a word that survives canonical spacing, and none can be taken for the sign that splits a rule.
-/

namespace Crosswalk.Field

open Text

/-- A character with no meaning between the parts of a description or of a rule. -/
structure IsInert (c : Char) : Prop where
  notBlank : isBlank c = false
  notTilde : c ≠ '~'
  notEquals : c ≠ '='

instance : DecidablePred IsInert := fun c =>
  decidable_of_iff (isBlank c = false ∧ c ≠ '~' ∧ c ≠ '=')
    ⟨fun h => ⟨h.1, h.2.1, h.2.2⟩, fun h => ⟨h.notBlank, h.notTilde, h.notEquals⟩⟩

/-- The code points of blanks. -/
def blankCodes : List Nat :=
  [9, 10, 11, 12, 13, 0x20, 0x85, 0xA0, 0x1680, 0x2000, 0x2001, 0x2002, 0x2003, 0x2004, 0x2005,
    0x2006, 0x2007, 0x2008, 0x2009, 0x200A, 0x2028, 0x2029, 0x202F, 0x205F, 0x3000]

theorem mem_blankCodes {c : Char} (h : isBlank c = true) : c.toNat ∈ blankCodes := by
  simp only [isBlank, Bool.or_eq_true, Bool.and_eq_true, decide_eq_true_eq, beq_iff_eq] at h
  simp only [blankCodes, List.mem_cons, List.not_mem_nil, or_false]
  omega

/-- No blank belongs to words. -/
theorem isBlank_of_isWord {c : Char} (h : Unicode.isWord c = true) : isBlank c = false := by
  have hcodes : ∀ n ∈ blankCodes, Unicode.isWord (Char.ofNat n) = false := by decide +kernel
  by_contra hblank
  have hmem := @mem_blankCodes c (by simpa using hblank)
  have hword := hcodes c.toNat hmem
  rw [Char.ofNat_toNat, h] at hword
  cases hword

theorem isInert_of_isWord {c : Char} (h : Unicode.isWord c = true) : IsInert c := by
  refine ⟨isBlank_of_isWord h, ?_, ?_⟩
  · rintro rfl
    revert h
    decide
  · rintro rfl
    revert h
    decide

theorem isNamePart_ne_colon {c : Char} (h : isNamePart c = true) : c ≠ ':' := by
  rintro rfl
  revert h
  decide

theorem isInert_of_isNamePart {c : Char} (h : isNamePart c = true) : IsInert c := by
  rcases Bool.or_eq_true _ _ ▸ h with hword | hhyphen
  · exact isInert_of_isWord hword
  · rw [beq_iff_eq] at hhyphen
    subst hhyphen
    exact by decide

/-- A text of inert characters without a colon at its ends is a word. -/
theorem isWord_of_inert {w : List Char} (hne : w ≠ []) (hinert : ∀ c ∈ w, IsInert c)
    (hfirst : w.head? ≠ some ':') (hlast : w.getLast? ≠ some ':') : IsWord w :=
  ⟨hne, fun c hc => (hinert c hc).notBlank, hfirst, hlast⟩

theorem toNat_lt_of_isAsciiAlphanumeric {c : Char}
    (h : Unicode.isAsciiAlphanumeric c = true) : c.toNat < 128 := by
  have hbelow : ∀ {last : Char}, c.val ≤ last.val → last.toNat < 128 → c.toNat < 128 := by
    intro last hle hlast
    exact Nat.lt_of_le_of_lt (UInt32.le_iff_toNat_le.mp hle) hlast
  rcases Bool.or_eq_true_iff.mp h with halpha | hdigit
  · rcases Bool.or_eq_true_iff.mp halpha with hupper | hlower
    · exact hbelow (of_decide_eq_true hupper).2 (by decide)
    · exact hbelow (of_decide_eq_true (Bool.and_eq_true_iff.mp hlower).2) (by decide)
  · exact hbelow (of_decide_eq_true (Bool.and_eq_true_iff.mp hdigit).2) (by decide)

theorem isInert_of_isAlpha {c : Char} (h : c.isAlpha = true) : IsInert c := by
  apply isInert_of_isWord
  have hascii : Unicode.isAsciiAlphanumeric c = true := by simp [Unicode.isAsciiAlphanumeric, h]
  simp [Unicode.isWord, toNat_lt_of_isAsciiAlphanumeric hascii, hascii]

end Crosswalk.Field
