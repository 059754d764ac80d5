import Crosswalk.Proofs.Json.RoundTrip
import Crosswalk.Proofs.Json.Ways

/-!
The characters of JSON text.

A document is written without control characters: those in its texts and names are escaped, and a
number has digits, signs, a point and an exponent mark. In particular no U+0000 is written, so that
the text of a document can be ended by a zero byte.
-/

namespace Crosswalk.Json

open Decimal

/-- Whether a character is no control character below the space. -/
def isPrinted (c : Char) : Bool := 0x20 ≤ c.toNat

theorem isPrinted_of_mem_escapeChar {c x : Char} (h : x ∈ escapeChar c) : isPrinted x = true := by
  rcases escapeChar_cases c with
    ⟨mark, hescape, hshort⟩ | ⟨hcontrol, hescape⟩ | ⟨-, -, hcontrol, hescape⟩
  · have hmark : isPrinted mark = true := by
      unfold shortEscape? at hshort
      split at hshort <;> first | decide | cases hshort
    rw [hescape, List.mem_cons, List.mem_singleton] at h
    rcases h with rfl | rfl
    · decide
    · exact hmark
  · have hall : ∀ n : Fin 0x20, ['\\', 'u', '0', '0', Text.hexLower (n.val / 16),
        Text.hexLower (n.val % 16)].all isPrinted = true := by
      decide
    rw [hescape] at h
    exact List.all_eq_true.mp (hall ⟨c.toNat, hcontrol⟩) x h
  · rw [hescape, List.mem_singleton] at h
    rw [h]
    exact decide_eq_true hcontrol

theorem isPrinted_of_mem_writeText {s : String} {c : Char} (h : c ∈ writeText s) :
    isPrinted c = true := by
  simp only [writeText, List.cons_append, List.mem_cons, List.mem_append, List.mem_flatMap,
    List.not_mem_nil, or_false] at h
  rcases h with rfl | ⟨x, -, hx⟩ | rfl
  · decide
  · exact isPrinted_of_mem_escapeChar hx
  · decide

theorem mem_writeItems {items : List Json} {c : Char} (h : c ∈ writeItems items) :
    c = ',' ∨ ∃ item ∈ items, c ∈ item.write := by
  induction items with
  | nil => cases h
  | cons item rest ih =>
    cases rest with
    | nil => exact .inr ⟨item, by simp, h⟩
    | cons next more =>
      rw [writeItems, List.mem_append, List.mem_cons] at h
      · rcases h with hitem | rfl | hmore
        · exact .inr ⟨item, by simp, hitem⟩
        · exact .inl rfl
        · rcases ih hmore with hcomma | ⟨other, hother, hc⟩
          · exact .inl hcomma
          · exact .inr ⟨other, List.mem_cons_of_mem item hother, hc⟩
      · simp

theorem mem_writeMembers {members : List (String × Json)} {c : Char}
    (h : c ∈ writeMembers members) :
    c = ',' ∨ c = ':' ∨ ∃ member ∈ members, c ∈ writeText member.1 ∨ c ∈ member.2.write := by
  induction members with
  | nil => cases h
  | cons member rest ih =>
    cases rest with
    | nil =>
      rw [writeMembers, List.mem_append, List.mem_cons] at h
      rcases h with hkey | rfl | hvalue
      · exact .inr (.inr ⟨member, by simp, .inl hkey⟩)
      · exact .inr (.inl rfl)
      · exact .inr (.inr ⟨member, by simp, .inr hvalue⟩)
    | cons next more =>
      rw [writeMembers, List.append_assoc, List.mem_append, List.cons_append, List.mem_cons,
        List.mem_append, List.mem_cons] at h
      · rcases h with hkey | rfl | hvalue | rfl | hmore
        · exact .inr (.inr ⟨member, by simp, .inl hkey⟩)
        · exact .inr (.inl rfl)
        · exact .inr (.inr ⟨member, by simp, .inr hvalue⟩)
        · exact .inl rfl
        · rcases ih hmore with hcomma | hcolon | ⟨other, hother, hc⟩
          · exact .inl hcomma
          · exact .inr (.inl hcolon)
          · exact .inr (.inr ⟨other, List.mem_cons_of_mem member hother, hc⟩)
      · simp

/-! ### Numbers -/

theorem isPrinted_of_isDigit {c : Char} (h : c.isDigit = true) : isPrinted c = true := by
  have hlow : '0'.val.toNat ≤ c.val.toNat :=
    UInt32.le_iff_toNat_le.mp (of_decide_eq_true (Bool.and_eq_true_iff.mp h).1)
  have hzero : '0'.val.toNat = 48 := rfl
  have hcode : c.toNat = c.val.toNat := rfl
  exact decide_eq_true (by omega)

theorem isDigit_of_mem_shortest {x : Binary64} {c : Char} (h : c ∈ x.shortest.digits) :
    c.isDigit = true := by
  rw [Binary64.shortest] at h
  split at h
  · cases h
  · have hmem : c ∈ dropTrailingZeros (Text.ofNat _) := h
    rw [dropTrailingZeros, List.mem_reverse] at hmem
    exact Text.isDigit_of_mem_ofNat (List.mem_reverse.mp ((List.dropWhile_sublist _).mem hmem))

/-- Only zeros are added to the digits of a decimal when its point is put among them. -/
theorem mem_digits_of_mem_positional {d : DecimalDigits} {c : Char}
    (h : c ∈ d.positional.1 ∨ c ∈ d.positional.2) : c = '0' ∨ c ∈ d.digits := by
  rw [DecimalDigits.positional] at h
  split at h
  · simp only [List.mem_singleton, List.mem_append] at h
    rcases h with rfl | hzero | hdigit
    · exact .inl rfl
    · exact .inl (List.eq_of_mem_replicate hzero)
    · exact .inr hdigit
  · simp only [List.mem_append] at h
    rcases h with (hdigit | hzero) | hdigit
    · exact .inr (List.mem_of_mem_take hdigit)
    · exact .inl (List.eq_of_mem_replicate hzero)
    · exact .inr (List.mem_of_mem_drop hdigit)

theorem mem_literal {x : Binary64} {c : Char} (h : c ∈ x.literal) :
    c ∈ "-+.e0".toList ∨ c.isDigit = true := by
  have hsign : ∀ c ∈ (if x.negative then ['-'] else []), c ∈ "-+.e0".toList := by
    intro c hc
    split at hc
    · rw [List.mem_singleton.mp hc]
      decide
    · cases hc
  have hpoint : ∀ c, c = '0' ∨ c ∈ x.shortest.digits → c ∈ "-+.e0".toList ∨ c.isDigit = true :=
    fun c hc => hc.imp (fun hzero => by simp [hzero]) isDigit_of_mem_shortest
  simp only [Binary64.literal] at h
  split at h
  · -- zero
    simp only [List.mem_append, List.mem_cons, List.not_mem_nil, or_false] at h
    rcases h with hc | rfl | rfl | rfl
    · exact .inl (hsign c hc)
    all_goals exact .inl (by decide)
  · split at h
    · -- the point is among the digits
      simp only [List.mem_append, List.mem_cons] at h
      rcases h with (hc | hwhole) | rfl | hfraction
      · exact .inl (hsign c hc)
      · exact hpoint c (mem_digits_of_mem_positional (.inl hwhole))
      · exact .inl (by decide)
      · split at hfraction
        · exact hpoint c (.inl (List.mem_singleton.mp hfraction))
        · exact hpoint c (mem_digits_of_mem_positional (.inr hfraction))
    · -- an exponent is behind the digits
      simp only [List.mem_append, List.mem_cons] at h
      rcases h with (hc | hmantissa) | rfl | hmark | hexponent
      · exact .inl (hsign c hc)
      · split at hmantissa
        · exact hpoint c (.inl (List.mem_singleton.mp hmantissa))
        · rename_i hdigits
          exact hpoint c (.inr (hdigits ▸ hmantissa))
        · rename_i hdigits
          rcases List.mem_cons.mp hmantissa with rfl | hrest
          · exact hpoint c (.inr (by simp [hdigits]))
          · rcases List.mem_cons.mp hrest with rfl | hmore
            · exact .inl (by decide)
            · exact hpoint c (.inr (by simp [hdigits, hmore]))
      · exact .inl (by decide)
      · split at hmark <;> exact .inl (by simp [hmark])
      · exact .inr (Text.isDigit_of_mem_ofNat hexponent)

theorem isPrinted_of_mem_literal {x : Binary64} {c : Char} (h : c ∈ x.literal) :
    isPrinted c = true := by
  have hmarks : "-+.e0".toList.all isPrinted = true := by decide
  rcases mem_literal h with hmark | hdigit
  · exact List.all_eq_true.mp hmarks c hmark
  · exact isPrinted_of_isDigit hdigit

theorem isPrinted_of_mem_number {n : Number} {c : Char} (h : c ∈ n.write) :
    isPrinted c = true := by
  cases n with
  | whole i =>
    rw [Number.write, Text.ofInt] at h
    split at h
    · rcases List.mem_cons.mp h with rfl | hdigit
      · decide
      · exact isPrinted_of_isDigit (Text.isDigit_of_mem_ofNat hdigit)
    · exact isPrinted_of_isDigit (Text.isDigit_of_mem_ofNat h)
  | fraction x => exact isPrinted_of_mem_literal h

/-! ### Documents -/

/-- The text of a document holds no control character. -/
theorem isPrinted_of_mem_write {j : Json} {c : Char} (hc : c ∈ j.write) : isPrinted c = true := by
  have hword : ∀ word ∈ ["null", "true", "false"], word.toList.all isPrinted = true := by decide
  induction j using induction with
  | scalar j hscalar =>
    cases j with
    | null => exact List.all_eq_true.mp (hword "null" (by simp)) c hc
    | bool b =>
      cases b
      · exact List.all_eq_true.mp (hword "false" (by simp)) c hc
      · exact List.all_eq_true.mp (hword "true" (by simp)) c hc
    | number n => exact isPrinted_of_mem_number hc
    | text s => exact isPrinted_of_mem_writeText hc
    | array items => cases hscalar
    | object members => cases hscalar
  | array items ih =>
    simp only [write, List.cons_append, List.mem_cons, List.mem_append, List.not_mem_nil,
      or_false] at hc
    rcases hc with rfl | hitems | rfl
    · decide
    · rcases mem_writeItems hitems with rfl | ⟨item, hitem, hc⟩
      · decide
      · exact ih item hitem hc
    · decide
  | object members ih =>
    simp only [write, List.cons_append, List.mem_cons, List.mem_append, List.not_mem_nil,
      or_false] at hc
    rcases hc with rfl | hmembers | rfl
    · decide
    · rcases mem_writeMembers hmembers with rfl | rfl | ⟨member, hmember, hkey | hvalue⟩
      · decide
      · decide
      · exact isPrinted_of_mem_writeText hkey
      · exact ih member hmember hvalue
    · decide

/-- No U+0000 is written, whatever the texts of a document hold. -/
theorem zero_not_mem_toText (j : Json) : '\x00' ∉ j.toText.toList := by
  intro hzero
  have hprinted := @isPrinted_of_mem_write j '\x00' (by simpa [toText] using hzero)
  cases hprinted

end Crosswalk.Json
