import Mathlib.Data.List.Basic
import Mathlib.Data.List.TakeWhile
import Crosswalk.Decimal.Numeral
import Crosswalk.Proofs.Text.Numeral

/-!
How numbers are written.

A number is a sign, digits with a point among them, and an exponent, of which only the digits have
to be there. Besides numbers three words are read, in any mixture of cases.
-/

namespace Crosswalk.Decimal

open Text

def AreDigits (s : List Char) : Prop := ∀ c ∈ s, c.isDigit = true

/-- At most one sign. -/
inductive IsSign : List Char → Prop where
  | none : IsSign []
  | plus : IsSign ['+']
  | minus : IsSign ['-']

/-- Digits on at least one side of a point, which may be left out behind them. -/
inductive IsMantissa : List Char → Prop where
  | whole {digits : List Char} (h : AreDigits digits) (hne : digits ≠ []) : IsMantissa digits
  | point {whole fraction : List Char} (h : AreDigits whole) (hfraction : AreDigits fraction)
    (hne : whole ++ fraction ≠ []) : IsMantissa (whole ++ '.' :: fraction)

inductive IsExponent : List Char → Prop where
  | none : IsExponent []
  | of {mark : Char} {sign digits : List Char} (hmark : mark = 'e' ∨ mark = 'E')
    (hsign : IsSign sign) (h : AreDigits digits) (hne : digits ≠ []) :
    IsExponent (mark :: (sign ++ digits))

/-- A number without its sign. -/
inductive IsNumeral : List Char → Prop where
  | of {mantissa exponent : List Char} (hmantissa : IsMantissa mantissa)
    (hexponent : IsExponent exponent) : IsNumeral (mantissa ++ exponent)

inductive IsNumber : List Char → Prop where
  | of {sign numeral : List Char} (hsign : IsSign sign) (h : IsNumeral numeral) :
    IsNumber (sign ++ numeral)

/-- The words that are read besides numbers. -/
def numberWords : List (List Char) := ["inf".toList, "infinity".toList, "nan".toList]

inductive IsNumberWord : List Char → Prop where
  | of {sign word : List Char} (hsign : IsSign sign) (h : word.map Char.toLower ∈ numberWords) :
    IsNumberWord (sign ++ word)

section Digits

variable {s : List Char}

theorem natural?_isSome_iff : (natural? s).isSome = true ↔ s ≠ [] ∧ AreDigits s := by
  constructor
  · intro h
    have hne : s ≠ [] := by
      rintro rfl
      cases h
    refine ⟨hne, fun c hc => ?_⟩
    by_contra hdigit
    rw [natural?, List.isEmpty_eq_false_iff.mpr hne,
      digitsFrom_eq_none hc (Bool.eq_false_iff.mpr hdigit) 0] at h
    cases h
  · rintro ⟨hne, hdigits⟩
    simp [natural?, hne, digitsFrom_of_isDigit hdigits]

theorem ne_of_isDigit {c d : Char} (hc : c.isDigit = true) (hd : d.isDigit = false) : c ≠ d := by
  rintro rfl
  rw [hc] at hd
  cases hd

/-- Digits do not begin with a sign. -/
theorem AreDigits.head? (h : AreDigits s) : s.head? ≠ some '+' ∧ s.head? ≠ some '-' := by
  constructor <;>
  · intro hhead
    exact ne_of_isDigit (h _ (List.mem_of_head? hhead)) (by decide) rfl

theorem exponent?_isSome_iff :
    (exponent? s).isSome = true ↔
      ∃ sign digits, IsSign sign ∧ AreDigits digits ∧ digits ≠ [] ∧ s = sign ++ digits := by
  constructor
  · intro h
    unfold exponent? at h
    split at h <;> rw [Option.isSome_map, natural?_isSome_iff] at h
    · exact ⟨['+'], _, .plus, h.2, h.1, rfl⟩
    · exact ⟨['-'], _, .minus, h.2, h.1, rfl⟩
    · exact ⟨[], s, .none, h.2, h.1, rfl⟩
  · rintro ⟨sign, digits, hsign, hdigits, hne, rfl⟩
    have hread : (natural? digits).isSome = true := natural?_isSome_iff.mpr ⟨hne, hdigits⟩
    cases hsign with
    | none =>
      obtain ⟨hplus, hminus⟩ := hdigits.head?
      rw [List.nil_append]
      unfold exponent?
      split
      · exact absurd rfl hplus
      · exact absurd rfl hminus
      · rw [Option.isSome_map, hread]
    | plus => simpa [exponent?] using hread
    | minus => simpa [exponent?] using hread

end Digits

section Numerals

variable {s mantissa exponent : List Char}

/-- Whether a character does not begin an exponent. -/
def isMantissaCharacter (c : Char) : Bool := c != 'e' && c != 'E'

theorem IsMantissa.digit_or_point (h : IsMantissa mantissa) :
    ∀ c ∈ mantissa, c.isDigit = true ∨ c = '.' := by
  cases h with
  | whole h _ => exact fun c hc => .inl (h c hc)
  | point h hfraction _ =>
    intro c hc
    rcases List.mem_append.mp hc with hc | hc
    · exact .inl (h c hc)
    · rcases List.mem_cons.mp hc with rfl | hc
      · exact .inr rfl
      · exact .inl (hfraction c hc)

theorem IsMantissa.ne_nil (h : IsMantissa mantissa) : mantissa ≠ [] := by
  cases h with
  | whole _ hne => exact hne
  | point => simp

theorem splitExponent_eq (s : List Char) :
    splitExponent s =
      match s.dropWhile isMantissaCharacter with
      | [] => some (s.takeWhile isMantissaCharacter, 0)
      | _ :: rest => (exponent? rest).map (s.takeWhile isMantissaCharacter, ·) := rfl

/-- A numeral is split in front of its exponent. -/
theorem exists_exponent_of_splitExponent {value : Int}
    (h : splitExponent s = some (mantissa, value)) :
    ∃ exponent, s = mantissa ++ exponent ∧ IsExponent exponent := by
  have hs : s = s.takeWhile isMantissaCharacter ++ s.dropWhile isMantissaCharacter :=
    List.takeWhile_append_dropWhile.symm
  rw [splitExponent_eq] at h
  split at h
  · rename_i hdrop
    cases h
    exact ⟨[], by rwa [hdrop] at hs, .none⟩
  · rename_i mark rest hdrop
    obtain ⟨n, hn, heq⟩ := Option.map_eq_some_iff.mp h
    cases heq
    obtain ⟨sign, digits, hsign, hdigits, hne, rfl⟩ :=
      exponent?_isSome_iff.mp (Option.isSome_of_eq_some hn)
    have hmark : mark = 'e' ∨ mark = 'E' := by
      have hhead := List.head?_dropWhile_not isMantissaCharacter s
      rw [hdrop] at hhead
      simpa [isMantissaCharacter, or_iff_not_imp_left] using hhead
    exact ⟨mark :: (sign ++ digits), by rwa [hdrop] at hs, .of hmark hsign hdigits hne⟩

theorem splitExponent_of_isExponent (hmantissa : IsMantissa mantissa)
    (hexponent : IsExponent exponent) :
    ∃ value, splitExponent (mantissa ++ exponent) = some (mantissa, value) := by
  have hall : ∀ c ∈ mantissa, isMantissaCharacter c = true := by
    intro c hc
    rcases hmantissa.digit_or_point c hc with hdigit | rfl
    · have hlower : c ≠ 'e' := ne_of_isDigit hdigit (by decide)
      have hupper : c ≠ 'E' := ne_of_isDigit hdigit (by decide)
      simp [isMantissaCharacter, hlower, hupper]
    · rfl
  cases hexponent with
  | none =>
    have htake : mantissa.takeWhile isMantissaCharacter = mantissa :=
      List.takeWhile_eq_self_iff.mpr hall
    have hdrop : mantissa.dropWhile isMantissaCharacter = [] := List.dropWhile_eq_nil_iff.mpr hall
    exact ⟨0, by rw [List.append_nil, splitExponent_eq, hdrop, htake]⟩
  | @of mark sign digits hmark hsign h hne =>
    have hread : (exponent? (sign ++ digits)).isSome = true :=
      exponent?_isSome_iff.mpr ⟨sign, digits, hsign, h, hne, rfl⟩
    obtain ⟨value, hvalue⟩ := Option.isSome_iff_exists.mp hread
    have hstop : isMantissaCharacter mark = false := by
      rcases hmark with rfl | rfl <;> rfl
    refine ⟨value, ?_⟩
    rw [splitExponent_eq, List.takeWhile_append_of_pos hall, List.dropWhile_append_of_pos hall]
    simp [hstop, hvalue]

/-- Reads the digits behind the point of a mantissa, if there is a point. -/
def fraction? (mantissa : List Char) : Option (List Char) :=
  match mantissa.dropWhile Char.isDigit with
  | [] => some []
  | '.' :: rest => if rest.all Char.isDigit then some rest else none
  | _ => none

theorem isMantissa_iff :
    IsMantissa mantissa ↔ ∃ fraction, fraction? mantissa = some fraction ∧
      mantissa.takeWhile Char.isDigit ++ fraction ≠ [] := by
  have htaken : AreDigits (mantissa.takeWhile Char.isDigit) := fun c hc =>
    List.mem_takeWhile_imp hc
  have hs : mantissa = mantissa.takeWhile Char.isDigit ++ mantissa.dropWhile Char.isDigit :=
    List.takeWhile_append_dropWhile.symm
  constructor
  · intro h
    cases h with
    | whole h hne =>
      have htake : mantissa.takeWhile Char.isDigit = mantissa := List.takeWhile_eq_self_iff.mpr h
      have hdrop : mantissa.dropWhile Char.isDigit = [] := List.dropWhile_eq_nil_iff.mpr h
      exact ⟨[], by rw [fraction?, hdrop], by simpa [htake] using hne⟩
    | @point whole fraction h hfraction hne =>
      have htake : (whole ++ '.' :: fraction).takeWhile Char.isDigit = whole := by
        rw [List.takeWhile_append_of_pos h]
        simp
      have hdrop : (whole ++ '.' :: fraction).dropWhile Char.isDigit = '.' :: fraction := by
        rw [List.dropWhile_append_of_pos h]
        simp
      have hall : fraction.all Char.isDigit = true := List.all_eq_true.mpr hfraction
      exact ⟨fraction, by simp only [fraction?, hdrop, hall, if_true], by rwa [htake]⟩
  · rintro ⟨fraction, hread, hne⟩
    unfold fraction? at hread
    split at hread
    · rename_i hdrop
      cases hread
      rw [hdrop, List.append_nil] at hs
      rw [List.append_nil] at hne
      rw [hs]
      exact .whole htaken hne
    · rename_i rest hdrop
      split at hread
      · rename_i hall
        cases hread
        rw [hdrop] at hs
        rw [hs]
        exact .point htaken (List.all_eq_true.mp hall) hne
      · cases hread
    · cases hread

theorem Numeral.read?_eq (s : List Char) :
    Numeral.read? s = (splitExponent s).bind fun found =>
      (fraction? found.1).bind fun fraction =>
        let digits := found.1.takeWhile Char.isDigit ++ fraction
        if digits.isEmpty then none else some ⟨digits, fraction.length, found.2⟩ := by
  cases hsplit : splitExponent s with
  | none => simp [Numeral.read?, hsplit]
  | some found =>
    simp only [Numeral.read?, hsplit, Option.bind_eq_bind, Option.bind_some, fraction?]
    generalize found.1.dropWhile Char.isDigit = back
    cases back with
    | nil => rfl
    | cons c rest =>
      by_cases hpoint : c = '.'
      · subst hpoint
        by_cases hall : rest.all Char.isDigit = true <;> simp [hall]
      · simp [hpoint]

theorem Numeral.read?_isSome_iff : (Numeral.read? s).isSome = true ↔ IsNumeral s := by
  rw [Numeral.read?_eq]
  constructor
  · intro h
    obtain ⟨n, hn⟩ := Option.isSome_iff_exists.mp h
    obtain ⟨⟨mantissa, value⟩, hsplit, hrest⟩ := Option.bind_eq_some_iff.mp hn
    obtain ⟨fraction, hfraction, hdigits⟩ := Option.bind_eq_some_iff.mp hrest
    dsimp only at hdigits
    split at hdigits
    · cases hdigits
    · rename_i hne
      obtain ⟨exponent, rfl, hexponent⟩ := exists_exponent_of_splitExponent hsplit
      exact .of (isMantissa_iff.mpr ⟨fraction, hfraction, by simpa using hne⟩) hexponent
  · rintro ⟨hmantissa, hexponent⟩
    obtain ⟨value, hsplit⟩ := splitExponent_of_isExponent hmantissa hexponent
    obtain ⟨fraction, hfraction, hne⟩ := isMantissa_iff.mp hmantissa
    rw [hsplit, Option.bind_some, hfraction, Option.bind_some]
    simp [List.isEmpty_eq_false_iff.mpr hne]

end Numerals

section Quantities

variable {s : List Char}

/-- The characters that stand in numbers besides digits. -/
def numberMarks : List Char := ['.', 'e', 'E', '+', '-']

theorem IsSign.mem {sign : List Char} (h : IsSign sign) : ∀ c ∈ sign, c ∈ numberMarks := by
  cases h <;> simp [numberMarks]

theorem IsNumeral.mem (h : IsNumeral s) : ∀ c ∈ s, c.isDigit = true ∨ c ∈ numberMarks := by
  obtain ⟨hmantissa, hexponent⟩ := h
  intro c hc
  rcases List.mem_append.mp hc with hc | hc
  · rcases hmantissa.digit_or_point c hc with hdigit | rfl
    · exact .inl hdigit
    · exact .inr (by decide)
  · cases hexponent with
    | none => cases hc
    | of hmark hsign hdigits _ =>
      rcases List.mem_cons.mp hc with rfl | hc
      · rcases hmark with rfl | rfl <;> exact .inr (by decide)
      · rcases List.mem_append.mp hc with hc | hc
        · exact .inr (hsign.mem c hc)
        · exact .inl (hdigits c hc)

theorem IsNumber.mem (h : IsNumber s) : ∀ c ∈ s, c.isDigit = true ∨ c ∈ numberMarks := by
  obtain ⟨hsign, hnumeral⟩ := h
  intro c hc
  rcases List.mem_append.mp hc with hc | hc
  · exact .inr (hsign.mem c hc)
  · exact hnumeral.mem c hc

/-- The letters of the words that are read besides numbers. -/
def wordLetters : List Char := ['i', 'n', 'f', 't', 'y', 'a']

theorem mem_wordLetters (h : s.map Char.toLower ∈ numberWords) :
    ∀ c ∈ s, c.toLower ∈ wordLetters := by
  intro c hc
  have hletters : ∀ word ∈ numberWords, ∀ letter ∈ word, letter ∈ wordLetters := by
    simp [numberWords, wordLetters]
  exact hletters _ h _ (List.mem_map_of_mem hc)

theorem IsNumberWord.mem (h : IsNumberWord s) :
    ∀ c ∈ s, c ∈ numberMarks ∨ c.toLower ∈ wordLetters := by
  obtain ⟨hsign, hword⟩ := h
  intro c hc
  exact (List.mem_append.mp hc).imp (hsign.mem c) (mem_wordLetters hword c)

/-- Reads what stands behind the sign of a number. -/
def magnitude? (negative : Bool) (s : List Char) : Option Quantity :=
  let word := s.map Char.toLower
  if word = "inf".toList ∨ word = "infinity".toList then some (.infinite negative)
  else if word = "nan".toList then some .notANumber
  else
    (Numeral.read? s).map fun n =>
      match n.toBinary64? negative with
      | some x => .finite x
      | none => .infinite negative

theorem magnitude?_isSome_iff {negative : Bool} :
    (magnitude? negative s).isSome = true ↔ IsNumeral s ∨ s.map Char.toLower ∈ numberWords := by
  have hwords : s.map Char.toLower ∈ numberWords ↔
      (s.map Char.toLower = "inf".toList ∨ s.map Char.toLower = "infinity".toList) ∨
        s.map Char.toLower = "nan".toList := by
    simp [numberWords, or_assoc]
  rw [hwords, magnitude?, ← Numeral.read?_isSome_iff]
  split
  · rename_i hinfinite
    exact iff_of_true rfl (.inr (.inl hinfinite))
  · rename_i hinfinite
    split
    · rename_i hnan
      exact iff_of_true rfl (.inr (.inr hnan))
    · rename_i hnan
      rw [Option.isSome_map]
      exact (or_iff_left (not_or.mpr ⟨hinfinite, hnan⟩)).symm

/-- Whether a number has a minus sign, and what stands behind its sign. -/
def splitSign (s : List Char) : Bool × List Char :=
  match s with
  | '+' :: rest => (false, rest)
  | '-' :: rest => (true, rest)
  | _ => (false, s)

theorem Quantity.read?_eq (s : List Char) :
    Quantity.read? s = magnitude? (splitSign s).1 (splitSign s).2 := rfl

/-- What stands behind a sign does not begin with another one. -/
theorem head_of_magnitude (h : IsNumeral s ∨ s.map Char.toLower ∈ numberWords) :
    s.head? ≠ some '+' ∧ s.head? ≠ some '-' := by
  rcases h with ⟨hmantissa, -⟩ | hword
  · have hne := hmantissa.ne_nil
    rw [List.head?_append_of_ne_nil _ hne]
    constructor <;>
    · intro hhead
      have hfirst := hmantissa.digit_or_point _ (List.mem_of_head? hhead)
      revert hfirst
      decide
  · constructor <;>
    · intro hhead
      have hletter := mem_wordLetters hword _ (List.mem_of_head? hhead)
      revert hletter
      decide

theorem Quantity.read?_isSome_iff :
    (Quantity.read? s).isSome = true ↔ IsNumber s ∨ IsNumberWord s := by
  have hsign : ∀ {sign rest : List Char}, IsSign sign →
      IsNumeral rest ∨ rest.map Char.toLower ∈ numberWords →
      IsNumber (sign ++ rest) ∨ IsNumberWord (sign ++ rest) := fun hsign h =>
    h.imp (.of hsign) (.of hsign)
  constructor
  · intro h
    rw [Quantity.read?_eq, magnitude?_isSome_iff] at h
    unfold splitSign at h
    split at h
    · exact hsign .plus h
    · exact hsign .minus h
    · exact hsign .none h
  · intro h
    obtain ⟨sign, rest, hsign, rfl, hrest⟩ : ∃ sign rest, IsSign sign ∧ s = sign ++ rest ∧
        (IsNumeral rest ∨ rest.map Char.toLower ∈ numberWords) := by
      rcases h with ⟨hsign, hnumeral⟩ | ⟨hsign, hword⟩
      · exact ⟨_, _, hsign, rfl, .inl hnumeral⟩
      · exact ⟨_, _, hsign, rfl, .inr hword⟩
    have hsplit : (splitSign (sign ++ rest)).2 = rest := by
      cases hsign with
      | none =>
        obtain ⟨hplus, hminus⟩ := head_of_magnitude hrest
        rw [List.nil_append]
        unfold splitSign
        split
        · exact absurd rfl hplus
        · exact absurd rfl hminus
        · rfl
      | plus => rfl
      | minus => rfl
    rw [Quantity.read?_eq, magnitude?_isSome_iff, hsplit]
    exact hrest

end Quantities

end Crosswalk.Decimal
