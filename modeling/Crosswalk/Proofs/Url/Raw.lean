import Crosswalk.Filter.Run
import Crosswalk.Proofs.Text.Replacement
import Crosswalk.Proofs.Text.Utf8
import Crosswalk.Proofs.Url.Percent

/-!
The raw form of percent encoding, which the filter `url_encode` writes.

It is the form of HTML forms after two replacements: a triplet for every plus sign, and a tilde for
every triplet of a tilde. There is no other plus sign in that form than the one of a space, and
where the three characters of that triplet stand, they stand for a tilde; so the raw form is written
byte by byte as well, and decoding it gives all bytes back.
-/

namespace Crosswalk.Url.Percent

open Text

/-- The characters that stand for themselves in the raw form. -/
def isRawChar (c : Char) : Bool :=
  c.isAlpha || c.isDigit || "*-._~".toList.contains c

/-- A hexadecimal digit in upper case. -/
def isTripletDigit (c : Char) : Bool :=
  c.isDigit || ('A' ≤ c && c ≤ 'F')

/-- Texts that consist of harmless characters and of triplets. -/
inductive IsRaw : List Char → Prop where
  | nil : IsRaw []
  | char {c : Char} {rest : List Char} (hc : isRawChar c = true) (h : IsRaw rest) :
    IsRaw (c :: rest)
  | triplet {high low : Char} {rest : List Char} (hhigh : isTripletDigit high = true)
    (hlow : isTripletDigit low = true) (h : IsRaw rest) : IsRaw ('%' :: high :: low :: rest)

theorem isTripletDigit_hexUpper : ∀ n < 16, isTripletDigit (hexUpper n) = true := by decide

theorem isTripletDigit_percent {c : Char} (h : isTripletDigit c = true) : c ≠ '%' := by
  rintro rfl
  cases h

theorem hexUpper_ne_percent {n : Nat} (h : n < 16) : hexUpper n ≠ '%' :=
  isTripletDigit_percent (isTripletDigit_hexUpper n h)

theorem isRawChar_marks {c : Char} (h : isRawChar c = true) : c ≠ '%' ∧ c ≠ '+' := by
  constructor <;>
  · rintro rfl
    cases h

theorem triplet_injective {b d : UInt8} (h : triplet b = triplet d) : b = d := by
  have hbytes : b :: decode [] = d :: decode [] := by
    rw [← decode_triplet, ← decode_triplet, h]
  exact (List.cons.inj hbytes).1

theorem eq_of_triplet_isPrefix {b d : UInt8} {rest : List Char}
    (h : triplet d <+: triplet b ++ rest) : b = d := by
  obtain ⟨after, hafter⟩ := h
  exact (triplet_injective (List.append_inj_left hafter rfl)).symm

/-- A byte is written as its character, as a tilde, or as a triplet. -/
theorem rawByte_cases (b : UInt8) :
    isHarmless b = true ∧ rawByte b = [Char.ofNat b.toNat] ∨
      b = 126 ∧ rawByte b = ['~'] ∨
      isHarmless b = false ∧ b ≠ 126 ∧ rawByte b = triplet b := by
  by_cases htilde : b = 126
  · subst htilde
    exact Or.inr (Or.inl ⟨rfl, rfl⟩)
  · cases hharmless : isHarmless b with
    | true => exact Or.inl ⟨rfl, by simp [rawByte, hharmless]⟩
    | false =>
      have hchar : Char.ofNat b.toNat ≠ '~' := by
        intro hc
        have hcode := congrArg (fun c => c.val.toNat) hc
        rw [toNat_ofNat_of_lt b.toNat_lt] at hcode
        exact htilde (UInt8.toNat_inj.mp hcode)
      exact Or.inr (Or.inr ⟨rfl, htilde, by simp [rawByte, hharmless, hchar]⟩)

/-! The two replacements. -/

/-- What a byte is written as between the two replacements. -/
def pluslessByte (b : UInt8) : List Char :=
  if isHarmless b then [Char.ofNat b.toNat] else triplet b

theorem replaceChar_formByte (b : UInt8) :
    replaceChar '+' "%20".toList (formByte b) = pluslessByte b := by
  cases hharmless : isHarmless b with
  | true => simp [replaceChar, formByte, pluslessByte, hharmless, (isHarmless_marks hharmless).2]
  | false =>
    rcases formByte_cases b with ⟨h, -⟩ | ⟨rfl, -⟩ | hbyte
    · rw [hharmless] at h
      cases h
    · rfl
    · rw [hbyte, replaceChar, triplet]
      simp [pluslessByte, hharmless, triplet, hexUpper_ne_plus _ (high_lt b),
        hexUpper_ne_plus _ (low_lt b)]

/-- The second replacement meets the triplet of a tilde and passes over any other byte. -/
theorem replaceText_pluslessByte (b : UInt8) (rest : List Char) :
    replaceText "%7E".toList "~".toList (pluslessByte b ++ rest) =
      rawByte b ++ replaceText "%7E".toList "~".toList rest := by
  have hmark : "%7E".toList ≠ [] := List.cons_ne_nil _ _
  have hhead : ∀ {c : Char}, c ≠ '%' → "%7E".toList.head? ≠ some c := by
    rintro c hc heq
    exact hc (Option.some.inj heq).symm
  rcases rawByte_cases b with ⟨hharmless, hbyte⟩ | ⟨rfl, hbyte⟩ | ⟨hharmless, htilde, hbyte⟩
  · have hpassed : ∀ c ∈ [Char.ofNat b.toNat], "%7E".toList.head? ≠ some c := by
      intro c hc
      rw [List.mem_singleton] at hc
      rw [hc]
      exact hhead (isHarmless_marks hharmless).1
    rw [hbyte, pluslessByte, if_pos hharmless, replaceText_append hmark hpassed]
  · exact replaceText_mark hmark rest
  · have hnot : ¬ "%7E".toList <+: triplet b ++ rest := fun h => htilde (eq_of_triplet_isPrefix h)
    have hdigits : ∀ c ∈ [hexUpper (b.toNat / 16), hexUpper (b.toNat % 16)],
        "%7E".toList.head? ≠ some c := by
      intro c hc
      simp only [List.mem_cons, List.not_mem_nil, or_false] at hc
      rcases hc with rfl | rfl
      · exact hhead (hexUpper_ne_percent (high_lt b))
      · exact hhead (hexUpper_ne_percent (low_lt b))
    have hdigitsPassed :
        replaceText "%7E".toList "~".toList
            ([hexUpper (b.toNat / 16), hexUpper (b.toNat % 16)] ++ rest) =
          [hexUpper (b.toNat / 16), hexUpper (b.toNat % 16)] ++
            replaceText "%7E".toList "~".toList rest :=
      replaceText_append hmark hdigits rest
    rw [hbyte, pluslessByte, hharmless, if_neg Bool.false_ne_true]
    exact (replaceText_cons hmark hnot).trans (congrArg ('%' :: ·) hdigitsPassed)

/-- The raw form is the form of HTML forms after the two replacements. -/
theorem raw_eq_replaceText (s : List Char) :
    raw s = replaceText "%7E".toList "~".toList (replaceChar '+' "%20".toList (form s)) := by
  rw [raw, form, replaceChar, List.flatMap_assoc]
  induction bytes s with
  | nil => rfl
  | cons b rest ih =>
    have hbyte := replaceChar_formByte b
    rw [replaceChar] at hbyte
    rw [List.flatMap_cons, List.flatMap_cons, hbyte, replaceText_pluslessByte, ih]

/-! What the raw form is written with. -/

theorem isRawChar_of_isHarmless {b : UInt8} (h : isHarmless b = true) :
    isRawChar (Char.ofNat b.toNat) = true := by
  simp only [isHarmless, Bool.and_eq_true, Bool.or_eq_true, beq_iff_eq] at h
  rcases h.2 with ((((hc | hc) | hc) | hc) | hc) | hc <;> simp [isRawChar, hc]

theorem isRaw_rawByte_append (b : UInt8) {rest : List Char} (h : IsRaw rest) :
    IsRaw (rawByte b ++ rest) := by
  rcases rawByte_cases b with ⟨hharmless, hbyte⟩ | ⟨-, hbyte⟩ | ⟨-, -, hbyte⟩
  · rw [hbyte]
    exact .char (isRawChar_of_isHarmless hharmless) h
  · rw [hbyte]
    exact .char rfl h
  · rw [hbyte]
    exact .triplet (isTripletDigit_hexUpper _ (high_lt b)) (isTripletDigit_hexUpper _ (low_lt b)) h

theorem isRaw_raw (s : List Char) : IsRaw (raw s) := by
  rw [raw]
  induction bytes s with
  | nil => exact .nil
  | cons b rest ih => exact isRaw_rawByte_append b ih

theorem IsRaw.plus_not_mem {s : List Char} (h : IsRaw s) : '+' ∉ s := by
  have hdigit : ∀ {c : Char}, isTripletDigit c = true → '+' ≠ c := by
    rintro c hc rfl
    cases hc
  induction h with
  | nil => exact List.not_mem_nil
  | char hc _ ih =>
    simp only [List.mem_cons, not_or]
    exact ⟨(isRawChar_marks hc).2.symm, ih⟩
  | triplet hhigh hlow _ ih =>
    simp only [List.mem_cons, not_or]
    exact ⟨by decide, hdigit hhigh, hdigit hlow, ih⟩

/-- A tilde is never written as a triplet. -/
theorem tripletOfTilde_not_isInfix (s : List Char) : ¬ "%7E".toList <:+: raw s := by
  rw [raw]
  induction bytes s with
  | nil => decide
  | cons b rest ih =>
    have hpercent : ∀ {c : Char} {after : List Char}, "%7E".toList <+: c :: after → c = '%' := by
      rintro c after ⟨more, hmore⟩
      exact (List.cons.inj hmore).1.symm
    rw [List.flatMap_cons]
    rcases rawByte_cases b with ⟨hharmless, hbyte⟩ | ⟨-, hbyte⟩ | ⟨-, htilde, hbyte⟩
    · rw [hbyte, List.singleton_append, List.infix_cons_iff]
      rintro (h | h)
      · exact (isHarmless_marks hharmless).1 (hpercent h)
      · exact ih h
    · rw [hbyte, List.singleton_append, List.infix_cons_iff]
      rintro (h | h)
      · cases hpercent h
      · exact ih h
    · rw [hbyte]
      intro hinfix
      have hstart : ¬ "%7E".toList <+: triplet b ++ rest.flatMap rawByte :=
        fun h => htilde (eq_of_triplet_isPrefix h)
      simp only [triplet, List.cons_append, List.nil_append] at hinfix hstart
      rw [List.infix_cons_iff, List.infix_cons_iff, List.infix_cons_iff] at hinfix
      rcases hinfix with h | h | h | h
      · exact hstart h
      · exact hexUpper_ne_percent (high_lt b) (hpercent h)
      · exact hexUpper_ne_percent (low_lt b) (hpercent h)
      · exact ih h

/-! Reading the raw form. -/

theorem decode_rawByte (b : UInt8) (rest : List Char) :
    decode (rawByte b ++ rest) = b :: decode rest := by
  rcases rawByte_cases b with ⟨hharmless, hbyte⟩ | ⟨rfl, hbyte⟩ | ⟨-, -, hbyte⟩
  · rw [hbyte, List.singleton_append, decode_cons (isHarmless_marks hharmless).1,
      utf8EncodeChar_of_lt (lt_of_isHarmless hharmless), List.singleton_append]
  · rw [hbyte]
    exact decode_cons (by decide) rest
  · rw [hbyte, decode_triplet]

/-- Decoding the raw form of a text gives the bytes of the text. -/
theorem decode_raw (s : List Char) : decode (raw s) = bytes s := by
  rw [raw]
  induction bytes s with
  | nil => rw [List.flatMap_nil, decode]
  | cons b rest ih => rw [List.flatMap_cons, decode_rawByte, ih]

theorem raw_injective {s t : List Char} (h : raw s = raw t) : s = t := by
  apply bytes_injective
  rw [← decode_raw s, ← decode_raw t, h]

theorem raw_append (s t : List Char) : raw (s ++ t) = raw s ++ raw t := by
  rw [raw, bytes, List.flatMap_append, List.flatMap_append]
  rfl

theorem count_tilde_rawByte (b : UInt8) : (rawByte b).count '~' = [b].count 126 := by
  rcases rawByte_cases b with ⟨hharmless, hbyte⟩ | ⟨rfl, hbyte⟩ | ⟨-, htilde, hbyte⟩
  · have hchar : Char.ofNat b.toNat ≠ '~' := by
      intro hc
      rw [isHarmless, hc] at hharmless
      simp at hharmless
    have hb : b ≠ 126 := by
      rintro rfl
      exact hchar rfl
    rw [hbyte, List.count_singleton, List.count_singleton]
    simp [hchar, hb]
  · rw [hbyte]
    rfl
  · have hdigit : ∀ n < 16, hexUpper n ≠ '~' := by decide
    rw [hbyte, triplet]
    simp [hdigit _ (high_lt b), hdigit _ (low_lt b), htilde]

/-- The byte of a tilde stands for nothing but a tilde. -/
theorem count_utf8EncodeChar (c : Char) :
    (String.utf8EncodeChar c).count 126 = [c].count '~' := by
  by_cases hc : c = '~'
  · subst hc
    rfl
  · have hnone : (126 : UInt8) ∉ String.utf8EncodeChar c := by
      intro hmem
      exact hc (Char.ext (UInt32.toNat_inj.mp (toNat_of_mem_utf8EncodeChar (by decide) hmem)))
    rw [List.count_eq_zero.mpr hnone, List.count_singleton]
    simp [hc]

theorem count_tilde_raw (s : List Char) : (raw s).count '~' = s.count '~' := by
  induction s with
  | nil => rfl
  | cons c rest ih =>
    have hbytes : ∀ l : List UInt8, (l.flatMap rawByte).count '~' = l.count 126 := by
      intro l
      induction l with
      | nil => rfl
      | cons b more ihl =>
        rw [List.flatMap_cons, List.count_append, count_tilde_rawByte, ihl, ← List.count_append,
          List.singleton_append]
    have hchar : (raw [c]).count '~' = [c].count '~' := by
      rw [raw, hbytes, bytes, List.flatMap_singleton, count_utf8EncodeChar]
    rw [← List.singleton_append, raw_append, List.count_append, hchar, ih, List.count_append]

end Crosswalk.Url.Percent

namespace Crosswalk.Filter

open Url.Percent

/-- The filter `url_encode` loses nothing. What it writes is the form of HTML forms with a triplet
for every plus sign and a tilde for every triplet of one. It consists of harmless characters and
triplets, decoding it gives the bytes of the text, and different texts are written differently. A
text is written part by part, and the marks of the encoding that stand in it are written so that
they are taken for nothing else: there is no plus sign, no triplet of a tilde, and there are just
the tildes of the text. -/
theorem url_encode_lossless (args : List String) (v : String) :
    run "url_encode" args v.toList = Text.replaceText "%7E".toList "~".toList
        (Text.replaceChar '+' "%20".toList (form v.toList)) ∧
      IsRaw (run "url_encode" args v.toList) ∧
      decode (run "url_encode" args v.toList) = v.toUTF8.data.toList ∧
      (∀ w : String,
        run "url_encode" args w.toList = run "url_encode" args v.toList ↔ w = v) ∧
      (∀ s t : List Char,
        run "url_encode" args (s ++ t) = run "url_encode" args s ++ run "url_encode" args t) ∧
      run "url_encode" args "+".toList = "%2B".toList ∧
      run "url_encode" args "%".toList = "%25".toList ∧
      run "url_encode" args "~".toList = "~".toList ∧
      run "url_encode" args "%7E".toList = "%257E".toList ∧
      '+' ∉ run "url_encode" args v.toList ∧
      ¬ "%7E".toList <:+: run "url_encode" args v.toList ∧
      (run "url_encode" args v.toList).count '~' = v.toList.count '~' := by
  have hinjective : ∀ w : String,
      run "url_encode" args w.toList = run "url_encode" args v.toList ↔ w = v := by
    intro w
    constructor
    · intro h
      exact String.toList_injective (raw_injective h)
    · rintro rfl
      rfl
  refine ⟨raw_eq_replaceText v.toList, isRaw_raw v.toList, ?_, hinjective, raw_append, rfl, rfl,
    rfl, rfl, (isRaw_raw v.toList).plus_not_mem, tripletOfTilde_not_isInfix v.toList,
    count_tilde_raw v.toList⟩
  rw [Text.toUTF8_eq_flatMap]
  exact decode_raw v.toList

end Crosswalk.Filter
