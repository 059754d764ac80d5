import Mathlib.Data.List.Basic
import Crosswalk.Json.Printer
import Crosswalk.Json.Reader

/-!
Documents that are written and read again.

The text of a document is taken apart into the tokens that it was written in, and reading these
tokens builds the document again: whatever is open when a value begins is open, with the value in
it, when the value is complete. This holds for documents without numbers that are not nested too
deeply for the reader.
-/

namespace Crosswalk.Json

/-- A document without numbers, with no more than some arrays and objects inside one another. -/
inductive IsPlain : Nat → Json → Prop where
  | null {depth : Nat} : IsPlain depth .null
  | bool {depth : Nat} (b : Bool) : IsPlain depth (.bool b)
  | text {depth : Nat} (s : String) : IsPlain depth (.text s)
  | array {depth : Nat} {items : List Json} (h : ∀ item ∈ items, IsPlain depth item) :
      IsPlain (depth + 1) (.array items)
  | object {depth : Nat} {members : List (String × Json)}
      (h : ∀ member ∈ members, IsPlain depth member.2) : IsPlain (depth + 1) (.object members)

theorem IsPlain.mono {depth limit : Nat} {j : Json} (h : IsPlain depth j) (hle : depth ≤ limit) :
    IsPlain limit j := by
  induction h generalizing limit with
  | null => exact .null
  | bool b => exact .bool b
  | text s => exact .text s
  | @array depth items h ih =>
    obtain ⟨limit, rfl⟩ := Nat.exists_eq_add_one_of_ne_zero (Nat.ne_zero_of_lt hle)
    exact .array fun item hitem => ih item hitem (Nat.le_of_succ_le_succ hle)
  | @object depth members h ih =>
    obtain ⟨limit, rfl⟩ := Nat.exists_eq_add_one_of_ne_zero (Nat.ne_zero_of_lt hle)
    exact .object fun member hmember => ih member hmember (Nat.le_of_succ_le_succ hle)

mutual

/-- The tokens that a document is written in. -/
def tokensOf : Json → List Token
  | .text s => [.text s]
  | .array [] => [.openArray, .closeArray]
  | .array (item :: rest) => .openArray :: (tokensOf item ++ itemTokens rest)
  | .object [] => [.openObject, .closeObject]
  | .object ((key, value) :: rest) =>
    .openObject :: .text key :: .colon :: (tokensOf value ++ memberTokens rest)
  | scalar => [.scalar scalar]

/-- The tokens behind the first item of an array. -/
def itemTokens : List Json → List Token
  | [] => [.closeArray]
  | item :: rest => .comma :: (tokensOf item ++ itemTokens rest)

/-- The tokens behind the first member of an object. -/
def memberTokens : List (String × Json) → List Token
  | [] => [.closeObject]
  | (key, value) :: rest =>
    .comma :: .text key :: .colon :: (tokensOf value ++ memberTokens rest)

end

/-! ### Texts -/

/-- A character is written as a backslash and a letter, by its code, or as it is. -/
theorem escapeChar_cases (c : Char) :
    (∃ mark, escapeChar c = ['\\', mark] ∧ shortEscape? mark = some c) ∨
    (c.toNat < 0x20 ∧ escapeChar c =
      ['\\', 'u', '0', '0', Text.hexLower (c.toNat / 16), Text.hexLower (c.toNat % 16)]) ∨
    (c ≠ '"' ∧ c ≠ '\\' ∧ 0x20 ≤ c.toNat ∧ escapeChar c = [c]) := by
  by_cases hshort : c ∈ ['"', '\\', '\x08', '\t', '\n', '\x0c', '\r']
  · left
    simp only [List.mem_cons, List.not_mem_nil, or_false] at hshort
    rcases hshort with rfl | rfl | rfl | rfl | rfl | rfl | rfl <;> exact ⟨_, rfl, rfl⟩
  · right
    simp only [List.mem_cons, List.not_mem_nil, or_false, not_or] at hshort
    by_cases hcontrol : c.toNat < 0x20
    · exact .inl ⟨hcontrol, by simp [escapeChar, hshort, hcontrol]⟩
    · exact .inr ⟨hshort.1, hshort.2.1, by omega, by simp [escapeChar, hshort, hcontrol]⟩

theorem readText_short {mark c : Char} (h : shortEscape? mark = some c) (rest : List Char) :
    readText ('\\' :: mark :: rest) = (readText rest).map fun (s, after) => (c :: s, after) := by
  have hne : mark ≠ 'u' := by
    rintro rfl
    cases h
  rw [readText, h]
  · exact fun _ _ _ _ _ _ _ _ _ heq => absurd heq hne
  · exact fun _ _ _ _ _ heq => absurd heq hne

theorem readText_self {c : Char} (hquote : c ≠ '"') (hslash : c ≠ '\\')
    (hcontrol : 0x20 ≤ c.toNat) (rest : List Char) :
    readText (c :: rest) = (readText rest).map fun (s, after) => (c :: s, after) := by
  rw [readText, if_neg]
  · simpa [hslash] using hcontrol
  all_goals simp [hquote, hslash]

theorem readText_invalid {a b c d : Char} (h : codeUnit? a b c d = none) (rest : List Char) :
    readText ('\\' :: 'u' :: a :: b :: c :: d :: rest) = none := by
  by_cases hescape : ∃ e f g k tail, rest = '\\' :: 'u' :: e :: f :: g :: k :: tail
  · obtain ⟨e, f, g, k, tail, rfl⟩ := hescape
    rw [readText, h]
  · rw [readText, h]
    exact fun e f g k tail heq => hescape ⟨e, f, g, k, tail, heq⟩

/-- A code that is no surrogate is read by itself, even if another code follows it. -/
theorem readText_unit {a b c d : Char} {unit : Nat} (h : codeUnit? a b c d = some unit)
    (hlead : isLead unit = false) (htrail : isTrail unit = false) (rest : List Char) :
    readText ('\\' :: 'u' :: a :: b :: c :: d :: rest) =
      (readText rest).map fun (s, after) => (Char.ofNat unit :: s, after) := by
  by_cases hescape : ∃ e f g k tail, rest = '\\' :: 'u' :: e :: f :: g :: k :: tail
  · obtain ⟨e, f, g, k, tail, rfl⟩ := hescape
    rw [readText, h]
    cases hnext : codeUnit? e f g k with
    | none =>
      rw [readText_invalid hnext]
      rfl
    | some next => simp [hlead, htrail]
  · rw [readText, h]
    · simp [hlead, htrail]
    · exact fun e f g k tail heq => hescape ⟨e, f, g, k, tail, heq⟩

theorem codeUnit?_control {n : Nat} (h : n < 0x20) :
    codeUnit? '0' '0' (Text.hexLower (n / 16)) (Text.hexLower (n % 16)) = some n := by
  have hall : ∀ n : Fin 0x20, codeUnit? '0' '0' (Text.hexLower (n.val / 16))
      (Text.hexLower (n.val % 16)) = some n.val := by decide
  exact hall ⟨n, h⟩

/-- A character that is written is read again. -/
theorem readText_escapeChar (c : Char) (rest : List Char) :
    readText (escapeChar c ++ rest) = (readText rest).map fun (s, after) => (c :: s, after) := by
  rcases escapeChar_cases c with
    ⟨mark, hescape, hshort⟩ | ⟨hcontrol, hescape⟩ | ⟨hquote, hslash, hcontrol, hescape⟩
  · rw [hescape]
    exact readText_short hshort rest
  · have hlead : isLead c.toNat = false := by
      simp only [isLead, Bool.and_eq_false_iff, decide_eq_false_iff_not]
      omega
    have htrail : isTrail c.toNat = false := by
      simp only [isTrail, Bool.and_eq_false_iff, decide_eq_false_iff_not]
      omega
    have hread := readText_unit (codeUnit?_control hcontrol) hlead htrail rest
    rw [Char.ofNat_toNat] at hread
    rw [hescape]
    exact hread
  · rw [hescape]
    exact readText_self hquote hslash hcontrol rest

theorem readText_flatMap_escapeChar (s rest : List Char) :
    readText (s.flatMap escapeChar ++ '"' :: rest) = some (s, rest) := by
  induction s with
  | nil => simp [readText]
  | cons c more ih => rw [List.flatMap_cons, List.append_assoc, readText_escapeChar, ih]; rfl

theorem tokens_quote {s content after : List Char} (h : readText s = some (content, after)) :
    tokens ('"' :: s) = .text (String.ofList content) :: tokens after := by
  have htoken : textToken? s = some (.text (String.ofList content), after) := by
    rw [textToken?, h]
  rw [tokens, if_neg (by decide), if_pos (by decide)]
  split
  · rename_i token after' h'
    rw [htoken] at h'
    cases h'
    rfl
  · rename_i h'
    rw [htoken] at h'
    cases h'

theorem tokens_writeText (s : String) (rest : List Char) :
    tokens (writeText s ++ rest) = .text s :: tokens rest := by
  have hwrite : writeText s ++ rest = '"' :: (s.toList.flatMap escapeChar ++ '"' :: rest) := by
    simp [writeText]
  rw [hwrite, tokens_quote (readText_flatMap_escapeChar s.toList rest), String.ofList_toList]

/-! ### Tokens -/

theorem tokens_punctuation (c : Char) {token : Token} (h : punctuation? c = some token)
    (rest : List Char) : tokens (c :: rest) = token :: tokens rest := by
  have hplain : isSpace c = false ∧ c ≠ '"' := by
    unfold punctuation? at h
    split at h <;> first | decide | cases h
  obtain ⟨hblank, hquote⟩ := hplain
  rw [tokens]
  simp [hblank, hquote, h]

theorem tokens_word {c : Char} {rest after : List Char} {value : Json}
    (hletter : c ∈ ['n', 't', 'f']) (h : word? (c :: rest) = some (value, after)) :
    tokens (c :: rest) = .scalar value :: tokens after := by
  have hplain : isSpace c = false ∧ c ≠ '"' ∧ (punctuation? c).isNone ∧
      isNumberPart c = false := by
    simp only [List.mem_cons, List.not_mem_nil, or_false] at hletter
    rcases hletter with rfl | rfl | rfl <;> decide
  obtain ⟨hblank, hquote, hmark, hnumber⟩ := hplain
  rw [tokens]
  simp only [hblank, hquote, beq_iff_eq, Option.isNone_iff_eq_none.mp hmark, hnumber,
    Bool.false_eq_true, if_false]
  split
  · rename_i value' after' h'
    rw [h] at h'
    cases h'
    rfl
  · rename_i h'
    rw [h] at h'
    cases h'

theorem tokens_writeItems {items : List Json}
    (h : ∀ item ∈ items, ∀ rest, tokens (item.write ++ rest) = tokensOf item ++ tokens rest)
    (rest : List Char) :
    tokens (writeItems items ++ ']' :: rest) = (tokensOf (.array items)).tail ++ tokens rest := by
  cases items with
  | nil => exact tokens_punctuation _ rfl rest
  | cons item more =>
    induction more generalizing item with
    | nil =>
      rw [writeItems, h item (by simp), tokens_punctuation ']' rfl]
      simp [tokensOf, itemTokens]
    | cons next more ih =>
      have hstep := ih next fun other hother => h other (List.mem_cons_of_mem _ hother)
      rw [writeItems, List.append_assoc, List.cons_append, h item (by simp),
        tokens_punctuation ',' rfl, hstep]
      · simp [tokensOf, itemTokens]
      · simp

theorem tokens_writeMember (key : String) {value : Json}
    (h : ∀ rest, tokens (value.write ++ rest) = tokensOf value ++ tokens rest)
    (rest : List Char) :
    tokens (writeText key ++ ':' :: (value.write ++ rest)) =
      .text key :: .colon :: (tokensOf value ++ tokens rest) := by
  rw [tokens_writeText, tokens_punctuation ':' rfl, h]

theorem tokens_writeMembers {members : List (String × Json)}
    (h : ∀ member ∈ members, ∀ rest,
      tokens (member.2.write ++ rest) = tokensOf member.2 ++ tokens rest)
    (rest : List Char) :
    tokens (writeMembers members ++ '\x7d' :: rest) =
      (tokensOf (.object members)).tail ++ tokens rest := by
  cases members with
  | nil => exact tokens_punctuation _ rfl rest
  | cons member more =>
    induction more generalizing member with
    | nil =>
      rw [writeMembers, List.append_assoc, List.cons_append,
        tokens_writeMember member.1 (h member (by simp)),
        tokens_punctuation '\x7d' rfl]
      simp [tokensOf, memberTokens]
    | cons next more ih =>
      have hstep := ih next fun other hother => h other (List.mem_cons_of_mem _ hother)
      rw [writeMembers, List.append_assoc, List.append_assoc, List.cons_append, List.cons_append,
        tokens_writeMember member.1 (h member (by simp)),
        tokens_punctuation ',' rfl, hstep]
      · simp [tokensOf, memberTokens]
      · simp

/-- A document that is written is taken apart into the tokens that it is written in. -/
theorem tokens_write {depth : Nat} {j : Json} (h : IsPlain depth j) (rest : List Char) :
    tokens (j.write ++ rest) = tokensOf j ++ tokens rest := by
  induction h generalizing rest with
  | null => exact tokens_word (by decide) rfl
  | bool b => cases b <;> exact tokens_word (by decide) rfl
  | text s => exact tokens_writeText s rest
  | @array depth items h ih =>
    rw [write, List.append_assoc, List.cons_append, List.singleton_append,
      tokens_punctuation '[' rfl, tokens_writeItems ih]
    cases items <;> simp [tokensOf]
  | @object depth members h ih =>
    rw [write, List.append_assoc, List.cons_append, List.singleton_append,
      tokens_punctuation '\x7b' rfl, tokens_writeMembers ih]
    cases members <;> simp [tokensOf]

/-! ### Documents -/

namespace Progress

variable {limit depth : Nat} {frames : List Frame} {j : Json}

/-- Reads tokens where a value begins. -/
def runValue (limit : Nat) (frames : List Frame) : List Token → Option Progress
  | [] => none
  | token :: rest => (begin limit frames token).bind fun next => next.run limit rest

/-- No document begins with the end of an array. -/
theorem exists_tokensOf_eq_cons (j : Json) :
    ∃ token rest, tokensOf j = token :: rest ∧ token ≠ .closeArray := by
  match j with
  | .null | .bool _ | .number _ | .text _ => exact ⟨_, [], rfl, by simp⟩
  | .array [] | .array (_ :: _) => exact ⟨.openArray, _, rfl, by simp⟩
  | .object [] | .object ((_, _) :: _) => exact ⟨.openObject, _, rfl, by simp⟩

theorem run_value (j : Json) (more : List Token) :
    run limit ⟨frames, .value⟩ (tokensOf j ++ more) =
      runValue limit frames (tokensOf j ++ more) := by
  obtain ⟨token, rest, htokens, -⟩ := exists_tokensOf_eq_cons j
  rw [htokens]
  rfl

theorem run_firstItem (j : Json) (more : List Token) :
    run limit ⟨frames, .firstItem⟩ (tokensOf j ++ more) =
      runValue limit (.array [] :: frames) (tokensOf j ++ more) := by
  obtain ⟨token, rest, htokens, hne⟩ := exists_tokensOf_eq_cons j
  rw [htokens, List.cons_append, run, runValue]
  cases token <;> first | rfl | exact absurd rfl hne

/-- Whether reading the tokens of a document where a value begins completes it. -/
def Reads (limit : Nat) (frames : List Frame) (j : Json) : Prop :=
  ∀ more, runValue limit frames (tokensOf j ++ more) = (complete j frames).run limit more

/-- The further items of an array are put behind those that it has. -/
theorem run_itemTokens {items : List Json}
    (h : ∀ item ∈ items, ∀ found, Reads limit (.array found :: frames) item)
    (found : List Json) (more : List Token) :
    run limit ⟨frames, .afterItem found⟩ (itemTokens items ++ more) =
      (complete (.array (found.reverse ++ items)) frames).run limit more := by
  induction items generalizing found with
  | nil =>
    rw [List.append_nil]
    rfl
  | cons item rest ih =>
    have hitem := h item List.mem_cons_self found (itemTokens rest ++ more)
    have hrest := ih (fun other hother => h other (List.mem_cons_of_mem _ hother)) (item :: found)
    have hcomma : run limit ⟨frames, .afterItem found⟩ (itemTokens (item :: rest) ++ more) =
        run limit ⟨.array found :: frames, .value⟩
          (tokensOf item ++ (itemTokens rest ++ more)) := by
      rw [itemTokens, List.cons_append, List.append_assoc]
      rfl
    rw [hcomma, run_value, hitem]
    simpa [complete] using hrest

/-- The further members of an object are put behind those that it has. -/
theorem run_memberTokens {members : List (String × Json)}
    (h : ∀ member ∈ members, ∀ found, Reads limit (.object found member.1 :: frames) member.2)
    (found : List (String × Json)) (more : List Token) :
    run limit ⟨frames, .afterMember found⟩ (memberTokens members ++ more) =
      (complete (.object (found.reverse ++ members)) frames).run limit more := by
  induction members generalizing found with
  | nil =>
    rw [List.append_nil]
    rfl
  | cons member rest ih =>
    obtain ⟨key, value⟩ := member
    have hvalue := h (key, value) List.mem_cons_self found (memberTokens rest ++ more)
    have hrest :=
      ih (fun other hother => h other (List.mem_cons_of_mem _ hother)) ((key, value) :: found)
    have hcomma : run limit ⟨frames, .afterMember found⟩
          (memberTokens ((key, value) :: rest) ++ more) =
        run limit ⟨.object found key :: frames, .value⟩
          (tokensOf value ++ (memberTokens rest ++ more)) := by
      rw [memberTokens, List.cons_append, List.cons_append, List.cons_append, List.append_assoc]
      rfl
    rw [hcomma, run_value, hvalue]
    simpa [complete] using hrest

/-- Reading the tokens of a document that is not nested too deeply completes it, whatever is
open. -/
theorem reads_of_isPlain (h : IsPlain depth j) (hlimit : frames.length + depth ≤ limit) :
    Reads limit frames j := by
  -- what is inside has one level less, and is read with one more array or object open
  induction h generalizing frames with
  | null | bool | text => exact fun more => rfl
  | @array depth items h ih =>
    intro more
    have hopen : frames.length < limit := by omega
    cases items with
    | nil => simp [tokensOf, runValue, begin, hopen, run, take]
    | cons item rest =>
      have hitem : ∀ other ∈ item :: rest, ∀ found, Reads limit (.array found :: frames) other :=
        fun other hother found => ih other hother (by simp only [List.length_cons]; omega)
      have hbegin : runValue limit frames (tokensOf (.array (item :: rest)) ++ more) =
          run limit ⟨frames, .firstItem⟩ (tokensOf item ++ (itemTokens rest ++ more)) := by
        rw [tokensOf, List.cons_append, List.append_assoc, runValue, begin, if_pos hopen]
        rfl
      rw [hbegin, run_firstItem, hitem item List.mem_cons_self []]
      exact run_itemTokens (fun other hother => hitem other (List.mem_cons_of_mem _ hother))
        [item] more
  | @object depth members h ih =>
    intro more
    have hopen : frames.length < limit := by omega
    cases members with
    | nil => simp [tokensOf, runValue, begin, hopen, run, take]
    | cons member rest =>
      obtain ⟨key, value⟩ := member
      have hmember : ∀ other ∈ (key, value) :: rest, ∀ found,
          Reads limit (.object found other.1 :: frames) other.2 :=
        fun other hother found => ih other hother (by simp only [List.length_cons]; omega)
      have hbegin : runValue limit frames (tokensOf (.object ((key, value) :: rest)) ++ more) =
          run limit ⟨.object [] key :: frames, .value⟩
            (tokensOf value ++ (memberTokens rest ++ more)) := by
        rw [tokensOf, List.cons_append, List.cons_append, List.cons_append, List.append_assoc,
          runValue, begin, if_pos hopen]
        rfl
      rw [hbegin, run_value, hmember (key, value) List.mem_cons_self []]
      exact run_memberTokens (fun other hother => hmember other (List.mem_cons_of_mem _ hother))
        [(key, value)] more

end Progress

/-- A document without numbers that is not nested too deeply is read as it was written. -/
theorem read?_toText {j : Json} (h : IsPlain nestingLimit j) : read? j.toText = some j := by
  have htokens : tokens j.write = tokensOf j := by
    have hwrite := tokens_write h []
    rw [List.append_nil] at hwrite
    rw [hwrite, tokens, List.append_nil]
  have hreads : Progress.Reads nestingLimit [] j := Progress.reads_of_isPlain h (by simp)
  have hrun : Progress.run nestingLimit ⟨[], .value⟩ (tokensOf j) = some ⟨[], .done j⟩ := by
    have hvalue := hreads []
    rw [← Progress.run_value, List.append_nil] at hvalue
    exact hvalue
  rw [read?, toText, String.toList_ofList, htokens, ofTokens?, hrun]
  rfl

end Crosswalk.Json
