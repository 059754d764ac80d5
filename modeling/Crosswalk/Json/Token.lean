import Crosswalk.Json.Number
import Crosswalk.Text.Basic

/-!
The tokens of JSON text: punctuation and scalars.

Blanks between tokens are the four of the JSON grammar. A text ends at the first quote that is not
escaped; its escapes are resolved here, and a surrogate that has no partner stands for nothing. Such
a text and a number that is too large have the form of a value but none: they can only be passed
over.
-/

namespace Crosswalk.Json

/-- A token of JSON text. An invalid one stands for all text from a place on that begins none. -/
inductive Token where
  | openArray
  | closeArray
  | openObject
  | closeObject
  | comma
  | colon
  | text (s : String)
  | scalar (value : Json)
  /-- A text with an escape that stands for no character. -/
  | brokenText
  /-- A number beyond binary64. -/
  | largeNumber
  | invalid

def isSpace (c : Char) : Bool :=
  c == ' ' || c == '\t' || c == '\n' || c == '\r'

/-- The character that a one-letter escape stands for. -/
def shortEscape? : Char → Option Char
  | '"' => some '"'
  | '\\' => some '\\'
  | '/' => some '/'
  | 'b' => some '\x08'
  | 'f' => some '\x0c'
  | 'n' => some '\n'
  | 'r' => some '\r'
  | 't' => some '\t'
  | _ => none

def codeUnit? (a b c d : Char) : Option Nat :=
  Text.hexadecimal? [a, b, c, d]

/-- Whether a code unit is the first of a surrogate pair. -/
def isLead (n : Nat) : Bool := 0xD800 ≤ n && n < 0xDC00

/-- Whether a code unit is the second of a surrogate pair. -/
def isTrail (n : Nat) : Bool := 0xDC00 ≤ n && n < 0xE000

def ofPair (lead trail : Nat) : Char :=
  Char.ofNat (0x10000 + (lead - 0xD800) * 0x400 + (trail - 0xDC00))

/-- Reads a text after its opening quote; gives the text and what follows its closing quote. -/
def readText : List Char → Option (List Char × List Char)
  | [] => none
  | '"' :: rest => some ([], rest)
  | '\\' :: 'u' :: a :: b :: c :: d :: '\\' :: 'u' :: e :: f :: g :: h :: rest =>
    match codeUnit? a b c d, codeUnit? e f g h with
    | some first, some second =>
      if isLead first then
        if isTrail second then
          (readText rest).map fun (s, after) => (ofPair first second :: s, after)
        else none
      else if isTrail first then none
      else
        (readText ('\\' :: 'u' :: e :: f :: g :: h :: rest)).map fun (s, after) =>
          (Char.ofNat first :: s, after)
    | _, _ => none
  | '\\' :: 'u' :: a :: b :: c :: d :: rest =>
    match codeUnit? a b c d with
    | some unit =>
      if isLead unit || isTrail unit then none
      else (readText rest).map fun (s, after) => (Char.ofNat unit :: s, after)
    | none => none
  | '\\' :: c :: rest =>
    match shortEscape? c with
    | some plain => (readText rest).map fun (s, after) => (plain :: s, after)
    | none => none
  | c :: rest =>
    if c == '\\' || c.toNat < 0x20 then none
    else (readText rest).map fun (s, after) => (c :: s, after)

theorem readText_length {s t after : List Char} (h : readText s = some (t, after)) :
    after.length < s.length := by
  fun_induction readText s generalizing t
  case case2 => simp_all
  case case3 ih | case6 ih | case9 ih | case11 ih | case14 ih =>
    simp only [Option.map_eq_some_iff, Prod.mk.injEq, Prod.exists] at h
    obtain ⟨_, _, hrest, _, rfl⟩ := h
    have := ih hrest
    simp only [List.length_cons] at *
    omega
  all_goals simp at h

/-- Skips a text after its opening quote, whatever its escapes stand for; gives what follows its
closing quote. -/
def skipText : List Char → Option (List Char)
  | [] => none
  | '"' :: rest => some rest
  | '\\' :: 'u' :: a :: b :: c :: d :: rest =>
    if (codeUnit? a b c d).isSome then skipText rest else none
  | '\\' :: c :: rest => if (shortEscape? c).isSome then skipText rest else none
  | c :: rest => if c == '\\' || c.toNat < 0x20 then none else skipText rest

theorem skipText_length {s after : List Char} (h : skipText s = some after) :
    after.length < s.length := by
  fun_induction skipText s with
  | case1 => cases h
  | case2 rest =>
    cases h
    exact Nat.lt_succ_self _
  | case3 _ _ _ _ _ _ ih | case5 _ _ _ _ ih | case8 _ _ _ _ _ _ ih =>
    have hlength := ih h
    simp only [List.length_cons]
    omega
  | case4 | case6 | case7 => cases h

/-- The token of a text, given what follows its opening quote, and what follows its closing one. -/
def textToken? (s : List Char) : Option (Token × List Char) :=
  match readText s with
  | some (content, after) => some (.text (String.ofList content), after)
  | none => (skipText s).map (.brokenText, ·)

theorem textToken?_length {s after : List Char} {token : Token}
    (h : textToken? s = some (token, after)) : after.length < s.length := by
  rw [textToken?] at h
  split at h
  · rename_i hread
    cases h
    exact readText_length hread
  · obtain ⟨rest, hskip, heq⟩ := Option.map_eq_some_iff.mp h
    cases heq
    exact skipText_length hskip

def numberToken? (s : List Char) : Option Token :=
  match number? s with
  | some n => some (.scalar (.number n))
  | none => if (unsignedNumber? (splitSign s).2).isSome then some .largeNumber else none

def punctuation? : Char → Option Token
  | '[' => some .openArray
  | ']' => some .closeArray
  | '\x7b' => some .openObject
  | '\x7d' => some .closeObject
  | ',' => some .comma
  | ':' => some .colon
  | _ => none

/-- The scalars that are written as a word. -/
def words : List (List Char × Json) :=
  [("null".toList, .null), ("true".toList, .bool true), ("false".toList, .bool false)]

def word? (s : List Char) : Option (Json × List Char) :=
  words.findSome? fun (word, value) => (Text.stripLead? word s).map (value, ·)

theorem word?_length {s : List Char} {value : Json} {after : List Char}
    (h : word? s = some (value, after)) : after.length < s.length := by
  obtain ⟨⟨word, v⟩, hmem, hword⟩ := List.exists_of_findSome?_eq_some h
  simp only [Option.map_eq_some_iff, Prod.mk.injEq] at hword
  obtain ⟨rest, hrest, _, rfl⟩ := hword
  have hlen : word.length + rest.length = s.length := by
    have := Text.stripLead?_eq_some_iff.1 hrest
    simp [this]
  have hpos : 0 < word.length := by
    simp only [words, List.mem_cons, Prod.mk.injEq, List.not_mem_nil, or_false] at hmem
    rcases hmem with ⟨rfl, _⟩ | ⟨rfl, _⟩ | ⟨rfl, _⟩ <;> decide
  omega

/-- Splits JSON text into its tokens, up to where it holds none. -/
def tokens (s : List Char) : List Token :=
  match s with
  | [] => []
  | c :: rest =>
    if isSpace c then tokens rest
    else if c == '"' then
      match h : textToken? rest with
      | some (token, after) =>
        have := textToken?_length h
        token :: tokens after
      | none => [.invalid]
    else
      match punctuation? c with
      | some token => token :: tokens rest
      | none =>
        if isNumberPart c then
          match numberToken? (c :: rest.takeWhile isNumberPart) with
          | some token =>
            have : (rest.dropWhile isNumberPart).length ≤ rest.length :=
              (List.dropWhile_sublist _).length_le
            token :: tokens (rest.dropWhile isNumberPart)
          | none => [.invalid]
        else
          match h : word? (c :: rest) with
          | some (value, after) =>
            have : after.length ≤ rest.length := Nat.le_of_lt_succ (word?_length h)
            .scalar value :: tokens after
          | none => [.invalid]
termination_by s.length

end Crosswalk.Json
