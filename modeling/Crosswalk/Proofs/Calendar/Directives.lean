import Mathlib.Algebra.Ring.Parity
import Crosswalk.Calendar.Format

/-!
The directive text of a format.

Every character of a format is translated for itself: a letter to its specifiers, a percent sign to
two of them, anything else to itself, and an escaped character as one that is no letter. So a
directive text consists of characters other than percent signs and of whole specifiers, there is
only one way to see it so, and carrying it out never fails.
-/

namespace Crosswalk.Calendar

/-- A part of a directive text: a character that stands for itself, or a specifier. -/
inductive Part where
  | literal (c : Char)
  | specifier (d : Directive)
deriving DecidableEq

/-- The letters of a specifier, behind its percent sign. -/
def Directive.letters : Directive → String
  | .percent => "%"
  | .day => "d"
  | .weekdayShort => "a"
  | .dayBare => "-d"
  | .weekdayLong => "A"
  | .isoWeekday => "u"
  | .weekday => "w"
  | .dayOfYear => "j"
  | .isoWeek => "V"
  | .monthLong => "B"
  | .month => "m"
  | .monthShort => "b"
  | .monthBare => "-m"
  | .year => "Y"
  | .yearShort => "y"
  | .halfLower => "P"
  | .halfUpper => "p"
  | .hourOfHalfBare => "-I"
  | .hourBare => "-H"
  | .hourOfHalf => "I"
  | .hour => "H"
  | .minute => "M"
  | .second => "S"
  | .timestamp => "s"
  | .offset => "z"
  | .offsetColon => ":z"

def Part.text : Part → List Char
  | .literal c => [c]
  | .specifier d => '%' :: d.letters.toList

/-- A percent sign never stands for itself. -/
def Part.IsProper : Part → Prop
  | .literal c => c ≠ '%'
  | .specifier _ => True

def Part.write (m : Moment) : Part → List Char
  | .literal c => [c]
  | .specifier d => d.write m

def partsText (parts : List Part) : List Char := parts.flatMap Part.text

/-! Reading a directive text part by part. -/

theorem Directive.read?_letters (d : Directive) (rest : List Char) :
    Directive.read? (d.letters.toList ++ rest) = some (d, rest) := by
  cases d <;> rfl

theorem partsText_cons (part : Part) (parts : List Part) :
    partsText (part :: parts) = part.text ++ partsText parts := List.flatMap_cons

theorem partsText_append (parts more : List Part) :
    partsText (parts ++ more) = partsText parts ++ partsText more := List.flatMap_append

theorem writeDirectives?_literal (m : Moment) {c : Char} (hc : c ≠ '%') (rest : List Char) :
    writeDirectives? m (c :: rest) = (writeDirectives? m rest).map (c :: ·) := by
  rw [writeDirectives?, if_neg (by simpa using hc)]

theorem writeDirectives?_specifier (m : Moment) (d : Directive) (rest : List Char) :
    writeDirectives? m ('%' :: d.letters.toList ++ rest) =
      (writeDirectives? m rest).map (d.write m ++ ·) := by
  rw [List.cons_append, writeDirectives?, if_pos (by decide)]
  split
  · rename_i directive after hread
    rw [Directive.read?_letters] at hread
    obtain ⟨rfl, rfl⟩ := Prod.mk.inj (Option.some.inj hread)
    rfl
  · rename_i hread
    rw [Directive.read?_letters] at hread
    cases hread

/-- A text of proper parts is carried out part by part. -/
theorem writeDirectives?_partsText (m : Moment) {parts : List Part}
    (h : ∀ part ∈ parts, part.IsProper) :
    writeDirectives? m (partsText parts) = some (parts.flatMap (Part.write m)) := by
  induction parts with
  | nil => rw [partsText, List.flatMap_nil, writeDirectives?, List.flatMap_nil]
  | cons part more ih =>
    obtain ⟨hpart, hmore⟩ := List.forall_mem_cons.mp h
    rw [partsText_cons, List.flatMap_cons]
    cases part with
    | literal c =>
      rw [Part.text, List.singleton_append, writeDirectives?_literal m hpart, ih hmore]
      rfl
    | specifier d =>
      rw [Part.text, writeDirectives?_specifier, ih hmore]
      rfl

/-- Different parts never have the same text. -/
theorem partsText_injective {parts others : List Part} (hparts : ∀ part ∈ parts, part.IsProper)
    (hothers : ∀ part ∈ others, part.IsProper) (h : partsText parts = partsText others) :
    parts = others := by
  induction parts generalizing others with
  | nil =>
    cases others with
    | nil => rfl
    | cons other more => cases other <;> cases h
  | cons part more ih =>
    cases others with
    | nil => cases part <;> cases h
    | cons other rest =>
      obtain ⟨hpart, hmore⟩ := List.forall_mem_cons.mp hparts
      obtain ⟨hother, hrest⟩ := List.forall_mem_cons.mp hothers
      rw [partsText_cons, partsText_cons] at h
      cases part with
      | literal c =>
        cases other with
        | literal d =>
          obtain ⟨rfl, htext⟩ := List.cons.inj h
          rw [ih hmore hrest htext]
        | specifier d => exact absurd (List.cons.inj h).1 hpart
      | specifier c =>
        cases other with
        | literal d => exact absurd (List.cons.inj h).1.symm hother
        | specifier d =>
          -- the specifier that is read behind the percent sign is both of them
          have hletters : c.letters.toList ++ partsText more = d.letters.toList ++ partsText rest :=
            (List.cons.inj h).2
          have hread := Directive.read?_letters c (partsText more)
          rw [hletters, Directive.read?_letters] at hread
          obtain ⟨rfl, htext⟩ := Prod.mk.inj (Option.some.inj hread)
          rw [ih hmore hrest htext.symm]

/-! The parts of a format. -/

/-- The parts that a letter of a format stands for. -/
def letterParts : Char → Option (List Part)
  | 'd' => some [.specifier .day]
  | 'D' => some [.specifier .weekdayShort]
  | 'j' => some [.specifier .dayBare]
  | 'l' => some [.specifier .weekdayLong]
  | 'N' => some [.specifier .isoWeekday]
  | 'w' => some [.specifier .weekday]
  | 'z' => some [.specifier .dayOfYear]
  | 'W' => some [.specifier .isoWeek]
  | 'F' => some [.specifier .monthLong]
  | 'm' => some [.specifier .month]
  | 'M' => some [.specifier .monthShort]
  | 'n' => some [.specifier .monthBare]
  | 'Y' => some [.specifier .year]
  | 'y' => some [.specifier .yearShort]
  | 'a' => some [.specifier .halfLower]
  | 'A' => some [.specifier .halfUpper]
  | 'g' => some [.specifier .hourOfHalfBare]
  | 'G' => some [.specifier .hourBare]
  | 'h' => some [.specifier .hourOfHalf]
  | 'H' => some [.specifier .hour]
  | 'i' => some [.specifier .minute]
  | 's' => some [.specifier .second]
  | 'U' => some [.specifier .timestamp]
  | 'c' => some [.specifier .year, .literal '-', .specifier .month, .literal '-', .specifier .day,
      .literal 'T', .specifier .hour, .literal ':', .specifier .minute, .literal ':',
      .specifier .second, .specifier .offsetColon]
  | 'r' => some [.specifier .weekdayShort, .literal ',', .literal ' ', .specifier .day,
      .literal ' ', .specifier .monthShort, .literal ' ', .specifier .year, .literal ' ',
      .specifier .hour, .literal ':', .specifier .minute, .literal ':', .specifier .second,
      .literal ' ', .specifier .offset]
  | _ => none

/-- The part of a character that is no letter of a format. -/
def plainPart (c : Char) : Part :=
  if c = '%' then .specifier .percent else .literal c

/-- The parts of a format, character by character; a character behind a backslash is plain. -/
def formatParts : List Char → List Part
  | [] => []
  | ['\\'] => []
  | '\\' :: c :: rest => plainPart c :: formatParts rest
  | c :: rest => (letterParts c).getD [plainPart c] ++ formatParts rest

theorem text_plainPart (c : Char) : (plainPart c).text = literalDirective c := by
  by_cases hc : c = '%'
  · subst hc
    rfl
  · simp [plainPart, literalDirective, Part.text, hc]

theorem isProper_plainPart (c : Char) : (plainPart c).IsProper := by
  by_cases hc : c = '%' <;> simp [plainPart, Part.IsProper, hc]

theorem directiveOf?_eq (c : Char) : directiveOf? c = (letterParts c).map partsText := by
  unfold directiveOf?
  split
  case h_26 =>
    rw [letterParts]
    · rfl
    all_goals assumption
  all_goals rfl

theorem isProper_letterParts {c : Char} {parts : List Part} (h : letterParts c = some parts) :
    ∀ part ∈ parts, part.IsProper := by
  unfold letterParts at h
  split at h <;> cases h <;> simp [Part.IsProper]

theorem partsText_formatParts (format : List Char) :
    partsText (formatParts format) = directives format := by
  fun_induction formatParts format with
  | case1 => rfl
  | case2 => rfl
  | case3 c rest ih => rw [partsText_cons, text_plainPart, ih, directives]
  | case4 c rest hlast hescape ih =>
    have hchar : partsText ((letterParts c).getD [plainPart c]) =
        (directiveOf? c).getD (literalDirective c) := by
      rw [directiveOf?_eq]
      cases letterParts c with
      | none => exact (partsText_cons _ _).trans ((List.append_nil _).trans (text_plainPart c))
      | some parts => rfl
    rw [partsText_append, hchar, ih, directives]
    · exact hlast
    · exact hescape

theorem isProper_formatParts (format : List Char) : ∀ part ∈ formatParts format, part.IsProper := by
  fun_induction formatParts format with
  | case1 => exact List.forall_mem_nil _
  | case2 => exact List.forall_mem_nil _
  | case3 c rest ih => exact List.forall_mem_cons.mpr ⟨isProper_plainPart c, ih⟩
  | case4 c rest hlast hescape ih =>
    refine List.forall_mem_append.mpr ⟨?_, ih⟩
    cases hletter : letterParts c with
    | none => simpa using isProper_plainPart c
    | some parts => exact isProper_letterParts hletter

/-- A format is carried out part by part, and never fails. -/
theorem format?_eq (m : Moment) (format : List Char) :
    m.format? format = some ((formatParts format).flatMap (Part.write m)) := by
  rw [Moment.format?, ← partsText_formatParts,
    writeDirectives?_partsText m (isProper_formatParts format)]

/-! Formats one behind the other. -/

/-- The backslashes at the end of a format. -/
def backslashesAtEnd (format : List Char) : Nat :=
  (format.reverse.takeWhile (· == '\\')).length

/-- Whether a format ends in a backslash that has no character to escape: when the backslashes at
its end escape each other in pairs, one is left. -/
def EndsUnpaired (format : List Char) : Prop := Odd (backslashesAtEnd format)

instance : DecidablePred EndsUnpaired := fun _ => inferInstanceAs (Decidable (Odd _))

theorem backslashesAtEnd_cons (c : Char) (rest : List Char) :
    backslashesAtEnd (c :: rest) =
      if backslashesAtEnd rest = rest.length ∧ c = '\\' then rest.length + 1
      else backslashesAtEnd rest := by
  by_cases hall : backslashesAtEnd rest = rest.length
  · have htaken : (rest.reverse.takeWhile (· == '\\')).length = rest.reverse.length := by
      rw [List.length_reverse]
      exact hall
    rw [backslashesAtEnd, List.reverse_cons, List.takeWhile_append, if_pos htaken]
    by_cases hc : c = '\\' <;> simp [hall, hc]
  · have htaken : ¬ (rest.reverse.takeWhile (· == '\\')).length = rest.reverse.length := by
      rw [List.length_reverse]
      exact hall
    rw [backslashesAtEnd, List.reverse_cons, List.takeWhile_append, if_neg htaken,
      if_neg (fun h => hall h.1)]
    rfl

theorem endsUnpaired_cons {c : Char} (hc : c ≠ '\\') (rest : List Char) :
    EndsUnpaired (c :: rest) ↔ EndsUnpaired rest := by
  rw [EndsUnpaired, backslashesAtEnd_cons, if_neg (fun h => hc h.2), EndsUnpaired]

/-- A backslash takes the character behind it away, also when that is a backslash. -/
theorem endsUnpaired_escape (c : Char) (rest : List Char) :
    EndsUnpaired ('\\' :: c :: rest) ↔ EndsUnpaired rest := by
  rw [EndsUnpaired, EndsUnpaired, backslashesAtEnd_cons, backslashesAtEnd_cons]
  by_cases hall : backslashesAtEnd rest = rest.length
  · by_cases hc : c = '\\'
    · simp [hall, hc, Nat.odd_add_one]
    · simp [hall, hc]
  · have hshort : backslashesAtEnd rest ≠ rest.length + 1 := by
      have hle := (List.takeWhile_sublist (l := rest.reverse) (· == '\\')).length_le
      rw [List.length_reverse] at hle
      rw [backslashesAtEnd]
      omega
    simp [hall, hshort]

theorem formatParts_append {format : List Char} (h : ¬ EndsUnpaired format) (more : List Char) :
    formatParts (format ++ more) = formatParts format ++ formatParts more := by
  fun_induction formatParts format with
  | case1 => rfl
  | case2 => exact absurd (by decide) h
  | case3 c rest ih =>
    rw [List.cons_append, List.cons_append, formatParts, ih (mt (endsUnpaired_escape c rest).mpr h)]
    rfl
  | case4 c rest hlast hescape ih =>
    have hc : c ≠ '\\' := by
      intro hc
      cases rest with
      | nil => exact hlast hc rfl
      | cons d more => exact hescape d more hc rfl
    rw [List.cons_append, formatParts, ih (mt (endsUnpaired_cons hc rest).mpr h), List.append_assoc]
    · exact fun h => absurd h hc
    · exact fun _ _ h => absurd h hc

/-- Every format has a directive text that can be carried out. It consists of the parts that the
characters of the format stand for, each by itself: characters other than a percent sign, and
specifiers. There is no other way to see it as such parts, and it is carried out part by part. The
directive text of two formats, one behind the other, is that of the one and that of the other,
unless a backslash at the end of the first would escape a character of the second. -/
theorem directives_carried_out (format : List Char) :
    partsText (formatParts format) = directives format ∧
      (∀ part ∈ formatParts format, part.IsProper) ∧
      (∀ parts : List Part, (∀ part ∈ parts, part.IsProper) →
        partsText parts = directives format → parts = formatParts format) ∧
      (∀ m : Moment, m.format? format = some ((formatParts format).flatMap (Part.write m))) ∧
      ∀ more : List Char, ¬ EndsUnpaired format →
        directives (format ++ more) = directives format ++ directives more := by
  have htext := partsText_formatParts format
  have hproper := isProper_formatParts format
  refine ⟨htext, hproper, ?_, fun m => format?_eq m format, ?_⟩
  · intro parts hparts hsame
    exact partsText_injective hparts hproper (hsame.trans htext.symm)
  · intro more hends
    rw [← partsText_formatParts, formatParts_append hends, partsText_append,
      partsText_formatParts, partsText_formatParts]

/-- Escaped percent signs and letters, and a letter behind two backslashes. -/
theorem directives_carried_out_escapes :
    ¬ EndsUnpaired "%\\%d\\d%%\\\\".toList ∧
      directives ("%\\%d\\d%%\\\\".toList ++ "d\\".toList) =
        "%%%%%dd%%%%\\".toList ++ "%d".toList := by
  have hends : ¬ EndsUnpaired "%\\%d\\d%%\\\\".toList := by decide
  obtain ⟨-, -, -, -, happend⟩ := directives_carried_out "%\\%d\\d%%\\\\".toList
  exact ⟨hends, happend "d\\".toList hends⟩

end Crosswalk.Calendar
