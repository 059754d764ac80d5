/-!
Texts as lists of characters: their blanks, cutting and joining them, and replacing in them.

A blank is a character with the Unicode property White_Space. Trimming removes the blanks at both
ends of a text and nothing else. `pieces` cuts a text everywhere, `cutAt` and `cutAtText` at the
first place only; joining the pieces with the character that was cut at gives the text back.
-/

namespace Crosswalk.Text

/-- A blank is one of the twenty-five characters with the property White_Space. -/
def isBlank (c : Char) : Bool :=
  let n := c.toNat
  (9 ≤ n && n ≤ 13) || n == 0x20 || n == 0x85 || n == 0xA0 || n == 0x1680 ||
    (0x2000 ≤ n && n ≤ 0x200A) || n == 0x2028 || n == 0x2029 || n == 0x202F ||
    n == 0x205F || n == 0x3000

def trimStart (s : List Char) : List Char :=
  s.dropWhile isBlank

def trimEnd (s : List Char) : List Char :=
  (s.reverse.dropWhile isBlank).reverse

def trim (s : List Char) : List Char :=
  trimEnd (trimStart s)

def trimmed (s : String) : String :=
  String.ofList (trim s.toList)

/-- A text is blank when it holds nothing but blanks. -/
def isAllBlank (s : List Char) : Bool :=
  s.all isBlank

/-! ### Cutting and replacing -/

def stripLead? : List Char → List Char → Option (List Char)
  | [], s => some s
  | _ :: _, [] => none
  | l :: lead, c :: rest => if l = c then stripLead? lead rest else none

theorem stripLead?_eq_some_iff {lead s rest : List Char} :
    stripLead? lead s = some rest ↔ s = lead ++ rest := by
  induction lead generalizing s with
  | nil => simp [stripLead?]
  | cons l lead ih =>
    cases s with
    | nil => simp [stripLead?]
    | cons c s =>
      by_cases h : l = c
      · simp [stripLead?, h, ih]
      · simp [stripLead?, h, Ne.symm h]

def beginsWith (lead s : List Char) : Bool :=
  (stripLead? lead s).isSome

/-- Puts a character at the front of the first part. -/
def consFirst (c : Char) : List (List Char) → List (List Char)
  | [] => [[c]]
  | part :: more => (c :: part) :: more

/-- The parts between the characters that `sep` accepts: one more than there are such characters. -/
def pieces (sep : Char → Bool) : List Char → List (List Char)
  | [] => [[]]
  | c :: rest => if sep c then [] :: pieces sep rest else consFirst c (pieces sep rest)

/-- What stands before and after the first character that `stop` accepts. -/
def cutWhere (stop : Char → Bool) : List Char → Option (List Char × List Char)
  | [] => none
  | c :: rest =>
    if stop c then some ([], rest)
    else (cutWhere stop rest).map fun (before, after) => (c :: before, after)

/-- What stands before and after the first occurrence of a character. -/
def cutAt (mark : Char) (s : List Char) : Option (List Char × List Char) :=
  cutWhere (· == mark) s

/-- What stands before and after the last occurrence of a character. -/
def cutAtLast (mark : Char) (s : List Char) : Option (List Char × List Char) :=
  (cutAt mark s.reverse).map fun (after, before) => (before.reverse, after.reverse)

/-- What stands before and after the first occurrence of a text. -/
def cutAtText (mark : List Char) : List Char → Option (List Char × List Char)
  | [] => if mark.isEmpty then some ([], []) else none
  | c :: rest =>
    match stripLead? mark (c :: rest) with
    | some after => some ([], after)
    | none => (cutAtText mark rest).map fun (before, after) => (c :: before, after)

/-- Replaces every occurrence of one character, from left to right. -/
def replaceChar (mark : Char) (fresh : List Char) (s : List Char) : List Char :=
  s.flatMap fun c => if c == mark then fresh else [c]

/-- Replaces the occurrences of a text found in one scan from the left; `skip` characters of an
occurrence that is already replaced are still to be passed over. -/
def replaceTextFrom (mark fresh : List Char) : Nat → List Char → List Char
  | _, [] => []
  | skip + 1, _ :: rest => replaceTextFrom mark fresh skip rest
  | 0, c :: rest =>
    if beginsWith mark (c :: rest) then fresh ++ replaceTextFrom mark fresh (mark.length - 1) rest
    else c :: replaceTextFrom mark fresh 0 rest

/-- Replaces every occurrence of a non-empty text, found in one scan from the left. -/
def replaceText (mark fresh s : List Char) : List Char :=
  if mark.isEmpty then s else replaceTextFrom mark fresh 0 s

/-- The parts written one after the other with a text between neighbours. -/
def join (between : List Char) : List (List Char) → List Char
  | [] => []
  | [part] => part
  | part :: more => part ++ between ++ join between more

/-- The lines of a text, without the line feeds that end them. -/
def lines (s : List Char) : List (List Char) :=
  pieces (· == '\n') s

/-! ### Canonical spacing -/

/-- Puts one space for every run of blanks. -/
def collapseBlanks : List Char → List Char
  | [] => []
  | [c] => if isBlank c then [' '] else [c]
  | c :: d :: rest =>
    if isBlank c then
      if isBlank d then collapseBlanks (d :: rest) else ' ' :: collapseBlanks (d :: rest)
    else c :: collapseBlanks (d :: rest)

/-- Drops one space on either side of every colon, in one scan from the left. -/
def tightenColons : List Char → List Char
  | [] => []
  | ' ' :: ':' :: ' ' :: rest => ':' :: tightenColons rest
  | ' ' :: ':' :: rest => ':' :: tightenColons rest
  | ':' :: ' ' :: rest => ':' :: tightenColons rest
  | c :: rest => c :: tightenColons rest

/-- Trims a text, collapses its blanks and drops the spaces around its colons. -/
def normalizeSpacing (s : List Char) : List Char :=
  tightenColons (collapseBlanks (trim s))

end Crosswalk.Text
