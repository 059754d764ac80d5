import Crosswalk.Calendar.Format
import Crosswalk.Calendar.Reader
import Crosswalk.Decimal.Numeral
import Crosswalk.Decimal.Shortest
import Crosswalk.Filter.Call
import Crosswalk.Html.Rules
import Crosswalk.Text.Basic
import Crosswalk.Text.Numeral
import Crosswalk.Unicode.Case
import Crosswalk.Url.Percent

/-!
What each filter does to a text. A filter with another name leaves the text as it is.
-/

/-! ### Parts of a text

A negative start counts from the end, and a negative length leaves as many characters off at the
end. Sums are taken in signed numbers of sixty-four bits and stop at their bounds. -/

namespace Crosswalk.Filter

/-- A sum that stops at the bounds of sixty-four bits. -/
def saturatingAdd (a b : Int) : Int :=
  max Text.signedMin (min Text.signedMax (a + b))

/-- The number that an argument writes; an unreadable one is none. -/
def integerArgument? (args : List String) (place : Nat) : Option Int :=
  (args[place]?).bind fun arg => Text.signed? (Text.trim arg.toList)

/-- The bounds of a part of a text with `total` characters. -/
def sliceBounds (total start : Int) (length : Option Int) : Int × Int :=
  let first :=
    if start < 0 then max (saturatingAdd total start) 0 else min start total
  let last :=
    match length with
    | some length =>
      if length < 0 then saturatingAdd total length else min (saturatingAdd first length) total
    | none => total
  (first, max last first)

/-- The characters between the bounds that the arguments give. -/
def slice (args : List String) (s : List Char) : List Char :=
  let start := (integerArgument? args 0).getD 0
  let (first, last) := sliceBounds s.length start (integerArgument? args 1)
  (s.take last.toNat).drop first.toNat

/-! ### Capital letters -/

/-- The first character in upper case and the rest, as a text of its own, in lower case. -/
def capitalize : List Char → List Char
  | [] => []
  | c :: rest => Unicode.upperChar c ++ Unicode.lower rest

/-- The letters at the beginnings of words in upper case and the others in lower case, each on its
own. Letters and numbers make words. -/
def titleFrom (atStart : Bool) : List Char → List Char
  | [] => []
  | c :: rest =>
    if Unicode.isAlphanumeric c then
      (if atStart then Unicode.upperChar c else Unicode.lowerChar c) ++ titleFrom false rest
    else c :: titleFrom true rest

def title (s : List Char) : List Char :=
  titleFrom true s

/-! ### Filters by their names -/

/-- The number that a text writes without its sign; any other text stays as it is. -/
def absolute (s : List Char) : List Char :=
  let trimmed := Text.trim s
  match Text.signed? trimmed with
  | some i => Text.ofNat i.natAbs
  | none =>
    match Decimal.Quantity.read? trimmed with
    | some (.finite x) => x.magnitude.plain
    | some (.infinite _) => "inf".toList
    | some .notANumber => "NaN".toList
    | none => s

def escapeMarkup (c : Char) : List Char :=
  if c == '<' then "&lt;".toList
  else if c == '>' then "&gt;".toList
  else if c == '&' then "&amp;".toList
  else if c == '\'' then "&apos;".toList
  else if c == '"' then "&quot;".toList
  else [c]

/-- The format that dates are written in when none is given. -/
def defaultDateFormat : String := "F j, Y H:i"

/-- Writes the moment that a text names by the format in the first argument; a text that names none
stays as it is. -/
def date (args : List String) (s : List Char) : List Char :=
  match Calendar.readMoment? (Text.trim s) with
  | some moment => (moment.format? ((args.head?).getD defaultDateFormat).toList).getD s
  | none => s

/-- Fills the arguments into a text: `%s` and `%d` stand for the next one, and two percent signs
for one. -/
def fill (args : List String) : List Char → List Char
  | [] => []
  | ['%'] => ['%']
  | '%' :: c :: rest =>
    if c == '%' then '%' :: fill args rest
    else if c == 's' || c == 'd' then
      match args with
      | arg :: more => arg.toList ++ fill more rest
      | [] => fill [] rest
    else '%' :: c :: fill args rest
  | c :: rest => c :: fill args rest

def run (name : String) (args : List String) (s : List Char) : List Char :=
  match name with
  | "abs" => absolute s
  | "capitalize" => capitalize s
  | "escape" => s.flatMap escapeMarkup
  | "e" => s.flatMap escapeMarkup
  | "first" => s.take 1
  | "last" => s.getLast?.toList
  | "length" => Text.ofNat s.length
  | "lower" => Unicode.lower s
  | "upper" => Unicode.upper s
  | "striptags" => Html.plainText s
  | "title" => title s
  | "trim" => Text.trim s
  | "url_encode" => Url.Percent.raw s
  | "date" => date args s
  | "format" => fill args s
  | "slice" => slice args s
  | _ => s

def Call.apply (call : Call) (s : String) : String :=
  String.ofList (run call.name call.args s.toList)

/-- Runs the filters of an expression on a text, from left to right. -/
def Pipeline.apply (p : Pipeline) (s : String) : String :=
  p.calls.foldl (fun acc call => call.apply acc) s

end Crosswalk.Filter
