import Crosswalk.Field.Language
import Crosswalk.Text.Basic
import Crosswalk.Unicode.Case

/-!
Field descriptions such as `dcterms:title ^^literal @fr §private ~ Title: {__value__}`.

A description names a metadata field and may give its data type, its language, whether its values
are public, and a pattern. The parts before the pattern stand in any order; of two parts of one
kind the first well-formed one counts, and what is not well formed is dropped.
-/

/-! ### The names of fields and of their data types

A term is a vocabulary and a local name around one colon, such as `dcterms:title`. A data type is
one name or several joined by colons, such as `resource:item`. -/

namespace Crosswalk.Field

/-- Whether a character can continue the vocabulary of a term and every name of a data type. -/
def isNamePart (c : Char) : Bool :=
  Unicode.isWord c || c == '-'

/-- Whether a character can continue the local name of a term. -/
def isLocalPart (c : Char) : Bool :=
  isNamePart c || c == '.'

/-- A letter of ASCII, then name characters. -/
def isVocabulary : List Char → Bool
  | [] => false
  | c :: rest => c.isAlpha && rest.all isNamePart

/-- A letter of ASCII or an underscore, then local name characters. -/
def isLocalName : List Char → Bool
  | [] => false
  | c :: rest => (c.isAlpha || c == '_') && rest.all isLocalPart

def isTerm (s : List Char) : Bool :=
  match Text.cutAt ':' s with
  | some (vocabulary, name) => isVocabulary vocabulary && isLocalName name
  | none => false

/-- A character of words, then name characters. -/
def isTypeName : List Char → Bool
  | [] => false
  | c :: rest => Unicode.isWord c && rest.all isNamePart

def isDataType (s : List Char) : Bool :=
  match Text.pieces (· == ':') s with
  | [] => false
  | first :: more => isVocabulary first && more.all isTypeName

/-! ### Descriptions -/

/-- The description of a metadata field. -/
structure Spec where
  field : String
  dataType : Option String
  language : Option String
  isPublic : Option Bool
  pattern : Option String
deriving DecidableEq, Inhabited

namespace Spec

/-- The description that only names its field. -/
def ofField (field : String) : Spec := ⟨field, none, none, none, none⟩

/-- What a word of a description gives. -/
inductive Part where
  | term (s : List Char)
  | dataType (s : List Char)
  | language (s : List Char)
  | visibility (isPublic : Bool)
deriving DecidableEq

/-- The part that a word gives when it is well formed: `^^` marks a data type, `@` a language, `§`
the visibility, and any other word is a term. -/
def Part.ofWord? : List Char → Option Part
  | '^' :: '^' :: rest => if isDataType rest then some (.dataType rest) else none
  | '@' :: rest => if Language.isTag rest then some (.language rest) else none
  | '§' :: rest =>
    if rest = "public".toList then some (.visibility true)
    else if rest = "private".toList then some (.visibility false)
    else none
  | word => if isTerm word then some (.term word) else none

/-- The parts found so far, the first of each kind. -/
structure Parts where
  term : Option (List Char)
  dataType : Option (List Char)
  language : Option (List Char)
  isPublic : Option Bool
deriving DecidableEq

def Parts.none : Parts := ⟨.none, .none, .none, .none⟩

/-- Adds a part unless there is one of its kind. -/
def Parts.add (parts : Parts) : Part → Parts
  | .term s => { parts with term := parts.term <|> some s }
  | .dataType s => { parts with dataType := parts.dataType <|> some s }
  | .language s => { parts with language := parts.language <|> some s }
  | .visibility b => { parts with isPublic := parts.isPublic <|> some b }

def Parts.addWord (parts : Parts) (word : List Char) : Parts :=
  match Part.ofWord? word with
  | some part => parts.add part
  | .none => parts

/-- The words of a description, in canonical spacing. -/
def words (head : List Char) : List (List Char) :=
  (Text.pieces (· == ' ') (Text.normalizeSpacing head)).filter fun word => !word.isEmpty

/-- Splits off the pattern, which stands after the first tilde and is trimmed; a blank one is
none. -/
def splitPattern (s : List Char) : List Char × Option (List Char) :=
  match Text.cutAt '~' s with
  | some (head, pattern) =>
    let pattern := Text.trim pattern
    (head, if pattern.isEmpty then none else some pattern)
  | none => (s, none)

/-- Reads a description. Only one without a term is unreadable. -/
def read? (s : List Char) : Option Spec :=
  let (head, pattern) := splitPattern s
  let parts := (words head).foldl Parts.addWord Parts.none
  parts.term.map fun term =>
    { field := String.ofList term
      dataType := parts.dataType.map String.ofList
      language := parts.language.map String.ofList
      isPublic := parts.isPublic
      pattern := pattern.map String.ofList }

def parse? (s : String) : Option Spec := read? s.toList

/-- A mark and the text after it, or nothing. -/
def markedText (mark : List Char) : Option String → List Char
  | some s => mark ++ s.toList
  | none => []

def visibilityText : Option Bool → List Char
  | some true => " §public".toList
  | some false => " §private".toList
  | none => []

/-- Writes a description: the field, then the parts that are given. -/
def write (spec : Spec) : List Char :=
  spec.field.toList ++ markedText " ^^".toList spec.dataType ++
    markedText " @".toList spec.language ++ visibilityText spec.isPublic ++
    markedText " ~ ".toList spec.pattern

def toText (spec : Spec) : String := String.ofList spec.write

end Spec

end Crosswalk.Field
