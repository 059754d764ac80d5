import Crosswalk.Text.Basic
import Crosswalk.Xml.Character

/-!
The tokens of XML text.

Document types are refused. Each reader takes what stands at the front of a text and gives what is
left, or nothing when the text is not well formed there.
-/

namespace Crosswalk.Xml

/-- A name as it is written: a qualifier, which may be empty, and the name after the colon. -/
structure WrittenName where
  qualifier : List Char
  localName : List Char
deriving DecidableEq

/-- An attribute as it is written, with its value normalized. -/
structure WrittenAttribute where
  name : WrittenName
  value : List Char

/-- A token of XML text. -/
inductive Token where
  | opening (name : WrittenName) (attributes : List WrittenAttribute) (isEmpty : Bool)
  | close (name : WrittenName)
  | text (s : List Char)
  | comment (s : List Char)
  | instruction (target data : List Char)

def skipSpaces (s : List Char) : List Char := s.dropWhile isSpace

/-- A name with at most one colon, and what is left. Both its parts have to begin like names, but
the qualifier may be empty. -/
def readWrittenName? (s : List Char) : Option (WrittenName × List Char) :=
  let name := s.takeWhile isNamePart
  let rest := s.drop name.length
  let parts : Option WrittenName :=
    match Text.pieces (· == ':') name with
    | [localName] => some ⟨[], localName⟩
    | [qualifier, localName] => some ⟨qualifier, localName⟩
    | _ => none
  parts.bind fun n =>
    let qualifierOk := n.qualifier.head?.all isNameStart
    let localOk := n.localName.head?.any isNameStart
    if qualifierOk && localOk then some (n, rest) else none

def readEquals? (s : List Char) : Option (List Char) :=
  match skipSpaces s with
  | '=' :: rest => some (skipSpaces rest)
  | _ => none

/-- A value between quotes, as it is written, and what is left. -/
def readQuoted? (s : List Char) : Option (List Char × List Char) :=
  match s with
  | quote :: rest =>
    if quote == '"' || quote == '\'' then
      let value := rest.takeWhile fun c => c != quote && c != '<'
      if !value.all isXmlChar then none
      else
        match rest.drop value.length with
        | c :: after => if c == quote then some (value, after) else none
        | [] => none
    else none
  | [] => none

def readAttribute? (s : List Char) : Option (WrittenAttribute × List Char) := do
  let (name, rest) ← readWrittenName? s
  let rest ← readEquals? rest
  let (value, rest) ← readQuoted? rest
  let written ← resolve? value.length value
  some (⟨name, normalizeValue written⟩, rest)

/-- The attributes of a tag, whether it ends its element at once, and what is left. -/
def readAttributes? : Nat → List WrittenAttribute → List Char →
    Option (List WrittenAttribute × Bool × List Char)
  | 0, _, _ => none
  | fuel + 1, attributes, s =>
    match skipSpaces s with
    | '/' :: '>' :: rest => some (attributes.reverse, true, rest)
    | '>' :: rest => some (attributes.reverse, false, rest)
    | rest =>
      if s.head?.any isSpace then
        (readAttribute? rest).bind fun (entry, rest) =>
          readAttributes? fuel (entry :: attributes) rest
      else none

/-- A start tag after its angle bracket, and what is left. -/
def readOpen? (s : List Char) : Option (Token × List Char) := do
  let (name, rest) ← readWrittenName? s
  let (attributes, isEmpty, rest) ← readAttributes? (rest.length + 1) [] rest
  some (.opening name attributes isEmpty, rest)

/-- An end tag after its angle bracket and slash, and what is left. -/
def readClose? (s : List Char) : Option (Token × List Char) := do
  let (name, rest) ← readWrittenName? s
  match skipSpaces rest with
  | '>' :: rest => some (.close name, rest)
  | _ => none

/-- What stands before a closing mark, all of it allowed, and what is left. -/
def readUpTo? (mark s : List Char) : Option (List Char × List Char) :=
  (Text.cutAtText mark s).filter fun (text, _) => text.all isXmlChar

/-- A comment after its opening mark, and what is left. It holds no two hyphens in a row. -/
def readComment? (s : List Char) : Option (Token × List Char) := do
  let (text, rest) ← readUpTo? "-->".toList s
  if (Text.cutAtText "--".toList text).isSome || text.getLast? == some '-' then none
  else some (.comment text, rest)

/-- An instruction after its opening mark, and what is left. It is no declaration of the
document. -/
def readInstruction? (s : List Char) : Option (Token × List Char) := do
  if Text.beginsWith "xml ".toList s then none
  else
    let (target, rest) ← readName? s
    let (data, rest) ← readUpTo? "?>".toList (skipSpaces rest)
    some (.instruction target data, rest)

/-- A run of text up to the next tag, and what is left. -/
def readText? (s : List Char) : Option (Token × List Char) := do
  let raw := s.takeWhile (· != '<')
  if !raw.all isXmlChar || (Text.cutAtText "]]>".toList raw).isSome then none
  else
    let written ← resolve? raw.length raw
    some (.text (normalizeNewlines false written), s.drop raw.length)

/-- A section of text without markup after its opening mark, and what is left. -/
def readSection? (s : List Char) : Option (Token × List Char) := do
  let (raw, rest) ← readUpTo? "]]>".toList s
  some (.text (normalizeNewlines false (raw.map (⟨·, false⟩))), rest)

def readContent? (s : List Char) : Option (Token × List Char) :=
  match s with
  | '<' :: rest =>
    match rest with
    | '!' :: _ =>
      if Text.beginsWith "!--".toList rest then readComment? (rest.drop 3)
      else if Text.beginsWith "![CDATA[".toList rest then readSection? (rest.drop 8)
      else none
    | '?' :: rest => readInstruction? rest
    | '/' :: rest => readClose? rest
    | _ => readOpen? rest
  | _ => readText? s

/-- A comment or instruction outside of all elements, and what is left. -/
def readMisc? (s : List Char) : Option (Token × List Char) :=
  if Text.beginsWith "<!--".toList s then readComment? (s.drop 4)
  else if Text.beginsWith "<?".toList s then readInstruction? (s.drop 2)
  else none

/-- Skips one field of the declaration of a document, if it is there. -/
def skipField? (key : String) (s : List Char) : Option (List Char) :=
  if Text.beginsWith key.toList s then do
    let (_, rest) ← readWrittenName? s
    let rest ← readEquals? rest
    let (_, rest) ← readQuoted? rest
    some rest
  else some s

/-- Blanks, or the end of the declaration of a document. -/
def readSeparation? (s : List Char) : Option (List Char) :=
  if s.head?.any isSpace then some (skipSpaces s)
  else if Text.beginsWith "?>".toList s || s.isEmpty then some s
  else none

/-- Skips the declaration of a document, if there is one. It has to give a version. -/
def skipDeclaration? (s : List Char) : Option (List Char) :=
  if Text.beginsWith "<?xml ".toList s then do
    let rest ← readSeparation? (s.drop 5)
    if !Text.beginsWith "version".toList rest then none
    else
      let rest ← skipField? "version" rest
      let rest ← readSeparation? rest
      let rest ←
        if Text.beginsWith "encoding".toList rest then
          (skipField? "encoding" rest).bind readSeparation?
        else some rest
      let rest ← skipField? "standalone" rest
      Text.stripLead? "?>".toList (skipSpaces rest)
  else some s

end Crosswalk.Xml
