import Crosswalk.Html.Entity

/-!
The tokens of HTML text.

How text is cut depends on where it stands: inside most elements it is markup, inside a few it is
plain text up to the end tag of that element. What comments and document types hold is of no use
here and is not kept.
-/

namespace Crosswalk.Html

/-- A start or end tag. -/
structure Tag where
  name : String
  attributes : List (String × String)
  selfClosing : Bool
deriving DecidableEq, Inhabited

/-- A token of HTML text. -/
inductive Token where
  /-- A run of characters, none of them U+0000. -/
  | text (s : List Char)
  /-- The character U+0000. -/
  | null
  | startTag (tag : Tag)
  | endTag (tag : Tag)
  /-- A comment, or what is read as one. -/
  | comment
  /-- A document type, or a tag that is dropped: it changes nothing. -/
  | nothing
  | eof

/-- How the text of an element is read. -/
inductive ContentModel where
  /-- Markup and references. -/
  | markup
  /-- References, but no markup except the end tag. -/
  | escapable
  /-- Neither references nor markup except the end tag. -/
  | raw
  /-- Like raw text, except that a script inside a comment may hold its own end tag. -/
  | script
  /-- Everything up to the end of the text. -/
  | plain
deriving DecidableEq

def isSpace (c : Char) : Bool :=
  c == ' ' || c == '\t' || c == '\n' || c == '\x0c'

def endsTagName (c : Char) : Bool :=
  isSpace c || c == '/' || c == '>'

def replaceNull (s : List Char) : List Char :=
  s.map fun c => if c.toNat = 0 then '\uFFFD' else c

def lowerName (s : List Char) : String :=
  String.ofList ((replaceNull s).map Char.toLower)

/-- What follows the first `>`. -/
def afterAngle (s : List Char) : List Char :=
  (s.dropWhile (· != '>')).drop 1

/-- What follows a comment, given what stands after its opening mark. -/
def afterComment (s : List Char) : List Char :=
  match s with
  | '>' :: rest => rest
  | '-' :: '>' :: rest => rest
  | _ => scan s
where
  /-- What follows the first closing mark. -/
  scan : List Char → List Char
    | [] => []
    | '-' :: '-' :: '>' :: rest => rest
    | '-' :: '-' :: '!' :: '>' :: rest => rest
    | _ :: rest => scan rest

/-- The value of an attribute after the equals sign, and what is left; nothing when the text ends
inside it. -/
def attributeValue? (s : List Char) : Option (List Char × List Char) :=
  match s.dropWhile isSpace with
  | [] => none
  | '"' :: rest => Text.cutAt '"' rest
  | '\'' :: rest => Text.cutAt '\'' rest
  | s =>
    let value := s.takeWhile fun c => !isSpace c && c != '>'
    some (value, s.drop value.length)

/-- Reads the attributes of a tag up to its end; nothing when the text ends before. The first of
two attributes with one name counts. -/
def tagRest? (name : String) : Nat → List (String × String) → List Char → Option (Tag × List Char)
  | 0, _, _ => none
  | fuel + 1, attributes, s =>
    match s.dropWhile isSpace with
    | [] => none
    | '>' :: rest => some (⟨name, attributes.reverse, false⟩, rest)
    | '/' :: '>' :: rest => some (⟨name, attributes.reverse, true⟩, rest)
    | '/' :: rest => tagRest? name fuel attributes rest
    | c :: rest =>
      let key := c :: rest.takeWhile fun c => !endsTagName c && c != '='
      let add (value : List Char) : List (String × String) :=
        let entry :=
          (lowerName key, String.ofList (resolveReferences true (replaceNull value)))
        if attributes.any (·.1 == entry.1) then attributes else entry :: attributes
      let after := (rest.drop (key.length - 1)).dropWhile isSpace
      match after with
      | '=' :: after =>
        match attributeValue? after with
        | some (value, after) => tagRest? name fuel (add value) after
        | none => none
      | _ => tagRest? name fuel (add []) after

/-- Reads a tag whose name begins here. A tag that the text ends in is dropped. -/
def readTag (make : Tag → Token) (s : List Char) : Token × List Char :=
  let name := s.takeWhile fun c => !endsTagName c
  match tagRest? (lowerName name) (s.length + 1) [] (s.drop name.length) with
  | some (tag, rest) => (make tag, rest)
  | none => (.nothing, [])

/-- Whether a text begins in a given way, whatever its cases. -/
def beginsWithName (name s : List Char) : Bool :=
  Text.beginsWith (name.map Char.toLower) (s.map Char.toLower)

def readDeclaration (foreign : Bool) (s : List Char) : Token × List Char :=
  if Text.beginsWith "--".toList s then (.comment, afterComment (s.drop 2))
  else if foreign && Text.beginsWith "[CDATA[".toList s then
    let s := s.drop 7
    match Text.cutAtText "]]>".toList s with
    | some (text, rest) => (.text (replaceNull text), rest)
    | none => (.text (replaceNull s), [])
  else if beginsWithName "doctype".toList s then (.nothing, afterAngle s)
  else (.comment, afterAngle s)

def readMarkup (foreign : Bool) (s : List Char) : Token × List Char :=
  match s with
  | '!' :: rest => readDeclaration foreign rest
  | '?' :: rest => (.comment, afterAngle rest)
  | ['/'] => (.text "</".toList, [])
  | '/' :: '>' :: rest => (.nothing, rest)
  | '/' :: c :: rest =>
    if c.isAlpha then readTag .endTag (c :: rest) else (.comment, afterAngle (c :: rest))
  | c :: _ => if c.isAlpha then readTag .startTag s else (.text ['<'], s)
  | [] => (.text ['<'], [])

def isEndTagOf (name s : List Char) : Bool :=
  beginsWithName ('<' :: '/' :: name) s && (s.drop (name.length + 2)).head?.any endsTagName

/-- What stands before the end tag of an element, and the rest from there on. -/
def splitAtEndTag (name : List Char) : List Char → List Char × List Char
  | [] => ([], [])
  | c :: rest =>
    if isEndTagOf name (c :: rest) then ([], c :: rest)
    else
      let (text, after) := splitAtEndTag name rest
      (c :: text, after)

/-- Where a place in a script stands: outside comments, in one, or in a script inside one; with the
number of hyphens just before it. -/
inductive ScriptPlace where
  | outside
  | comment (hyphens : Nat)
  | inner (hyphens : Nat)

/-- The letters at the front of a text are the name of scripts, and the name ends after them. -/
def isScriptName (s : List Char) : Bool :=
  let word := s.takeWhile Char.isAlpha
  word.map Char.toLower == "script".toList && (s.drop word.length).head?.any endsTagName

/-- How many characters to pass over at a place of a script that is not its end, and where the
place after them stands. -/
def ScriptPlace.step (place : ScriptPlace) (s : List Char) : Nat × ScriptPlace :=
  match place, s with
  | .outside, '<' :: '!' :: '-' :: '-' :: _ => (4, .comment 2)
  | .outside, _ => (1, .outside)
  | .comment n, '-' :: _ => (1, .comment (n + 1))
  | .comment n, '>' :: _ => (1, if 2 ≤ n then .outside else .comment 0)
  | .comment _, '<' :: rest => if isScriptName rest then (8, .inner 0) else (1, .comment 0)
  | .comment _, _ => (1, .comment 0)
  | .inner n, '-' :: _ => (1, .inner (n + 1))
  | .inner n, '>' :: _ => (1, if 2 ≤ n then .outside else .inner 0)
  | .inner _, '<' :: '/' :: rest => if isScriptName rest then (9, .comment 0) else (2, .inner 0)
  | .inner _, _ => (1, .inner 0)

/-- Whether the end tag of a script counts at a place. -/
def ScriptPlace.mayEnd : ScriptPlace → Bool
  | .inner _ => false
  | _ => true

/-- What stands before the end tag of a script, and the rest from there on. -/
def splitScript : Nat → ScriptPlace → List Char → List Char × List Char
  | _, _, [] => ([], [])
  | 0, _, s => (s, [])
  | fuel + 1, place, s =>
    if place.mayEnd && isEndTagOf "script".toList s then ([], s)
    else
      let (taken, next) := place.step s
      let (text, after) := splitScript fuel next (s.drop taken)
      (s.take taken ++ text, after)

/-- The next token where text is read by a content model and belongs to the element with a given
name, and what is left. `foreign` tells whether the element belongs to SVG or MathML. -/
def next (model : ContentModel) (element : String) (foreign : Bool) (s : List Char) :
    Token × List Char :=
  let upToEndTag (parts : List Char × List Char) (resolve : List Char → List Char) :
      Token × List Char :=
    match parts with
    | ([], []) => (.eof, [])
    | ([], rest) => readTag .endTag (rest.drop 2)
    | (text, rest) => (.text (replaceNull (resolve text)), rest)
  match model with
  | .markup =>
    match s with
    | [] => (.eof, [])
    | '<' :: rest => readMarkup foreign rest
    | c :: rest =>
      if c.toNat = 0 then (.null, rest)
      else
        let run := s.takeWhile fun c => c != '<' && c.toNat != 0
        (.text (resolveReferences false run), s.drop run.length)
  | .escapable => upToEndTag (splitAtEndTag element.toList s) (resolveReferences false)
  | .raw => upToEndTag (splitAtEndTag element.toList s) id
  | .script => upToEndTag (splitScript s.length .outside s) id
  | .plain => if s.isEmpty then (.eof, []) else (.text (replaceNull s), [])

end Crosswalk.Html
