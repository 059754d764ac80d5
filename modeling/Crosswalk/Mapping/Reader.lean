import Crosswalk.Mapping.Target

/-!
Reading mapping text.

Mapping text is read by lines. A header in brackets opens a group; the lines after it give the
query of the group, its address and its rules. Blank lines, lines that a semicolon begins and what
cannot be read are passed over.
-/

namespace Crosswalk.Mapping

/-- A text, unless it is blank; without the blanks at its ends. -/
def nonBlank? (s : List Char) : Option String :=
  let s := Text.trim s
  if s.isEmpty then none else some (String.ofList s)

/-- Whether a character can stand in the name of a service. -/
def isServicePart (c : Char) : Bool :=
  !Text.isBlank c && c != ':' && c != '#' && c != '[' && c != ']'

/-- Whether a character can stand in the name of a part of a service. -/
def isSubPart (c : Char) : Bool :=
  !Text.isBlank c && c != '#' && c != '[' && c != ']'

/-- The part of a service after a colon, and what is left; a colon with nothing after it is
refused. -/
def readSub? (s : List Char) : Option (Option String × List Char) :=
  match s with
  | ':' :: rest =>
    let rest := Text.trimStart rest
    let sub := rest.takeWhile isSubPart
    if sub.isEmpty then none
    else some (some (String.ofList sub), Text.trimStart (rest.drop sub.length))
  | _ => some (none, s)

/-- The variant after a number sign, up to the closing bracket, and what is left. -/
def readVariant? (s : List Char) : Option (Option String × List Char) :=
  match s with
  | '#' :: rest => (Text.cutAt ']' rest).map fun (variant, rest) => (nonBlank? variant, rest)
  | ']' :: rest => some (none, rest)
  | _ => none

/-- The label after the closing bracket and an optional equals sign. -/
def readLabel? (s : List Char) : Option String :=
  match Text.trimStart s with
  | '=' :: rest => nonBlank? rest
  | rest => nonBlank? rest

/-- Reads a header such as `[idref : person # viaf] = IdRef persons`. -/
def readHeader? (line : List Char) : Option Group :=
  match line with
  | '[' :: rest =>
    let rest := Text.trimStart rest
    let service := rest.takeWhile isServicePart
    if service.isEmpty then none
    else
      (readSub? (Text.trimStart (rest.drop service.length))).bind fun (sub, rest) =>
        (readVariant? rest).map fun (variant, rest) =>
          { Group.ofService (String.ofList service) with
            sub := sub, variant := variant, label := readLabel? rest }
  | _ => none

/-- Splits a rule into source and target: at the first equals sign in front of the pattern or, for
a constant, at the last one in front of it. -/
def splitRule? (line : List Char) : Option (List Char × List Char) :=
  match line with
  | '~' :: rest =>
    let before := rest.takeWhile (· != '~')
    (Text.cutAtLast '=' before).map fun (source, target) =>
      ('~' :: source, target ++ rest.drop before.length)
  | _ =>
    let before := line.takeWhile (· != '~')
    (Text.cutAt '=' before).map fun (source, target) =>
      (source, target ++ line.drop before.length)

/-- Reads a rule such as `countryName = dcterms:spatial @en`. -/
def readRule? (line : List Char) : Option Rule :=
  (splitRule? line).bind fun (source, target) =>
    let source := Text.trim source
    let target := Text.trim target
    if source.isEmpty ∨ target.isEmpty then none
    else (Target.read? target).map fun target => ⟨String.ofList source, target⟩

def parseRule? (line : String) : Option Rule := readRule? line.toList

/-- Whether a trimmed line says nothing: it is empty or a comment. -/
def isIdle (line : List Char) : Bool :=
  line.isEmpty || line.head? == some ';'

/-- The lines of a text, trimmed, without those that say nothing. -/
def linesOf (s : List Char) : List (List Char) :=
  ((Text.lines s).map Text.trim).filter fun line => !isIdle line

/-- What a line adds to a group: the query after a question mark, an address, or a rule. -/
def Group.addLine (g : Group) (line : List Char) : Group :=
  match line with
  | '?' :: query => { g with query := some (String.ofList query) }
  | _ =>
    if Text.beginsWith "http://".toList line || Text.beginsWith "https://".toList line then
      { g with url := some (String.ofList line) }
    else
      match readRule? line with
      | some rule => { g with rules := g.rules ++ [rule] }
      | none => g

/-- The groups read so far, and the key of the one that is open. -/
structure Reading where
  groups : Table Group
  current : Option String
deriving DecidableEq

def Reading.start : Reading := ⟨Table.empty, none⟩

/-- Takes a line. A header opens a group, in the place of one with the same key; a header that
cannot be read changes nothing. -/
def Reading.addLine (r : Reading) (line : List Char) : Reading :=
  match line with
  | '[' :: _ =>
    match readHeader? line with
    | some group => ⟨r.groups.set group.key group, some group.key⟩
    | none => r
  | _ =>
    match r.current with
    | some key =>
      match r.groups.get? key with
      | some group => { r with groups := r.groups.set key (group.addLine line) }
      | none => r
    | none => r

def readGroups (s : List Char) : Table Group :=
  ((linesOf s).foldl Reading.addLine Reading.start).groups

/-- Reads the groups of a text under their keys. -/
def parseGroups (s : String) : Table Group := readGroups s.toList

def parseRules (s : String) : List Rule :=
  ((linesOf s.toList).filter fun line => line.head? != some '[').filterMap readRule?

end Crosswalk.Mapping
