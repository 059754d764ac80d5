import Crosswalk.Json.Token

/-!
Reading a document from its tokens.

The reader keeps the arrays and objects that are still open, innermost first, and what may come
next. No more than a given number of them may be open at a time.
-/

namespace Crosswalk.Json

/-- An array or object that is still open, with what it holds so far, last first. An object holds
the name of the member whose value is being read. -/
inductive Frame where
  | array (items : List Json)
  | object (members : List (String × Json)) (key : String)

/-- What may come next. -/
inductive Expected where
  /-- A value. -/
  | value
  /-- The first item of an array, or its end. -/
  | firstItem
  /-- The first name of an object, or its end. -/
  | firstKey
  /-- A name, in an object with the given members. -/
  | key (members : List (String × Json))
  /-- The colon after a name. -/
  | colon (members : List (String × Json)) (key : String)
  /-- A comma or the end of an array with the given items. -/
  | afterItem (items : List Json)
  /-- A comma or the end of an object with the given members. -/
  | afterMember (members : List (String × Json))
  /-- Nothing: the document is complete. -/
  | done (value : Json)

/-- What is open and what may come next. -/
structure Progress where
  frames : List Frame
  expected : Expected

/-- Where reading stands after a complete value. -/
def Progress.complete (value : Json) : List Frame → Progress
  | [] => ⟨[], .done value⟩
  | .array items :: frames => ⟨frames, .afterItem (value :: items)⟩
  | .object members key :: frames => ⟨frames, .afterMember ((key, value) :: members)⟩

/-- Takes a token that begins a value. `limit` bounds how many arrays and objects are open, the one
that a token opens included. -/
def Progress.begin (limit : Nat) (frames : List Frame) : Token → Option Progress
  | .text s => some (.complete (.text s) frames)
  | .scalar value => some (.complete value frames)
  | .openArray => if frames.length < limit then some ⟨frames, .firstItem⟩ else none
  | .openObject => if frames.length < limit then some ⟨frames, .firstKey⟩ else none
  | _ => none

def Progress.take (limit : Nat) (p : Progress) (token : Token) : Option Progress :=
  match p.expected, token with
  | .value, token => Progress.begin limit p.frames token
  | .firstItem, .closeArray => some (.complete (.array []) p.frames)
  | .firstItem, token => Progress.begin limit (.array [] :: p.frames) token
  | .firstKey, .closeObject => some (.complete (.object []) p.frames)
  | .firstKey, .text key => some ⟨p.frames, .colon [] key⟩
  | .key members, .text key => some ⟨p.frames, .colon members key⟩
  | .colon members key, .colon => some ⟨.object members key :: p.frames, .value⟩
  | .afterItem items, .comma => some ⟨.array items :: p.frames, .value⟩
  | .afterItem items, .closeArray => some (.complete (.array items.reverse) p.frames)
  | .afterMember members, .comma => some ⟨p.frames, .key members⟩
  | .afterMember members, .closeObject =>
    some (.complete (.object members.reverse) p.frames)
  | _, _ => none

def Progress.run (limit : Nat) (p : Progress) : List Token → Option Progress
  | [] => some p
  | token :: rest => (p.take limit token).bind fun next => next.run limit rest

/-- How many arrays and objects may be open at a time. -/
def nestingLimit : Nat := 127

def ofTokens? (limit : Nat) (tokens : List Token) : Option Json :=
  (Progress.run limit ⟨[], .value⟩ tokens).bind fun p =>
    match p.expected with
    | .done value => some value
    | _ => none

/-- Reads a document as it is written: a name may stand twice in an object. -/
def read? (s : String) : Option Json :=
  ofTokens? nestingLimit (tokens s.toList)

/-- Reads a document; of two members with one name the first keeps its place and the last its
value. -/
def parse? (s : String) : Option Json :=
  (read? s).map merged

end Crosswalk.Json
