import Crosswalk.Exchange.Request
import Crosswalk.Extraction.Documents
import Crosswalk.Mapping.JsonForm
import Crosswalk.Mapping.Printer
import Crosswalk.Mapping.Reader

/-!
Calls that take bytes and give JSON text, and what they hand over.

Texts come with their length; a request ends before its first zero byte. A text or request that is
not there is none. A call hands over a JSON text or the text of a failure, each with a zero byte
behind it, so neither may hold U+0000. In place of a JSON text that holds it stands a failure, and
in place of the text of a failure one that names no cause.
-/

namespace Crosswalk.Exchange

open Crosswalk.Mapping Crosswalk.Extraction

def decode? (bytes : List UInt8) : Option String := String.fromUTF8? ⟨bytes.toArray⟩

/-- Reads a text; one that is not there is empty. -/
def readText (bytes : Option (List UInt8)) : Except Failure String :=
  match decode? (bytes.getD []) with
  | some text => .ok text
  | none => .error .invalidText

def readRequest (bytes : Option (List UInt8)) : Except Failure String :=
  match bytes with
  | none => .error .noRequest
  | some bytes =>
    match decode? (bytes.takeWhile (· ≠ 0)) with
    | some text => .ok text
    | none => .error .invalidRequest

def parseMapping (text : Option (List UInt8)) : Except Failure String :=
  (readText text).map fun text => (groupsJson (parseGroups text)).toText

/-- The mapping text of groups that are given as JSON text, as a JSON text of its own. -/
def serializeMapping (groups : Option (List UInt8)) : Except Failure String := do
  let text ← readRequest groups
  match (Json.read? text).bind groupsOfJson? with
  | some groups => .ok (Json.text (groupsText groups)).toText
  | none => .error .unreadableGroups

/-- The document that a request is about. An XML text that is not well formed is no failure. -/
def readDocument (format : Format) (text : String) : Except Failure Document :=
  match format with
  | .xml => .ok (.ofXml text)
  | .json =>
    match Json.parse? text with
    | some j => .ok (.json j)
    | none => .error .unreadableSource

/-- What a request extracts from a document. -/
def answer (r : Request) (d : Document) : Json :=
  let e : Extractor := ⟨r.registry, some r.catalog, none, false⟩
  let rules := parseRules r.mapping
  if r.isList then .array ((extractList e d rules).map Result.toJson)
  else (extract e d rules).toJson

/-- The values that a request extracts from a document, as JSON text. -/
def extractValues (source request : Option (List UInt8)) : Except Failure String := do
  let text ← readText source
  let requestText ← readRequest request
  let request ← Request.read requestText
  let document ← readDocument request.format text
  .ok (answer request document).toText

/-! ### Replies -/

/-- A text that ends at its first zero byte. -/
structure EndedText where
  text : String
  zero_not_mem : '\x00' ∉ text.toList
deriving DecidableEq

namespace EndedText

def of? (s : String) : Option EndedText :=
  if h : '\x00' ∈ s.toList then none else some ⟨s, h⟩

/-- The text of a failure that cannot be told. -/
def unknown : EndedText := ⟨Failure.unknown.message, by decide⟩

end EndedText

/-- The two texts of a reply, one of which is there. -/
structure Reply where
  json : Option EndedText
  error : Option EndedText
deriving DecidableEq

namespace Reply

def failed (message : String) : Reply :=
  ⟨none, some ((EndedText.of? message).getD .unknown)⟩

def done (json : String) : Reply :=
  match EndedText.of? json with
  | some text => ⟨some text, none⟩
  | none => failed "Result JSON contains null bytes"

end Reply

/-- The words in which a reader of JSON tells what is wrong with a request or a document. -/
structure Wording where
  request : String → String
  source : String → String

/-- The reply to a call for the values that a request extracts from a document. The words of the
reader stand behind the text of a failure to read JSON. -/
def extractReply (w : Wording) (source request : Option (List UInt8)) : Reply :=
  match readText source with
  | .error f => .failed f.message
  | .ok text =>
    match readRequest request with
    | .error f => .failed f.message
    | .ok requestText =>
      match Request.read? requestText with
      | none => .failed (Failure.unreadableRequest.message ++ w.request requestText)
      | some r =>
        match readDocument r.format text with
        | .error f => .failed (f.message ++ w.source text)
        | .ok document => .done (answer r document).toText

end Crosswalk.Exchange
