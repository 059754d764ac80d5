import Crosswalk.Host
import Crosswalk.Json.Flag
import Crosswalk.Json.Record

/-!
Requests for extraction.

A request is read from left to right, and the first thing wrong with it is its failure. A format
that is not known is named in the failure, which cannot be told when the name holds U+0000. The name
is read before what follows it, so it does not matter whether the text goes on as a request.
-/

namespace Crosswalk.Exchange

/-- The failure of a call. -/
inductive Failure where
  /-- The text of a document or mapping is not UTF-8. -/
  | invalidText
  /-- There is no request. -/
  | noRequest
  /-- The request is not UTF-8. -/
  | invalidRequest
  /-- The request is no readable request for extraction. -/
  | unreadableRequest
  /-- The request holds no readable groups. -/
  | unreadableGroups
  /-- The document is no JSON text. -/
  | unreadableSource
  /-- The cause cannot be told, since its text would hold the character U+0000. -/
  | unknown
deriving DecidableEq, Inhabited

/-- The text of a failure, up to where the details of the reader begin. -/
def Failure.message : Failure → String
  | .invalidText => "Invalid UTF-8 in input"
  | .noRequest => "Request JSON is null"
  | .invalidRequest => "Invalid UTF-8 in request JSON"
  | .unreadableRequest => "Failed to parse request JSON: "
  | .unreadableGroups => "Failed to parse groups JSON: "
  | .unreadableSource => "Failed to parse source JSON: "
  | .unknown => "Unknown error"

/-! ### Reading requests -/

/-- The format of a document. -/
inductive Format where
  | json
  | xml
deriving DecidableEq, Inhabited

/-- What to extract: the rules, the format of the document, whether it is a list of records, and
what the host knows. -/
structure Request where
  mapping : String
  format : Format
  isList : Bool
  dataTypes : Table String
  properties : Table Nat
deriving DecidableEq

def Format.ofName? : String → Option Format
  | "json" => some .json
  | "xml" => some .xml
  | _ => none

/-- Decodes a format: its name, or an object with its name and null. -/
def Format.ofJson? : Json → Option Format
  | .text name => Format.ofName? name
  | .object [(name, .null)] => Format.ofName? name
  | _ => none

/-- The name by which a document gives a format, if there is no such format. -/
def unknownName? : Json → Option String
  | .text name | .object ((name, _) :: _) =>
    if (Format.ofName? name).isNone then some name else none
  | _ => none

namespace Request

/-- The fields, in the order in which an array gives them. -/
def fields : List String := ["mapping", "format", "list", "data_types", "properties"]

/-- Decodes a request. Only the mapping has to be given. -/
def ofJson? (j : Json) : Option Request := do
  let r ← Json.record? fields j
  let mapping ← Json.required Json.asText? (r "mapping")
  let format ← Json.withDefault .json Format.ofJson? (r "format")
  let isList ← Json.withDefault false Json.asBool? (r "list")
  let dataTypes ← Json.withDefault Table.empty (Json.tableOf? Json.asText?) (r "data_types")
  let properties ← Json.withDefault Table.empty (Json.tableOf? Json.asNat?) (r "properties")
  some ⟨mapping, format, isList, dataTypes, properties⟩

/-- Whether a value can be decoded for a field. What is no field may have any value. -/
def isReadable (field : String) (value : Json) : Bool :=
  match field with
  | "mapping" => value.asText?.isSome
  | "format" => (Format.ofJson? value).isSome
  | "list" => value.asBool?.isSome
  | "data_types" => (Json.tableOf? Json.asText? value).isSome
  | "properties" => (Json.tableOf? Json.asNat? value).isSome
  | _ => true

/-- The unknown format that the first wrong one of some members names. A member is wrong when its
field was given before, or when its value cannot be decoded. -/
def unknownFormatIn? (given : List String) : List (String × Json) → Option String
  | [] => none
  | (key, value) :: rest =>
    if fields.contains key && given.contains key then none
    else if isReadable key value then unknownFormatIn? (key :: given) rest
    else if key == "format" then unknownName? value
    else none

/-- The members that a request is made of, as far as it can be read. -/
def givenMembers (text : String) : List (String × Json) :=
  match Json.readRecordBeginning? fields text with
  | some (.object members) => members
  | some (.array items) => fields.zip items
  | _ => []

def read? (text : String) : Option Request := (Json.readRecord? fields text).bind ofJson?

/-- The unknown format that is the first thing wrong with a request. -/
def unknownFormat? (text : String) : Option String := unknownFormatIn? [] (givenMembers text)

/-- The failure of a request that cannot be read. -/
def failureOf (text : String) : Failure :=
  if (unknownFormat? text).any (·.toList.contains '\x00') then .unknown else .unreadableRequest

def read (text : String) : Except Failure Request :=
  match read? text with
  | some request => .ok request
  | none => .error (failureOf text)

def registry (r : Request) : Host.Registry :=
  .ofDeclared (r.dataTypes.filterMapValues fun _ base => Category.ofBuiltin? base)

def catalog (r : Request) : Host.Catalog :=
  .ofTable (r.properties.mapValues fun id => (id, none))

end Request

end Crosswalk.Exchange
