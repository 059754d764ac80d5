import Crosswalk.Extraction.Documents
import Crosswalk.Service.Settings
import Crosswalk.Url.Basic

/-!
Requests to services, and suggestions from the records that a service answers with.

The query of a group is filled with the parameters of a request, each in the form of HTML forms and
one parameter after the other, and is put behind the query that the address has. A record whose
display text is not blank makes a suggestion. The host may count how often the addresses of
suggestions are in use; those used most stand first then, and equals keep their order.
-/

namespace Crosswalk.Service

open Crosswalk.Mapping Crosswalk.Extraction

/-- The language of a locale: what stands before the first underscore or hyphen. -/
def languageOf (locale : Option String) : List Char :=
  (locale.getD "").toList.takeWhile fun c => c != '_' && c != '-'

/-- The placeholders of a query with the values that are put in, in the order in which they are. -/
def parameters (s : Settings) (query : String) (locale : Option String) :
    List (List Char × List Char) :=
  [("\x7bquery\x7d".toList, Text.trim query.toList),
    ("\x7blanguage\x7d".toList, languageOf locale),
    ("\x7bmax_results\x7d".toList, Text.ofNat s.maxResults),
    ("\x7busername\x7d".toList, s.geonamesUsername.toList)]

def fillQuery (parameters : List (List Char × List Char)) (template : List Char) : List Char :=
  parameters.foldl
    (fun acc (placeholder, value) => Text.replaceText placeholder (Url.Percent.form value) acc)
    template

def joinQuery (existing : Option (List Char)) (more : List Char) : List Char :=
  match existing with
  | some [] => more
  | some query => query ++ '&' :: more
  | none => more

def queryText (s : Settings) (p : Provider) (g : Group) (query : String)
    (locale : Option String) : List Char :=
  fillQuery (parameters s query locale) ((g.query <|> p.query? g.sub).getD "").toList

/-- The address of a service, from its group or else its kind. -/
def baseUrl (p : Provider) (g : Group) : Except Problem Url :=
  match g.url <|> p.url? with
  | none => .error (.noUrl g.key)
  | some base =>
    match Url.read base.toList with
    | .ok url => .ok url
    | .error cause => .error (.invalidUrl g.key cause)

def requestUrl (s : Settings) (p : Provider) (g : Group) (query : String)
    (locale : Option String) : Except Problem String :=
  (baseUrl p g).map fun url =>
    let text := queryText s p g query locale
    let url := if text.isEmpty then url else url.setQuery (joinQuery url.query text)
    String.ofList url.write

/-! ### Suggestions -/

/-- A suggestion: what is displayed, the address of its record, the values to be filled in, and how
often the address is in use. -/
structure Suggestion where
  display : String
  uri : Option String
  data : ValueTable
  count : Option Nat
deriving DecidableEq, Inhabited

namespace Suggestion

/-- The values without links that are not verified, and without terms that have no value then. -/
def verified (values : ValueTable) : ValueTable :=
  (values.mapValues fun list => list.filter (!·.isUnresolved)).filter fun _ list => !list.isEmpty

/-- The suggestion that a result makes, if the text it displays is not blank: its label or else its
first value. -/
def ofResult? (r : Result) : Option Suggestion :=
  let r := { r with values := verified r.values }
  let display := (r.label <|> r.firstText?).filter fun s => !Text.isAllBlank s.toList
  display.map fun display => ⟨display, r.firstUri?, r.values, none⟩

def toJson (s : Suggestion) : Json :=
  Json.objectOf
    [("value", some (.text s.display)), ("uri", s.uri.map .text),
      ("data", some (ValueTable.toJson s.data)), ("count", s.count.map .ofNat)]

/-- Gives a suggestion that has an address the number of its uses. -/
def withCount (count : String → Option Nat) (s : Suggestion) : Suggestion :=
  match s.uri with
  | some uri => { s with count := some ((count uri).getD 0) }
  | none => s

/-- Whether a suggestion may stand before another: it is not used less often. -/
def notAfter (a b : Suggestion) : Bool := b.count.getD 0 ≤ a.count.getD 0

end Suggestion

/-- A call of the counter: the addresses that are counted, and their data type. -/
structure Counting where
  uris : List String
  dataType : Option String
deriving DecidableEq, Inhabited

/-- The first data type of addresses among the fields of a mapping. -/
def uriType? (registry : Host.Registry) (rules : List Rule) : Option String :=
  rules.findSome? fun rule =>
    if rule.target.role = .field then
      rule.target.spec.dataType.filter fun t => registry.categoryOf t == .uri
    else none

/-- The call that counts the uses of suggestions. Without addresses there is none. -/
def counting? (registry : Host.Registry) (rules : List Rule) (suggestions : List Suggestion) :
    Option Counting :=
  let uris := suggestions.filterMap (·.uri)
  if uris.isEmpty then none else some ⟨uris, uriType? registry rules⟩

/-- Counts the uses of suggestions and puts those used most first. -/
def rank (counter : Host.Counter) (call : Counting) (suggestions : List Suggestion) :
    List Suggestion :=
  (suggestions.map (Suggestion.withCount (counter.count call.uris call.dataType))).mergeSort
    Suggestion.notAfter

/-- What a service is asked. -/
structure Request where
  url : String
  accept : String
deriving DecidableEq, Inhabited

/-- What a query for suggestions comes to. There are no suggestions when the service could not be
asked or its answer could not be read. -/
structure Answer where
  suggestions : Option (List Suggestion)
  request : Option Request
  counting : Option Counting
  reads : List Read

/-- The answer of a service as a document, if it can be read. -/
def readBody? (p : Provider) (body : String) : Option Document :=
  if p.isXml then (Xml.Document.parse? body).map .xml else (Json.parse? body).map .json

/-- The suggestions among the results of a service, in its order and no more than asked for. -/
def kept (s : Settings) (results : List Result) : List Suggestion :=
  (results.filterMap Suggestion.ofResult?).take s.maxResults

/-- Makes suggestions of the document that a service answers with. -/
def answerFrom (s : Settings) (e : Extractor) (counter : Option Host.Counter) (rules : List Rule)
    (request : Request) (document : Document) : Answer :=
  let suggestions := kept s (extractList e document rules)
  let reads := readsOf (recordOutcomes e document rules).flatten
  match counter, counting? e.registry rules suggestions with
  | some counter, some call =>
    ⟨some (rank counter call suggestions), some request, some call, reads⟩
  | _, _ => ⟨some suggestions, some request, none, reads⟩

/-- Asks an autofiller for suggestions. `fetch` gives the text that a request is answered with. -/
def suggest (s : Settings) (e : Extractor) (counter : Option Host.Counter)
    (fetch : Request → Except Failure String) (a : Autofiller) (query : String)
    (locale : Option String) : Answer :=
  match requestUrl s a.provider a.group query locale with
  | .error _ => ⟨none, none, none, []⟩
  | .ok url =>
    let request : Request := ⟨url, a.provider.accept⟩
    match fetch request with
    | .error _ => ⟨none, some request, none, []⟩
    | .ok body =>
      match readBody? a.provider body with
      | none => ⟨none, some request, none, []⟩
      | some document => answerFrom s e counter a.group.rules request document

end Crosswalk.Service
