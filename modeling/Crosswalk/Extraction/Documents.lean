import Crosswalk.Extraction.Run
import Crosswalk.Json.Reader
import Crosswalk.Xml.Reader

/-!
Extracting from JSON and XML documents, as one record or as a list of records.

The first rule whose target selects records says where they are; without one the document is the
only record. Records that give neither a label nor a value are left out. An XML document that is
not well formed gives nothing.
-/

namespace Crosswalk.Extraction

open Crosswalk.Mapping

def listRule? (rules : List Rule) : Option Rule :=
  rules.find? fun rule => rule.target.role = .list

/-- A document to extract from. -/
inductive Document where
  | json (j : Json)
  | xml (d : Xml.Document)
  /-- An XML text that is not well formed. -/
  | malformed

def Document.ofXml (text : String) : Document :=
  match Xml.Document.parse? text with
  | some d => .xml d
  | none => .malformed

def Document.source? (isInternal : Bool) : Document → Option Source
  | .json j => some (.ofJson isInternal j)
  | .xml d => some (.ofContext (.ofDocument d))
  | .malformed => none

/-- The documents that a locator selects as records: the items of an array, or the values of an
object. -/
def jsonRecords (locator : String) (j : Json) : List Json :=
  match j.atKey? locator with
  | some (.array items) => items
  | some (.object members) => members.map Prod.snd
  | _ => []

/-- The elements that a query selects as records, each as a context of its own. -/
def xmlRecords (query : String) (d : Xml.Document) : List Query.Context :=
  let c := Query.Context.ofDocument d
  (c.selectText query).filterMap fun
    | .node l => if l.node.isElement then some (c.ofRecord l) else none
    | _ => none

/-- The sources of the records of a document. -/
def Document.records (isInternal : Bool) (rules : List Rule) (d : Document) : List Source :=
  match listRule? rules with
  | none => (d.source? isInternal).toList
  | some rule =>
    match d with
    | .json j => (jsonRecords rule.source j).map (.ofJson isInternal)
    | .xml d => (xmlRecords rule.source d).map .ofContext
    | .malformed => []

/-- What a document as one record comes to. -/
def documentOutcomes (e : Extractor) (d : Document) (rules : List Rule) : List Outcome :=
  match d.source? e.isInternal with
  | some source => outcomes e source rules
  | none => []

/-- What the records of a document come to, one after the other. -/
def recordOutcomes (e : Extractor) (d : Document) (rules : List Rule) : List (List Outcome) :=
  (d.records e.isInternal rules).map fun source => outcomes e source rules

def extract (e : Extractor) (d : Document) (rules : List Rule) : Result :=
  .ofOutcomes (documentOutcomes e d rules)

/-- The useful results of the records of a document. Without a rule for records there is one
result, useful or not. -/
def extractList (e : Extractor) (d : Document) (rules : List Rule) : List Result :=
  match listRule? rules with
  | none => [extract e d rules]
  | some _ => ((recordOutcomes e d rules).map Result.ofOutcomes).filter Result.isUseful

/-- The texts of a document with where they come from and go to. -/
def extractSimple (e : Extractor) (d : Document) (rules : List Rule) : List Triple :=
  match d.source? e.isInternal with
  | some source => runSimple source rules
  | none => []

def extractRule? (e : Extractor) (d : Document) (rule : Rule) : Option String :=
  (d.source? e.isInternal).bind fun source => runRule? source rule

end Crosswalk.Extraction
