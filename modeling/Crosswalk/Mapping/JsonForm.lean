import Crosswalk.Json.Flag
import Crosswalk.Mapping.Target

/-!
Reading rules and groups from JSON documents.

A member that is not given is empty, as is a text that is null. A rule needs its source and its
target, a group its service.
-/

namespace Crosswalk.Mapping

/-- Reads a text that may be null. -/
def nullableText (value : Option Json) : Option (Option String) :=
  Json.withDefault none (Json.nullable Json.asText?) value

def callOfJson? (j : Json) : Option Filter.Call := do
  let r ← Json.record? ["name", "args"] j
  let name ← Json.required Json.asText? (r "name")
  let args ← Json.withDefault [] (Json.listOf? Json.asText?) (r "args")
  some ⟨name, args⟩

def pipelineOfJson? (j : Json) : Option Filter.Pipeline := do
  let r ← Json.record? ["variable", "filters"] j
  let subject ← Json.required Json.asText? (r "variable")
  let calls ← Json.required (Json.listOf? callOfJson?) (r "filters")
  some ⟨subject, calls⟩

def targetOfJson? (j : Json) : Option Target := do
  let object ←
    match j with
    | .object members => some (Json.object members)
    | _ => none
  let r ←
    Json.record? ["field", "type", "@language", "is_public", "pattern", "replace", "filters"] object
  let field ← Json.required Json.asText? (r "field")
  let dataType ← nullableText (r "type")
  let language ← nullableText (r "@language")
  let isPublic ← Json.withDefault none (Json.nullable Json.asBool?) (r "is_public")
  let pattern ← nullableText (r "pattern")
  let replace ← Json.withDefault Table.empty (Json.tableOf? Json.asText?) (r "replace")
  let filters ← Json.withDefault Table.empty (Json.tableOf? pipelineOfJson?) (r "filters")
  some ⟨⟨field, dataType, language, isPublic, pattern⟩, replace, filters⟩

def ruleOfJson? (j : Json) : Option Rule := do
  let r ← Json.record? ["from", "to"] j
  let source ← Json.required Json.asText? (r "from")
  let target ← Json.required targetOfJson? (r "to")
  some ⟨source, target⟩

def rulesOfJson? (j : Json) : Option (List Rule) := Json.listOf? ruleOfJson? j

def groupOfJson? (j : Json) : Option Group := do
  let r ← Json.record? ["service", "sub", "variant", "label", "url", "query", "mapping"] j
  let service ← Json.required Json.asText? (r "service")
  let sub ← nullableText (r "sub")
  let variant ← nullableText (r "variant")
  let label ← nullableText (r "label")
  let url ← nullableText (r "url")
  let query ← nullableText (r "query")
  let rules ← Json.withDefault [] rulesOfJson? (r "mapping")
  some ⟨service, sub, variant, label, url, query, rules⟩

def groupsOfJson? (j : Json) : Option (Table Group) := Json.tableOf? groupOfJson? j

end Crosswalk.Mapping
