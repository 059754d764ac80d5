import Crosswalk.Json.Flag
import Crosswalk.Mapping.Target
import Crosswalk.Text.Basic

/-!
Writing targets, rules and groups, as mapping text and as JSON documents.

In a mapping text a group is its header, its query, its address and its rules, with those rules
first whose pattern is a marker. Groups stand one blank line apart. In a document a target is one
object: the members of its description, then its placeholders and expressions. Members without a
value and empty tables are left out.
-/

namespace Crosswalk.Mapping

/-- Writes a target; without a field it is the pattern alone. -/
def Target.write (t : Target) : List Char :=
  if t.spec.field = "" then (t.spec.pattern.getD "").toList else t.spec.write

def Target.toText (t : Target) : String := String.ofList t.write

/-- The rules of a list with those first whose pattern is a marker. -/
def promote (rules : List Rule) : List Rule :=
  rules.filter (·.target.isPromoted) ++ rules.filter fun rule => !rule.target.isPromoted

def Rule.write (rule : Rule) : List Char :=
  rule.source.toList ++ " = ".toList ++ rule.target.write

def Group.writeHeader (g : Group) : List Char :=
  '[' :: g.key.toList ++ ']' :: Field.Spec.markedText " = ".toList g.label

def Group.writeLines (g : Group) : List (List Char) :=
  [g.writeHeader] ++ (g.query.map fun query => '?' :: query.toList).toList ++
    (g.url.map String.toList).toList ++ (promote g.rules).map Rule.write

def writeGroups (groups : Table Group) : List Char :=
  let text := Text.join ['\n', '\n'] (groups.values.map fun g => Text.join ['\n'] g.writeLines)
  if text.isEmpty then [] else text ++ ['\n']

def groupsText (groups : Table Group) : String := String.ofList (writeGroups groups)

/-! ### Documents -/

def tableJson {α : Type} (encode : α → Json) (t : Table α) : Json :=
  .object (t.entries.map fun (key, value) => (key, encode value))

def tableJson? {α : Type} (encode : α → Json) (t : Table α) : Option Json :=
  if t.isEmpty then none else some (tableJson encode t)

def specMembers (spec : Field.Spec) : List (String × Option Json) :=
  [("field", some (.text spec.field)), ("type", spec.dataType.map .text),
    ("@language", spec.language.map .text), ("is_public", spec.isPublic.map .bool),
    ("pattern", spec.pattern.map .text)]

def specJson (spec : Field.Spec) : Json := Json.objectOf (specMembers spec)

def callJson (call : Filter.Call) : Json :=
  Json.objectOf
    [("name", some (.text call.name)),
      ("args", if call.args.isEmpty then none else some (.array (call.args.map .text)))]

def pipelineJson (p : Filter.Pipeline) : Json :=
  .object [("variable", .text p.subject), ("filters", .array (p.calls.map callJson))]

def targetJson (t : Target) : Json :=
  Json.objectOf
    (specMembers t.spec ++
      [("replace", tableJson? .text t.replace), ("filters", tableJson? pipelineJson t.filters)])

def ruleJson (rule : Rule) : Json :=
  .object [("from", .text rule.source), ("to", targetJson rule.target)]

def groupMembers (g : Group) : List (String × Option Json) :=
  [("service", some (.text g.service)), ("sub", g.sub.map .text), ("variant", g.variant.map .text),
    ("label", g.label.map .text), ("url", g.url.map .text), ("query", g.query.map .text),
    ("mapping", some (.array (g.rules.map ruleJson)))]

def groupJson (g : Group) : Json := Json.objectOf (groupMembers g)

def groupsJson (groups : Table Group) : Json := tableJson groupJson groups

end Crosswalk.Mapping
