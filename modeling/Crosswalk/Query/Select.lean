import Crosswalk.Query.Item
import Crosswalk.Query.Reader

/-!
What a query selects.

A step takes every item of a list to the items on its axis that pass its test and its predicates;
no item is selected twice. A query that cannot be read selects nothing.
-/

namespace Crosswalk.Query

/-- Puts items behind others, leaving out those that are there. -/
def addNew (items more : List Item) : List Item :=
  more.foldl (fun acc item => if acc.any item.same then acc else acc ++ [item]) items

def Item.attributes : Item → List Item
  | .node l => l.node.attributes.map (.attribute l)
  | _ => []

namespace Context

variable (c : Context)

/-- The text of an item: all text in it, or the value of an attribute. -/
def stringValue : Item → String
  | .top => String.join (c.topNodes.map fun l => l.node.stringValue)
  | .node l => l.node.stringValue
  | .attribute _ a => a.value

def children : Item → List Item
  | .top => c.topNodes.map .node
  | .node l => l.children.map .node
  | .attribute _ _ => []

def descendants : Item → List Item
  | .top => c.allNodes.map .node
  | .node l => l.descendants.map .node
  | .attribute _ _ => []

def parent? : Item → Option Item
  | .top => none
  | .node l => some (c.above l)
  | .attribute owner _ => some (.node owner)

def along : Axis → Item → List Item
  | .child, item => c.children item
  | .descendant, item => c.descendants item
  | .descendantOrSelf, item => item :: c.descendants item
  | .self, item => [item]
  | .parent, item => (c.parent? item).toList
  | .attributes, item => item.attributes

/-- Whether a name fits. Without a qualifier, attributes have no namespace, and elements none or the
one that names without a qualifier have in the document. -/
def fits (pattern : NamePattern) (isAttribute : Bool) (name : Xml.Name) : Bool :=
  (pattern.isWild || pattern.localName == name.localName) &&
    match pattern.qualifier with
    | some qualifier =>
      match c.namespaces.uri? qualifier with
      | some uri => name.uri == some uri
      | none => false
    | none =>
      pattern.isWild || name.uri.isNone || (!isAttribute && name.uri == c.namespaces.unqualified)

def passes (test : NodeTest) (axis : Axis) : Item → Bool
  | .top => test == .any
  | .node l =>
    match test with
    | .any => true
    | .text => l.node.isText
    | .name pattern =>
      axis != .attributes && l.node.elementName?.any (c.fits pattern false)
  | .attribute _ a =>
    match test with
    | .any => true
    | .text => false
    | .name pattern => axis == .attributes && c.fits pattern true a.name

def namedChildren (pattern : NamePattern) (item : Item) : List Item :=
  (c.children item).filter (c.passes (.name pattern) .child)

/-- The value of the first attribute of an item with a name. -/
def namedAttribute? (pattern : NamePattern) (item : Item) : Option String :=
  ((item.attributes).find? (c.passes (.name pattern) .attributes)).map c.stringValue

/-- Whether a condition that looks at one item alone holds. -/
def holds (item : Item) : Predicate → Bool
  | .position _ => true
  | .last => true
  | .has (.attribute name) => (c.namedAttribute? name item).isSome
  | .has (.child name) => !(c.namedChildren name item).isEmpty
  | .compares (.attribute name) value negated =>
    (c.namedAttribute? name item).any fun actual => (actual == value) != negated
  | .compares (.child name) value negated =>
    (c.namedChildren name item).any fun child => (c.stringValue child == value) != negated
  | .comparesSelf value negated => (c.stringValue item == value) != negated

/-- Keeps the items for which a predicate holds. Positions are counted from one. -/
def keep (items : List Item) : Predicate → List Item
  | .position n => if n = 0 then [] else (items[n - 1]?).toList
  | .last => items.getLast?.toList
  | other => items.filter fun item => c.holds item other

/-- The items that a step leads to from one item. -/
def stepFrom (step : Step) (item : Item) : List Item :=
  step.predicates.foldl c.keep ((c.along step.axis item).filter (c.passes step.test step.axis))

/-- The items that a step leads to from a list of items. -/
def stepAll (items : List Item) (step : Step) : List Item :=
  items.foldl (fun acc item => addNew acc (c.stepFrom step item)) []

def follow (path : Path) (item : Item) : List Item :=
  path.steps.foldl c.stepAll [if path.isAbsolute then .top else item]

/-- The items that a query selects. -/
def select (query : Query) : List Item :=
  query.paths.foldl (fun acc path => addNew acc (c.follow path .top)) []

def selectText (query : String) : List Item :=
  match Query.parse? query with
  | some query => c.select query
  | none => []

def strings (query : String) : List String :=
  (c.selectText query).map c.stringValue

end Context

end Crosswalk.Query
