/-!
Node queries: unions of paths whose steps move along an axis, test the nodes found there and keep
those for which predicates hold.
-/

namespace Crosswalk.Query

/-- A name as a query writes it. The local part may be `*`, which every name fits. -/
structure NamePattern where
  qualifier : Option String
  localName : String
deriving DecidableEq, Inhabited

/-- Whether any local name fits. -/
def NamePattern.isWild (p : NamePattern) : Bool := p.localName == "*"

/-- The direction of a step. -/
inductive Axis where
  | child
  | descendant
  | descendantOrSelf
  | self
  | parent
  | attributes
deriving DecidableEq

/-- What a step asks of the nodes on its axis. -/
inductive NodeTest where
  | name (pattern : NamePattern)
  | text
  | any
deriving DecidableEq

/-- What a predicate looks at below a node: its attributes with a name, or its child elements. -/
inductive Part where
  | attribute (name : NamePattern)
  | child (name : NamePattern)
deriving DecidableEq

/-- A condition on the nodes that a step has found. The comparisons ask for the same text, or when
negated for another. -/
inductive Predicate where
  | position (n : Nat)
  | last
  | has (part : Part)
  | compares (part : Part) (value : String) (negated : Bool)
  | comparesSelf (value : String) (negated : Bool)
deriving DecidableEq

/-- A step of a path. -/
structure Step where
  axis : Axis
  test : NodeTest
  predicates : List Predicate
deriving DecidableEq

/-- A path, from the top or from a given item. -/
structure Path where
  isAbsolute : Bool
  steps : List Step
deriving DecidableEq

end Query

/-- A query: what any of its paths selects. -/
structure Query where
  paths : List Query.Path
deriving DecidableEq

/-- The step that two slashes in a row stand for. -/
def Query.Step.everywhere : Query.Step :=
  { axis := .descendantOrSelf, test := .any, predicates := [] }

end Crosswalk
