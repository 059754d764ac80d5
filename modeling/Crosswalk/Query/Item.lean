import Crosswalk.Table
import Crosswalk.Xml.Basic

/-!
What a query moves over: the nodes and attributes of a document, each known by its place.

The place of a node is the list of the indexes that lead to it from the top. A query runs in a
context, which is a whole document or one record of it; in a record the top stands right above
the record, and nothing outside of the record can be reached.
-/

namespace Crosswalk.Query

/-- A node with its place. -/
structure Located where
  place : List Nat
  node : Xml.Node
deriving Inhabited

mutual

/-- A node at a place and all nodes below it, in document order. -/
def nodesFrom (place : List Nat) (node : Xml.Node) : List Located :=
  match node with
  | .element name attributes declarations children =>
    ⟨place, .element name attributes declarations children⟩ :: listFrom place 0 children
  | leaf => [⟨place, leaf⟩]

/-- The nodes below a place, the first of which has the given index, and all nodes below them. -/
def listFrom (place : List Nat) (index : Nat) : List Xml.Node → List Located
  | [] => []
  | node :: rest => nodesFrom (place ++ [index]) node ++ listFrom place (index + 1) rest

end

/-- Nodes that stand side by side below a place. -/
def locate (place : List Nat) (nodes : List Xml.Node) : List Located :=
  nodes.mapIdx fun index node => ⟨place ++ [index], node⟩

namespace Located

def children (l : Located) : List Located := locate l.place l.node.children

/-- The nodes below a node, in document order. -/
def descendants (l : Located) : List Located := listFrom l.place 0 l.node.children

end Located

/-- The node that a place leads to from nodes side by side. -/
def nodeAt? : List Nat → List Xml.Node → Option Xml.Node
  | [], _ => none
  | [index], nodes => nodes[index]?
  | index :: place, nodes => (nodes[index]?).bind fun node => nodeAt? place node.children

/-- Something that a query can select. -/
inductive Item where
  /-- What stands above the nodes of a context. -/
  | top
  | node (l : Located)
  | attribute (owner : Located) (a : Xml.Attribute)
deriving Inhabited

/-- Whether two items of one context are the same: nodes by their place, and attributes by their
element and name. -/
def Item.same : Item → Item → Bool
  | .top, .top => true
  | .node a, .node b => a.place == b.place
  | .attribute owner a, .attribute owner' b => owner.place == owner'.place && a.name == b.name
  | _, _ => false

/-- The namespaces that the qualifiers in queries stand for, and the one that names without any
may have. -/
structure Namespaces where
  qualifiers : Table String
  unqualified : Option String

namespace Namespaces

/-- Only `xml` is known beforehand. -/
def start : Namespaces := ⟨Table.ofList [("xml", Xml.xmlNamespace)], none⟩

/-- Takes a declaration, unless its qualifier was declared before. -/
def declare (n : Namespaces) (d : Xml.Declaration) : Namespaces :=
  match d.qualifier with
  | some qualifier => { n with qualifiers := n.qualifiers.setIfAbsent qualifier d.uri }
  | none => if n.unqualified.isSome then n else { n with unqualified := some d.uri }

/-- The namespaces that a document declares anywhere: of each qualifier the first declaration. -/
def ofDocument (document : Xml.Document) : Namespaces :=
  (listFrom [] 0 document.children).foldl
    (fun acc l => l.node.declarations.foldl declare acc) start

def uri? (n : Namespaces) (qualifier : String) : Option String := n.qualifiers.get? qualifier

end Namespaces

/-- Where a query runs: a document, and the record to stay in, if any. -/
structure Context where
  namespaces : Namespaces
  document : Xml.Document
  record : Option Located

namespace Context

/-- A whole document, with the namespaces that it declares. -/
def ofDocument (document : Xml.Document) : Context :=
  { namespaces := Namespaces.ofDocument document, document := document, record := none }

def ofRecord (c : Context) (record : Located) : Context := { c with record := some record }

/-- The nodes right below the top. -/
def topNodes (c : Context) : List Located :=
  match c.record with
  | some record => [record]
  | none => locate [] c.document.children

/-- All nodes of a context, in document order. -/
def allNodes (c : Context) : List Located :=
  match c.record with
  | some record => record :: record.descendants
  | none => listFrom [] 0 c.document.children

/-- The node right above a node. Above the record, and above a place of one index, is the top. -/
def above (c : Context) (l : Located) : Item :=
  if c.record.any (·.place == l.place) then .top
  else
    let place := l.place.dropLast
    match nodeAt? place c.document.children with
    | some node => .node ⟨place, node⟩
    | none => .top

end Context

end Crosswalk.Query
