/-!
XML documents with the namespaces of their names resolved.
-/

namespace Crosswalk.Xml

/-- The authority of the namespaces that belong to XML itself. -/
def xmlAuthority : String := "http://www.w3.org/"

/-- The namespace that the qualifier `xml` always stands for. -/
def xmlNamespace : String := xmlAuthority ++ "XML/1998/namespace"

/-- The namespace of declarations themselves, which no qualifier may stand for. -/
def declarationNamespace : String := xmlAuthority ++ "2000/xmlns/"

/-- A name with the namespace it belongs to, if any. -/
structure Name where
  uri : Option String
  localName : String
deriving DecidableEq, Inhabited

/-- An attribute. -/
structure Attribute where
  name : Name
  value : String
deriving DecidableEq, Inhabited

/-- A declaration: the namespace that a qualifier stands for, or that names without one have. -/
structure Declaration where
  qualifier : Option String
  uri : String
deriving DecidableEq, Inhabited

/-- A node. An element knows the declarations in whose scope it stands, its own ones first. -/
inductive Node where
  | element (name : Name) (attributes : List Attribute) (declarations : List Declaration)
      (children : List Node)
  | text (s : String)
  | comment (s : String)
  | instruction (target : String) (data : String)
deriving Inhabited

/-- A document: its nodes outside of all elements, of which one is an element. -/
structure Document where
  children : List Node
deriving Inhabited

namespace Node

def children : Node → List Node
  | .element _ _ _ children => children
  | _ => []

def attributes : Node → List Attribute
  | .element _ attributes _ _ => attributes
  | _ => []

/-- The declarations in whose scope a node stands. -/
def declarations : Node → List Declaration
  | .element _ _ declarations _ => declarations
  | _ => []

def elementName? : Node → Option Name
  | .element name _ _ _ => some name
  | _ => none

def isElement (n : Node) : Bool := n.elementName?.isSome

def isText : Node → Bool
  | .text _ => true
  | _ => false

mutual

/-- The texts of a node and of all below it, put together. -/
def stringValue : Node → String
  | .text s => s
  | .element _ _ _ children => listValue children
  | _ => ""

/-- The texts of nodes and of all below them, put together. -/
def listValue : List Node → String
  | [] => ""
  | n :: rest => n.stringValue ++ listValue rest

end

end Node

end Crosswalk.Xml
