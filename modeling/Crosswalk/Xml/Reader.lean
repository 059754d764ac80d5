import Crosswalk.Xml.Basic
import Crosswalk.Xml.Token

/-!
Reading a document.

The reader keeps the elements that are still open, innermost first. A qualifier is resolved by the
declarations in scope, and neighbouring texts become one.
-/

namespace Crosswalk.Xml

/-- An element that is still open, with its nodes so far, last first. -/
structure Open where
  written : WrittenName
  name : Name
  attributes : List Attribute
  declarations : List Declaration
  children : List Node

/-- The elements that are open, and the nodes outside of all elements so far, last first. -/
structure Reading where
  opened : List Open
  outside : List Node

/-- Whether a qualifier or the names without one are declared in a list. -/
def isDeclared (qualifier : Option String) (declarations : List Declaration) : Bool :=
  declarations.any fun d => d.qualifier == qualifier

def uriOf? (qualifier : Option String) (declarations : List Declaration) : Option String :=
  (declarations.find? fun d => d.qualifier == qualifier).map (·.uri)

/-- The declaration that an attribute makes, `none` inside when the qualifier `xml` is declared as
what it stands for anyway. Reserved namespaces are refused. -/
def declarationOf? (own : List Declaration) (a : WrittenAttribute) :
    Option (Option Declaration) :=
  let uri := String.ofList a.value
  if a.name.qualifier ≠ "xmlns".toList then
    if uri = xmlNamespace ∨ uri = declarationNamespace then none
    else some (some ⟨none, uri⟩)
  else
    let qualifier := String.ofList a.name.localName
    if uri = declarationNamespace then none
    else if (qualifier = "xml") ≠ (uri = xmlNamespace) then none
    else if isDeclared (some qualifier) own then none
    else if qualifier = "xml" then some none
    else some (some ⟨some qualifier, uri⟩)

/-- Whether an attribute is a declaration: one part of its name is `xmlns`. -/
def isDeclaration (a : WrittenAttribute) : Bool :=
  a.name.qualifier == "xmlns".toList || a.name.localName == "xmlns".toList

def ownDeclarations? (attributes : List WrittenAttribute) : Option (List Declaration) :=
  (attributes.filter isDeclaration).foldlM
    (fun own a => (declarationOf? own a).map fun d => own ++ d.toList) []

/-- The namespace of a written name: that of its qualifier, or `unqualified` without one. -/
def resolveName? (declarations : List Declaration) (unqualified : Option String)
    (n : WrittenName) : Option Name :=
  let localName := String.ofList n.localName
  if n.qualifier.isEmpty then some ⟨unqualified, localName⟩
  else
    (uriOf? (some (String.ofList n.qualifier)) declarations).map fun uri => ⟨some uri, localName⟩

/-- The attributes of a tag that are no declarations. Two with one name are refused. -/
def ownAttributes? (declarations : List Declaration) (attributes : List WrittenAttribute) :
    Option (List Attribute) :=
  (attributes.filter (!isDeclaration ·)).foldlM
    (fun own a => do
      let name ←
        if a.name.qualifier = "xml".toList then
          some ⟨some xmlNamespace, String.ofList a.name.localName⟩
        else resolveName? declarations none a.name
      if own.any (·.name == name) then none
      else some (own ++ [⟨name, String.ofList a.value⟩]))
    []

/-- The declarations in scope of an element: its own, then those around it that it does not
replace. -/
def inScope (own outer : List Declaration) : List Declaration :=
  own ++ outer.filter fun d => !isDeclared d.qualifier own

def openElement? (outer : List Declaration) (written : WrittenName)
    (attributes : List WrittenAttribute) : Option Open := do
  if written.qualifier = "xmlns".toList then none
  else
    let own ← ownDeclarations? attributes
    let declarations := inScope own outer
    let attributes ← ownAttributes? declarations attributes
    let name ← resolveName? declarations (uriOf? none declarations) written
    some ⟨written, name, attributes, declarations, []⟩

def Open.node (o : Open) : Node :=
  .element o.name o.attributes o.declarations o.children.reverse

/-- Puts a node behind others, a text into one with a text before it. -/
def addNode (n : Node) : List Node → List Node
  | [] => [n]
  | last :: rest =>
    match n, last with
    | .text s, .text before => .text (before ++ s) :: rest
    | _, _ => n :: last :: rest

/-- Adds a node at the place that is being read. -/
def Reading.add (r : Reading) (n : Node) : Reading :=
  match r.opened with
  | [] => { r with outside := addNode n r.outside }
  | o :: rest => { r with opened := { o with children := addNode n o.children } :: rest }

/-- Takes a token. An end tag has to close the innermost element under the name it was opened
with. -/
def Reading.take? (r : Reading) : Token → Option Reading
  | .text s => some (r.add (.text (String.ofList s)))
  | .comment s => some (r.add (.comment (String.ofList s)))
  | .instruction target data =>
    some (r.add (.instruction (String.ofList target) (String.ofList data)))
  | .opening name attributes isEmpty =>
    let outer := ((r.opened.head?).map (·.declarations)).getD []
    (openElement? outer name attributes).map fun o =>
      if isEmpty then r.add o.node else { r with opened := o :: r.opened }
  | .close name =>
    match r.opened with
    | o :: rest =>
      if o.written = name then some (Reading.add { r with opened := rest } o.node) else none
    | [] => none

/-- Whether the element of a document is there. -/
def Reading.hasElement (r : Reading) : Bool := r.outside.any Node.isElement

/-- Reads tokens until the text ends: outside of all elements comments, instructions and one
element, inside of one anything. -/
def Reading.run : Nat → Reading → List Char → Option Reading
  | 0, _, _ => none
  | fuel + 1, r, s =>
    if r.opened.isEmpty then
      match skipSpaces s with
      | [] => some r
      | s =>
        let token :=
          match readMisc? s with
          | some read => some read
          | none =>
            match s with
            | '<' :: rest => if r.hasElement then none else readOpen? rest
            | _ => none
        token.bind fun (token, rest) => (r.take? token).bind fun r => r.run fuel rest
    else
      match s with
      | [] => none
      | s =>
        (readContent? s).bind fun (token, rest) => (r.take? token).bind fun r => r.run fuel rest

/-- Reads a document; a byte order mark in front of it is passed over. -/
def Document.parse? (s : String) : Option Document := do
  let s :=
    match s.toList with
    | '\uFEFF' :: rest => rest
    | s => s
  let s ← skipDeclaration? s
  let r ← Reading.run (s.length + 1) ⟨[], []⟩ s
  if r.hasElement then some ⟨r.outside.reverse⟩ else none

end Crosswalk.Xml
