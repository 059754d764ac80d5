import Crosswalk.Html.Tree

/-!
The state in which the tree of a fragment is built, and what the rules have in common.

The state holds the stack of open elements, innermost first, and the list of formatting elements
that are opened again where markup is not nested well. Content that may not stand directly inside
a table is put in front of the table instead.
-/

namespace Crosswalk.Html

/-- What part of a fragment is being read. -/
inductive Mode where
  | body
  | text
  | table
  | tableText
  | caption
  | columnGroup
  | tableBody
  | row
  | cell
  | select
  | selectInTable
  | template
deriving DecidableEq, Inhabited

/-- A formatting element, or the mark of an element across which none is opened again. -/
inductive Formatting where
  | mark
  | element (id : Nat) (tag : Tag)
deriving DecidableEq

/-- The state of the construction. -/
structure Builder where
  tree : Tree
  stack : List Nat
  formatting : List Formatting
  mode : Mode
  returnMode : Mode
  templateModes : List Mode
  form : Option Nat
  dropLineFeed : Bool
  inFrontOfTable : Bool
  tableText : List (List Char)
  model : ContentModel

namespace Builder

/-- The state before the first token of the content of a body. -/
def start : Builder :=
  { tree := .start, stack := [0], formatting := [], mode := .body, returnMode := .body,
    templateModes := [], form := none, dropLineFeed := false, inFrontOfTable := false,
    tableText := [], model := .markup }

/-- The innermost open element. -/
def current (b : Builder) : Nat := (b.stack.head?).getD 0

def node (b : Builder) (id : Nat) : Node := b.tree.node id

/-- Whether an element belongs to HTML and has one of the names. -/
def isHtml (b : Builder) (names : List String) (id : Nat) : Bool :=
  let n := b.node id
  n.vocabulary == .html && names.contains n.tag.name

/-- Whether the innermost open element belongs to HTML and has one of the names. -/
def currentIs (b : Builder) (names : List String) : Bool :=
  b.isHtml names b.current

def isOpen (b : Builder) (name : String) : Bool :=
  b.stack.any (b.isHtml [name])

/-- Whether an element is one of MathML whose content is text. -/
def isMathText (n : Node) : Bool :=
  n.vocabulary == .mathml && ["mi", "mo", "mn", "ms", "mtext"].contains n.tag.name

/-- Whether an element is one of SVG whose content is HTML. -/
def isSvgHtml (n : Node) : Bool :=
  n.vocabulary == .svg && ["foreignobject", "desc", "title"].contains n.tag.name

def scopeBounds : List String :=
  ["applet", "caption", "html", "table", "td", "th", "marquee", "object", "template"]

def tableBounds : List String := ["html", "table", "template"]

/-- A test for the elements that bound a scope. -/
def bounds (b : Builder) (more : List String) (id : Nat) : Bool :=
  let n := b.node id
  b.isHtml (scopeBounds ++ more) id || isMathText n || isSvgHtml n

/-- Whether an element that passes a test is open inside a scope. -/
def inScope (isBound test : Nat → Bool) : List Nat → Bool
  | [] => false
  | id :: rest => test id || (!isBound id && inScope isBound test rest)

/-- Whether an element with one of the names is open in the common scope. -/
def has (b : Builder) (names : List String) : Bool :=
  inScope (b.bounds []) (b.isHtml names) b.stack

/-- Whether a paragraph is open in the scope of buttons. -/
def hasParagraph (b : Builder) : Bool :=
  inScope (b.bounds ["button"]) (b.isHtml ["p"]) b.stack

/-- Whether a list item is open in the scope of lists. -/
def hasItem (b : Builder) : Bool :=
  inScope (b.bounds ["ol", "ul"]) (b.isHtml ["li"]) b.stack

/-- Whether an element with one of the names is open in the scope of tables. -/
def hasInTable (b : Builder) (names : List String) : Bool :=
  inScope (b.isHtml tableBounds) (b.isHtml names) b.stack

/-- Whether a choice is open in the scope of choices. -/
def hasSelect (b : Builder) : Bool :=
  inScope (fun id => !b.isHtml ["optgroup", "option"] id) (b.isHtml ["select"]) b.stack

def pop (b : Builder) : Builder := { b with stack := b.stack.drop 1 }

/-- Closes elements up to and including the first that passes a test. -/
def popThrough (b : Builder) (test : Nat → Bool) : Builder :=
  { b with stack := (b.stack.dropWhile fun id => !test id).drop 1 }

/-- Closes elements up to and including the first with one of the names. -/
def popNamed (b : Builder) (names : List String) : Builder :=
  b.popThrough (b.isHtml names)

/-- Closes elements until the innermost has one of the names. -/
def popUntilCurrent (b : Builder) (names : List String) : Builder :=
  { b with stack := b.stack.dropWhile fun id => !b.isHtml names id }

/-- The elements whose end tags may be left out. -/
def impliedEnds : List String :=
  ["dd", "dt", "li", "option", "optgroup", "p", "rb", "rp", "rt", "rtc"]

/-- The elements whose end tags may be left out at the end of a template. -/
def thoroughImpliedEnds : List String :=
  impliedEnds ++ ["caption", "colgroup", "tbody", "td", "tfoot", "th", "thead", "tr"]

/-- Closes the innermost elements whose end tags may be left out. -/
def closeImplied (b : Builder) (names : List String) : Builder :=
  { b with stack := b.stack.dropWhile (b.isHtml names) }

/-- Closes the innermost elements whose end tags may be left out, but none with a given name. -/
def closeImpliedExcept (b : Builder) (name : String) : Builder :=
  b.closeImplied (impliedEnds.filter (· != name))

/-- Closes an element with a name and what is open inside it. -/
def close (b : Builder) (name : String) : Builder :=
  (b.closeImpliedExcept name).popNamed [name]

/-- Closes a paragraph, if one is open in the scope of buttons. -/
def closeParagraph (b : Builder) : Builder :=
  if b.hasParagraph then b.close "p" else b

/-- Where new content goes: below an element, or below it in front of one of its children. -/
inductive Place where
  | last (parent : Nat)
  | before (parent sibling : Nat)

/-- The place in front of the innermost open table. -/
def placeOutsideTable (b : Builder) : List Nat → Place
  | [] => .last 0
  | id :: rest =>
    if b.isHtml ["template"] id then .last id
    else if b.isHtml ["table"] id then
      match (b.node id).parent with
      | some parent => .before parent id
      | none => .last ((rest.head?).getD 0)
    else b.placeOutsideTable rest

def placeIn (b : Builder) (target : Nat) : Place :=
  if b.inFrontOfTable && b.isHtml ["table", "tbody", "tfoot", "thead", "tr"] target then
    b.placeOutsideTable b.stack
  else .last target

def put (b : Builder) (place : Place) (id : Nat) : Builder :=
  match place with
  | .last parent => { b with tree := b.tree.append parent id }
  | .before parent sibling => { b with tree := b.tree.insertBefore parent sibling id }

/-- Makes an element that has no place yet. -/
def make (b : Builder) (vocabulary : Vocabulary) (tag : Tag) : Builder × Nat :=
  let (tree, id) := b.tree.add ⟨vocabulary, tag, [], none, []⟩
  ({ b with tree := tree }, id)

/-- Puts an element of some vocabulary at its place, without opening it. -/
def insertLeafOf (b : Builder) (vocabulary : Vocabulary) (tag : Tag) : Builder × Nat :=
  let place := b.placeIn b.current
  let (b, id) := b.make vocabulary tag
  (b.put place id, id)

/-- Puts an element of HTML at its place, without opening it. -/
def insertLeaf (b : Builder) (tag : Tag) : Builder :=
  (b.insertLeafOf .html tag).1

def insertOf (b : Builder) (vocabulary : Vocabulary) (tag : Tag) : Builder :=
  let (b, id) := b.insertLeafOf vocabulary tag
  { b with stack := id :: b.stack }

def insert (b : Builder) (tag : Tag) : Builder :=
  b.insertOf .html tag

/-- Opens an element of HTML that no tag asked for. -/
def insertNamed (b : Builder) (name : String) : Builder :=
  b.insert ⟨name, [], false⟩

def insertText (b : Builder) (s : List Char) : Builder :=
  let place := b.placeIn b.current
  let (tree, id) := b.tree.add ⟨.html, default, s, none, []⟩
  { b with tree := tree }.put place id

/-- Opens an element whose content is text, and reads it as such. -/
def insertTextElement (b : Builder) (tag : Tag) (model : ContentModel) : Builder :=
  { b.insert tag with model := model, returnMode := b.mode, mode := .text }

/-- The formatting elements after the last mark, the last one first. -/
def activeFormatting (b : Builder) : List (Nat × Tag) :=
  go b.formatting
where
  /-- The elements in front of the first mark of a list. -/
  go : List Formatting → List (Nat × Tag)
    | .element id tag :: rest => (id, tag) :: go rest
    | _ => []

/-- Whether an entry is the formatting element with a number. -/
def Formatting.isElement (id : Nat) : Formatting → Bool
  | .element other _ => other == id
  | .mark => false

def isFormatting (b : Builder) (id : Nat) : Bool :=
  b.formatting.any (Formatting.isElement id)

/-- Takes an element from the list of formatting elements. -/
def dropFormatting (b : Builder) (id : Nat) : Builder :=
  { b with formatting := b.formatting.filter fun entry => !Formatting.isElement id entry }

def dropOpen (b : Builder) (id : Nat) : Builder :=
  { b with stack := b.stack.filter (· != id) }

def pushMark (b : Builder) : Builder := { b with formatting := .mark :: b.formatting }

/-- Empties the list of formatting elements up to and including the last mark. -/
def clearToMark (b : Builder) : Builder :=
  { b with formatting := (b.formatting.dropWhile (· != .mark)).drop 1 }

/-- Whether two tags have the same name and attributes. -/
def sameTag (s t : Tag) : Bool :=
  s.name == t.name && s.attributes.length == t.attributes.length &&
    s.attributes.all t.attributes.contains

/-- Opens a formatting element. At most three alike are kept since the last mark. -/
def insertFormatting (b : Builder) (tag : Tag) : Builder :=
  let alike := b.activeFormatting.filter fun entry => sameTag entry.2 tag
  let b :=
    if 3 ≤ alike.length then
      match alike.getLast? with
      | some (id, _) => b.dropFormatting id
      | none => b
    else b
  let b := b.insert tag
  { b with formatting := .element b.current tag :: b.formatting }

/-- The entries at the front of the list that are neither marks nor open, the last one first. -/
def closedFormatting (b : Builder) : List Formatting → List (Nat × Tag)
  | .element id tag :: rest =>
    if b.stack.contains id then [] else (id, tag) :: b.closedFormatting rest
  | _ => []

/-- Gives the entry of one element to another one. -/
def replaceFormatting (b : Builder) (old new : Nat) (tag : Tag) : Builder :=
  { b with formatting := b.formatting.map fun entry =>
      if Formatting.isElement old entry then .element new tag else entry }

/-- Opens the formatting elements again that were closed since the last mark. -/
def reopenFormatting (b : Builder) : Builder :=
  (b.closedFormatting b.formatting).reverse.foldl
    (fun b (id, tag) =>
      let b := b.insert tag
      b.replaceFormatting id b.current tag)
    b

/-- The elements with rules of their own, across which no end tag of another element reaches. -/
def specialNames : List String :=
  ["address", "applet", "area", "article", "aside", "base", "basefont", "bgsound", "blockquote",
    "body", "br", "button", "caption", "center", "col", "colgroup", "dd", "details", "dir", "div",
    "dl", "dt", "embed", "fieldset", "figcaption", "figure", "footer", "form", "frame", "frameset",
    "h1", "h2", "h3", "h4", "h5", "h6", "head", "header", "hgroup", "hr", "html", "iframe", "img",
    "input", "isindex", "li", "link", "listing", "main", "marquee", "menu", "meta", "nav",
    "noembed", "noframes", "noscript", "object", "ol", "p", "param", "plaintext", "pre", "script",
    "section", "select", "source", "style", "summary", "table", "tbody", "td", "template",
    "textarea", "tfoot", "th", "thead", "title", "tr", "track", "ul", "wbr", "xmp"]

/-- Whether an element has rules of its own. -/
def isSpecial (b : Builder) (id : Nat) : Bool := b.isHtml specialNames id

/-- Closes the innermost element with a name, unless a special one is open inside it. -/
def closeOrdinary (b : Builder) (name : String) : Builder :=
  let target := b.stack.find? fun id => b.isHtml [name] id || b.isSpecial id
  match target with
  | some id =>
    if b.isHtml [name] id then
      { b with stack := (b.stack.dropWhile (· != id)).drop 1 }
    else b
  | none => b

def replaceIn (old new : Nat) (ids : List Nat) : List Nat :=
  ids.map fun id => if id = old then new else id

/-- Goes up from the furthest block to the formatting element: every formatting element on the way
is made anew and takes what was moved so far, every other one leaves the stack. Gives what was
moved at last, and the element that the new formatting element is to follow in the list. -/
def moveOut (b : Builder) (moved : Nat) (follow : Option Nat) (count : Nat) :
    List Nat → Builder × Nat × Option Nat
  | [] => (b, moved, follow)
  | id :: rest =>
    if 3 ≤ count then ((b.dropFormatting id).dropOpen id).moveOut moved follow (count + 1) rest
    else if b.isFormatting id then
      let tag := (b.node id).tag
      let (b, fresh) := b.make .html tag
      let b := { b.replaceFormatting id fresh tag with stack := replaceIn id fresh b.stack }
      let b := { b with tree := (b.tree.detach moved).append fresh moved }
      b.moveOut fresh (follow <|> some fresh) (count + 1) rest
    else (b.dropOpen id).moveOut moved follow (count + 1) rest

/-- Puts an entry right after that of an element in the list of formatting elements. -/
def insertFormattingAfter (id : Nat) (entry : Formatting) : List Formatting → List Formatting
  | [] => [entry]
  | e :: rest =>
    if Formatting.isElement id e then entry :: e :: rest
    else e :: insertFormattingAfter id entry rest

/-- One round of closing a formatting element across a block: the block gets a formatting element
of its own. Gives `false` when there is nothing more to do. -/
def adoptOnce (b : Builder) (name : String) : Builder × Bool :=
  match b.activeFormatting.find? fun entry => entry.2.name == name with
  | none => (b.closeOrdinary name, false)
  | some (id, tag) =>
    if !b.stack.contains id then (b.dropFormatting id, false)
    else if !inScope (b.bounds []) (· == id) b.stack then (b, false)
    else
      let inside := b.stack.takeWhile (· != id)
      match (inside.reverse).find? b.isSpecial with
      | none =>
        ({ b.dropFormatting id with stack := (b.stack.dropWhile (· != id)).drop 1 }, false)
      | some block =>
        let ancestor := (((b.stack.dropWhile (· != id)).drop 1).head?).getD 0
        let between := ((inside.dropWhile (· != block)).drop 1)
        let (b, moved, follow) := b.moveOut block none 0 between
        let b := { b with tree := b.tree.detach moved }
        let b := b.put (b.placeIn ancestor) moved
        let (b, fresh) := b.make .html tag
        let b := { b with tree := (b.tree.moveChildren block fresh).append block fresh }
        let b :=
          match follow with
          | none => b.replaceFormatting id fresh tag
          | some previous =>
            { b with formatting :=
                insertFormattingAfter previous (.element fresh tag) b.formatting }.dropFormatting id
        let b := b.dropOpen id
        ({ b with stack := b.stack.flatMap fun n => if n = block then [fresh, n] else [n] }, true)

def adoptRounds (name : String) : Nat → Builder → Builder
  | 0, b => b
  | rounds + 1, b =>
    match b.adoptOnce name with
    | (b, true) => adoptRounds name rounds b
    | (b, false) => b

/-- Closes the formatting element with a name, wherever it is open. -/
def adopt (b : Builder) (name : String) : Builder :=
  if b.currentIs [name] && !b.isFormatting b.current then b.pop
  else adoptRounds name 8 b

/-- The mode that the open elements ask for, innermost first. -/
def modeFor (b : Builder) : List Nat → Mode
  | [] => .body
  | [_] => .body
  | id :: rest =>
    if b.isHtml ["select"] id then
      let inner := rest.find? (b.isHtml ["template", "table"])
      if inner.any (b.isHtml ["table"]) then .selectInTable else .select
    else if b.isHtml ["td", "th"] id then .cell
    else if b.isHtml ["tr"] id then .row
    else if b.isHtml ["tbody", "thead", "tfoot"] id then .tableBody
    else if b.isHtml ["caption"] id then .caption
    else if b.isHtml ["colgroup"] id then .columnGroup
    else if b.isHtml ["table"] id then .table
    else if b.isHtml ["template"] id then (b.templateModes.head?).getD .template
    else b.modeFor rest

/-- Enters the mode that the open elements ask for. -/
def resetMode (b : Builder) : Builder := { b with mode := b.modeFor b.stack }

end Builder

end Crosswalk.Html
