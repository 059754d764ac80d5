import Crosswalk.Html.Builder

/-!
The rules by which tokens extend the tree, one function for each part of a fragment.

A rule either takes its token or changes the part that is being read and has the token read again.
-/

namespace Crosswalk.Html.Builder

/-- What a rule did with its token. -/
inductive Outcome where
  /-- The token is taken. -/
  | taken (b : Builder)
  /-- The token is to be read again. -/
  | again (b : Builder)

/-- Reads the token again in another part. -/
def againIn (mode : Mode) (b : Builder) : Outcome := .again { b with mode := mode }

/-- The elements that are read alike wherever they stand. -/
def metadataNames : List String :=
  ["base", "basefont", "bgsound", "link", "meta", "noframes", "script", "style", "template",
    "title"]

/-- The rule for the elements that are read alike wherever they stand. -/
def metadataStart (b : Builder) (tag : Tag) : Builder :=
  match tag.name with
  | "title" => b.insertTextElement tag .escapable
  | "noframes" => b.insertTextElement tag .raw
  | "style" => b.insertTextElement tag .raw
  | "script" => b.insertTextElement tag .script
  | "template" =>
    { (b.insert tag).pushMark with
      mode := .template, templateModes := .template :: b.templateModes }
  | _ => b.insertLeaf tag

def closeTemplate (b : Builder) : Builder :=
  let b := ((b.closeImplied thoroughImpliedEnds).popNamed ["template"]).clearToMark
  { b with templateModes := b.templateModes.drop 1 }.resetMode

def templateEnd (b : Builder) : Builder :=
  if b.isOpen "template" then b.closeTemplate else b

/-- Elements that stand beside paragraphs, and so end one. -/
def blockNames : List String :=
  ["address", "article", "aside", "blockquote", "center", "details", "dialog", "dir", "div", "dl",
    "fieldset", "figcaption", "figure", "footer", "header", "hgroup", "main", "menu", "nav", "ol",
    "p", "search", "section", "summary", "ul"]

def headingNames : List String := ["h1", "h2", "h3", "h4", "h5", "h6"]

def formattingNames : List String :=
  ["b", "big", "code", "em", "font", "i", "s", "small", "strike", "strong", "tt", "u"]

/-- Parts of tables and documents that have no place in a body. -/
def misplacedNames : List String :=
  ["caption", "col", "colgroup", "frame", "head", "tbody", "td", "tfoot", "th", "thead", "tr",
    "body", "html", "frameset"]

/-- The rule for a list item, term or description: it ends one that is open, unless a block is open
inside that one. -/
def itemStart (b : Builder) (ended : List String) (tag : Tag) : Builder :=
  let stop (id : Nat) : Bool :=
    b.isHtml ended id || (b.isSpecial id && !b.isHtml ["address", "div", "p"] id)
  let b :=
    match b.stack.find? stop with
    | some id => if b.isHtml ended id then b.close (b.node id).tag.name else b
    | none => b
  b.closeParagraph.insert tag

/-- The rule for a link: it ends one that is open. -/
def linkStart (b : Builder) (tag : Tag) : Builder :=
  let b :=
    match b.activeFormatting.find? fun entry => entry.2.name == "a" with
    | some (id, _) => ((b.adopt "a").dropFormatting id).dropOpen id
    | none => b
  b.reopenFormatting.insertFormatting tag

def foreignStart (b : Builder) (vocabulary : Vocabulary) (tag : Tag) : Builder :=
  if tag.selfClosing then (b.insertLeafOf vocabulary tag).1 else b.insertOf vocabulary tag

def selectStart (b : Builder) (tag : Tag) : Builder :=
  let inTable := [Mode.table, .caption, .tableBody, .row, .cell].contains b.mode
  { b.reopenFormatting.insert tag with mode := if inTable then .selectInTable else .select }

def bodyStart (b : Builder) (tag : Tag) : Builder :=
  let name := tag.name
  if metadataNames.contains name then b.metadataStart tag
  else if misplacedNames.contains name then b
  else if blockNames.contains name then b.closeParagraph.insert tag
  else if headingNames.contains name then
    let b := b.closeParagraph
    (if b.currentIs headingNames then b.pop else b).insert tag
  else if formattingNames.contains name then b.reopenFormatting.insertFormatting tag
  else
    match name with
    | "pre" => { b.closeParagraph.insert tag with dropLineFeed := true }
    | "listing" => { b.closeParagraph.insert tag with dropLineFeed := true }
    | "form" =>
      if b.form.isSome && !b.isOpen "template" then b
      else
        let b := b.closeParagraph.insert tag
        if b.isOpen "template" then b else { b with form := some b.current }
    | "li" => b.itemStart ["li"] tag
    | "dd" => b.itemStart ["dd", "dt"] tag
    | "dt" => b.itemStart ["dd", "dt"] tag
    | "plaintext" => { b.closeParagraph.insert tag with model := .plain }
    | "button" =>
      let b := if b.has ["button"] then (b.closeImplied impliedEnds).popNamed ["button"] else b
      b.reopenFormatting.insert tag
    | "a" => b.linkStart tag
    | "nobr" =>
      let b := b.reopenFormatting
      let b := if b.has ["nobr"] then (b.adopt "nobr").reopenFormatting else b
      b.insertFormatting tag
    | "applet" => (b.reopenFormatting.insert tag).pushMark
    | "marquee" => (b.reopenFormatting.insert tag).pushMark
    | "object" => (b.reopenFormatting.insert tag).pushMark
    | "table" => { b.closeParagraph.insert tag with mode := .table }
    | "area" => b.reopenFormatting.insertLeaf tag
    | "br" => b.reopenFormatting.insertLeaf tag
    | "embed" => b.reopenFormatting.insertLeaf tag
    | "img" => b.reopenFormatting.insertLeaf tag
    | "image" => b.reopenFormatting.insertLeaf { tag with name := "img" }
    | "keygen" => b.reopenFormatting.insertLeaf tag
    | "wbr" => b.reopenFormatting.insertLeaf tag
    | "input" => b.reopenFormatting.insertLeaf tag
    | "param" => b.insertLeaf tag
    | "source" => b.insertLeaf tag
    | "track" => b.insertLeaf tag
    | "hr" => b.closeParagraph.insertLeaf tag
    | "textarea" => { b.insertTextElement tag .escapable with dropLineFeed := true }
    | "xmp" => b.closeParagraph.reopenFormatting.insertTextElement tag .raw
    | "iframe" => b.insertTextElement tag .raw
    | "noembed" => b.insertTextElement tag .raw
    | "noscript" => b.insertTextElement tag .raw
    | "select" => b.selectStart tag
    | "optgroup" => (if b.currentIs ["option"] then b.pop else b).reopenFormatting.insert tag
    | "option" => (if b.currentIs ["option"] then b.pop else b).reopenFormatting.insert tag
    | "rb" => (if b.has ["ruby"] then b.closeImplied impliedEnds else b).insert tag
    | "rtc" => (if b.has ["ruby"] then b.closeImplied impliedEnds else b).insert tag
    | "rp" => (if b.has ["ruby"] then b.closeImpliedExcept "rtc" else b).insert tag
    | "rt" => (if b.has ["ruby"] then b.closeImpliedExcept "rtc" else b).insert tag
    | "math" => b.reopenFormatting.foreignStart .mathml tag
    | "svg" => b.reopenFormatting.foreignStart .svg tag
    | _ => b.reopenFormatting.insert tag

def formEnd (b : Builder) : Builder :=
  if b.isOpen "template" then
    if b.has ["form"] then (b.closeImplied impliedEnds).popNamed ["form"] else b
  else
    match b.form with
    | none => b
    | some id =>
      let b := { b with form := none }
      if inScope (b.bounds []) (· == id) b.stack then (b.closeImplied impliedEnds).dropOpen id
      else b

def bodyEnd (b : Builder) (name : String) : Builder :=
  if name == "p" then
    (if b.hasParagraph then b else b.insertNamed "p").close "p"
  else if blockNames.contains name || ["pre", "listing", "button"].contains name then
    if b.has [name] then (b.closeImplied impliedEnds).popNamed [name] else b
  else if headingNames.contains name then
    if b.has headingNames then (b.closeImplied impliedEnds).popNamed headingNames else b
  else if formattingNames.contains name || name == "a" || name == "nobr" then b.adopt name
  else
    match name with
    | "template" => b.templateEnd
    | "body" => b
    | "html" => b
    | "form" => b.formEnd
    | "li" => if b.hasItem then b.close "li" else b
    | "dd" => if b.has ["dd"] then b.close "dd" else b
    | "dt" => if b.has ["dt"] then b.close "dt" else b
    | "applet" => closeObject b
    | "marquee" => closeObject b
    | "object" => closeObject b
    | "br" => b.reopenFormatting.insertLeaf ⟨"br", [], false⟩
    | _ => b.closeOrdinary name
where
  /-- Closes an element whose content is formatted on its own. -/
  closeObject (b : Builder) : Builder :=
    if b.has [name] then ((b.closeImplied impliedEnds).popNamed [name]).clearToMark else b

def body (b : Builder) : Token → Builder
  | .text s => b.reopenFormatting.insertText s
  | .startTag tag => b.bodyStart tag
  | .endTag tag => b.bodyEnd tag.name
  | _ => b

/-- The rule for a body, with content put in front of the table. -/
def bodyInFront (b : Builder) (token : Token) : Builder :=
  { { b with inFrontOfTable := true }.body token with inFrontOfTable := false }

def text (b : Builder) : Token → Outcome
  | .text s => .taken (b.insertText s)
  | .endTag _ => .taken { b.pop with mode := b.returnMode, model := .markup }
  | .eof => .again { b.pop with mode := b.returnMode, model := .markup }
  | _ => .taken b

/-- Whether a tag asks for an input that is not shown. -/
def isHiddenInput (tag : Tag) : Bool :=
  (tag.attributes.lookup "type").any fun kind => kind.toList.map Char.toLower == "hidden".toList

def table (b : Builder) (token : Token) : Outcome :=
  match token with
  | .text _ => characters
  | .null => characters
  | .startTag tag =>
    let cleared := b.popUntilCurrent tableBounds
    match tag.name with
    | "caption" => .taken { cleared.pushMark.insert tag with mode := .caption }
    | "colgroup" => .taken { cleared.insert tag with mode := .columnGroup }
    | "col" => againIn .columnGroup (cleared.insertNamed "colgroup")
    | "tbody" => .taken { cleared.insert tag with mode := .tableBody }
    | "tfoot" => .taken { cleared.insert tag with mode := .tableBody }
    | "thead" => .taken { cleared.insert tag with mode := .tableBody }
    | "td" => againIn .tableBody (cleared.insertNamed "tbody")
    | "th" => againIn .tableBody (cleared.insertNamed "tbody")
    | "tr" => againIn .tableBody (cleared.insertNamed "tbody")
    | "table" =>
      if b.hasInTable ["table"] then .again (b.popNamed ["table"]).resetMode else .taken b
    | "style" => .taken (b.metadataStart tag)
    | "script" => .taken (b.metadataStart tag)
    | "template" => .taken (b.metadataStart tag)
    | "input" =>
      .taken (if isHiddenInput tag then b.insertLeaf tag else b.bodyInFront token)
    | "form" =>
      if b.form.isSome || b.isOpen "template" then .taken b
      else
        let (b, id) := b.insertLeafOf .html tag
        .taken { b with form := some id }
    | _ => .taken (b.bodyInFront token)
  | .endTag tag =>
    if tag.name == "table" then
      .taken (if b.hasInTable ["table"] then (b.popNamed ["table"]).resetMode else b)
    else if tag.name == "template" then .taken b.templateEnd
    else if ["body", "caption", "col", "colgroup", "html", "tbody", "td", "tfoot", "th", "thead",
        "tr"].contains tag.name then .taken b
    else .taken (b.bodyInFront token)
  | _ => .taken b
where
  /-- Characters are collected, as long as a part of the table is the innermost element. -/
  characters : Outcome :=
    if b.currentIs ["table", "tbody", "tfoot", "thead", "tr"] then
      .again { b with mode := .tableText, returnMode := b.mode, tableText := [] }
    else .taken (b.bodyInFront token)

/-- The rule for characters in a table: blanks alone stay in it, all else goes in front of it. -/
def tableCharacters (b : Builder) : Token → Outcome
  | .text s => .taken { b with tableText := b.tableText ++ [s] }
  | .null => .taken b
  | _ =>
    let runs := b.tableText
    let b :=
      if runs.all (·.all isSpace) then runs.foldl insertText b
      else runs.foldl (fun b s => b.bodyInFront (.text s)) b
    .again { b with mode := b.returnMode, tableText := [] }

/-- The parts of a table that end a caption or a cell. -/
def tablePartNames : List String :=
  ["caption", "col", "colgroup", "tbody", "td", "tfoot", "th", "thead", "tr"]

def caption (b : Builder) (token : Token) : Outcome :=
  let ended : Option Builder :=
    if b.hasInTable ["caption"] then
      some { ((b.closeImplied impliedEnds).popNamed ["caption"]).clearToMark with mode := .table }
    else none
  match token with
  | .startTag tag =>
    if tablePartNames.contains tag.name then
      match ended with
      | some b => .again b
      | none => .taken b
    else .taken (b.body token)
  | .endTag tag =>
    if tag.name == "caption" then .taken (ended.getD b)
    else if tag.name == "table" then
      match ended with
      | some b => .again b
      | none => .taken b
    else if (["body", "html"] ++ tablePartNames).contains tag.name then .taken b
    else .taken (b.body token)
  | _ => .taken (b.body token)

def columnGroup (b : Builder) (token : Token) : Outcome :=
  match token with
  | .text s =>
    if s.all isSpace then .taken (b.insertText s) else leave
  | .startTag tag =>
    match tag.name with
    | "html" => .taken b
    | "col" => .taken (b.insertLeaf tag)
    | "template" => .taken (b.metadataStart tag)
    | _ => leave
  | .endTag tag =>
    match tag.name with
    | "colgroup" =>
      .taken (if b.currentIs ["colgroup"] then { b.pop with mode := .table } else b)
    | "col" => .taken b
    | "template" => .taken b.templateEnd
    | _ => leave
  | .null => leave
  | _ => .taken b
where
  /-- All else ends the group. -/
  leave : Outcome :=
    if b.currentIs ["colgroup"] then againIn .table b.pop else .taken b

def tableBody (b : Builder) (token : Token) : Outcome :=
  let bodies := ["tbody", "tfoot", "thead"]
  let cleared := b.popUntilCurrent (bodies ++ ["template", "html"])
  match token with
  | .startTag tag =>
    if tag.name == "tr" then .taken { cleared.insert tag with mode := .row }
    else if ["th", "td"].contains tag.name then againIn .row (cleared.insertNamed "tr")
    else if (["caption", "col", "colgroup"] ++ bodies).contains tag.name then
      if b.hasInTable ("table" :: bodies) then againIn .table cleared.pop else .taken b
    else b.table token
  | .endTag tag =>
    if bodies.contains tag.name then
      .taken (if b.hasInTable [tag.name] then { cleared.pop with mode := .table } else b)
    else if tag.name == "table" then
      if b.hasInTable ("table" :: bodies) then againIn .table cleared.pop else .taken b
    else if ["body", "caption", "col", "colgroup", "html", "td", "th", "tr"].contains tag.name then
      .taken b
    else b.table token
  | _ => b.table token

def row (b : Builder) (token : Token) : Outcome :=
  let cleared := b.popUntilCurrent ["tr", "template", "html"]
  let leave : Outcome :=
    if b.hasInTable ["tr"] then againIn .tableBody cleared.pop else .taken b
  match token with
  | .startTag tag =>
    if ["th", "td"].contains tag.name then
      .taken ({ cleared.insert tag with mode := .cell }.pushMark)
    else if tablePartNames.contains tag.name then leave
    else b.table token
  | .endTag tag =>
    if tag.name == "tr" then
      .taken (if b.hasInTable ["tr"] then { cleared.pop with mode := .tableBody } else b)
    else if tag.name == "table" then leave
    else if ["tbody", "tfoot", "thead"].contains tag.name then
      if b.hasInTable [tag.name] then leave else .taken b
    else if ["body", "caption", "col", "colgroup", "html", "td", "th"].contains tag.name then
      .taken b
    else b.table token
  | _ => b.table token

def closeCell (b : Builder) : Builder :=
  { ((b.closeImplied impliedEnds).popNamed ["td", "th"]).clearToMark with mode := .row }

def cell (b : Builder) (token : Token) : Outcome :=
  match token with
  | .startTag tag =>
    if tablePartNames.contains tag.name then
      if b.hasInTable ["td", "th"] then .again b.closeCell else .taken b
    else .taken (b.body token)
  | .endTag tag =>
    if ["td", "th"].contains tag.name then
      .taken
        (if b.hasInTable [tag.name] then
          { ((b.closeImplied impliedEnds).popNamed [tag.name]).clearToMark with mode := .row }
        else b)
    else if ["body", "caption", "col", "colgroup", "html"].contains tag.name then .taken b
    else if ["table", "tbody", "tfoot", "thead", "tr"].contains tag.name then
      if b.hasInTable [tag.name] then .again b.closeCell else .taken b
    else .taken (b.body token)
  | _ => .taken (b.body token)

def select (b : Builder) (token : Token) : Outcome :=
  let popIf (b : Builder) (name : String) : Builder := if b.currentIs [name] then b.pop else b
  match token with
  | .text s => .taken (b.insertText s)
  | .startTag tag =>
    match tag.name with
    | "option" => .taken ((popIf b "option").insert tag)
    | "optgroup" => .taken ((popIf (popIf b "option") "optgroup").insert tag)
    | "hr" => .taken ((popIf (popIf b "option") "optgroup").insertLeaf tag)
    | "select" => .taken leave
    | "input" => if b.hasSelect then .again leave else .taken b
    | "keygen" => if b.hasSelect then .again leave else .taken b
    | "textarea" => if b.hasSelect then .again leave else .taken b
    | "script" => .taken (b.metadataStart tag)
    | "template" => .taken (b.metadataStart tag)
    | _ => .taken b
  | .endTag tag =>
    match tag.name with
    | "optgroup" =>
      let outer := b.pop
      let b := if b.currentIs ["option"] && outer.currentIs ["optgroup"] then outer else b
      .taken (popIf b "optgroup")
    | "option" => .taken (popIf b "option")
    | "select" => .taken leave
    | "template" => .taken b.templateEnd
    | _ => .taken b
  | _ => .taken b
where
  /-- Closes the choice, if one is open. -/
  leave : Builder :=
    if b.hasSelect then (b.popNamed ["select"]).resetMode else b

def selectInTable (b : Builder) (token : Token) : Outcome :=
  let parts := ["caption", "table", "tbody", "tfoot", "thead", "tr", "td", "th"]
  let left := (b.popNamed ["select"]).resetMode
  match token with
  | .startTag tag => if parts.contains tag.name then .again left else b.select token
  | .endTag tag =>
    if parts.contains tag.name then
      if b.hasInTable [tag.name] then .again left else .taken b
    else b.select token
  | _ => b.select token

/-- The rule for the end of the text: open templates are closed. -/
def finish (b : Builder) : Outcome :=
  if !b.templateModes.isEmpty && b.isOpen "template" then
    let b := (b.popNamed ["template"]).clearToMark
    .again { b with templateModes := b.templateModes.drop 1 }.resetMode
  else .taken b

def template (b : Builder) (token : Token) : Outcome :=
  let turn (mode : Mode) : Outcome :=
    againIn mode { b with templateModes := mode :: b.templateModes.drop 1 }
  match token with
  | .startTag tag =>
    if metadataNames.contains tag.name then .taken (b.metadataStart tag)
    else if ["caption", "colgroup", "tbody", "tfoot", "thead"].contains tag.name then turn .table
    else if tag.name == "col" then turn .columnGroup
    else if tag.name == "tr" then turn .tableBody
    else if ["td", "th"].contains tag.name then turn .row
    else turn .body
  | .endTag tag => .taken (if tag.name == "template" then b.templateEnd else b)
  | .eof => b.finish
  | _ => .taken (b.body token)

def byMode (b : Builder) (token : Token) : Outcome :=
  match b.mode, token with
  | .text, _ => b.text token
  | .tableText, _ => b.tableCharacters token
  | _, .eof => b.finish
  | .body, _ => .taken (b.body token)
  | .table, _ => b.table token
  | .caption, _ => b.caption token
  | .columnGroup, _ => b.columnGroup token
  | .tableBody, _ => b.tableBody token
  | .row, _ => b.row token
  | .cell, _ => b.cell token
  | .select, _ => b.select token
  | .selectInTable, _ => b.selectInTable token
  | .template, _ => b.template token

/-- The elements of HTML that end SVG and MathML. -/
def breakoutNames : List String :=
  ["b", "big", "blockquote", "body", "br", "center", "code", "dd", "div", "dl", "dt", "em", "embed",
    "h1", "h2", "h3", "h4", "h5", "h6", "head", "hr", "i", "img", "li", "listing", "menu", "meta",
    "nobr", "ol", "p", "pre", "ruby", "s", "small", "span", "strong", "strike", "sub", "sup",
    "table", "tt", "u", "ul", "var"]

/-- Whether a start tag ends SVG and MathML. -/
def breaksOut (tag : Tag) : Bool :=
  breakoutNames.contains tag.name ||
    (tag.name == "font" &&
      tag.attributes.any fun entry => ["color", "face", "size"].contains entry.1)

/-- Whether the innermost element belongs to SVG or MathML. -/
def isForeign (b : Builder) : Bool :=
  (b.node b.current).vocabulary != .html

/-- Whether a token is read by the rule for SVG and MathML. -/
def isForeignToken (b : Builder) (token : Token) : Bool :=
  let n := b.node b.current
  let isStart (except : List String) : Bool :=
    match token with
    | .startTag tag => !except.contains tag.name
    | _ => false
  let isCharacters : Bool :=
    match token with
    | .text _ => true
    | .null => true
    | _ => false
  let isEof : Bool :=
    match token with
    | .eof => true
    | _ => false
  if isEof || n.vocabulary == .html then false
  else if isMathText n && (isCharacters || isStart ["mglyph", "malignmark"]) then false
  else if isSvgHtml n && (isCharacters || isStart []) then false
  else
    match token with
    | .startTag tag =>
      !(n.vocabulary == .mathml && n.tag.name == "annotation-xml" && tag.name == "svg")
    | _ => true

/-- Leaves SVG and MathML and has the token read again. -/
def leaveForeign (b : Builder) : Builder :=
  { b with stack := b.stack.dropWhile fun id =>
      let n := b.node id
      n.vocabulary != .html && !isMathText n && !isSvgHtml n }

/-- The rule for an end tag in SVG and MathML: it closes an element with its name, up to the
nearest element of HTML. -/
def foreignEnd (b : Builder) (token : Token) (name : String) : List Nat → Outcome
  | [] => .taken b
  | [_] => .taken b
  | id :: rest =>
    let n := b.node id
    if n.vocabulary == .html then b.byMode token
    else if n.tag.name == name then .taken { b with stack := rest }
    else b.foreignEnd token name rest

def foreign (b : Builder) (token : Token) : Outcome :=
  match token with
  | .text s => .taken (b.insertText s)
  | .null => .taken (b.insertText ['\uFFFD'])
  | .startTag tag =>
    if breaksOut tag then b.leaveForeign.byMode token
    else .taken (b.foreignStart (b.node b.current).vocabulary tag)
  | .endTag tag =>
    if tag.name == "br" || tag.name == "p" then b.leaveForeign.byMode token
    else b.foreignEnd token tag.name b.stack
  | _ => .taken b

/-- Reads a token as often as the rules ask for; every time but a few closes an element. -/
def take : Nat → Builder → Token → Builder
  | 0, b, _ => b
  | rounds + 1, b, token =>
    match if b.isForeignToken token then b.foreign token else b.byMode token with
    | .taken b => b
    | .again b => take rounds b token

/-- Drops the line feed at the front of a run of characters. -/
def dropFirstLineFeed : Token → Token
  | .text ('\n' :: rest) => .text rest
  | token => token

/-- Takes a token: a line feed right after certain start tags is dropped, and blanks in front of
other characters are taken on their own in a group of columns. -/
def accept (b : Builder) (token : Token) : Builder :=
  let token := if b.dropLineFeed then dropFirstLineFeed token else token
  let b := { b with dropLineFeed := false }
  let rounds := 4 * b.stack.length + 16
  match b.mode, token with
  | .columnGroup, .text s =>
    let blanks := s.takeWhile isSpace
    let b := if blanks.isEmpty then b else b.take rounds (.text blanks)
    if blanks.length = s.length then b else b.take rounds (.text (s.drop blanks.length))
  | _, .text [] => b
  | _, .nothing => b
  | _, _ => b.take rounds token

end Crosswalk.Html.Builder

/-! ### The text of a fragment

The fragment is read as the content of a body, and the texts of its tree are put together in order.
-/

namespace Crosswalk.Html

/-- Puts a line feed for every carriage return, with or without a line feed after it. -/
def normalizeNewlines : List Char → List Char
  | [] => []
  | '\r' :: '\n' :: rest => '\n' :: normalizeNewlines rest
  | '\r' :: rest => '\n' :: normalizeNewlines rest
  | c :: rest => c :: normalizeNewlines rest

/-- Reads tokens until the text ends; each but the last takes at least one character. -/
def build : Nat → Builder → List Char → Builder
  | 0, b, _ => b
  | fuel + 1, b, s =>
    let element := (b.node b.current).tag.name
    let (token, rest) := next b.model element b.isForeign s
    let b := b.accept token
    match token with
    | .eof => b
    | _ => build fuel b rest

/-- The text of a fragment. A byte order mark in front is dropped. -/
def plainText (s : List Char) : List Char :=
  let s :=
    match s with
    | '\uFEFF' :: rest => rest
    | _ => s
  (build (s.length + 2) .start (normalizeNewlines s)).tree.text

end Crosswalk.Html
