import Crosswalk.Html.Token

/-!
The tree of an HTML fragment while it grows.

Nodes are numbered in the order in which they are made; each knows its parent and its children in
order.
-/

namespace Crosswalk.Html

/-- The vocabulary that an element belongs to. -/
inductive Vocabulary where
  | html
  | svg
  | mathml
deriving DecidableEq, Inhabited

/-- A node: an element, or a text where the name is empty. -/
structure Node where
  vocabulary : Vocabulary
  tag : Tag
  text : List Char
  parent : Option Nat
  children : List Nat
deriving Inhabited

/-- The nodes of a tree. -/
structure Tree where
  nodes : Array Node

namespace Tree

def start : Tree := ⟨#[⟨.html, ⟨"html", [], false⟩, [], none, []⟩]⟩

def node (t : Tree) (id : Nat) : Node := (t.nodes[id]?).getD default

def update (t : Tree) (id : Nat) (change : Node → Node) : Tree :=
  ⟨t.nodes.modify id change⟩

def add (t : Tree) (node : Node) : Tree × Nat :=
  (⟨t.nodes.push node⟩, t.nodes.size)

def append (t : Tree) (parent child : Nat) : Tree :=
  (t.update child ({ · with parent := some parent })).update parent
    fun n => { n with children := n.children ++ [child] }

def insertBeforeIn (sibling child : Nat) : List Nat → List Nat
  | [] => [child]
  | n :: rest => if n = sibling then child :: n :: rest else n :: insertBeforeIn sibling child rest

/-- Puts a node before another one, below the parent of that one. -/
def insertBefore (t : Tree) (parent sibling child : Nat) : Tree :=
  (t.update child ({ · with parent := some parent })).update parent
    fun n => { n with children := insertBeforeIn sibling child n.children }

def detach (t : Tree) (child : Nat) : Tree :=
  match (t.node child).parent with
  | some parent =>
    (t.update child ({ · with parent := none })).update parent
      fun n => { n with children := n.children.filter (· != child) }
  | none => t

/-- Moves all children of a node behind those of another one. -/
def moveChildren (t : Tree) (source target : Nat) : Tree :=
  (t.node source).children.foldl (fun t child => (t.detach child).append target child) t

def textBelow (t : Tree) : Nat → Nat → List Char
  | 0, _ => []
  | fuel + 1, id =>
    let n := t.node id
    n.text ++ n.children.flatMap (t.textBelow fuel)

def text (t : Tree) : List Char :=
  t.textBelow (t.nodes.size + 1) 0

end Tree

end Crosswalk.Html
