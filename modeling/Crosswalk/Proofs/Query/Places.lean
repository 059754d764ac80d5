import Mathlib.Data.List.Basic
import Crosswalk.Query.Item

/-!
Places of nodes.

The nodes below a place are listed in document order, and this order is the order of their places
read like words: a node comes before what is below it, and what is below it comes before the nodes
at its side. A node stands in such a list exactly when its place leads to it.
-/

namespace Crosswalk.Query

/-- What holds of no nodes, and of nodes side by side when it holds of those below the first one and
of the others, holds of all nodes side by side. -/
theorem forest_induction {P : List Xml.Node → Prop} (nil : P [])
    (cons : ∀ node rest, P node.children → P rest → P (node :: rest)) (nodes : List Xml.Node) :
    P nodes := by
  match nodes with
  | [] => exact nil
  | node :: rest =>
    exact cons node rest (forest_induction nil cons node.children) (forest_induction nil cons rest)
termination_by sizeOf nodes
decreasing_by
  · cases node <;> simp [Xml.Node.children] <;> omega
  · simp only [List.cons.sizeOf_spec]
    omega

theorem nodesFrom_eq (place : List Nat) (node : Xml.Node) :
    nodesFrom place node = ⟨place, node⟩ :: listFrom place 0 node.children := by
  cases node <;> simp [nodesFrom, listFrom, Xml.Node.children]

theorem listFrom_cons (place : List Nat) (index : Nat) (node : Xml.Node)
    (rest : List Xml.Node) :
    listFrom place index (node :: rest) =
      ⟨place ++ [index], node⟩ ::
        (listFrom (place ++ [index]) 0 node.children ++ listFrom place (index + 1) rest) := by
  rw [listFrom, nodesFrom_eq, List.cons_append]

theorem nodeAt?_zero_cons (next : Nat) (path : List Nat) (node : Xml.Node)
    (rest : List Xml.Node) :
    nodeAt? (0 :: next :: path) (node :: rest) = nodeAt? (next :: path) node.children := rfl

theorem nodeAt?_succ (index : Nat) (path : List Nat) (node : Xml.Node) (rest : List Xml.Node) :
    nodeAt? ((index + 1) :: path) (node :: rest) = nodeAt? (index :: path) rest := by
  cases path <;> rfl

theorem nodeAt?_nil (path : List Nat) : nodeAt? path [] = none := by
  match path with
  | [] => rfl
  | [_] => rfl
  | _ :: _ :: _ => rfl

/-- A node is listed exactly when its place leads to it. -/
theorem mem_listFrom_iff {place : List Nat} {index : Nat} {nodes : List Xml.Node} {l : Located} :
    l ∈ listFrom place index nodes ↔
      ∃ i path, l.place = place ++ (index + i) :: path ∧ nodeAt? (i :: path) nodes = some l.node := by
  induction nodes using forest_induction generalizing place index with
  | nil => simp [listFrom, nodeAt?_nil]
  | cons node rest below beside =>
    rw [listFrom_cons, List.mem_cons, List.mem_append, below, beside]
    constructor
    · rintro (rfl | ⟨i, path, hplace, hnode⟩ | ⟨i, path, hplace, hnode⟩)
      · exact ⟨0, [], rfl, rfl⟩
      · exact ⟨0, i :: path, by simp [hplace], by rw [nodeAt?_zero_cons, hnode]⟩
      · refine ⟨i + 1, path, ?_, by rw [nodeAt?_succ, hnode]⟩
        rw [hplace, Nat.add_right_comm, Nat.add_assoc]
    · rintro ⟨i, path, hplace, hnode⟩
      cases i with
      | zero =>
        cases path with
        | nil =>
          left
          cases l
          cases hplace
          cases hnode
          rfl
        | cons next path =>
          rw [nodeAt?_zero_cons] at hnode
          exact Or.inr (Or.inl ⟨next, path, by simp [hplace], hnode⟩)
      | succ i =>
        rw [nodeAt?_succ] at hnode
        refine Or.inr (Or.inr ⟨i, path, ?_, hnode⟩)
        rw [hplace, Nat.add_right_comm, Nat.add_assoc]

theorem nodeAt?_of_mem {nodes : List Xml.Node} {l : Located} (h : l ∈ listFrom [] 0 nodes) :
    l.place ≠ [] ∧ nodeAt? l.place nodes = some l.node := by
  obtain ⟨i, path, hplace, hnode⟩ := mem_listFrom_iff.mp h
  rw [List.nil_append, Nat.zero_add] at hplace
  exact ⟨by simp [hplace], by rw [hplace, hnode]⟩

theorem mem_of_nodeAt? {place : List Nat} {nodes : List Xml.Node} {node : Xml.Node}
    (h : nodeAt? place nodes = some node) : ⟨place, node⟩ ∈ listFrom [] 0 nodes := by
  cases place with
  | nil => cases h
  | cons i path => exact mem_listFrom_iff.mpr ⟨i, path, by simp, h⟩

/-- Looking along two paths is looking along the second from where the first leads. -/
theorem nodeAt?_append {first second : List Nat} (hfirst : first ≠ []) (hsecond : second ≠ [])
    (nodes : List Xml.Node) :
    nodeAt? (first ++ second) nodes =
      (nodeAt? first nodes).bind fun node => nodeAt? second node.children := by
  induction first generalizing nodes with
  | nil => exact absurd rfl hfirst
  | cons index rest ih =>
    cases rest with
    | nil =>
      obtain ⟨next, path, rfl⟩ := List.exists_cons_of_ne_nil hsecond
      rfl
    | cons next path =>
      have hstep : ∀ more : List Nat, nodeAt? (index :: next :: more) nodes =
          (nodes[index]?).bind fun node => nodeAt? (next :: more) node.children := fun _ => rfl
      rw [List.cons_append, List.cons_append, hstep, hstep, Option.bind_assoc]
      congr 1
      funext node
      exact ih (by simp) node.children

theorem lt_of_append_cons {i j : Nat} (h : i < j) (front first second : List Nat) :
    front ++ i :: first < front ++ j :: second :=
  List.append_left_lt (List.cons_lt_cons_iff.mpr (Or.inl h))

theorem lt_append_cons (front : List Nat) (i : Nat) (path : List Nat) :
    front < front ++ i :: path := by
  have h : front ++ [] < front ++ i :: path := List.append_left_lt (List.nil_lt_cons i path)
  rwa [List.append_nil] at h

/-- Nodes are listed in the order of their places. -/
theorem pairwise_place_listFrom (place : List Nat) (index : Nat) (nodes : List Xml.Node) :
    (listFrom place index nodes).Pairwise fun a b => a.place < b.place := by
  induction nodes using forest_induction generalizing place index with
  | nil => simp [listFrom]
  | cons node rest below beside =>
    rw [listFrom_cons, List.pairwise_cons, List.pairwise_append]
    refine ⟨?_, below _ _, beside _ _, ?_⟩
    · intro l hl
      rcases List.mem_append.mp hl with hl | hl
      · obtain ⟨i, path, hplace, -⟩ := mem_listFrom_iff.mp hl
        rw [hplace]
        exact lt_append_cons _ _ _
      · obtain ⟨i, path, hplace, -⟩ := mem_listFrom_iff.mp hl
        rw [hplace]
        exact lt_of_append_cons (by omega) _ _ _
    · intro a ha b hb
      obtain ⟨i, path, hplace, -⟩ := mem_listFrom_iff.mp ha
      obtain ⟨j, path', hplace', -⟩ := mem_listFrom_iff.mp hb
      rw [hplace, hplace', List.append_assoc]
      exact lt_of_append_cons (by omega) _ _ _

/-- With a node, all nodes below it are listed in their order. -/
theorem subtree_sublist_listFrom {place : List Nat} {index : Nat} {nodes : List Xml.Node}
    {l : Located} (h : l ∈ listFrom place index nodes) :
    (l :: l.descendants).Sublist (listFrom place index nodes) := by
  induction nodes using forest_induction generalizing place index with
  | nil => simp [listFrom] at h
  | cons node rest below beside =>
    rw [listFrom_cons] at h ⊢
    rcases List.mem_cons.mp h with rfl | h
    · exact (List.sublist_append_left _ _).cons_cons _
    · rcases List.mem_append.mp h with h | h
      · exact ((below h).trans (List.sublist_append_left _ _)).cons _
      · exact ((beside h).trans (List.sublist_append_right _ _)).cons _

/-- The nodes directly below a place are listed in their order. -/
theorem locate_sublist_listFrom (place : List Nat) (nodes : List Xml.Node) :
    (locate place nodes).Sublist (listFrom place 0 nodes) := by
  have hfrom : ∀ index : Nat,
      (nodes.mapIdx fun i node => (⟨place ++ [index + i], node⟩ : Located)).Sublist
        (listFrom place index nodes) := by
    induction nodes with
    | nil => simp [listFrom]
    | cons node rest ih =>
      intro index
      rw [List.mapIdx_cons, listFrom_cons]
      apply List.Sublist.cons_cons
      have hrest := ih (index + 1)
      simp only [Nat.add_right_comm index 1, Nat.add_assoc index] at hrest
      exact hrest.trans (List.sublist_append_right _ _)
  have hzero := hfrom 0
  simp only [Nat.zero_add] at hzero
  exact hzero

end Crosswalk.Query
