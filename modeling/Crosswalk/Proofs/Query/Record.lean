import Crosswalk.Proofs.Query.Places
import Crosswalk.Proofs.Query.Selection

/-!
A record beside a document of its own.

A document may consist of nothing but a copy of a record. Its items are those of the record under
other places: the place of the record stands for the index of the only node at the top. Every
operation that queries are made of respects this renaming, and so do queries.
-/

namespace Crosswalk.Query

/-- A record of a document. -/
def recordOf (n : Namespaces) (d : Xml.Document) (r : Located) : Context := ⟨n, d, some r⟩

/-- A document with a copy of a node and nothing else at the top. -/
def aloneOf (n : Namespaces) (r : Located) : Context := ⟨n, ⟨[r.node]⟩, none⟩

/-- A node of a document with one node at the top, under its place when this node stands at
`base`. -/
def Located.within (base : List Nat) (l : Located) : Located := ⟨base ++ l.place.tail, l.node⟩

/-- An item of a document with one node at the top, in a record that stands at `base`. -/
def Item.within (base : List Nat) : Item → Item
  | .top => .top
  | .node l => .node (l.within base)
  | .attribute l a => .attribute (l.within base) a

/-- Whether a node stands in a document with one node at the top. -/
def Located.IsRooted (l : Located) : Prop := l.place.head? = some 0

/-- Whether an item stands in a document with one node at the top. -/
def Item.IsRooted : Item → Prop
  | .top => True
  | .node l => l.IsRooted
  | .attribute l _ => l.IsRooted

theorem Located.IsRooted.place_eq {l : Located} (h : l.IsRooted) : l.place = 0 :: l.place.tail := by
  obtain ⟨path, hpath⟩ := List.head?_eq_some_iff.mp h
  rw [hpath, List.tail_cons]

variable {base : List Nat} {l : Located}

theorem children_within (h : l.IsRooted) :
    (l.within base).children = l.children.map (Located.within base) := by
  have htail : ∀ index, (l.place ++ [index]).tail = l.place.tail ++ [index] := by
    intro index
    rw [h.place_eq]
    rfl
  apply List.ext_getElem
  · simp [Located.children, locate, Located.within]
  · intro index _ _
    simp [Located.children, locate, Located.within, htail]

theorem listFrom_within (place : List Nat) (index : Nat) (nodes : List Xml.Node) (hne : place ≠ []) :
    (listFrom place index nodes).map (Located.within base) =
      listFrom (base ++ place.tail) index nodes := by
  induction nodes using forest_induction generalizing place index with
  | nil => simp [listFrom]
  | cons node rest below beside =>
    have htail : (place ++ [index]).tail = place.tail ++ [index] := List.tail_append_of_ne_nil hne
    rw [listFrom_cons, listFrom_cons, List.map_cons, List.map_append, below _ _ (by simp),
      beside _ _ hne, htail, List.append_assoc]
    simp [Located.within, htail]

theorem descendants_within (h : l.IsRooted) :
    (l.within base).descendants = l.descendants.map (Located.within base) := by
  have hne : l.place ≠ [] := by
    rw [h.place_eq]
    simp
  rw [Located.descendants, Located.descendants, listFrom_within _ _ _ hne]
  rfl

theorem isRooted_of_mem_descendants (h : l.IsRooted) :
    ∀ x ∈ l.descendants, x.IsRooted := by
  intro x hx
  obtain ⟨i, path, hplace, -⟩ := mem_listFrom_iff.mp hx
  rw [Located.IsRooted, hplace, h.place_eq]
  rfl

theorem isRooted_of_mem_children (h : l.IsRooted) : ∀ x ∈ l.children, x.IsRooted := fun x hx =>
  isRooted_of_mem_descendants h x ((locate_sublist_listFrom _ _).subset hx)

theorem same_within {x y : Item} (hx : x.IsRooted) (hy : y.IsRooted) :
    (x.within base).same (y.within base) = x.same y := by
  have hplace : ∀ {a b : Located}, a.IsRooted → b.IsRooted →
      ((a.within base).place == (b.within base).place) = (a.place == b.place) := by
    intro a b ha hb
    rw [Located.within, Located.within, ha.place_eq, hb.place_eq]
    simp [Bool.beq_eq_decide_eq]
  cases x <;> cases y <;> try rfl
  · exact hplace hx hy
  · simp only [Item.within, Item.same, hplace hx hy]

theorem any_same_within {items : List Item} {x : Item} (hitems : ∀ y ∈ items, y.IsRooted)
    (hx : x.IsRooted) :
    (items.map (Item.within base)).any (x.within base).same = items.any x.same := by
  induction items with
  | nil => rfl
  | cons y rest ih =>
    have hrest := ih fun z hz => hitems z (List.mem_cons_of_mem y hz)
    rw [List.map_cons, List.any_cons, List.any_cons, same_within hx (hitems y (by simp)), hrest]

/-- The same items are found again in both. -/
theorem addNew_within {items more : List Item} (hitems : ∀ x ∈ items, x.IsRooted)
    (hmore : ∀ x ∈ more, x.IsRooted) :
    addNew (items.map (Item.within base)) (more.map (Item.within base)) =
      (addNew items more).map (Item.within base) := by
  induction more generalizing items with
  | nil => rfl
  | cons x rest ih =>
    have hx := hmore x (by simp)
    have hrest : ∀ y ∈ rest, y.IsRooted := fun y hy => hmore y (List.mem_cons_of_mem x hy)
    rw [List.map_cons, addNew, addNew, List.foldl_cons, List.foldl_cons,
      any_same_within hitems hx]
    by_cases hfound : items.any x.same = true
    · rw [if_pos hfound, if_pos hfound]
      exact ih hitems hrest
    · have hadded : ∀ y ∈ items ++ [x], y.IsRooted := by
        intro y hy
        rcases List.mem_append.mp hy with hy | hy
        · exact hitems y hy
        · exact List.mem_singleton.mp hy ▸ hx
      rw [if_neg hfound, if_neg hfound, ← List.map_singleton, ← List.map_append]
      exact ih hadded hrest

section Step

variable {n : Namespaces} {d : Xml.Document} {r : Located} {item : Item}
  (hr : r ∈ listFrom [] 0 d.children)

theorem isRooted_top : (⟨[0], r.node⟩ : Located).IsRooted := rfl

theorem topNodes_aloneOf : (aloneOf n r).topNodes = [⟨[0], r.node⟩] := rfl

theorem allNodes_aloneOf :
    (aloneOf n r).allNodes = ⟨[0], r.node⟩ :: (⟨[0], r.node⟩ : Located).descendants := by
  simp [aloneOf, Context.allNodes, listFrom, nodesFrom_eq, Located.descendants]

theorem within_top : (⟨[0], r.node⟩ : Located).within r.place = r := by
  simp [Located.within]

theorem topNodes_within :
    (recordOf n d r).topNodes = (aloneOf n r).topNodes.map (Located.within r.place) := by
  rw [topNodes_aloneOf, List.map_singleton, within_top]
  rfl

theorem allNodes_within :
    (recordOf n d r).allNodes = (aloneOf n r).allNodes.map (Located.within r.place) := by
  rw [allNodes_aloneOf, List.map_cons, within_top, ← descendants_within isRooted_top, within_top]
  rfl

theorem isRooted_of_mem_allNodes : ∀ l ∈ (aloneOf n r).allNodes, l.IsRooted := by
  intro l hl
  rw [allNodes_aloneOf] at hl
  rcases List.mem_cons.mp hl with rfl | hl
  · rfl
  · exact isRooted_of_mem_descendants isRooted_top l hl

theorem stringValue_within (item : Item) :
    (recordOf n d r).stringValue (item.within r.place) = (aloneOf n r).stringValue item := by
  cases item <;> rfl

theorem passes_within (test : NodeTest) (axis : Axis) (item : Item) :
    (recordOf n d r).passes test axis (item.within r.place) =
      (aloneOf n r).passes test axis item := by
  cases item <;> rfl

include hr in
/-- What stands above an item is renamed with it: below the record by the place of the record, and
above the record and its copy stands the top. -/
theorem above_within {l : Located} (h : l.IsRooted) :
    (recordOf n d r).above (l.within r.place) = ((aloneOf n r).above l).within r.place := by
  obtain ⟨hne, hfound⟩ := nodeAt?_of_mem hr
  obtain ⟨inner, hinner⟩ : ∃ inner, l.place = 0 :: inner := ⟨_, h.place_eq⟩
  by_cases hnil : inner = []
  · have hself : (l.within r.place).place = r.place := by simp [Located.within, hinner, hnil]
    simp [Context.above, recordOf, aloneOf, hself, hinner, hnil, nodeAt?, Item.within]
  · have hother : (r.place == (l.within r.place).place) = false := by
      simp [Located.within, hinner, hnil]
    have hback : (l.within r.place).place.dropLast = r.place ++ inner.dropLast := by
      simp [Located.within, hinner, List.dropLast_append_of_ne_nil hnil]
    have hfront : l.place.dropLast = 0 :: inner.dropLast := by
      rw [hinner, List.dropLast_cons_of_ne_nil hnil]
    have hsame : nodeAt? (r.place ++ inner.dropLast) d.children =
        nodeAt? (0 :: inner.dropLast) [r.node] := by
      cases hdrop : inner.dropLast with
      | nil => rw [List.append_nil, hfound]; rfl
      | cons next more =>
        rw [nodeAt?_append hne (by simp), hfound, nodeAt?_zero_cons]
        rfl
    simp only [Context.above, recordOf, aloneOf, Option.any_some, hother, hback, hfront, hsame,
      Option.any_none, Bool.false_eq_true, if_false]
    cases nodeAt? (0 :: inner.dropLast) [r.node] <;> rfl

theorem isRooted_above {l : Located} (h : l.IsRooted) : ((aloneOf n r).above l).IsRooted := by
  obtain ⟨inner, hinner⟩ : ∃ inner, l.place = 0 :: inner := ⟨_, h.place_eq⟩
  simp only [Context.above, aloneOf, Option.any_none, Bool.false_eq_true, if_false]
  cases hnode : nodeAt? l.place.dropLast [r.node] with
  | none => trivial
  | some node =>
    cases inner with
    | nil => simp [hinner, nodeAt?] at hnode
    | cons next more =>
      show l.place.dropLast.head? = some 0
      rw [hinner]
      rfl

theorem map_node_within (nodes : List Located) :
    (nodes.map (Located.within base)).map Item.node =
      (nodes.map Item.node).map (Item.within base) := by
  rw [List.map_map, List.map_map]
  rfl

theorem isRooted_map_node {nodes : List Located} (h : ∀ l ∈ nodes, l.IsRooted) :
    ∀ x ∈ nodes.map Item.node, x.IsRooted := by
  intro x hx
  obtain ⟨l, hl, rfl⟩ := List.mem_map.mp hx
  exact h l hl

theorem childItems_within (h : item.IsRooted) :
    (recordOf n d r).children (item.within r.place) =
      ((aloneOf n r).children item).map (Item.within r.place) := by
  cases item with
  | top =>
    simp only [Item.within, Context.children]
    rw [topNodes_within, map_node_within]
  | node l =>
    simp only [Item.within, Context.children]
    rw [children_within h, map_node_within]
  | _ => rfl

theorem isRooted_childItems (h : item.IsRooted) :
    ∀ x ∈ (aloneOf n r).children item, x.IsRooted := by
  cases item with
  | top =>
    apply isRooted_map_node
    intro l hl
    rw [topNodes_aloneOf, List.mem_singleton] at hl
    exact hl ▸ isRooted_top
  | node l => exact isRooted_map_node (isRooted_of_mem_children h)
  | _ => simp [Context.children]

theorem descendantItems_within (h : item.IsRooted) :
    (recordOf n d r).descendants (item.within r.place) =
      ((aloneOf n r).descendants item).map (Item.within r.place) := by
  cases item with
  | top =>
    simp only [Item.within, Context.descendants]
    rw [allNodes_within, map_node_within]
  | node l =>
    simp only [Item.within, Context.descendants]
    rw [descendants_within h, map_node_within]
  | _ => rfl

theorem isRooted_descendantItems (h : item.IsRooted) :
    ∀ x ∈ (aloneOf n r).descendants item, x.IsRooted := by
  cases item with
  | top => exact isRooted_map_node isRooted_of_mem_allNodes
  | node l => exact isRooted_map_node (isRooted_of_mem_descendants h)
  | _ => simp [Context.descendants]

theorem attributes_within (item : Item) :
    (item.within base).attributes = item.attributes.map (Item.within base) := by
  cases item with
  | node l =>
    simp only [Item.within, Item.attributes, List.map_map]
    rfl
  | top => rfl
  | _ => rfl

theorem isRooted_attributes (h : item.IsRooted) : ∀ x ∈ item.attributes, x.IsRooted := by
  cases item with
  | node l =>
    intro x hx
    obtain ⟨a, -, rfl⟩ := List.mem_map.mp hx
    exact h
  | top => simp [Item.attributes]
  | _ => simp [Item.attributes]

include hr in
theorem parent_within (h : item.IsRooted) :
    (recordOf n d r).parent? (item.within r.place) =
      ((aloneOf n r).parent? item).map (Item.within r.place) := by
  cases item with
  | top => rfl
  | node l => exact congrArg some (above_within hr h)
  | _ => rfl

theorem isRooted_parent (h : item.IsRooted) :
    ∀ x ∈ ((aloneOf n r).parent? item).toList, x.IsRooted := by
  cases item with
  | top => simp [Context.parent?]
  | node l => simpa [Context.parent?] using isRooted_above h
  | _ => exact List.forall_mem_singleton.mpr h

include hr in
/-- The items on an axis are the same in both. -/
theorem along_within (axis : Axis) (h : item.IsRooted) :
    (recordOf n d r).along axis (item.within r.place) =
      ((aloneOf n r).along axis item).map (Item.within r.place) := by
  cases axis with
  | child => exact childItems_within h
  | descendant => exact descendantItems_within h
  | descendantOrSelf => exact congrArg _ (descendantItems_within h)
  | self => rfl
  | parent => rw [Context.along, Context.along, parent_within hr h, Option.toList_map]
  | attributes => exact attributes_within item

theorem isRooted_along (axis : Axis) (h : item.IsRooted) :
    ∀ x ∈ (aloneOf n r).along axis item, x.IsRooted := by
  cases axis with
  | child => exact isRooted_childItems h
  | descendant => exact isRooted_descendantItems h
  | descendantOrSelf => exact List.forall_mem_cons.mpr ⟨h, isRooted_descendantItems h⟩
  | self => exact List.forall_mem_singleton.mpr h
  | parent => exact isRooted_parent h
  | attributes => exact isRooted_attributes h

theorem namedChildren_within (pattern : NamePattern) (h : item.IsRooted) :
    (recordOf n d r).namedChildren pattern (item.within r.place) =
      ((aloneOf n r).namedChildren pattern item).map (Item.within r.place) := by
  rw [Context.namedChildren, Context.namedChildren, childItems_within h, List.filter_map]
  congr 1
  apply List.filter_congr
  intro x _
  exact passes_within _ _ x

theorem namedAttribute_within (pattern : NamePattern) (item : Item) :
    (recordOf n d r).namedAttribute? pattern (item.within r.place) =
      (aloneOf n r).namedAttribute? pattern item := by
  have hpasses : (recordOf n d r).passes (.name pattern) .attributes ∘ Item.within r.place =
      (aloneOf n r).passes (.name pattern) .attributes := funext fun x => passes_within _ _ x
  have hvalue : (recordOf n d r).stringValue ∘ Item.within r.place =
      (aloneOf n r).stringValue := funext fun x => stringValue_within x
  rw [Context.namedAttribute?, Context.namedAttribute?, attributes_within, List.find?_map,
    Option.map_map, hpasses, hvalue]

/-- A condition holds of the same items in both. -/
theorem holds_within (p : Predicate) (h : item.IsRooted) :
    (recordOf n d r).holds (item.within r.place) p = (aloneOf n r).holds item p := by
  cases p with
  | position k => rfl
  | last => rfl
  | has part =>
    cases part with
    | child name => simp only [Context.holds, namedChildren_within name h, List.isEmpty_map]
    | _ => simp only [Context.holds, namedAttribute_within]
  | compares part value negated =>
    cases part with
    | child name =>
      simp only [Context.holds, namedChildren_within name h, List.any_map, Function.comp_def,
        stringValue_within]
    | _ => simp only [Context.holds, namedAttribute_within]
  | comparesSelf value negated => simp only [Context.holds, stringValue_within]

theorem keep_within (p : Predicate) {items : List Item} (h : ∀ x ∈ items, x.IsRooted) :
    (recordOf n d r).keep (items.map (Item.within r.place)) p =
      ((aloneOf n r).keep items p).map (Item.within r.place) := by
  have hfilter : ∀ p : Predicate,
      (items.map (Item.within r.place)).filter (fun x => (recordOf n d r).holds x p) =
        (items.filter fun x => (aloneOf n r).holds x p).map (Item.within r.place) := by
    intro p
    rw [List.filter_map]
    congr 1
    apply List.filter_congr
    intro x hx
    exact holds_within p (h x hx)
  cases p with
  | position k =>
    simp only [Context.keep]
    split
    · rfl
    · rw [List.getElem?_map, Option.toList_map]
  | last => simp only [Context.keep, List.getLast?_map, Option.toList_map]
  | has part => exact hfilter (.has part)
  | compares part value negated => exact hfilter (.compares part value negated)
  | comparesSelf value negated => exact hfilter (.comparesSelf value negated)

theorem foldl_keep_within (ps : List Predicate) {items : List Item}
    (h : ∀ x ∈ items, x.IsRooted) :
    ps.foldl (recordOf n d r).keep (items.map (Item.within r.place)) =
      (ps.foldl (aloneOf n r).keep items).map (Item.within r.place) := by
  induction ps generalizing items with
  | nil => rfl
  | cons p rest ih =>
    rw [List.foldl_cons, List.foldl_cons, keep_within p h]
    exact ih fun x hx => h x ((Context.keep_sublist _ items p).subset hx)

include hr in
theorem stepFrom_within (step : Step) (h : item.IsRooted) :
    (recordOf n d r).stepFrom step (item.within r.place) =
      ((aloneOf n r).stepFrom step item).map (Item.within r.place) := by
  have hfilter : (((aloneOf n r).along step.axis item).map (Item.within r.place)).filter
      ((recordOf n d r).passes step.test step.axis) =
      (((aloneOf n r).along step.axis item).filter
        ((aloneOf n r).passes step.test step.axis)).map (Item.within r.place) := by
    rw [List.filter_map]
    congr 1
    apply List.filter_congr
    intro x _
    exact passes_within _ _ x
  rw [Context.stepFrom, along_within hr step.axis h, hfilter, foldl_keep_within]
  · rfl
  · exact fun x hx => isRooted_along step.axis h x (List.mem_filter.mp hx).1

theorem isRooted_stepFrom (step : Step) (h : item.IsRooted) :
    ∀ x ∈ (aloneOf n r).stepFrom step item, x.IsRooted := fun x hx =>
  isRooted_along step.axis h x ((Context.stepFrom_sublist _ step item).subset hx)

theorem isRooted_addNew {items more : List Item} (hitems : ∀ x ∈ items, x.IsRooted)
    (hmore : ∀ x ∈ more, x.IsRooted) : ∀ x ∈ addNew items more, x.IsRooted := by
  intro x hx
  rcases mem_addNew hx with hx | hx
  · exact hitems x hx
  · exact hmore x hx

include hr in
theorem stepAll_within (step : Step) {items : List Item} (h : ∀ x ∈ items, x.IsRooted) :
    (recordOf n d r).stepAll (items.map (Item.within r.place)) step =
        ((aloneOf n r).stepAll items step).map (Item.within r.place) ∧
      ∀ x ∈ (aloneOf n r).stepAll items step, x.IsRooted := by
  have hrun : ∀ acc : List Item, (∀ x ∈ acc, x.IsRooted) →
      (items.map (Item.within r.place)).foldl
          (fun acc item => addNew acc ((recordOf n d r).stepFrom step item))
          (acc.map (Item.within r.place)) =
        (items.foldl (fun acc item => addNew acc ((aloneOf n r).stepFrom step item)) acc).map
          (Item.within r.place) ∧
      ∀ x ∈ items.foldl (fun acc item => addNew acc ((aloneOf n r).stepFrom step item)) acc,
        x.IsRooted := by
    induction items with
    | nil => exact fun acc hacc => ⟨rfl, hacc⟩
    | cons item rest ih =>
      intro acc hacc
      have hitem := h item (by simp)
      have hfound := @isRooted_stepFrom n r item step hitem
      rw [List.map_cons, List.foldl_cons, List.foldl_cons, stepFrom_within hr step hitem,
        addNew_within hacc hfound]
      exact ih (fun x hx => h x (List.mem_cons_of_mem item hx)) _ (isRooted_addNew hacc hfound)
  exact hrun [] (by simp)

include hr in
theorem foldl_stepAll_within (steps : List Step) {items : List Item}
    (h : ∀ x ∈ items, x.IsRooted) :
    steps.foldl (recordOf n d r).stepAll (items.map (Item.within r.place)) =
        (steps.foldl (aloneOf n r).stepAll items).map (Item.within r.place) ∧
      ∀ x ∈ steps.foldl (aloneOf n r).stepAll items, x.IsRooted := by
  induction steps generalizing items with
  | nil => exact ⟨rfl, h⟩
  | cons step rest ih =>
    obtain ⟨heq, hrooted⟩ := @stepAll_within n d r hr step items h
    rw [List.foldl_cons, List.foldl_cons, heq]
    exact ih hrooted

include hr in
theorem follow_within (path : Path) :
    (recordOf n d r).follow path .top =
        ((aloneOf n r).follow path .top).map (Item.within r.place) ∧
      ∀ x ∈ (aloneOf n r).follow path .top, x.IsRooted := by
  simp only [Context.follow, ite_self]
  exact @foldl_stepAll_within n d r hr path.steps [.top] (by simp [Item.IsRooted])

include hr in
/-- A query selects the same items in a record and in a document of its own. -/
theorem select_within (query : Query) :
    (recordOf n d r).select query = ((aloneOf n r).select query).map (Item.within r.place) := by
  have hrun : ∀ (paths : List Path) (acc : List Item), (∀ x ∈ acc, x.IsRooted) →
      paths.foldl (fun acc path => addNew acc ((recordOf n d r).follow path .top))
          (acc.map (Item.within r.place)) =
        (paths.foldl (fun acc path => addNew acc ((aloneOf n r).follow path .top)) acc).map
          (Item.within r.place) := by
    intro paths
    induction paths with
    | nil => exact fun _ _ => rfl
    | cons path rest ih =>
      intro acc hacc
      obtain ⟨heq, hrooted⟩ := @follow_within n d r hr path
      rw [List.foldl_cons, List.foldl_cons, heq, addNew_within hacc hrooted]
      exact ih _ (isRooted_addNew hacc hrooted)
  exact hrun query.paths [] (by simp)

include hr in
theorem selectText_within (query : String) :
    (recordOf n d r).selectText query =
      ((aloneOf n r).selectText query).map (Item.within r.place) := by
  unfold Context.selectText
  split
  · exact select_within hr _
  · rfl

include hr in
/-- A query finds the same texts in a record and in a document of its own. -/
theorem strings_within (query : String) :
    (recordOf n d r).strings query = (aloneOf n r).strings query := by
  rw [Context.strings, Context.strings, selectText_within hr, List.map_map]
  apply List.map_congr_left
  intro x _
  exact stringValue_within x

end Step

end Crosswalk.Query
