import Mathlib.Data.List.Sort
import Crosswalk.Proofs.Query.Places
import Crosswalk.Proofs.Query.Selection

/-!
Document order.

All that can be selected in a context stands in one list: the top, then every node with its
attributes behind it and in front of what is below it. A step finds a sublist of it from one item.
So a query selects items of this list only, none twice; and it selects them in their order exactly
when every list that a last step finds adds nothing in front of what was found before.
-/

namespace Crosswalk.Query

/-- A node, and its attributes behind it. -/
def Located.items (l : Located) : List Item := .node l :: l.node.attributes.map (.attribute l)

/-- All items of a context, in document order. -/
def Context.inOrder (c : Context) : List Item := .top :: c.allNodes.flatMap Located.items

/-- Whether an item stands in front of another in document order. -/
def Context.Precedes (c : Context) (x y : Item) : Prop := [x, y].Sublist c.inOrder

/-- Whether every list adds only items that stand behind all that was found before it. -/
def Context.AddsBehind (c : Context) : List Item → List (List Item) → Prop
  | _, [] => True
  | found, list :: rest =>
    (∀ x ∈ found, ∀ y ∈ list, y ∉ found → c.Precedes x y) ∧ c.AddsBehind (found ++ list) rest

/-- A document in which no element has two attributes of one name. -/
def HasDistinctAttributes (d : Xml.Document) : Prop :=
  ∀ l ∈ listFrom [] 0 d.children, (l.node.attributes.map (·.name)).Nodup

/-- A whole document, or one of its nodes as a record. -/
def Context.IsPlaced (c : Context) : Prop :=
  ∀ r, c.record = some r → r ∈ listFrom [] 0 c.document.children

/-- A context of a document that can have been read. -/
structure Context.IsProper (c : Context) : Prop where
  distinct : HasDistinctAttributes c.document
  placed : c.IsPlaced

/-- What orders items: indexes on the way from the top, and a nought in front of the index of an
attribute. -/
def Item.mark : Item → List Nat
  | .top => []
  | .node l => l.place.map (· + 1)
  | .attribute l a =>
    l.place.map (· + 1) ++ [0, l.node.attributes.findIdx fun b => b.name == a.name]

/-- A list is smaller than another if the other goes on behind it or if they part with the smaller
number first. -/
theorem lt_cases {a b : List Nat} (h : a < b) :
    (∃ i path, b = a ++ i :: path) ∨
      ∃ front i j first second, i < j ∧ a = front ++ i :: first ∧ b = front ++ j :: second := by
  induction a generalizing b with
  | nil =>
    cases b with
    | nil => exact absurd h (List.lt_irrefl [])
    | cons j path => exact Or.inl ⟨j, path, rfl⟩
  | cons i a ih =>
    cases b with
    | nil => exact absurd h (List.not_lt_nil _)
    | cons j b =>
      rcases List.cons_lt_cons_iff.mp h with hij | ⟨rfl, hab⟩
      · exact Or.inr ⟨[], i, j, a, b, hij, rfl, rfl⟩
      · rcases ih hab with ⟨k, path, rfl⟩ | ⟨front, k, m, first, second, hkm, rfl, rfl⟩
        · exact Or.inl ⟨k, path, rfl⟩
        · exact Or.inr ⟨i :: front, k, m, first, second, hkm, rfl, rfl⟩

/-- What goes on behind two lists that have parted is ordered like them. -/
theorem append_lt_append {a b : List Nat} (h : a < b) (hapart : ¬a <+: b) (s t : List Nat) :
    a ++ s < b ++ t := by
  rcases lt_cases h with ⟨i, path, rfl⟩ | ⟨front, i, j, first, second, hij, rfl, rfl⟩
  · exact absurd (List.prefix_append a _) hapart
  · simp only [List.append_assoc, List.cons_append]
    exact lt_of_append_cons hij _ _ _

variable {l m : Located} {x y : Item}

theorem mark_of_mem_items (h : x ∈ l.items) :
    x.mark = l.place.map (· + 1) ∨ ∃ i, x.mark = l.place.map (· + 1) ++ [0, i] := by
  rcases List.mem_cons.mp h with rfl | h
  · exact Or.inl rfl
  · obtain ⟨a, -, rfl⟩ := List.mem_map.mp h
    exact Or.inr ⟨_, rfl⟩

/-- A node that comes first has its attributes in front of the other, too. -/
theorem mark_lt_of_place_lt (h : l.place < m.place) (hx : x ∈ l.items) (hy : y ∈ m.items) :
    x.mark < y.mark := by
  have hback : ∃ t, y.mark = m.place.map (· + 1) ++ t := by
    rcases mark_of_mem_items hy with hmark | ⟨i, hmark⟩
    · exact ⟨[], by rw [hmark, List.append_nil]⟩
    · exact ⟨_, hmark⟩
  obtain ⟨t, hmark⟩ := hback
  rw [hmark]
  rcases lt_cases h with ⟨i, path, hplace⟩ | ⟨front, i, j, first, second, hij, hl, hm⟩
  · rw [hplace, List.map_append, List.map_cons, List.append_assoc, List.cons_append]
    rcases mark_of_mem_items hx with hx | ⟨k, hx⟩
    · rw [hx]
      exact lt_append_cons _ _ _
    · rw [hx]
      exact lt_of_append_cons (Nat.succ_pos i) _ _ _
  · rw [hm, List.map_append, List.map_cons, List.append_assoc, List.cons_append]
    have hfront : ∃ s, x.mark = front.map (· + 1) ++ (i + 1) :: s := by
      rcases mark_of_mem_items hx with hx | ⟨k, hx⟩
      · exact ⟨first.map (· + 1), by simp [hx, hl]⟩
      · exact ⟨first.map (· + 1) ++ [0, k], by simp [hx, hl]⟩
    obtain ⟨s, hx⟩ := hfront
    rw [hx]
    exact lt_of_append_cons (Nat.succ_lt_succ hij) _ _ _

/-- The attributes of an element are marked in their order, if their names differ. -/
theorem pairwise_mark_items (h : (l.node.attributes.map (·.name)).Nodup) :
    l.items.Pairwise fun x y => x.mark < y.mark := by
  have hindex : ∀ i (hi : i < l.node.attributes.length),
      (l.node.attributes.findIdx fun b => b.name == l.node.attributes[i].name) = i := by
    intro i hi
    rw [List.findIdx_eq hi]
    refine ⟨by simp, ?_⟩
    intro j hj
    have hne := List.pairwise_iff_getElem.mp h j i (by simp; omega) (by simpa using hi) hj
    simpa using hne
  rw [Located.items, List.pairwise_cons]
  constructor
  · intro y hy
    obtain ⟨a, -, rfl⟩ := List.mem_map.mp hy
    exact lt_append_cons _ _ _
  · rw [List.pairwise_map, List.pairwise_iff_getElem]
    intro i j hi hj hij
    simp only [Item.mark, hindex i hi, hindex j hj]
    exact List.append_left_lt (lt_of_append_cons hij [0] [] [])

theorem allNodes_eq (c : Context) :
    c.allNodes = match c.record with
      | some r => r :: r.descendants
      | none => listFrom [] 0 c.document.children := rfl

variable {c : Context}

theorem mem_document (hc : c.IsPlaced) (h : l ∈ c.allNodes) :
    l ∈ listFrom [] 0 c.document.children := by
  rw [allNodes_eq] at h
  cases hrecord : c.record with
  | none => simpa [hrecord] using h
  | some r =>
    rw [hrecord] at h
    exact (subtree_sublist_listFrom (hc r hrecord)).subset h

theorem pairwise_place_allNodes (c : Context) :
    c.allNodes.Pairwise fun a b => a.place < b.place := by
  rw [allNodes_eq]
  cases c.record with
  | none => exact pairwise_place_listFrom _ _ _
  | some r =>
    refine List.pairwise_cons.mpr ⟨?_, pairwise_place_listFrom _ _ _⟩
    intro m hm
    obtain ⟨i, path, hplace, -⟩ := mem_listFrom_iff.mp hm
    rw [hplace]
    exact lt_append_cons _ _ _

theorem place_ne_nil (hc : c.IsPlaced) (h : l ∈ c.allNodes) : l.place ≠ [] :=
  (nodeAt?_of_mem (mem_document hc h)).1

/-- The items of a context stand in the order of their marks. -/
theorem pairwise_mark_inOrder (hc : c.IsProper) :
    c.inOrder.Pairwise fun x y => x.mark < y.mark := by
  rw [Context.inOrder, List.pairwise_cons, List.pairwise_flatMap]
  refine ⟨?_, ?_, ?_⟩
  · intro y hy
    obtain ⟨l, hl, hmem⟩ := List.mem_flatMap.mp hy
    obtain ⟨i, path, hplace⟩ := List.exists_cons_of_ne_nil (place_ne_nil hc.placed hl)
    rcases mark_of_mem_items hmem with hmark | ⟨k, hmark⟩ <;>
    · rw [hmark, hplace]
      exact List.nil_lt_cons _ _
  · exact fun l hl => pairwise_mark_items (hc.distinct l (mem_document hc.placed hl))
  · apply (pairwise_place_allNodes c).imp
    intro l m hlm x hx y hy
    exact mark_lt_of_place_lt hlm hx hy

theorem mem_inOrder : x ∈ c.inOrder ↔ x = .top ∨ ∃ l ∈ c.allNodes, x ∈ l.items := by
  simp [Context.inOrder, List.mem_flatMap]

theorem node_mem_inOrder (h : l ∈ c.allNodes) : .node l ∈ c.inOrder :=
  mem_inOrder.mpr (Or.inr ⟨l, h, by simp [Located.items]⟩)

theorem mem_allNodes_of_node (h : .node l ∈ c.inOrder) : l ∈ c.allNodes := by
  rcases mem_inOrder.mp h with h | ⟨m, hm, h⟩
  · cases h
  · rcases List.mem_cons.mp h with h | h
    · exact Item.node.inj h ▸ hm
    · obtain ⟨a, -, h⟩ := List.mem_map.mp h
      cases h

theorem mem_allNodes_of_attribute {a : Xml.Attribute} (h : .attribute l a ∈ c.inOrder) :
    l ∈ c.allNodes := by
  rcases mem_inOrder.mp h with h | ⟨m, hm, h⟩
  · cases h
  · rcases List.mem_cons.mp h with h | h
    · cases h
    · obtain ⟨b, -, h⟩ := List.mem_map.mp h
      exact (Item.attribute.inj h).1 ▸ hm

theorem eq_of_mark_eq (hc : c.IsProper) (hx : x ∈ c.inOrder) (hy : y ∈ c.inOrder)
    (h : x.mark = y.mark) : x = y := by
  obtain ⟨i, hi, rfl⟩ := List.getElem_of_mem hx
  obtain ⟨j, hj, rfl⟩ := List.getElem_of_mem hy
  have hlt := List.pairwise_iff_getElem.mp (pairwise_mark_inOrder hc)
  rcases Nat.lt_trichotomy i j with hij | rfl | hij
  · have hmark := hlt i j hi hj hij
    rw [h] at hmark
    exact absurd hmark (List.lt_irrefl _)
  · rfl
  · have hmark := hlt j i hj hi hij
    rw [h] at hmark
    exact absurd hmark (List.lt_irrefl _)

/-- Items of a context that are the same are equal. -/
theorem eq_of_same (hc : c.IsProper) (hx : x ∈ c.inOrder) (hy : y ∈ c.inOrder)
    (h : x.same y = true) : x = y := by
  apply eq_of_mark_eq hc hx hy
  match x, y with
  | .top, .top => rfl
  | .node l, .node m =>
    have hplace : l.place = m.place := by simpa [Item.same] using h
    rw [Item.mark, Item.mark, hplace]
  | .attribute l a, .attribute m b =>
    obtain ⟨hplace, hname⟩ : l.place = m.place ∧ a.name = b.name := by
      simpa [Item.same] using h
    have howner : Item.node l = Item.node m := by
      apply eq_of_mark_eq hc (node_mem_inOrder (mem_allNodes_of_attribute hx))
        (node_mem_inOrder (mem_allNodes_of_attribute hy))
      rw [Item.mark, Item.mark, hplace]
    rw [Item.mark, Item.mark, Item.node.inj howner, hname]

variable {items : List Item}

/-- A list of items stands in document order exactly when its marks grow. -/
theorem sublist_inOrder_iff (hc : c.IsProper) (h : ∀ x ∈ items, x ∈ c.inOrder) :
    items.Sublist c.inOrder ↔ items.Pairwise fun x y => x.mark < y.mark := by
  constructor
  · exact fun hsub => (pairwise_mark_inOrder hc).sublist hsub
  · intro hpairwise
    have hantisymm : Std.Antisymm fun x y : Item => x.mark < y.mark :=
      ⟨fun x y hxy hyx => absurd (List.lt_trans hxy hyx) (List.lt_irrefl _)⟩
    have hnodup : items.Nodup := by
      apply hpairwise.imp
      rintro x y hxy rfl
      exact List.lt_irrefl _ hxy
    exact List.sublist_of_subperm_of_pairwise (List.subperm_of_subset hnodup h) hpairwise
      (pairwise_mark_inOrder hc)

theorem precedes_iff (hc : c.IsProper) (hx : x ∈ c.inOrder) (hy : y ∈ c.inOrder) :
    c.Precedes x y ↔ x.mark < y.mark := by
  rw [Context.Precedes, sublist_inOrder_iff hc (by simp [hx, hy])]
  simp

theorem map_node_sublist (nodes : List Located) :
    (nodes.map Item.node).Sublist (nodes.flatMap Located.items) := by
  induction nodes with
  | nil => exact List.Sublist.refl _
  | cons l rest ih =>
    rw [List.map_cons, List.flatMap_cons, Located.items, List.cons_append]
    exact (ih.trans (List.sublist_append_right _ _)).cons_cons _

theorem map_node_sublist_inOrder {nodes : List Located} (h : nodes.Sublist c.allNodes) :
    (nodes.map Item.node).Sublist c.inOrder :=
  ((h.map Item.node).trans (map_node_sublist _)).cons _

theorem subtree_sublist_allNodes (h : l ∈ c.allNodes) :
    (l :: l.descendants).Sublist c.allNodes := by
  rw [allNodes_eq] at h ⊢
  cases hrecord : c.record with
  | none =>
    rw [hrecord] at h
    exact subtree_sublist_listFrom h
  | some r =>
    rw [hrecord] at h
    rcases List.mem_cons.mp h with rfl | h
    · exact List.Sublist.refl _
    · exact (subtree_sublist_listFrom h).cons _

theorem topNodes_sublist (c : Context) : c.topNodes.Sublist c.allNodes := by
  rw [allNodes_eq, Context.topNodes]
  cases c.record with
  | none => exact locate_sublist_listFrom _ _
  | some r => exact List.singleton_sublist.mpr (by simp)

/-- What stands above a node of a context stands in the context. -/
theorem above_mem_inOrder (hc : c.IsPlaced) (h : l ∈ c.allNodes) : c.above l ∈ c.inOrder := by
  rw [Context.above]
  split
  · exact mem_inOrder.mpr (Or.inl rfl)
  · rename_i hbelow
    simp only
    cases hnode : nodeAt? l.place.dropLast c.document.children with
    | none => exact mem_inOrder.mpr (Or.inl rfl)
    | some node =>
      apply node_mem_inOrder
      rw [allNodes_eq] at h ⊢
      cases hrecord : c.record with
      | none => exact mem_of_nodeAt? hnode
      | some r =>
        obtain ⟨hne, hr⟩ := nodeAt?_of_mem (hc r hrecord)
        rw [hrecord] at h
        rcases List.mem_cons.mp h with rfl | h
        · simp [hrecord] at hbelow
        · obtain ⟨i, path, hplace, -⟩ := mem_listFrom_iff.mp h
          rw [hplace, List.dropLast_append_of_ne_nil (by simp)] at hnode ⊢
          cases path with
          | nil =>
            rw [List.dropLast_singleton, List.append_nil, hr] at hnode
            rw [List.dropLast_singleton, List.append_nil, ← Option.some.inj hnode]
            exact List.mem_cons_self
          | cons next more =>
            rw [List.dropLast_cons_of_ne_nil (by simp)] at hnode ⊢
            rw [nodeAt?_append hne (by simp), hr] at hnode
            exact List.mem_cons_of_mem _ (mem_listFrom_iff.mpr ⟨0 + i, _, by simp, hnode⟩)

/-- From one item, an axis leads to items in document order. -/
theorem along_sublist_inOrder (hc : c.IsPlaced) (axis : Axis) (hx : x ∈ c.inOrder) :
    (c.along axis x).Sublist c.inOrder := by
  have hself : [x].Sublist c.inOrder := List.singleton_sublist.mpr hx
  cases axis with
  | child =>
    match x with
    | .top => exact map_node_sublist_inOrder (topNodes_sublist c)
    | .node l =>
      have hbelow := (List.sublist_cons_self _ _).trans
        (subtree_sublist_allNodes (mem_allNodes_of_node hx))
      exact map_node_sublist_inOrder ((locate_sublist_listFrom _ _).trans hbelow)
    | .attribute _ _ => exact List.nil_sublist _
  | descendant =>
    match x with
    | .top => exact map_node_sublist_inOrder (List.Sublist.refl _)
    | .node l =>
      exact map_node_sublist_inOrder ((List.sublist_cons_self _ _).trans
        (subtree_sublist_allNodes (mem_allNodes_of_node hx)))
    | .attribute _ _ => exact List.nil_sublist _
  | descendantOrSelf =>
    match x with
    | .top => exact (map_node_sublist _).cons_cons _
    | .node l => exact map_node_sublist_inOrder (subtree_sublist_allNodes (mem_allNodes_of_node hx))
    | .attribute _ _ => exact hself
  | self => exact hself
  | parent =>
    match x with
    | .top => exact List.nil_sublist _
    | .node l => exact List.singleton_sublist.mpr (above_mem_inOrder hc (mem_allNodes_of_node hx))
    | .attribute l _ =>
      exact List.singleton_sublist.mpr (node_mem_inOrder (mem_allNodes_of_attribute hx))
  | attributes =>
    match x with
    | .top => exact List.nil_sublist _
    | .node l =>
      have hitems : l.items.Sublist (c.allNodes.flatMap Located.items) :=
        List.sublist_flatten_of_mem (List.mem_map_of_mem (mem_allNodes_of_node hx))
      exact ((List.sublist_cons_self _ _).trans hitems).cons _
    | .attribute _ _ => exact List.nil_sublist _

/-- From one item, a step leads to items in document order. -/
theorem stepFrom_sublist_inOrder (hc : c.IsPlaced) (step : Step) (hx : x ∈ c.inOrder) :
    (c.stepFrom step x).Sublist c.inOrder :=
  (c.stepFrom_sublist step x).trans (along_sublist_inOrder hc step.axis hx)

theorem stepAll_subset_inOrder (hc : c.IsPlaced) (step : Step) (h : ∀ x ∈ items, x ∈ c.inOrder) :
    ∀ y ∈ c.stepAll items step, y ∈ c.inOrder := by
  intro y hy
  rw [c.stepAll_eq] at hy
  rcases mem_addNew hy with hy | hy
  · cases hy
  · obtain ⟨x, hx, hy⟩ := List.mem_flatMap.mp hy
    exact (stepFrom_sublist_inOrder hc step (h x hx)).subset hy

theorem foldl_stepAll_subset_inOrder (hc : c.IsPlaced) (steps : List Step)
    (h : ∀ x ∈ items, x ∈ c.inOrder) : ∀ y ∈ steps.foldl c.stepAll items, y ∈ c.inOrder := by
  induction steps generalizing items with
  | nil => exact h
  | cons step rest ih => exact ih (stepAll_subset_inOrder hc step h)

theorem top_mem_inOrder : Item.top ∈ c.inOrder := mem_inOrder.mpr (Or.inl rfl)

/-- Every list that a last step finds stands in document order. -/
theorem finds_sublist_inOrder (hc : c.IsPlaced) (query : Query) :
    ∀ list ∈ c.finds query, list.Sublist c.inOrder := by
  intro list hlist
  obtain ⟨path, -, hlist⟩ := List.mem_flatMap.mp hlist
  rw [Context.findsAlong] at hlist
  split at hlist
  · obtain ⟨x, hx, rfl⟩ := List.mem_map.mp hlist
    apply stepFrom_sublist_inOrder hc
    exact foldl_stepAll_subset_inOrder hc _ (by simp [top_mem_inOrder]) x hx
  · rw [List.mem_singleton.mp hlist]
    exact List.singleton_sublist.mpr top_mem_inOrder

theorem select_subset_inOrder (hc : c.IsPlaced) (query : Query) :
    ∀ x ∈ c.select query, x ∈ c.inOrder := by
  intro x hx
  rw [c.select_eq] at hx
  rcases mem_addNew hx with hx | hx
  · cases hx
  · obtain ⟨list, hlist, hx⟩ := List.mem_flatten.mp hx
    exact (finds_sublist_inOrder hc query list hlist).subset hx

theorem pairwise_select (c : Context) (query : Query) :
    (c.select query).Pairwise fun x y => x.same y = false := by
  rw [c.select_eq]
  exact pairwise_addNew List.Pairwise.nil _

theorem nodup_select (c : Context) (query : Query) : (c.select query).Nodup := by
  apply (pairwise_select c query).imp
  rintro x y hsame rfl
  rw [same_self] at hsame
  cases hsame

/-- Items that repeat nothing among themselves are added at the end, but for those that are there. -/
theorem addNew_eq_append {items list : List Item}
    (h : list.Pairwise fun x y => x.same y = false) :
    addNew items list = items ++ list.filter fun y => !items.any y.same := by
  induction list generalizing items with
  | nil => simp [addNew]
  | cons y rest ih =>
    obtain ⟨hy, hrest⟩ := List.pairwise_cons.mp h
    rw [addNew_cons]
    by_cases hfound : items.any y.same = true
    · rw [if_pos hfound, ih hrest, List.filter_cons_of_neg (by simp [hfound])]
    · have hfilter : ∀ z ∈ rest, (!(items ++ [y]).any z.same) = !items.any z.same := by
        intro z hz
        rw [List.any_append, List.any_cons, same_comm z y, hy z hz]
        simp
      rw [if_neg hfound, ih hrest, List.filter_congr hfilter,
        List.filter_cons_of_pos (by simpa using hfound), List.append_assoc]
      rfl

variable {list found : List Item}

theorem pairwise_same_of_sublist (hc : c.IsProper) (h : list.Sublist c.inOrder) :
    list.Pairwise fun x y => x.same y = false := by
  have hmark := ((sublist_inOrder_iff hc fun x hx => h.subset hx).mp h)
  apply hmark.imp_of_mem
  intro x y hx hy hxy
  by_contra hsame
  rw [Bool.not_eq_false] at hsame
  rw [eq_of_same hc (h.subset hx) (h.subset hy) hsame] at hxy
  exact List.lt_irrefl _ hxy

theorem any_same_iff (hc : c.IsProper) (h : ∀ x ∈ items, x ∈ c.inOrder) (hy : y ∈ c.inOrder) :
    items.any y.same = true ↔ y ∈ items := by
  rw [List.any_eq_true]
  constructor
  · rintro ⟨x, hx, hsame⟩
    rw [eq_of_same hc hy (h x hx) hsame]
    exact hx
  · exact fun hy => ⟨y, hy, same_self y⟩

/-- Nothing gets lost where items of a context are put together. -/
theorem mem_addNew_iff (hc : c.IsProper) (hitems : ∀ x ∈ items, x ∈ c.inOrder)
    (hlist : list.Sublist c.inOrder) : x ∈ addNew items list ↔ x ∈ items ∨ x ∈ list := by
  constructor
  · exact mem_addNew
  · intro hx
    have hmem : x ∈ c.inOrder := hx.elim (hitems x) fun hx => hlist.subset hx
    have hall : ∀ y ∈ addNew items list, y ∈ c.inOrder := by
      intro y hy
      exact (mem_addNew hy).elim (hitems y) fun hy => hlist.subset hy
    rw [← any_same_iff hc hall hmem, any_same_addNew, Bool.or_eq_true, List.any_eq_true,
      List.any_eq_true]
    exact hx.imp (fun hx => ⟨x, hx, same_self x⟩) fun hx => ⟨x, hx, same_self x⟩

/-- Adding a list keeps document order exactly when what is new in it stands behind the others. -/
theorem pairwise_addNew_iff (hc : c.IsProper) (hitems : ∀ x ∈ items, x ∈ c.inOrder)
    (hordered : items.Pairwise fun x y => x.mark < y.mark) (hlist : list.Sublist c.inOrder) :
    ((addNew items list).Pairwise fun x y => x.mark < y.mark) ↔
      ∀ x ∈ items, ∀ y ∈ list, y ∉ items → c.Precedes x y := by
  have hmark := (sublist_inOrder_iff hc fun x hx => hlist.subset hx).mp hlist
  rw [addNew_eq_append (pairwise_same_of_sublist hc hlist), List.pairwise_append]
  constructor
  · rintro ⟨-, -, hbehind⟩ x hx y hy hnew
    rw [precedes_iff hc (hitems x hx) (hlist.subset hy)]
    apply hbehind x hx y
    rw [List.mem_filter]
    refine ⟨hy, ?_⟩
    rw [Bool.not_eq_true', Bool.eq_false_iff]
    exact fun hany => hnew ((any_same_iff hc hitems (hlist.subset hy)).mp hany)
  · intro hbehind
    refine ⟨hordered, hmark.sublist List.filter_sublist, ?_⟩
    intro x hx y hy
    obtain ⟨hy, hnew⟩ := List.mem_filter.mp hy
    rw [← precedes_iff hc (hitems x hx) (hlist.subset hy)]
    apply hbehind x hx y hy
    intro hmem
    rw [(any_same_iff hc hitems (hlist.subset hy)).mpr hmem] at hnew
    cases hnew

theorem sublist_addNew (items more : List Item) : items.Sublist (addNew items more) := by
  induction more generalizing items with
  | nil => exact List.Sublist.refl _
  | cons y rest ih =>
    rw [addNew_cons]
    split
    · exact ih items
    · exact (List.sublist_append_left items [y]).trans (ih _)

/-- Lists in document order are gathered in document order exactly when each of them adds only what
stands behind all that was found before. -/
theorem addsBehind_iff (hc : c.IsProper) {lists : List (List Item)}
    (hlists : ∀ list ∈ lists, list.Sublist c.inOrder) (hitems : ∀ x ∈ items, x ∈ c.inOrder)
    (hordered : items.Pairwise fun x y => x.mark < y.mark)
    (hfound : ∀ x, x ∈ found ↔ x ∈ items) :
    c.AddsBehind found lists ↔
      (addNew items lists.flatten).Pairwise fun x y => x.mark < y.mark := by
  induction lists generalizing items found with
  | nil => simpa [Context.AddsBehind, addNew] using hordered
  | cons list rest ih =>
    have hlist := hlists list (by simp)
    have hadd := pairwise_addNew_iff hc hitems hordered hlist
    have hbehind : (∀ x ∈ found, ∀ y ∈ list, y ∉ found → c.Precedes x y) ↔
        (addNew items list).Pairwise fun x y => x.mark < y.mark := by
      rw [hadd]
      simp only [hfound]
    have hmore : ∀ x ∈ addNew items list, x ∈ c.inOrder := by
      intro x hx
      exact ((mem_addNew_iff hc hitems hlist).mp hx).elim (hitems x) fun hx => hlist.subset hx
    have hfound' : ∀ x, x ∈ found ++ list ↔ x ∈ addNew items list := by
      intro x
      rw [mem_addNew_iff hc hitems hlist, List.mem_append, hfound]
    rw [Context.AddsBehind, hbehind, List.flatten_cons, addNew_append]
    constructor
    · rintro ⟨hkept, hrest⟩
      exact (ih (fun l hl => hlists l (List.mem_cons_of_mem _ hl)) hmore hkept hfound').mp hrest
    · intro hall
      have hkept := hall.sublist (sublist_addNew (addNew items list) rest.flatten)
      exact ⟨hkept, (ih (fun l hl => hlists l (List.mem_cons_of_mem _ hl)) hmore hkept
        hfound').mpr hall⟩

/-- A query selects in document order exactly when its last steps find in document order. -/
theorem select_sublist_inOrder_iff (hc : c.IsProper) (query : Query) :
    (c.select query).Sublist c.inOrder ↔ c.AddsBehind [] (c.finds query) := by
  rw [sublist_inOrder_iff hc (select_subset_inOrder hc.placed query), c.select_eq]
  exact (addsBehind_iff hc (finds_sublist_inOrder hc.placed query) (by simp) List.Pairwise.nil
    (by simp)).symm

end Crosswalk.Query
