import Crosswalk.Proofs.Query.Order
import Crosswalk.Proofs.Query.Record

/-!
Paths that keep document order.

Whether a step keeps document order depends on how the items lie that it starts from. Children and
parents are found in order from nodes at one depth; from nodes inside of each other they are not,
since the children of the outer node are found before those of the inner one. All nodes below are
found in order from both, unless positions count. A check of the steps by themselves follows from
this, and every path that passes it selects in document order in every context.
-/

namespace Crosswalk.Query

/-- How the items of a list lie to each other. -/
inductive Spread where
  /-- They are nodes at one depth, or the top. -/
  | level
  /-- They are nodes, perhaps inside of each other, or the top. -/
  | nested
  | loose
deriving DecidableEq

/-- Whether a predicate looks at one item alone. -/
def Predicate.isLocal : Predicate → Bool
  | .position _ => false
  | .last => false
  | _ => true

/-- How the items lie that a step finds, if it finds them in document order. -/
def Spread.step? (spread : Spread) (step : Step) : Option Spread :=
  match step.axis, spread with
  | .self, spread => some spread
  | .child, .level => some .level
  | .parent, .level => some .level
  | .attributes, .level => some .loose
  | .attributes, .nested => some .loose
  | .descendant, .level => some .nested
  | .descendantOrSelf, .level => some .nested
  | .descendant, .nested => if step.predicates.all Predicate.isLocal then some .nested else none
  | .descendantOrSelf, .nested =>
    if step.predicates.all Predicate.isLocal then some .nested else none
  | _, _ => none

/-- Whether every step of a path finds what it finds in document order. -/
def Path.keepsOrder (path : Path) : Bool := (path.steps.foldlM Spread.step? .level).isSome

/-- Whether an item is an attribute. -/
def Item.isAttribute : Item → Bool
  | .attribute _ _ => true
  | _ => false

/-- What a spread says of a list of items. -/
def Spread.Holds : Spread → List Item → Prop
  | .level, items => ∃ depth, ∀ x ∈ items, x.isAttribute = false ∧ x.mark.length = depth
  | .nested, items => ∀ x ∈ items, x.isAttribute = false
  | .loose, _ => True

theorem Spread.Holds.sublist {spread : Spread} {items some : List Item} (h : spread.Holds items)
    (hsub : ∀ x ∈ some, x ∈ items) : spread.Holds some := by
  cases spread with
  | level =>
    obtain ⟨depth, hdepth⟩ := h
    exact ⟨depth, fun x hx => hdepth x (hsub x hx)⟩
  | nested => exact fun x hx => h x (hsub x hx)
  | loose => trivial

variable {c : Context} {x y u v : Item}

theorem mem_children_mark (hc : c.record = none) (h : u ∈ c.children x) :
    u.isAttribute = false ∧ ∃ i, u.mark = x.mark ++ [i] := by
  have hlocate : ∀ (place : List Nat) (nodes : List Xml.Node),
      ∀ l ∈ locate place nodes, ∃ i, l.place = place ++ [i] := by
    intro place nodes l hl
    obtain ⟨i, -, rfl⟩ := List.mem_mapIdx.mp hl
    exact ⟨i, rfl⟩
  match x with
  | .top =>
    simp only [Context.children, Context.topNodes, hc, List.mem_map] at h
    obtain ⟨l, hl, rfl⟩ := h
    obtain ⟨i, hplace⟩ := hlocate _ _ l hl
    exact ⟨rfl, i + 1, by simp [Item.mark, hplace]⟩
  | .node m =>
    obtain ⟨l, hl, rfl⟩ := List.mem_map.mp h
    obtain ⟨i, hplace⟩ := hlocate _ _ l hl
    exact ⟨rfl, i + 1, by simp [Item.mark, hplace]⟩
  | .attribute _ _ => cases h

theorem mem_descendants_mark (h : u ∈ c.descendants x) :
    u.isAttribute = false ∧ x.mark <+: u.mark := by
  match x with
  | .top =>
    obtain ⟨l, -, rfl⟩ := List.mem_map.mp h
    exact ⟨rfl, List.nil_prefix⟩
  | .node m =>
    obtain ⟨l, hl, rfl⟩ := List.mem_map.mp h
    obtain ⟨i, path, hplace, -⟩ := mem_listFrom_iff.mp hl
    refine ⟨rfl, ?_⟩
    rw [Item.mark, Item.mark, hplace, List.map_append]
    exact List.prefix_append _ _
  | .attribute _ _ => cases h

/-- On every axis but that of the parents stand items at or below an item. -/
theorem mark_prefix_of_along (hc : c.record = none) {axis : Axis} (haxis : axis ≠ .parent)
    (h : u ∈ c.along axis x) : x.mark <+: u.mark := by
  cases axis with
  | child =>
    obtain ⟨-, i, hmark⟩ := mem_children_mark hc h
    exact hmark ▸ List.prefix_append _ _
  | descendant => exact (mem_descendants_mark h).2
  | descendantOrSelf =>
    rcases List.mem_cons.mp h with rfl | h
    · exact List.prefix_rfl
    · exact (mem_descendants_mark h).2
  | self => exact List.mem_singleton.mp h ▸ List.prefix_rfl
  | parent => exact absurd rfl haxis
  | attributes =>
    match x with
    | .top => cases h
    | .node l =>
      obtain ⟨a, -, rfl⟩ := List.mem_map.mp h
      exact List.prefix_append _ _
    | .attribute _ _ => cases h

/-- In a whole document, the mark of what stands above a node is that of the node without its end. -/
theorem mark_above (hc : c.record = none) {l : Located} (h : l ∈ c.allNodes) :
    (c.above l).isAttribute = false ∧ (c.above l).mark = (Item.node l).mark.dropLast := by
  rw [allNodes_eq, hc] at h
  obtain ⟨hne, hnode⟩ := nodeAt?_of_mem h
  simp only [Context.above, hc, Option.any_none, Bool.false_eq_true, if_false]
  cases habove : nodeAt? l.place.dropLast c.document.children with
  | some node => exact ⟨rfl, by simp [Item.mark, List.map_dropLast]⟩
  | none =>
    -- only above a node at the top there is no other node
    have hnil : l.place.dropLast = [] := by
      by_contra hfront
      rw [← List.dropLast_append_getLast hne, nodeAt?_append hfront (by simp), habove] at hnode
      cases hnode
    exact ⟨rfl, by simp [Item.mark, ← List.map_dropLast, hnil]⟩

/-- Marks of one length stay in order without their ends. -/
theorem dropLast_lt {a b : List Nat} (h : a < b) (hlength : a.length = b.length) :
    a.dropLast = b.dropLast ∨ a.dropLast < b.dropLast := by
  rcases lt_cases h with ⟨i, path, rfl⟩ | ⟨front, i, j, first, second, hij, rfl, rfl⟩
  · simp at hlength
  · cases first with
    | nil =>
      cases second with
      | nil => exact Or.inl (by simp)
      | cons k second => simp at hlength
    | cons m first =>
      cases second with
      | nil => simp at hlength
      | cons k second =>
        right
        rw [List.dropLast_append_of_ne_nil (by simp), List.dropLast_append_of_ne_nil (by simp)]
        exact lt_of_append_cons hij front (m :: first).dropLast (k :: second).dropLast

theorem apart_of_length {a b : List Nat} (h : a < b) (hlength : a.length = b.length) :
    ¬a <+: b := by
  intro hinside
  rw [hinside.eq_of_length hlength] at h
  exact List.lt_irrefl _ h

/-- Lists that lie one behind the other, but for repetitions, add only what stands behind. -/
theorem addsBehind_of_pairwise {lists : List (List Item)} {found : List Item}
    (hlists : lists.Pairwise fun a b => ∀ x ∈ a, ∀ y ∈ b, y ∈ a ∨ c.Precedes x y)
    (hfound : ∀ x ∈ found, ∀ list ∈ lists, ∀ y ∈ list, y ∈ found ∨ c.Precedes x y) :
    c.AddsBehind found lists := by
  induction lists generalizing found with
  | nil => trivial
  | cons list rest ih =>
    obtain ⟨hlist, hrest⟩ := List.pairwise_cons.mp hlists
    constructor
    · intro x hx y hy hnew
      exact (hfound x hx list (by simp) y hy).resolve_left hnew
    · apply ih hrest
      intro x hx other hother y hy
      rcases List.mem_append.mp hx with hx | hx
      · exact (hfound x hx other (List.mem_cons_of_mem _ hother) y hy).imp_left
          fun hy => List.mem_append_left _ hy
      · exact (hlist other hother x hx y hy).imp_left fun hy => List.mem_append_right _ hy

variable {items : List Item} {step : Step}

/-- A step keeps document order if from two items it finds nothing in the wrong order. -/
theorem pairwise_stepAll (hc : c.IsProper) (hitems : ∀ x ∈ items, x ∈ c.inOrder)
    (hordered : items.Pairwise fun x y => x.mark < y.mark)
    (h : ∀ x ∈ items, ∀ y ∈ items, x.mark < y.mark → ∀ u ∈ c.stepFrom step x,
      ∀ v ∈ c.stepFrom step y, v ∈ c.stepFrom step x ∨ u.mark < v.mark) :
    (c.stepAll items step).Pairwise fun x y => x.mark < y.mark := by
  have hlists : ∀ list ∈ items.map (c.stepFrom step), list.Sublist c.inOrder := by
    intro list hlist
    obtain ⟨x, hx, rfl⟩ := List.mem_map.mp hlist
    exact stepFrom_sublist_inOrder hc.placed step (hitems x hx)
  have hbehind : c.AddsBehind [] (items.map (c.stepFrom step)) := by
    refine addsBehind_of_pairwise ?_ (by simp)
    rw [List.pairwise_map]
    apply hordered.imp_of_mem
    intro x y hx hy hxy u hu v hv
    apply (h x hx y hy hxy u hu v hv).imp_right
    intro huv
    exact (precedes_iff hc ((stepFrom_sublist_inOrder hc.placed step (hitems x hx)).subset hu)
      ((stepFrom_sublist_inOrder hc.placed step (hitems y hy)).subset hv)).mpr huv
  rw [c.stepAll_eq]
  exact (addsBehind_iff hc hlists (by simp) List.Pairwise.nil (by simp)).mp hbehind

theorem mem_along_of_stepFrom (h : u ∈ c.stepFrom step x) : u ∈ c.along step.axis x :=
  (c.stepFrom_sublist step x).subset h

/-- What two items lead to is in their order if neither lies inside of the other. -/
theorem mark_lt_of_apart (hc : c.record = none) (haxis : step.axis ≠ .parent)
    (hxy : x.mark < y.mark) (hinside : ¬x.mark <+: y.mark) (hu : u ∈ c.stepFrom step x)
    (hv : v ∈ c.stepFrom step y) : u.mark < v.mark := by
  obtain ⟨s, hs⟩ := mark_prefix_of_along hc haxis (mem_along_of_stepFrom hu)
  obtain ⟨t, ht⟩ := mark_prefix_of_along hc haxis (mem_along_of_stepFrom hv)
  rw [← hs, ← ht]
  exact append_lt_append hxy hinside s t

theorem mark_lt_of_self (haxis : step.axis = .self) (hxy : x.mark < y.mark)
    (hu : u ∈ c.stepFrom step x) (hv : v ∈ c.stepFrom step y) : u.mark < v.mark := by
  have hux := mem_along_of_stepFrom hu
  have hvy := mem_along_of_stepFrom hv
  rw [haxis] at hux hvy
  rwa [List.mem_singleton.mp hux, List.mem_singleton.mp hvy]

/-- Attributes are in the order of their elements. -/
theorem mark_lt_of_attributes (haxis : step.axis = .attributes) (hxy : x.mark < y.mark)
    (hu : u ∈ c.stepFrom step x) (hv : v ∈ c.stepFrom step y) : u.mark < v.mark := by
  have hux := mem_along_of_stepFrom hu
  have hvy := mem_along_of_stepFrom hv
  rw [haxis] at hux hvy
  match x, y with
  | .top, _ => cases hux
  | .attribute _ _, _ => cases hux
  | _, .top => cases hvy
  | _, .attribute _ _ => cases hvy
  | .node l, .node m =>
    obtain ⟨a, -, rfl⟩ := List.mem_map.mp hux
    obtain ⟨b, -, rfl⟩ := List.mem_map.mp hvy
    simp only [Item.mark] at hxy ⊢
    rcases lt_cases hxy with ⟨i, path, hmark⟩ | ⟨front, i, j, first, second, hij, hl, hm⟩
    · -- the index of a node in a mark is positive
      have hpositive : 0 < i := by
        have hmem : i ∈ m.place.map (· + 1) := by simp [hmark]
        obtain ⟨k, -, rfl⟩ := List.mem_map.mp hmem
        exact Nat.succ_pos k
      rw [hmark, List.append_assoc]
      exact lt_of_append_cons hpositive _ _ _
    · rw [hl, hm, List.append_assoc, List.append_assoc]
      exact lt_of_append_cons hij _ _ _

/-- A step whose predicates look at one item alone finds what passes them all. -/
theorem mem_stepFrom_iff (hlocal : step.predicates.all Predicate.isLocal = true) :
    u ∈ c.stepFrom step x ↔
      u ∈ c.along step.axis x ∧ c.passes step.test step.axis u = true ∧
        ∀ p ∈ step.predicates, c.holds u p = true := by
  have hkeep : ∀ (ps : List Predicate) (items : List Item), ps.all Predicate.isLocal = true →
      (u ∈ ps.foldl c.keep items ↔ u ∈ items ∧ ∀ p ∈ ps, c.holds u p = true) := by
    intro ps
    induction ps with
    | nil => simp
    | cons p rest ih =>
      intro items hps
      rw [List.all_cons, Bool.and_eq_true] at hps
      have hfilter : c.keep items p = items.filter fun x => c.holds x p := by
        cases p with
        | position k => cases hps.1
        | last => cases hps.1
        | _ => rfl
      rw [List.foldl_cons, ih _ hps.2, hfilter, List.mem_filter, List.forall_mem_cons, and_assoc]
  rw [Context.stepFrom, hkeep _ _ hlocal, List.mem_filter, and_assoc]

/-- In a whole document, a node inside of another is among those below it. -/
theorem mem_descendants_of_inside (hc : c.record = none) {l m : Located} (hl : l ∈ c.allNodes)
    (hm : m ∈ c.allNodes) (hlt : (Item.node l).mark < (Item.node m).mark)
    (hinside : (Item.node l).mark <+: (Item.node m).mark) : m ∈ l.descendants := by
  rw [allNodes_eq, hc] at hl hm
  obtain ⟨hne, hfound⟩ := nodeAt?_of_mem hl
  obtain ⟨-, hinner⟩ := nodeAt?_of_mem hm
  have hplaces : l.place <+: m.place := by
    have hback := hinside.map (· - 1)
    simpa [Item.mark, Function.comp_def] using hback
  obtain ⟨path, hplace⟩ := hplaces
  cases path with
  | nil =>
    rw [List.append_nil] at hplace
    rw [Item.mark, Item.mark, hplace] at hlt
    exact absurd hlt (List.lt_irrefl _)
  | cons i path =>
    rw [← hplace, nodeAt?_append hne (by simp), hfound] at hinner
    exact mem_listFrom_iff.mpr ⟨i, path, by rw [← hplace, Nat.zero_add], hinner⟩

/-- An item inside of another is among those below it, and so is all that is below the inner one. -/
theorem descendants_of_inside (hc : c.record = none) (hx : x ∈ c.inOrder) (hy : y ∈ c.inOrder)
    (hxnode : x.isAttribute = false) (hynode : y.isAttribute = false) (hxy : x.mark < y.mark)
    (hinside : x.mark <+: y.mark) :
    y ∈ c.descendants x ∧ ∀ w ∈ c.descendants y, w ∈ c.descendants x := by
  cases y with
  | top => exact absurd hxy (List.not_lt_nil _)
  | node m =>
    have hm := mem_allNodes_of_node hy
    cases x with
    | top =>
      refine ⟨List.mem_map_of_mem hm, ?_⟩
      intro w hw
      obtain ⟨l, hl, rfl⟩ := List.mem_map.mp hw
      exact List.mem_map_of_mem ((subtree_sublist_allNodes hm).subset (List.mem_cons_of_mem _ hl))
    | node l =>
      have hinner := mem_descendants_of_inside hc (mem_allNodes_of_node hx) hm hxy hinside
      refine ⟨List.mem_map_of_mem hinner, ?_⟩
      intro w hw
      obtain ⟨k, hk, rfl⟩ := List.mem_map.mp hw
      exact List.mem_map_of_mem
        ((subtree_sublist_listFrom hinner).subset (List.mem_cons_of_mem _ hk))
    | _ => cases hxnode
  | _ => cases hynode

/-- Whether an axis leads to nodes below an item at any depth. -/
def Axis.IsDeep (axis : Axis) : Prop := axis = .descendant ∨ axis = .descendantOrSelf

theorem eq_or_mem_descendants {axis : Axis} (haxis : axis.IsDeep) (h : u ∈ c.along axis x) :
    u = x ∨ u ∈ c.descendants x := by
  rcases haxis with rfl | rfl
  · exact Or.inr h
  · exact List.mem_cons.mp h

theorem mem_along_of_mem_descendants {axis : Axis} (haxis : axis.IsDeep)
    (h : u ∈ c.descendants x) : u ∈ c.along axis x := by
  rcases haxis with rfl | rfl
  · exact h
  · exact List.mem_cons_of_mem _ h

/-- Below an item that lies inside of another, a step with local predicates finds nothing new. -/
theorem mem_stepFrom_of_inside (hc : c.record = none) (hx : x ∈ c.inOrder) (hy : y ∈ c.inOrder)
    (hxnode : x.isAttribute = false) (hynode : y.isAttribute = false)
    (haxis : step.axis.IsDeep) (hlocal : step.predicates.all Predicate.isLocal = true)
    (hxy : x.mark < y.mark) (hinside : x.mark <+: y.mark) (hv : v ∈ c.stepFrom step y) :
    v ∈ c.stepFrom step x := by
  obtain ⟨hinner, hbelow⟩ := descendants_of_inside hc hx hy hxnode hynode hxy hinside
  rw [mem_stepFrom_iff hlocal] at hv ⊢
  refine ⟨mem_along_of_mem_descendants haxis ?_, hv.2⟩
  rcases eq_or_mem_descendants haxis hv.1 with rfl | hvy
  · exact hinner
  · exact hbelow v hvy

/-- Above nodes at one depth stands one node or nodes in their order. -/
theorem stepFrom_parent (hc : c.IsProper) (hrecord : c.record = none) (haxis : step.axis = .parent)
    (hx : x ∈ c.inOrder) (hy : y ∈ c.inOrder) (hxnode : x.isAttribute = false)
    (hynode : y.isAttribute = false) (hxy : x.mark < y.mark)
    (hlength : x.mark.length = y.mark.length) (hu : u ∈ c.stepFrom step x)
    (hv : v ∈ c.stepFrom step y) : v ∈ c.stepFrom step x ∨ u.mark < v.mark := by
  have huOrder := (stepFrom_sublist_inOrder hc.placed step hx).subset hu
  have hvOrder := (stepFrom_sublist_inOrder hc.placed step hy).subset hv
  have hux := mem_along_of_stepFrom hu
  have hvy := mem_along_of_stepFrom hv
  rw [haxis] at hux hvy
  match x, y with
  | .top, _ => cases hux
  | _, .top => cases hvy
  | .attribute _ _, _ => cases hxnode
  | _, .attribute _ _ => cases hynode
  | .node l, .node m =>
    have hul : u = c.above l := List.mem_singleton.mp hux
    have hvm : v = c.above m := List.mem_singleton.mp hvy
    have hmarks := dropLast_lt hxy hlength
    rw [← (mark_above hrecord (mem_allNodes_of_node hx)).2,
      ← (mark_above hrecord (mem_allNodes_of_node hy)).2, ← hul, ← hvm] at hmarks
    rcases hmarks with hmarks | hmarks
    · left
      rwa [← eq_of_mark_eq hc huOrder hvOrder hmarks]
    · exact Or.inr hmarks

variable {spread spread' : Spread}

/-- The steps that a spread allows. -/
theorem Spread.step?_eq_some (h : spread.step? step = some spread') :
    step.axis = .self ∧ spread' = spread ∨
      step.axis = .attributes ∧ spread' = .loose ∨
      (step.axis = .child ∨ step.axis = .parent) ∧ spread = .level ∧ spread' = .level ∨
      step.axis.IsDeep ∧ spread' = .nested ∧
        (spread = .level ∨ spread = .nested ∧ step.predicates.all Predicate.isLocal = true) := by
  have hif : ∀ local' : Bool, (if local' then some Spread.nested else none) = some spread' →
      spread' = .nested ∧ local' = true := by
    intro local' hlocal
    cases local' with
    | true => exact ⟨(Option.some.inj hlocal).symm, rfl⟩
    | false => cases hlocal
  unfold Spread.step? at h
  split at h
  · rename_i haxis
    exact Or.inl ⟨haxis, (Option.some.inj h).symm⟩
  · rename_i haxis
    exact Or.inr (Or.inr (Or.inl ⟨Or.inl haxis, rfl, (Option.some.inj h).symm⟩))
  · rename_i haxis
    exact Or.inr (Or.inr (Or.inl ⟨Or.inr haxis, rfl, (Option.some.inj h).symm⟩))
  · rename_i haxis
    exact Or.inr (Or.inl ⟨haxis, (Option.some.inj h).symm⟩)
  · rename_i haxis
    exact Or.inr (Or.inl ⟨haxis, (Option.some.inj h).symm⟩)
  · rename_i haxis
    exact Or.inr (Or.inr (Or.inr ⟨Or.inl haxis, (Option.some.inj h).symm, Or.inl rfl⟩))
  · rename_i haxis
    exact Or.inr (Or.inr (Or.inr ⟨Or.inr haxis, (Option.some.inj h).symm, Or.inl rfl⟩))
  · rename_i haxis
    obtain ⟨hnested, hlocal⟩ := hif _ h
    exact Or.inr (Or.inr (Or.inr ⟨Or.inl haxis, hnested, Or.inr ⟨rfl, hlocal⟩⟩))
  · rename_i haxis
    obtain ⟨hnested, hlocal⟩ := hif _ h
    exact Or.inr (Or.inr (Or.inr ⟨Or.inr haxis, hnested, Or.inr ⟨rfl, hlocal⟩⟩))
  · cases h

/-- What a spread allows a step to find from two of its items is in order. -/
theorem Spread.Holds.stepFrom_ordered (hc : c.IsProper) (hrecord : c.record = none)
    (h : spread.Holds items) (hitems : ∀ x ∈ items, x ∈ c.inOrder)
    (hstep : spread.step? step = some spread') :
    ∀ x ∈ items, ∀ y ∈ items, x.mark < y.mark → ∀ u ∈ c.stepFrom step x,
      ∀ v ∈ c.stepFrom step y, v ∈ c.stepFrom step x ∨ u.mark < v.mark := by
  intro x hx y hy hxy u hu v hv
  have hlevel : spread = .level → step.axis ≠ .parent → u.mark < v.mark := by
    rintro rfl haxis
    obtain ⟨depth, hdepth⟩ := h
    have hlength := (hdepth x hx).2.trans (hdepth y hy).2.symm
    exact mark_lt_of_apart hrecord haxis hxy (apart_of_length hxy hlength) hu hv
  rcases Spread.step?_eq_some hstep with ⟨haxis, -⟩ | ⟨haxis, -⟩ | ⟨haxis, rfl, -⟩ |
    ⟨haxis, -, hspread⟩
  · exact Or.inr (mark_lt_of_self haxis hxy hu hv)
  · exact Or.inr (mark_lt_of_attributes haxis hxy hu hv)
  · rcases haxis with haxis | haxis
    · exact Or.inr (hlevel rfl (by simp [haxis]))
    · obtain ⟨depth, hdepth⟩ := h
      exact stepFrom_parent hc hrecord haxis (hitems x hx) (hitems y hy) (hdepth x hx).1
        (hdepth y hy).1 hxy ((hdepth x hx).2.trans (hdepth y hy).2.symm) hu hv
  · have hparent : step.axis ≠ .parent := by rcases haxis with haxis | haxis <;> simp [haxis]
    rcases hspread with hspread | ⟨rfl, hlocal⟩
    · exact Or.inr (hlevel hspread hparent)
    · by_cases hinside : x.mark <+: y.mark
      · exact Or.inl (mem_stepFrom_of_inside hrecord (hitems x hx) (hitems y hy) (h x hx) (h y hy)
          haxis hlocal hxy hinside hv)
      · exact Or.inr (mark_lt_of_apart hrecord hparent hxy hinside hu hv)

theorem mem_stepAll (h : u ∈ c.stepAll items step) : ∃ x ∈ items, u ∈ c.along step.axis x := by
  rw [c.stepAll_eq] at h
  rcases mem_addNew h with h | h
  · cases h
  · obtain ⟨x, hx, hu⟩ := List.mem_flatMap.mp h
    exact ⟨x, hx, mem_along_of_stepFrom hu⟩

/-- The children of nodes at one depth are at one depth, and so are their parents. -/
theorem level_stepAll (hrecord : c.record = none) (h : Spread.level.Holds items)
    (hitems : ∀ x ∈ items, x ∈ c.inOrder) (haxis : step.axis = .child ∨ step.axis = .parent) :
    Spread.level.Holds (c.stepAll items step) := by
  obtain ⟨depth, hdepth⟩ := h
  rcases haxis with haxis | haxis
  · refine ⟨depth + 1, ?_⟩
    intro u hu
    obtain ⟨x, hx, hux⟩ := mem_stepAll hu
    rw [haxis] at hux
    obtain ⟨hnode, i, hmark⟩ := mem_children_mark hrecord hux
    exact ⟨hnode, by simp [hmark, (hdepth x hx).2]⟩
  · refine ⟨depth - 1, ?_⟩
    intro u hu
    obtain ⟨x, hx, hux⟩ := mem_stepAll hu
    rw [haxis] at hux
    match x with
    | .top => cases hux
    | .attribute _ _ => cases (hdepth _ hx).1
    | .node l =>
      obtain ⟨hnode, hmark⟩ := mark_above hrecord (mem_allNodes_of_node (hitems _ hx))
      rw [show u = c.above l from List.mem_singleton.mp hux]
      exact ⟨hnode, by rw [hmark, List.length_dropLast, (hdepth _ hx).2]⟩

/-- The items that a step finds lie as they are expected to. -/
theorem Spread.Holds.stepAll (hrecord : c.record = none) (h : spread.Holds items)
    (hitems : ∀ x ∈ items, x ∈ c.inOrder) (hstep : spread.step? step = some spread') :
    spread'.Holds (c.stepAll items step) := by
  rcases Spread.step?_eq_some hstep with ⟨haxis, rfl⟩ | ⟨haxis, rfl⟩ | ⟨haxis, rfl, rfl⟩ |
    ⟨haxis, rfl, hspread⟩
  · apply h.sublist
    intro u hu
    obtain ⟨x, hx, hux⟩ := mem_stepAll hu
    rw [haxis] at hux
    exact List.mem_singleton.mp hux ▸ hx
  · trivial
  · exact level_stepAll hrecord h hitems haxis
  · have hnodes : ∀ x ∈ items, x.isAttribute = false := by
      rcases hspread with rfl | ⟨rfl, -⟩
      · obtain ⟨depth, hdepth⟩ := h
        exact fun x hx => (hdepth x hx).1
      · exact h
    intro u hu
    obtain ⟨x, hx, hux⟩ := mem_stepAll hu
    rcases eq_or_mem_descendants haxis hux with rfl | hux
    · exact hnodes u hx
    · exact (mem_descendants_mark hux).1

/-- Steps that are allowed one after the other keep document order. -/
theorem pairwise_foldl_stepAll (hc : c.IsProper) (hrecord : c.record = none) (steps : List Step)
    (h : spread.Holds items) (hitems : ∀ x ∈ items, x ∈ c.inOrder)
    (hordered : items.Pairwise fun x y => x.mark < y.mark)
    (hsteps : (steps.foldlM Spread.step? spread).isSome) :
    (steps.foldl c.stepAll items).Pairwise fun x y => x.mark < y.mark := by
  induction steps generalizing spread items with
  | nil => exact hordered
  | cons step rest ih =>
    rw [List.foldlM_cons] at hsteps
    cases hstep : spread.step? step with
    | none =>
      rw [hstep] at hsteps
      cases hsteps
    | some spread' =>
      rw [hstep] at hsteps
      have hfound := h.stepFrom_ordered hc hrecord hitems hstep
      exact ih (h.stepAll hrecord hitems hstep) (stepAll_subset_inOrder hc.placed step hitems)
        (pairwise_stepAll hc hitems hordered hfound) hsteps

/-- In a whole document, a path whose steps are allowed selects in document order. -/
theorem select_sublist_of_keepsOrder (hc : c.IsProper) (hrecord : c.record = none) {path : Path}
    (h : path.keepsOrder = true) : (c.select ⟨[path]⟩).Sublist c.inOrder := by
  rw [sublist_inOrder_iff hc (select_subset_inOrder hc.placed _), c.select_singleton,
    Context.follow, ite_self]
  have htop : Spread.level.Holds [.top] := ⟨0, by simp [Item.isAttribute, Item.mark]⟩
  exact pairwise_foldl_stepAll hc hrecord path.steps htop (by simp [top_mem_inOrder])
    (List.pairwise_singleton _ _) h

variable {n : Namespaces} {d : Xml.Document} {r : Located}

theorem inOrder_within :
    (recordOf n d r).inOrder = (aloneOf n r).inOrder.map (Item.within r.place) := by
  have hitems : ∀ l : Located, (l.within r.place).items = l.items.map (Item.within r.place) := by
    intro l
    simp only [Located.items, List.map_cons, List.map_map]
    rfl
  rw [Context.inOrder, Context.inOrder, allNodes_within, List.map_cons, List.map_flatMap,
    List.flatMap_map]
  simp only [hitems]
  rfl

/-- A document of a record alone has no two attributes of one name at one element either. -/
theorem isProper_aloneOf (hc : (recordOf n d r).IsProper) : (aloneOf n r).IsProper := by
  refine ⟨?_, by simp [Context.IsPlaced, aloneOf]⟩
  intro l hl
  have hmem : l.within r.place ∈ (recordOf n d r).allNodes := by
    rw [allNodes_within]
    exact List.mem_map_of_mem hl
  have hdistinct := hc.distinct _ (mem_document hc.placed hmem)
  exact hdistinct

/-- A path whose steps are allowed selects in document order in every context. -/
theorem select_sublist_inOrder (hc : c.IsProper) {path : Path} (h : path.keepsOrder = true) :
    (c.select ⟨[path]⟩).Sublist c.inOrder := by
  obtain ⟨n, d, record⟩ := c
  cases record with
  | none => exact select_sublist_of_keepsOrder hc rfl h
  | some r =>
    have hr := hc.placed r rfl
    have halone := select_sublist_of_keepsOrder (isProper_aloneOf hc) rfl h
    have hselect := @select_within n d r hr ⟨[path]⟩
    rw [recordOf] at hselect
    rw [hselect, show (⟨n, d, some r⟩ : Context).inOrder = _ from inOrder_within]
    exact halone.map _

end Crosswalk.Query
