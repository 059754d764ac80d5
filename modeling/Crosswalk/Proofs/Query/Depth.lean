import Crosswalk.Proofs.Query.Reading
import Crosswalk.Proofs.Query.Spread

/-!
Two slashes in a row.

Two slashes stand for a step to an item and to all nodes below it. Every node below an item is a
child of the item or of another node below it. So a test behind two slashes finds what it finds on
the axis of the descendants, unless positions count, and at the beginning of a query it finds the
nodes of a context at every depth.
-/

namespace Crosswalk.Query

open Text

section Tree

variable {place : List Nat} {nodes : List Xml.Node} {l : Located}

theorem mem_locate_iff :
    l ∈ locate place nodes ↔ ∃ i, l.place = place ++ [i] ∧ nodes[i]? = some l.node := by
  rw [locate, List.mem_mapIdx]
  constructor
  · rintro ⟨i, hi, rfl⟩
    exact ⟨i, rfl, List.getElem?_eq_getElem hi⟩
  · rintro ⟨i, hplace, hnode⟩
    obtain ⟨hi, hget⟩ := List.getElem?_eq_some_iff.mp hnode
    refine ⟨i, hi, ?_⟩
    rw [hget, ← hplace]

/-- A node below a place stands right below it, or right below another node below it. -/
theorem mem_listFrom_iff_child :
    l ∈ listFrom place 0 nodes ↔
      l ∈ locate place nodes ∨ ∃ m ∈ listFrom place 0 nodes, l ∈ m.children := by
  constructor
  · intro h
    obtain ⟨i, path, hplace, hnode⟩ := mem_listFrom_iff.mp h
    rw [Nat.zero_add] at hplace
    cases path using List.reverseRecOn with
    | nil => exact .inl (mem_locate_iff.mpr ⟨i, hplace, hnode⟩)
    | append_singleton front last =>
      -- the node right above is where the way without its last index leads
      right
      rw [← List.cons_append, nodeAt?_append (by simp) (by simp)] at hnode
      obtain ⟨above, habove, hlast⟩ := Option.bind_eq_some_iff.mp hnode
      refine ⟨⟨place ++ i :: front, above⟩, mem_listFrom_iff.mpr ⟨i, front, by simp, habove⟩, ?_⟩
      exact mem_locate_iff.mpr ⟨last, by simp [hplace], hlast⟩
  · rintro (h | ⟨m, hm, h⟩)
    · exact (locate_sublist_listFrom _ _).subset h
    · have hbelow := (locate_sublist_listFrom _ _).subset h
      exact (subtree_sublist_listFrom hm).subset (List.mem_cons_of_mem _ hbelow)

end Tree

variable {c : Context} {x u : Item} {items : List Item} {step : Step}

section Below

theorem mem_subtree_iff_child {l m : Located} :
    m ∈ l.descendants ↔ ∃ above ∈ l :: l.descendants, m ∈ above.children := by
  rw [Located.descendants, mem_listFrom_iff_child, List.exists_mem_cons_iff]
  rfl

/-- A node of a context stands right below the top, or right below another node of the context. -/
theorem mem_allNodes_iff_child {l : Located} :
    l ∈ c.allNodes ↔ l ∈ c.topNodes ∨ ∃ above ∈ c.allNodes, l ∈ above.children := by
  rw [allNodes_eq, Context.topNodes]
  cases c.record with
  | none => exact mem_listFrom_iff_child
  | some r =>
    rw [List.mem_cons, mem_subtree_iff_child, List.mem_singleton]

theorem exists_child_iff {nodes : List Located} :
    (∃ above ∈ nodes.map Item.node, u ∈ c.children above) ↔
      ∃ l, (∃ above ∈ nodes, l ∈ above.children) ∧ Item.node l = u := by
  constructor
  · rintro ⟨_, habove, hu⟩
    obtain ⟨above, hmem, rfl⟩ := List.mem_map.mp habove
    obtain ⟨l, hl, rfl⟩ := List.mem_map.mp hu
    exact ⟨l, ⟨above, hmem, hl⟩, rfl⟩
  · rintro ⟨l, ⟨above, hmem, hl⟩, rfl⟩
    exact ⟨.node above, List.mem_map_of_mem hmem, List.mem_map_of_mem hl⟩

/-- What is below an item is a child of it or of something below it. -/
theorem mem_descendants_iff_child :
    u ∈ c.descendants x ↔ ∃ above ∈ x :: c.descendants x, u ∈ c.children above := by
  match x with
  | .top =>
    rw [List.exists_mem_cons_iff, Context.descendants, exists_child_iff, Context.children,
      List.mem_map, List.mem_map, ← exists_or]
    refine exists_congr fun l => ?_
    rw [mem_allNodes_iff_child, or_and_right]
  | .node l =>
    have hself : Item.node l :: c.descendants (.node l) = (l :: l.descendants).map .node := rfl
    rw [hself, exists_child_iff, Context.descendants, List.mem_map]
    refine exists_congr fun m => ?_
    rw [mem_subtree_iff_child]
  | .attribute _ _ => simp [Context.descendants, Context.children]

end Below

section Steps

/-- A path that goes on with more steps. -/
def Path.followedBy (path : Path) (steps : List Step) : Path :=
  { path with steps := path.steps ++ steps }

/-- Items of a context that are the same are equal, unless they are attributes. -/
theorem eq_of_same_node (hx : x ∈ c.inOrder) (hu : u ∈ c.inOrder)
    (hnode : x.isAttribute = false) (h : x.same u = true) : x = u := by
  match x, u with
  | .top, .top => rfl
  | .node l, .node m =>
    have hplace : l.place = m.place := by simpa [Item.same] using h
    have hnodup : (c.allNodes.map Located.place).Nodup := by
      rw [List.nodup_iff_pairwise_ne, List.pairwise_map]
      apply (pairwise_place_allNodes c).imp
      intro a b hlt heq
      rw [heq] at hlt
      exact List.lt_irrefl _ hlt
    rw [List.inj_on_of_nodup_map hnodup (mem_allNodes_of_node hx) (mem_allNodes_of_node hu) hplace]

/-- A step finds from a list of items all that it finds from each of them, but for attributes. -/
theorem mem_stepAll_iff (hc : c.IsPlaced) (hitems : ∀ x ∈ items, x ∈ c.inOrder)
    (hnode : u.isAttribute = false) :
    u ∈ c.stepAll items step ↔ ∃ x ∈ items, u ∈ c.stepFrom step x := by
  have hfound : ∀ {y}, y ∈ c.stepAll items step → ∃ x ∈ items, y ∈ c.stepFrom step x := by
    intro y hy
    rw [c.stepAll_eq] at hy
    exact List.mem_flatMap.mp ((mem_addNew hy).resolve_left List.not_mem_nil)
  refine ⟨hfound, ?_⟩
  rintro ⟨x, hx, hu⟩
  have hsame : (c.stepAll items step).any u.same = true := by
    rw [c.stepAll_eq, any_same_addNew, Bool.or_eq_true]
    exact .inr (List.any_eq_true.mpr ⟨u, List.mem_flatMap.mpr ⟨x, hx, hu⟩, same_self u⟩)
  obtain ⟨y, hy, huy⟩ := List.any_eq_true.mp hsame
  have hmem := (stepFrom_sublist_inOrder hc step (hitems x hx)).subset hu
  rwa [eq_of_same_node hmem (stepAll_subset_inOrder hc step hitems y hy) hnode huy]

theorem isAttribute_of_mem_children (h : u ∈ c.children x) : u.isAttribute = false :=
  (mem_descendants_mark (mem_descendants_iff_child.mpr ⟨x, List.mem_cons_self, h⟩)).1

/-- A test does not tell a child from a node further below. -/
theorem passes_child (test : NodeTest) (hnode : u.isAttribute = false) :
    c.passes test .child u = c.passes test .descendant u := by
  match u with
  | .top => rfl
  | .node _ => cases test <;> rfl

variable {test : NodeTest} {predicates : List Predicate}

/-- A test finds among all that is below an item what it finds among the children of the item and
of everything below it. -/
theorem mem_stepFrom_descendant (hlocal : predicates.all Predicate.isLocal = true) :
    u ∈ c.stepFrom ⟨.descendant, test, predicates⟩ x ↔
      ∃ above ∈ c.along .descendantOrSelf x, u ∈ c.stepFrom ⟨.child, test, predicates⟩ above := by
  have hchild : ∀ above, u ∈ c.stepFrom ⟨.child, test, predicates⟩ above ↔
      u ∈ c.children above ∧ c.passes test .child u = true ∧
        ∀ p ∈ predicates, c.holds u p = true := fun _ => mem_stepFrom_iff hlocal
  simp only [hchild]
  rw [mem_stepFrom_iff hlocal, Context.along, mem_descendants_iff_child]
  constructor
  · rintro ⟨⟨above, habove, hu⟩, hpasses, hholds⟩
    rw [← passes_child test (isAttribute_of_mem_children hu)] at hpasses
    exact ⟨above, habove, hu, hpasses, hholds⟩
  · rintro ⟨above, habove, hu, hpasses, hholds⟩
    rw [passes_child test (isAttribute_of_mem_children hu)] at hpasses
    exact ⟨⟨above, habove, hu⟩, hpasses, hholds⟩

theorem mem_stepFrom_everywhere : u ∈ c.stepFrom .everywhere x ↔ u ∈ c.along .descendantOrSelf x := by
  have hany : c.passes .any .descendantOrSelf u = true := by cases u <;> rfl
  rw [mem_stepFrom_iff rfl]
  simp [Step.everywhere, hany]

/-- Behind two slashes, a test finds what it finds among all that is below, unless positions
count. -/
theorem mem_stepAll_slashes (hc : c.IsPlaced) (hitems : ∀ x ∈ items, x ∈ c.inOrder)
    (hlocal : predicates.all Predicate.isLocal = true) :
    u ∈ c.stepAll (c.stepAll items .everywhere) ⟨.child, test, predicates⟩ ↔
      u ∈ c.stepAll items ⟨.descendant, test, predicates⟩ := by
  have hall := stepAll_subset_inOrder hc .everywhere hitems
  constructor
  · intro h
    obtain ⟨_, -, hchild⟩ := mem_stepAll h
    have hnode := isAttribute_of_mem_children hchild
    obtain ⟨above, habove, hu⟩ := (mem_stepAll_iff hc hall hnode).mp h
    obtain ⟨x, hx, habove⟩ := mem_stepAll habove
    exact (mem_stepAll_iff hc hitems hnode).mpr
      ⟨x, hx, (mem_stepFrom_descendant hlocal).mpr ⟨above, habove, hu⟩⟩
  · intro h
    obtain ⟨_, -, hbelow⟩ := mem_stepAll h
    have hnode := (mem_descendants_mark hbelow).1
    obtain ⟨x, hx, hu⟩ := (mem_stepAll_iff hc hitems hnode).mp h
    obtain ⟨above, habove, hu⟩ := (mem_stepFrom_descendant hlocal).mp hu
    have hinner : above.isAttribute = false := by
      cases above with
      | «attribute» => cases mem_along_of_stepFrom hu
      | _ => rfl
    have hmem := (mem_stepAll_iff hc hitems hinner).mpr ⟨x, hx, mem_stepFrom_everywhere.mpr habove⟩
    exact (mem_stepAll_iff hc hall hnode).mpr ⟨above, hmem, hu⟩

theorem mem_select_followedBy (hc : c.IsPlaced) (path : Path)
    (hlocal : predicates.all Predicate.isLocal = true) :
    u ∈ c.select ⟨[path.followedBy [.everywhere, ⟨.child, test, predicates⟩]]⟩ ↔
      u ∈ c.select ⟨[path.followedBy [⟨.descendant, test, predicates⟩]]⟩ := by
  have hfollow : ∀ steps, c.select ⟨[path.followedBy steps]⟩ =
      steps.foldl c.stepAll (path.steps.foldl c.stepAll [.top]) := by
    intro steps
    rw [c.select_singleton, Context.follow, ite_self, Path.followedBy, List.foldl_append]
  have hitems : ∀ x ∈ path.steps.foldl c.stepAll [.top], x ∈ c.inOrder :=
    foldl_stepAll_subset_inOrder hc path.steps (by simp [top_mem_inOrder])
  rw [hfollow, hfollow]
  exact mem_stepAll_slashes hc hitems hlocal

/-- Two slashes at the beginning find the nodes of a context that pass, at every depth. -/
theorem mem_select_slashes (hc : c.IsPlaced) {path : Path} (hpath : path.steps = [])
    (hlocal : predicates.all Predicate.isLocal = true) :
    u ∈ c.select ⟨[path.followedBy [.everywhere, ⟨.child, test, predicates⟩]]⟩ ↔
      ∃ l ∈ c.allNodes, u = .node l ∧ c.passes test .child u = true ∧
        ∀ p ∈ predicates, c.holds u p = true := by
  have hselect : c.select ⟨[path.followedBy [⟨.descendant, test, predicates⟩]]⟩ =
      c.stepAll [.top] ⟨.descendant, test, predicates⟩ := by
    rw [c.select_singleton, Context.follow, ite_self, Path.followedBy, hpath]
    rfl
  have htop : ∀ x ∈ [Item.top], x ∈ c.inOrder := by simp [top_mem_inOrder]
  have hfound : ∀ l, Item.node l ∈ c.stepAll [.top] ⟨.descendant, test, predicates⟩ ↔
      l ∈ c.allNodes ∧ c.passes test .child (.node l) = true ∧
        ∀ p ∈ predicates, c.holds (.node l) p = true := by
    intro l
    have hbelow : Item.node l ∈ c.descendants .top ↔ l ∈ c.allNodes := by
      simp [Context.descendants]
    rw [mem_stepAll_iff hc htop rfl, passes_child test rfl, ← hbelow]
    simp only [List.mem_singleton, exists_eq_left]
    exact mem_stepFrom_iff hlocal
  rw [mem_select_followedBy hc path hlocal, hselect]
  constructor
  · intro h
    obtain ⟨x, hx, hu⟩ := mem_stepAll h
    obtain rfl := List.mem_singleton.mp hx
    obtain ⟨l, -, rfl⟩ := List.mem_map.mp hu
    obtain ⟨hl, hpass⟩ := (hfound l).mp h
    exact ⟨l, hl, rfl, hpass⟩
  · rintro ⟨l, hl, rfl, hpass⟩
    exact (hfound l).mpr ⟨hl, hpass⟩

end Steps

section Spelling

/-- What separates a path from a step behind it: a slash, but for the path that is a slash itself. -/
def Path.separator (path : Path) : List Char := if path.steps.isEmpty then [] else ['/']

theorem Step.AreWrittenAs.ne_nil {steps : List Step} {s : List Char}
    (h : Step.AreWrittenAs steps s) : steps ≠ [] := by
  cases h <;> simp

theorem Step.areWrittenAs_append {steps more : List Step} {s t : List Char}
    (h : Step.AreWrittenAs steps s) (hmore : Step.AreWrittenAs more t) :
    Step.AreWrittenAs (steps ++ more) (s ++ '/' :: t) ∧
      Step.AreWrittenAs (steps ++ .everywhere :: more) (s ++ '/' :: '/' :: t) := by
  induction h with
  | last h =>
    have hslash := Step.AreWrittenAs.slash isAllBlank_nil isAllBlank_nil h hmore
    have hslashes := Step.AreWrittenAs.slashes isAllBlank_nil isAllBlank_nil h hmore
    simpa using And.intro hslash hslashes
  | slash hbefore hafter h _ ih =>
    have hslash := Step.AreWrittenAs.slash hbefore hafter h ih.1
    have hslashes := Step.AreWrittenAs.slash hbefore hafter h ih.2
    simpa using And.intro hslash hslashes
  | slashes hbefore hafter h _ ih =>
    have hslash := Step.AreWrittenAs.slashes hbefore hafter h ih.1
    have hslashes := Step.AreWrittenAs.slashes hbefore hafter h ih.2
    simpa using And.intro hslash hslashes

/-- Behind a path, one slash leads to a step and two slashes to the same step at every depth. -/
theorem Path.isWrittenAs_followedBy {path : Path} {step : Step} {s t : List Char}
    (h : path.IsWrittenAs s) (hstep : step.IsWrittenAs t) :
    (path.followedBy [step]).IsWrittenAs (s ++ path.separator ++ t) ∧
      (path.followedBy [.everywhere, step]).IsWrittenAs (s ++ path.separator ++ '/' :: t) := by
  have hlast := Step.AreWrittenAs.last hstep
  cases h with
  | root => exact ⟨.absolute isAllBlank_nil hlast, .below isAllBlank_nil hlast⟩
  | @relative steps s h =>
    have hsep : Path.separator ⟨false, steps⟩ = ['/'] := by simp [Path.separator, h.ne_nil]
    obtain ⟨hslash, hslashes⟩ := Step.areWrittenAs_append h hlast
    rw [hsep, List.append_assoc, List.append_assoc]
    exact ⟨.relative hslash, .relative hslashes⟩
  | @absolute steps after s hafter h =>
    have hsep : Path.separator ⟨true, steps⟩ = ['/'] := by simp [Path.separator, h.ne_nil]
    obtain ⟨hslash, hslashes⟩ := Step.areWrittenAs_append h hlast
    have hpath := Path.IsWrittenAs.absolute hafter hslash
    have hpaths := Path.IsWrittenAs.absolute hafter hslashes
    rw [hsep]
    simpa [Path.followedBy] using And.intro hpath hpaths
  | @below steps after s hafter h =>
    obtain ⟨hslash, hslashes⟩ := Step.areWrittenAs_append h hlast
    have hpath := Path.IsWrittenAs.below hafter hslash
    have hpaths := Path.IsWrittenAs.below hafter hslashes
    simpa [Path.followedBy, Path.separator] using And.intro hpath hpaths

theorem Path.isSupported_followedBy {path : Path} {steps : List Step}
    (h : path.isSupported = true) (hne : steps ≠ [])
    (hsteps : ∀ step ∈ steps, step.isSupported = true) :
    (path.followedBy steps).isSupported = true := by
  have hall := steps_of_isSupported h
  simp only [Path.isSupported, Path.followedBy, List.all_append, Bool.and_eq_true,
    List.all_eq_true]
  exact ⟨by simp [hne], hall, hsteps⟩

/-- A path that is written as a query of its own is read as that query. -/
theorem selectText_of_isWrittenAs (c : Context) {path : Path} {s : List Char}
    (hs : path.isSupported = true) (h : path.IsWrittenAs s) :
    c.selectText (String.ofList s) = c.select ⟨[path]⟩ := by
  have hlast := Path.AreWrittenAs.last isAllBlank_nil isAllBlank_nil h
  rw [List.nil_append, List.append_nil] at hlast
  have hread : parse? (String.ofList s) = some ⟨[path]⟩ := by
    rw [parse?, read?, String.toList_ofList, Path.readAll_of_areWrittenAs (by simpa using hs) hlast,
      Option.map_some]
  rw [Context.selectText, hread]

end Spelling

/-- Two slashes and the axis of the descendants lead from a path to the same items, each of them
once, if no predicate counts positions, and that in whichever way the path is written. At the
beginning of a query they lead to every node of a document, or of a record with the record itself,
that passes the test and the predicates. -/
theorem slashes_reach_every_depth (d : Xml.Document) (namespaces : Namespaces)
    (record : Option Located) (hrecord : ∀ r, record = some r → r ∈ listFrom [] 0 d.children)
    (path : Path) (test : NodeTest) {predicates : List Predicate}
    (hlocal : predicates.all Predicate.isLocal = true) :
    let c : Context := ⟨namespaces, d, record⟩
    let slashes := c.select ⟨[path.followedBy [.everywhere, ⟨.child, test, predicates⟩]]⟩
    let named := c.select ⟨[path.followedBy [⟨.descendant, test, predicates⟩]]⟩
    slashes.Perm named ∧
      (slashes.Pairwise fun x y => x.same y = false) ∧
      (named.Pairwise fun x y => x.same y = false) ∧
      (path.steps = [] → ∀ x, x ∈ slashes ↔
        ∃ l ∈ c.allNodes, x = .node l ∧ c.passes test .child x = true ∧
          ∀ p ∈ predicates, c.holds x p = true) ∧
      (path.isSupported = true → test.isSupported = true →
        (∀ p ∈ predicates, p.isSupported = true) →
        ∀ s, path.IsWrittenAs s → ∀ t, Predicate.AreWrittenAs predicates t →
          c.selectText (String.ofList (s ++ path.separator ++ '/' :: (test.write ++ t))) = slashes ∧
          c.selectText (String.ofList
            (s ++ path.separator ++ ("descendant::".toList ++ test.write ++ t))) = named) := by
  intro c slashes named
  have hc : c.IsPlaced := hrecord
  have hperm : slashes.Perm named :=
    (List.perm_ext_iff_of_nodup (nodup_select c _) (nodup_select c _)).mpr fun _ =>
      mem_select_followedBy hc path hlocal
  refine ⟨hperm, pairwise_select c _, pairwise_select c _,
    fun hpath _ => mem_select_slashes hc hpath hlocal, ?_⟩
  intro hpath htest hpredicates s hs t ht
  have hsupported : ∀ axis, Step.isSupported ⟨axis, test, predicates⟩ = true := fun _ =>
    Bool.and_eq_true_iff.mpr ⟨htest, List.all_eq_true.mpr hpredicates⟩
  have hchild : Step.IsWrittenAs ⟨.child, test, predicates⟩ (test.write ++ t) :=
    .of (.child test) ht
  have hdescendant : Step.IsWrittenAs ⟨.descendant, test, predicates⟩
      ("descendant::".toList ++ test.write ++ t) := .of (.named .descendant test) ht
  refine ⟨selectText_of_isWrittenAs c ?_ (Path.isWrittenAs_followedBy hs hchild).2,
    selectText_of_isWrittenAs c ?_ (Path.isWrittenAs_followedBy hs hdescendant).1⟩
  · exact Path.isSupported_followedBy hpath (by simp) (by simp [hsupported]; rfl)
  · exact Path.isSupported_followedBy hpath (by simp) (by simp [hsupported])

/-- In a record, elements inside of each other lead to the same element below them once. -/
theorem slashes_reach_every_depth_record :
    let name (s : String) : NamePattern := ⟨none, s⟩
    let inner : Xml.Node :=
      .element ⟨none, "a"⟩ [] [] [.element ⟨none, "b"⟩ [⟨⟨none, "x"⟩, "1"⟩] [] []]
    let outer : Xml.Node := .element ⟨none, "a"⟩ [] [] [inner]
    let d : Xml.Document := ⟨[.element ⟨none, "l"⟩ [] [] [.text "0", outer, inner]]⟩
    let record : Located := ⟨[0, 1], outer⟩
    let c : Context := ⟨Namespaces.ofDocument d, d, some record⟩
    let path : Path := ⟨true, [.everywhere, ⟨.child, .name (name "a"), []⟩]⟩
    let predicates : List Predicate := [.has (.attribute (name "x"))]
    record ∈ listFrom [] 0 d.children ∧ predicates.all Predicate.isLocal = true ∧
      path.isSupported = true ∧ path.IsWrittenAs "//a".toList ∧
      (c.selectText "//a//b[@x]").Perm (c.selectText "//a/descendant::b[@x]") ∧
      (c.selectText "//a//b[@x]").length = 1 := by
  intro name inner outer d record c path predicates
  have hmem : record ∈ listFrom [] 0 d.children := mem_of_nodeAt? rfl
  have hrecord : ∀ r, some record = some r → r ∈ listFrom [] 0 d.children := by
    intro r hr
    exact Option.some.inj hr ▸ hmem
  have hlocal : predicates.all Predicate.isLocal = true := rfl
  have hsupported : path.isSupported = true := by decide +kernel
  have hstep : Step.IsWrittenAs ⟨.child, .name (name "a"), []⟩ _ := .of (.child _) .nil
  have hpath : path.IsWrittenAs "//a".toList := by
    have hbelow := Path.IsWrittenAs.below isAllBlank_nil (.last hstep)
    convert hbelow using 1
    decide +kernel
  have hpredicates : ∀ p ∈ predicates, p.isSupported = true := by decide +kernel
  have hwritten : Predicate.AreWrittenAs predicates "[@x]".toList := by
    have hone := Predicate.AreWrittenAs.cons isAllBlank_nil isAllBlank_nil isAllBlank_nil
      (.has (.attribute (name "x"))) .nil
    convert hone using 1
    decide +kernel
  obtain ⟨hperm, -, -, -, htexts⟩ := slashes_reach_every_depth d (Namespaces.ofDocument d)
    (some record) hrecord path (.name (name "b")) hlocal
  obtain ⟨hslashes, hnamed⟩ := htexts hsupported (by decide +kernel) hpredicates _ hpath _ hwritten
  have hslashesText : String.ofList ("//a".toList ++ path.separator ++ '/' ::
      ((NodeTest.name (name "b")).write ++ "[@x]".toList)) = "//a//b[@x]" := by decide +kernel
  have hnamedText : String.ofList ("//a".toList ++ path.separator ++ ("descendant::".toList ++
      (NodeTest.name (name "b")).write ++ "[@x]".toList)) = "//a/descendant::b[@x]" := by
    decide +kernel
  rw [hslashesText] at hslashes
  rw [hnamedText] at hnamed
  refine ⟨hmem, hlocal, hsupported, hpath, ?_, by decide +kernel⟩
  rw [hslashes, hnamed]
  exact hperm

end Crosswalk.Query
