import Mathlib.Data.List.Basic
import Mathlib.Data.List.Induction
import Crosswalk.Query.Select

/-!
How queries gather what their steps find.

Items are put together without repetition, in the order in which they are found first. So what a
query selects can be read off the lists that its last steps find, written one behind the other.
-/

namespace Crosswalk.Query

theorem same_self (x : Item) : x.same x = true := by
  cases x <;> simp [Item.same]

theorem same_comm (x y : Item) : x.same y = y.same x := by
  cases x <;> cases y <;> simp [Item.same, Bool.beq_comm]

theorem same_trans {x y z : Item} (hxy : x.same y = true) (hyz : y.same z = true) :
    x.same z = true := by
  cases x <;> cases y <;> cases z <;> simp_all [Item.same]

variable {items more : List Item} {x : Item}

theorem mem_addNew {items more : List Item} {x : Item} (h : x ∈ addNew items more) :
    x ∈ items ∨ x ∈ more := by
  induction more generalizing items with
  | nil => exact Or.inl h
  | cons y rest ih =>
    rw [addNew, List.foldl_cons] at h
    rcases ih h with hkept | hrest
    · split at hkept
      · exact Or.inl hkept
      · rcases List.mem_append.mp hkept with hkept | hy
        · exact Or.inl hkept
        · exact Or.inr (by simp [List.mem_singleton.mp hy])
    · exact Or.inr (List.mem_cons_of_mem y hrest)

theorem addNew_append (items first second : List Item) :
    addNew items (first ++ second) = addNew (addNew items first) second := List.foldl_append

theorem addNew_cons (items : List Item) (x : Item) (rest : List Item) :
    addNew items (x :: rest) = addNew (if items.any x.same then items else items ++ [x]) rest := rfl

/-- An item is found again among others and new ones exactly when it is among either. -/
theorem any_same_addNew :
    (addNew items more).any x.same = (items.any x.same || more.any x.same) := by
  induction more generalizing items with
  | nil => simp [addNew]
  | cons y rest ih =>
    rw [addNew_cons, ih, List.any_cons]
    by_cases hfound : items.any y.same = true
    · have hold : x.same y = true → items.any x.same = true := by
        intro hxy
        obtain ⟨z, hz, hyz⟩ := List.any_eq_true.mp hfound
        exact List.any_eq_true.mpr ⟨z, hz, same_trans hxy hyz⟩
      rw [if_pos hfound]
      cases hxy : x.same y with
      | true => simp [hold hxy]
      | false => simp
    · rw [if_neg hfound, List.any_append]
      simp [Bool.or_assoc]

/-- Nothing is gained by leaving out repetitions before. -/
theorem addNew_addNew (items more : List Item) :
    addNew items (addNew [] more) = addNew items more := by
  induction more using List.reverseRecOn with
  | nil => rfl
  | append_singleton front x ih =>
    rw [addNew_append, addNew_append, addNew_cons, addNew_cons]
    have hsame : (addNew items front).any x.same = (items.any x.same || front.any x.same) :=
      any_same_addNew
    by_cases hfound : front.any x.same = true
    · have hfront : (addNew [] front).any x.same = true := by simp [any_same_addNew, hfound]
      have hitems : (addNew items front).any x.same = true := by simp [hsame, hfound]
      rw [if_pos hfront, if_pos hitems]
      exact ih
    · have hfront : ¬(addNew [] front).any x.same = true := by simpa [any_same_addNew] using hfound
      rw [if_neg hfront]
      show addNew items (addNew [] front ++ [x]) = _
      rw [addNew_append, ih, addNew_cons]

/-- Items that are put together are pairwise different. -/
theorem pairwise_addNew (h : items.Pairwise fun x y => x.same y = false) (more : List Item) :
    (addNew items more).Pairwise fun x y => x.same y = false := by
  induction more generalizing items with
  | nil => exact h
  | cons y rest ih =>
    rw [addNew_cons]
    split
    · exact ih h
    · rename_i hnew
      apply ih
      rw [List.pairwise_append]
      refine ⟨h, List.pairwise_singleton _ _, ?_⟩
      intro z hz w hw
      rw [List.mem_singleton.mp hw, same_comm]
      by_contra hsame
      rw [Bool.not_eq_false] at hsame
      exact hnew (List.any_eq_true.mpr ⟨z, hz, hsame⟩)

theorem foldl_addNew {α : Type} (f : α → List Item) (xs : List α) (items : List Item) :
    xs.foldl (fun acc x => addNew acc (f x)) items = addNew items (xs.flatMap f) := by
  induction xs generalizing items with
  | nil => rfl
  | cons x rest ih => rw [List.foldl_cons, ih, List.flatMap_cons, addNew_append]

namespace Context

variable (c : Context)

theorem keep_sublist (items : List Item) (p : Predicate) :
    (c.keep items p).Sublist items := by
  cases p with
  | position k =>
    simp only [Context.keep]
    split
    · exact List.nil_sublist _
    · cases hitem : items[k - 1]? with
      | none => exact List.nil_sublist _
      | some x => exact List.singleton_sublist.mpr (List.mem_of_getElem? hitem)
  | last =>
    simp only [Context.keep]
    cases hitem : items.getLast? with
    | none => exact List.nil_sublist _
    | some x => exact List.singleton_sublist.mpr (List.mem_of_getLast? hitem)
  | has part => exact List.filter_sublist
  | compares part value negated => exact List.filter_sublist
  | comparesSelf value negated => exact List.filter_sublist

theorem foldl_keep_sublist (ps : List Predicate) (items : List Item) :
    (ps.foldl c.keep items).Sublist items := by
  induction ps generalizing items with
  | nil => exact List.Sublist.refl _
  | cons p rest ih => exact (ih (c.keep items p)).trans (keep_sublist c items p)

/-- A step finds only items on its axis. -/
theorem stepFrom_sublist (step : Step) (item : Item) :
    (c.stepFrom step item).Sublist (c.along step.axis item) :=
  (foldl_keep_sublist c _ _).trans List.filter_sublist

theorem stepAll_eq (items : List Item) (step : Step) :
    c.stepAll items step = addNew [] (items.flatMap (c.stepFrom step)) :=
  foldl_addNew _ _ _

/-- What the last step of a path finds, from one item after the other. A path without steps finds
the top. -/
def findsAlong (path : Path) : List (List Item) :=
  match path.steps.getLast? with
  | some step => (path.steps.dropLast.foldl c.stepAll [.top]).map (c.stepFrom step)
  | none => [[.top]]

/-- What the last steps of a query find, path after path. -/
def finds (query : Query) : List (List Item) := query.paths.flatMap c.findsAlong

theorem follow_eq (path : Path) : c.follow path .top = addNew [] (c.findsAlong path).flatten := by
  rw [follow, findsAlong, ite_self]
  cases hlast : path.steps.getLast? with
  | none =>
    rw [List.getLast?_eq_none_iff.mp hlast]
    rfl
  | some step =>
    obtain ⟨front, hfront⟩ := List.getLast?_eq_some_iff.mp hlast
    rw [hfront, List.foldl_append, List.dropLast_concat]
    exact c.stepAll_eq _ step

/-- A query selects what its last steps find, without repetition. -/
theorem select_eq (query : Query) : c.select query = addNew [] (c.finds query).flatten := by
  have hrun : ∀ (paths : List Path) (items : List Item),
      addNew items (paths.flatMap fun path => c.follow path .top) =
        addNew items (paths.flatMap c.findsAlong).flatten := by
    intro paths
    induction paths with
    | nil => exact fun _ => rfl
    | cons path rest ih =>
      intro items
      rw [List.flatMap_cons, List.flatMap_cons, List.flatten_append, addNew_append, addNew_append,
        follow_eq, addNew_addNew, ih]
  rw [select, foldl_addNew, hrun]
  rfl

theorem select_singleton (path : Path) : c.select ⟨[path]⟩ = c.follow path .top := by
  rw [c.select_eq, Context.finds, List.flatMap_cons, List.flatMap_nil, List.append_nil, c.follow_eq]

end Context

end Crosswalk.Query
