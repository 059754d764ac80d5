import Crosswalk.Json.Reader
import Crosswalk.Proofs.Json.Ways

/-!
Documents in which every scalar has a way of its own.

An object that is held by a program names each of its members once, and an array numbers its items
by machine words. So the ways to the scalars of such a document are all different, and following one
of them leads to its scalar. A document that is read names its members once.
-/

namespace Crosswalk.Json

mutual

/-- Whether a property holds of a document and of everything in it. -/
def everywhere (p : Json → Bool) : Json → Bool
  | .array items => p (.array items) && everyItem p items
  | .object members => p (.object members) && everyMember p members
  | scalar => p scalar

def everyItem (p : Json → Bool) : List Json → Bool
  | [] => true
  | item :: rest => item.everywhere p && everyItem p rest

def everyMember (p : Json → Bool) : List (String × Json) → Bool
  | [] => true
  | (_, value) :: rest => value.everywhere p && everyMember p rest

end

/-- Whether an object names no member twice. -/
def namesOnce : Json → Bool
  | .object members => decide (entryKeys members).Nodup
  | _ => true

/-- Whether the items of an array can be numbered by machine words. -/
def fitsWords : Json → Bool
  | .array items => decide (items.length ≤ Text.wordLimit)
  | _ => true

variable {p : Json → Bool} {way : List (List Char)} {j leaf : Json}

theorem everywhere_array {items : List Json} :
    (Json.array items).everywhere p = true ↔
      p (.array items) = true ∧ ∀ item ∈ items, item.everywhere p = true := by
  have hitems : everyItem p items = true ↔ ∀ item ∈ items, item.everywhere p = true := by
    induction items with
    | nil => simp [everyItem]
    | cons item rest ih => simp [everyItem, ih]
  rw [everywhere, Bool.and_eq_true, hitems]

theorem everywhere_object {members : List (String × Json)} :
    (Json.object members).everywhere p = true ↔
      p (.object members) = true ∧ ∀ member ∈ members, member.2.everywhere p = true := by
  have hmembers : everyMember p members = true ↔
      ∀ member ∈ members, member.2.everywhere p = true := by
    induction members with
    | nil => simp [everyMember]
    | cons member rest ih => simp [everyMember, ih]
  rw [everywhere, Bool.and_eq_true, hmembers]

theorem isScalar_of_mem_ways (h : (way, leaf) ∈ ways j) : leaf.isScalar = true := by
  induction j using induction generalizing way with
  | scalar j hj =>
    rw [ways_of_isScalar hj, List.mem_singleton] at h
    cases h
    exact hj
  | array items ih =>
    obtain ⟨i, item, rest, hitem, -, hrest⟩ := mem_itemWays.mp h
    exact ih item (List.mem_of_getElem? hitem) hrest
  | object members ih =>
    obtain ⟨name, value, rest, hmember, -, hrest⟩ := mem_memberWays.mp h
    exact ih (name, value) hmember hrest

/-- Lists of ways that begin with different segments have nothing in common. -/
theorem nodup_ways_append {front back : List (List (List Char) × Json)} {segment : List Char}
    (hfront : (front.map Prod.fst).Nodup) (hback : (back.map Prod.fst).Nodup)
    (hheads : ∀ entry ∈ back, entry.1.head? ≠ some segment) :
    (((front.map fun entry => (segment :: entry.1, entry.2)) ++ back).map Prod.fst).Nodup := by
  rw [List.map_append, List.map_map, List.nodup_append]
  refine ⟨?_, hback, ?_⟩
  · have hmap := hfront.map (f := (segment :: ·)) (List.cons_injective)
    rwa [List.map_map] at hmap
  · rintro way hway other hother rfl
    obtain ⟨entry, -, rfl⟩ := List.mem_map.mp hway
    obtain ⟨last, hlast, heq⟩ := List.mem_map.mp hother
    exact hheads last hlast (by rw [heq]; rfl)

/-- No two scalars of a document are at the end of one way. -/
theorem nodup_ways (h : j.everywhere namesOnce = true) : ((ways j).map Prod.fst).Nodup := by
  induction j using induction with
  | scalar j hj => simp [ways_of_isScalar hj]
  | array items ih =>
    have hitems := (everywhere_array.mp h).2
    clear h
    suffices hall : ∀ index, ((itemWays index items).map Prod.fst).Nodup from hall 0
    induction items with
    | nil => exact fun _ => List.nodup_nil
    | cons item rest hrest =>
      intro index
      rw [List.forall_mem_cons] at ih hitems
      refine nodup_ways_append (ih.1 hitems.1) (hrest ih.2 hitems.2 (index + 1)) ?_
      rintro ⟨way, leaf⟩ hmem hhead
      obtain ⟨i, -, more, -, rfl, -⟩ := mem_itemWays.mp hmem
      have hindex := Text.ofNat_inj (Option.some.inj hhead)
      omega
  | object members ih =>
    obtain ⟨hnames, hmembers⟩ := everywhere_object.mp h
    have hnodup : (entryKeys members).Nodup := of_decide_eq_true hnames
    clear h hnames
    rw [ways]
    induction members with
    | nil => exact List.nodup_nil
    | cons member rest hrest =>
      obtain ⟨hname, hothers⟩ := List.nodup_cons.mp hnodup
      rw [List.forall_mem_cons] at ih hmembers
      refine nodup_ways_append (ih.1 hmembers.1) (hrest ih.2 hmembers.2 hothers) ?_
      rintro ⟨way, leaf⟩ hmem hhead
      obtain ⟨name, value, more, hmember, rfl, -⟩ := mem_memberWays.mp hmem
      have hsame := String.toList_inj.mp (Option.some.inj hhead)
      exact hname (hsame ▸ List.mem_map_of_mem hmember)

/-- The way to a scalar leads to it. -/
theorem follow_of_mem_ways (hnames : j.everywhere namesOnce = true)
    (hwords : j.everywhere fitsWords = true) (h : (way, leaf) ∈ ways j) :
    follow way j = some leaf := by
  induction j using induction generalizing way with
  | scalar j hj =>
    rw [ways_of_isScalar hj, List.mem_singleton] at h
    cases h
    rfl
  | array items ih =>
    obtain ⟨hlength, hwords⟩ := everywhere_array.mp hwords
    obtain ⟨i, item, rest, hitem, rfl, hrest⟩ := mem_itemWays.mp h
    have hmem := List.mem_of_getElem? hitem
    have hword : 0 + i < Text.wordLimit := by
      have hbound : i < items.length := (List.getElem?_eq_some_iff.mp hitem).1
      have hlength : items.length ≤ Text.wordLimit := of_decide_eq_true hlength
      omega
    have hchild : (Json.array items).child? (Text.ofNat (0 + i)) = some item := by
      rw [child?, Text.unsigned?_ofNat hword, Option.bind_some, Nat.zero_add, hitem]
    rw [follow, hchild, Option.bind_some]
    exact ih item hmem ((everywhere_array.mp hnames).2 item hmem) (hwords item hmem) hrest
  | object members ih =>
    obtain ⟨hnodup, hnames⟩ := everywhere_object.mp hnames
    obtain ⟨name, value, rest, hmember, rfl, hrest⟩ := mem_memberWays.mp h
    have hlookup : members.lookup name = some value :=
      Table.get?_of_mem ⟨members, of_decide_eq_true hnodup⟩ hmember
    have hchild : (Json.object members).child? name.toList = some value := by
      rw [child?, String.ofList_toList, member?, hlookup]
      intro items hitems
      cases hitems
    rw [follow, hchild, Option.bind_some]
    exact ih (name, value) hmember (hnames _ hmember) ((everywhere_object.mp hwords).2 _ hmember)
      hrest

theorem mergeMembers_eq (members : List (String × Json)) :
    mergeMembers members = (Table.ofList members).entries := by
  suffices hfold : ∀ t : Table Json, (t.setAll members).entries =
      members.foldl (fun acc member => setEntry member.1 member.2 acc) t.entries from
    (hfold Table.empty).symm
  induction members with
  | nil => exact fun _ => rfl
  | cons member rest ih => exact fun t => ih (t.set member.1 member.2)

theorem mem_of_mem_mergeMembers {members : List (String × Json)} {member : String × Json}
    (h : member ∈ mergeMembers members) : member ∈ members := by
  rw [mergeMembers_eq] at h
  obtain ⟨front, back, hsplit, -⟩ :=
    Table.get?_ofList_eq_some_iff.mp ((Table.ofList members).get?_of_mem h)
  rw [hsplit]
  exact List.mem_append_right front List.mem_cons_self

theorem everywhere_namesOnce_merged (j : Json) : j.merged.everywhere namesOnce = true := by
  induction j using induction with
  | scalar j hj => cases j <;> first | rfl | cases hj
  | array items ih =>
    rw [merged, everywhere_array]
    refine ⟨rfl, fun item hitem => ?_⟩
    induction items with
    | nil => cases hitem
    | cons first rest hrest =>
      rw [List.forall_mem_cons] at ih
      rcases List.mem_cons.mp hitem with rfl | hitem
      · exact ih.1
      · exact hrest ih.2 hitem
  | object members ih =>
    rw [merged, everywhere_object]
    have hnodup : (entryKeys (mergeMembers (mergedMembers members))).Nodup := by
      rw [mergeMembers_eq]
      exact (Table.ofList _).nodup
    refine ⟨decide_eq_true hnodup, fun member hmember => ?_⟩
    replace hmember := mem_of_mem_mergeMembers hmember
    clear hnodup
    induction members with
    | nil => cases hmember
    | cons first rest hrest =>
      rw [List.forall_mem_cons] at ih
      rcases List.mem_cons.mp hmember with rfl | hmember
      · exact ih.1
      · exact hrest ih.2 hmember

/-- A document that is read names its members once, also when its text names one twice. -/
theorem everywhere_namesOnce_of_parse? {s : String} (h : parse? s = some j) :
    j.everywhere namesOnce = true := by
  obtain ⟨written, -, rfl⟩ := Option.map_eq_some_iff.mp h
  exact everywhere_namesOnce_merged written

end Crosswalk.Json
