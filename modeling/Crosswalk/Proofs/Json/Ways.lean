import Mathlib.Data.List.Basic
import Mathlib.Tactic.Tauto
import Crosswalk.Json.Flat
import Crosswalk.Proofs.Table
import Crosswalk.Proofs.Text.Numeral
import Crosswalk.Proofs.Text.Pieces

/-!
The ways to the scalars of a document.

A way lists the names and indexes on the way down. A flat key is a way that is written out, and the
table of a document holds each of its scalars under the key of its way. Names that are joined with
dots are split again, whatever they hold, so two ways are written differently. The key of a way that
does not begin with an empty name is read back into that way, so two such ways have two keys. A way
that begins with an empty name has no such key: the dots in front are dropped, and the name with
them.
-/

namespace Crosswalk.Json

/-- A property of documents holds of all of them if it holds of the scalars and is handed up from
items and members. -/
theorem induction {motive : Json → Prop}
    (scalar : ∀ j, j.isScalar = true → motive j)
    (array : ∀ items, (∀ item ∈ items, motive item) → motive (.array items))
    (object : ∀ members, (∀ member ∈ members, motive member.2) → motive (.object members))
    (j : Json) : motive j := by
  match j with
  | .null | .bool _ | .number _ | .text _ => exact scalar _ rfl
  | .array items => exact array items fun item _ => induction scalar array object item
  | .object members =>
    exact object members fun member _ => induction scalar array object member.2
termination_by sizeOf j
decreasing_by
  · rename_i hitem
    have hsize := List.sizeOf_lt_of_mem hitem
    simp only [Json.array.sizeOf_spec]
    omega
  · rename_i hmember
    have hsize := List.sizeOf_lt_of_mem hmember
    cases member
    simp only [Prod.mk.sizeOf_spec, Json.object.sizeOf_spec] at hsize ⊢
    omega

mutual

/-- The ways to the scalars of a document, each with its scalar, in document order. -/
def ways : Json → List (List (List Char) × Json)
  | .array items => itemWays 0 items
  | .object members => memberWays members
  | leaf => [([], leaf)]

/-- The ways to the scalars of items, the first of which has the given index. -/
def itemWays (index : Nat) : List Json → List (List (List Char) × Json)
  | [] => []
  | item :: rest =>
    (ways item).map (fun (way, leaf) => (Text.ofNat index :: way, leaf)) ++
      itemWays (index + 1) rest

/-- The ways to the scalars of members. -/
def memberWays : List (String × Json) → List (List (List Char) × Json)
  | [] => []
  | (key, value) :: rest =>
    (ways value).map (fun (way, leaf) => (key.toList :: way, leaf)) ++ memberWays rest

end

/-- Writes a way: a dot and the escaped segment for each step. -/
def writeWay (way : List (List Char)) : List Char :=
  way.flatMap fun segment => '.' :: escapeSegment segment

/-- The flat key of what is at the end of a way. -/
def wayKey (way : List (List Char)) : String := leafKey (writeWay way)

theorem writeWay_cons (segment : List Char) (way : List (List Char)) :
    writeWay (segment :: way) = '.' :: (escapeSegment segment ++ writeWay way) := by
  simp [writeWay]

theorem escapeSegment_eq_self {segment : List Char} (h : ∀ c ∈ segment, c ≠ '.' ∧ c ≠ '\\') :
    escapeSegment segment = segment := by
  rw [escapeSegment]
  have hself : ∀ c ∈ segment, (if c == '.' || c == '\\' then ['\\', c] else [c]) = [c] := by
    intro c hc
    simp [h c hc]
  rw [List.flatMap_congr hself, List.flatMap_singleton']

theorem escapeSegment_ofNat (n : Nat) : escapeSegment (Text.ofNat n) = Text.ofNat n := by
  apply escapeSegment_eq_self
  intro c hc
  have hdigit := Text.isDigit_of_mem_ofNat hc
  constructor <;> (rintro rfl; revert hdigit; decide)

theorem memberWays_eq (members : List (String × Json)) :
    memberWays members = members.flatMap fun member =>
      (ways member.2).map fun entry => (member.1.toList :: entry.1, entry.2) := by
  induction members with
  | nil => rfl
  | cons member rest ih => rw [memberWays, ih, List.flatMap_cons]

theorem mem_itemWays {index : Nat} {items : List Json} {way : List (List Char)} {leaf : Json} :
    (way, leaf) ∈ itemWays index items ↔
      ∃ i item rest, items[i]? = some item ∧ way = Text.ofNat (index + i) :: rest ∧
        (rest, leaf) ∈ ways item := by
  induction items generalizing index with
  | nil => simp [itemWays]
  | cons item more ih =>
    rw [itemWays, List.mem_append, ih]
    constructor
    · rintro (hmem | ⟨i, found, rest, hitem, rfl, hrest⟩)
      · obtain ⟨⟨rest, _⟩, hrest, heq⟩ := List.mem_map.mp hmem
        cases heq
        exact ⟨0, item, rest, rfl, rfl, hrest⟩
      · exact ⟨i + 1, found, rest, hitem, by rw [Nat.add_right_comm, Nat.add_assoc], hrest⟩
    · rintro ⟨i, found, rest, hitem, rfl, hrest⟩
      cases i with
      | zero =>
        left
        cases hitem
        exact List.mem_map_of_mem hrest
      | succ i =>
        right
        exact ⟨i, found, rest, hitem, by rw [Nat.add_right_comm, Nat.add_assoc], hrest⟩

theorem mem_memberWays {members : List (String × Json)} {way : List (List Char)} {leaf : Json} :
    (way, leaf) ∈ memberWays members ↔
      ∃ name value rest, (name, value) ∈ members ∧ way = name.toList :: rest ∧
        (rest, leaf) ∈ ways value := by
  rw [memberWays_eq, List.mem_flatMap]
  constructor
  · rintro ⟨⟨name, value⟩, hmember, hmem⟩
    obtain ⟨⟨rest, _⟩, hrest, heq⟩ := List.mem_map.mp hmem
    cases heq
    exact ⟨name, value, rest, hmember, rfl, hrest⟩
  · rintro ⟨name, value, rest, hmember, rfl, hrest⟩
    exact ⟨(name, value), hmember, List.mem_map_of_mem hrest⟩

theorem ways_of_isScalar {j : Json} (h : j.isScalar = true) : ways j = [([], j)] := by
  cases j <;> first | rfl | cases h

theorem leavesFrom_of_isScalar {j : Json} (h : j.isScalar = true) (front : List Char) :
    leavesFrom front j = [(front, j)] := by
  cases j <;> first | rfl | cases h

/-- The leaves of a document are its scalars with their ways written out. -/
theorem leavesFrom_eq_map (front : List Char) (j : Json) :
    leavesFrom front j = (ways j).map fun entry => (front ++ writeWay entry.1, entry.2) := by
  induction j using induction generalizing front with
  | scalar j h => simp [ways_of_isScalar h, leavesFrom_of_isScalar h, writeWay]
  | array items ih =>
    have hitems : ∀ index, itemLeaves front index items =
        (itemWays index items).map fun entry => (front ++ writeWay entry.1, entry.2) := by
      induction items with
      | nil => exact fun _ => rfl
      | cons item rest hrest =>
        intro index
        rw [itemLeaves, itemWays, ih item List.mem_cons_self, List.map_append, List.map_map,
          hrest fun item hitem => ih item (List.mem_cons_of_mem _ hitem)]
        simp [Function.comp_def, writeWay_cons, escapeSegment_ofNat]
    exact hitems 0
  | object members ih =>
    rw [leavesFrom, ways]
    induction members with
    | nil => rfl
    | cons member rest hrest =>
      rw [memberLeaves, memberWays, ih member List.mem_cons_self, List.map_append, List.map_map,
        hrest fun member hmember => ih member (List.mem_cons_of_mem _ hmember)]
      simp [Function.comp_def, writeWay_cons]

/-- The writing of a segment that is not empty does not begin with a dot. -/
theorem exists_escapeSegment_eq_cons {segment : List Char} (h : segment ≠ []) :
    ∃ c rest, escapeSegment segment = c :: rest ∧ c ≠ '.' := by
  obtain ⟨c, rest, rfl⟩ := List.exists_cons_of_ne_nil h
  by_cases hc : c = '.' ∨ c = '\\'
  · exact ⟨'\\', c :: escapeSegment rest, by simp [escapeSegment, hc], by decide⟩
  · exact ⟨c, escapeSegment rest, by simp [escapeSegment, hc], (not_or.mp hc).1⟩

/-- An escaped segment is read as it was. -/
theorem splitSegments_escapeSegment_append (segment rest : List Char) :
    splitSegments (escapeSegment segment ++ rest) =
      segment.foldr Text.consFirst (splitSegments rest) := by
  induction segment with
  | nil => rfl
  | cons c more ih =>
    have hcons : escapeSegment (c :: more) =
        (if c == '.' || c == '\\' then ['\\', c] else [c]) ++ escapeSegment more := rfl
    rw [hcons, List.append_assoc, List.foldr_cons, ← ih]
    by_cases hc : c = '.' ∨ c = '\\'
    · simp [hc, splitSegments]
    · obtain ⟨hdot, hslash⟩ := not_or.mp hc
      simp [hdot, hslash, splitSegments]

theorem splitSegments_dot (rest : List Char) :
    splitSegments ('.' :: rest) = [] :: splitSegments rest := by
  simp [splitSegments]

/-- A way that is written out is read back; in front of it stands the empty segment that its first
dot ends. -/
theorem splitSegments_writeWay (way : List (List Char)) :
    splitSegments (writeWay way) = [] :: way := by
  induction way with
  | nil => rfl
  | cons segment rest ih =>
    rw [writeWay_cons, splitSegments_dot, splitSegments_escapeSegment_append, ih,
      Text.foldr_consFirst, List.append_nil]

theorem writeWay_injective : Function.Injective writeWay := by
  intro way other h
  have hread := splitSegments_writeWay way
  rw [h, splitSegments_writeWay] at hread
  exact (List.cons.inj hread).2.symm

theorem wayKey_cons {segment : List Char} (h : segment ≠ []) (rest : List (List Char)) :
    wayKey (segment :: rest) = String.ofList (escapeSegment segment ++ writeWay rest) := by
  obtain ⟨c, more, hsegment, hc⟩ := exists_escapeSegment_eq_cons h
  simp [wayKey, leafKey, writeWay_cons, hsegment, hc]

/-- The key of a way that does not begin with an empty name is read back. -/
theorem splitSegments_wayKey {segment : List Char} (h : segment ≠ []) (rest : List (List Char)) :
    splitSegments (wayKey (segment :: rest)).toList = segment :: rest := by
  rw [wayKey_cons h, String.toList_ofList, splitSegments_escapeSegment_append,
    splitSegments_writeWay, Text.foldr_consFirst, List.append_nil]

theorem wayKey_cons_ne_empty {segment : List Char} (h : segment ≠ [])
    (rest : List (List Char)) : wayKey (segment :: rest) ≠ "" := by
  intro hkey
  have hread := splitSegments_wayKey h rest
  rw [hkey] at hread
  exact h (List.cons.inj hread).1.symm

theorem wayKey_inj {a b : List Char} {as bs : List (List Char)} (ha : a ≠ []) (hb : b ≠ [])
    (h : wayKey (a :: as) = wayKey (b :: bs)) : a :: as = b :: bs := by
  rw [← splitSegments_wayKey ha, h, splitSegments_wayKey hb]

theorem splitSegments_escapeSegment (segment : List Char) :
    splitSegments (escapeSegment segment) = [segment] := by
  have hread := splitSegments_escapeSegment_append segment []
  rw [List.append_nil] at hread
  rw [hread, splitSegments, Text.foldr_consFirst, List.append_nil]

theorem escapeKey_eq_self {key : String} (h : ∀ c ∈ key.toList, c ≠ '.' ∧ c ≠ '\\') :
    escapeKey key = key := by
  rw [escapeKey, escapeSegment_eq_self h, String.ofList_toList]

theorem escapeKey_inj (a b : String) (h : escapeKey a = escapeKey b) : a = b := by
  have hsegments := congrArg (fun key => splitSegments key.toList) h
  simpa [escapeKey, splitSegments_escapeSegment, String.toList_inj] using hsegments

/-- The key that segments make: each is escaped, and dots stand between them. -/
def joinKey (segments : List String) : String :=
  ".".intercalate (segments.map escapeKey)

/-- A written way is a dot and the joined key of its segments. -/
theorem writeWay_eq_joinKey {segments : List String} (h : segments ≠ []) :
    writeWay (segments.map String.toList) = '.' :: (joinKey segments).toList := by
  rw [joinKey, String.toList_intercalate]
  induction segments with
  | nil => exact absurd rfl h
  | cons segment rest ih =>
    rw [List.map_cons, writeWay_cons]
    cases rest with
    | nil => simp [writeWay, escapeKey]
    | cons next more =>
      rw [ih (by simp)]
      simp [escapeKey]

/-- Escaped segments that are joined with dots are split into the segments again, whatever they
hold: a key is joined from one list of segments only. So the ways to two scalars of a document are
written differently, as long as no dots in front are dropped. -/
theorem split_joined (segments : List String) (h : segments ≠ []) :
    splitKey (joinKey segments) = segments ∧
    (∀ other, other ≠ [] → joinKey other = joinKey segments → other = segments) ∧
    writeWay (segments.map String.toList) = '.' :: (joinKey segments).toList ∧
    Function.Injective writeWay ∧
    ∀ j, leavesFrom [] j = (ways j).map fun entry => (writeWay entry.1, entry.2) := by
  have hsplit : ∀ {segments : List String}, segments ≠ [] →
      splitKey (joinKey segments) = segments := by
    intro segments hne
    have hread := splitSegments_writeWay (segments.map String.toList)
    rw [writeWay_eq_joinKey hne, splitSegments_dot] at hread
    rw [splitKey, (List.cons.inj hread).2, List.map_map]
    simp [Function.comp_def]
  refine ⟨hsplit h, fun other hother heq => ?_, writeWay_eq_joinKey h, writeWay_injective,
    fun j => leavesFrom_eq_map [] j⟩
  rw [← hsplit hother, heq, hsplit h]

/-- Empty segments, a backslash at the end of a segment and one of dots only. -/
theorem split_joined_marks :
    let segments := ["", "a.b\\", "..", "", "\\"]
    joinKey segments = ".a\\.b\\\\.\\.\\...\\\\" ∧ splitKey (joinKey segments) = segments ∧
      joinKey ["a", "b"] ≠ joinKey ["a.b"] := by
  intro segments
  obtain ⟨hsplit, -⟩ := split_joined segments (by decide)
  obtain ⟨-, hinj, -⟩ := split_joined ["a.b"] (by decide)
  exact ⟨by decide +kernel, hsplit, fun h => absurd (hinj _ (by decide) h) (by decide)⟩

theorem wayKey_singleton (key : String) : wayKey [key.toList] = escapeKey key := by
  by_cases hkey : key.toList = []
  · rw [escapeKey, hkey]
    rfl
  · rw [wayKey_cons hkey]
    simp [escapeKey, writeWay]

/-- The scalars of a document under their keys. -/
def keyedLeaves (j : Json) : List (String × Json) :=
  (ways j).map fun entry => (wayKey entry.1, entry.2)

/-- Whether no member of an object is an array or an object. -/
def AllScalars (members : List (String × Json)) : Prop :=
  ∀ member ∈ members, member.2.isScalar = true

instance (members : List (String × Json)) : Decidable (AllScalars members) :=
  List.decidableBAll _ members

theorem allScalars_insert {front back : List (String × Json)} {key : String} {value : Json} :
    AllScalars (front ++ (key, value) :: back) ↔
      AllScalars (front ++ back) ∧ value.isScalar = true := by
  simp only [AllScalars, List.forall_mem_append, List.forall_mem_cons]
  tauto

theorem flatten_object {members : List (String × Json)} (h : ¬ AllScalars members) :
    (Json.object members).flatten = Table.ofList (keyedLeaves (.object members)) := by
  have hall : ¬ (members.all fun member => member.2.isScalar) = true :=
    fun hall => h (List.all_eq_true.mp hall)
  refine (if_neg hall).trans ?_
  rw [leavesFrom_eq_map, keyedLeaves, List.map_map]
  rfl

theorem flatten_object_of_allScalars {members : List (String × Json)} (h : AllScalars members) :
    (Json.object members).flatten = Table.ofList members :=
  if_pos (List.all_eq_true.mpr h)

theorem keyedLeaves_append (members more : List (String × Json)) :
    keyedLeaves (.object (members ++ more)) =
      keyedLeaves (.object members) ++ keyedLeaves (.object more) := by
  simp [keyedLeaves, ways, memberWays_eq]

theorem keyedLeaves_of_allScalars {members : List (String × Json)} (h : AllScalars members) :
    keyedLeaves (.object members) = members.map fun member => (escapeKey member.1, member.2) := by
  simp only [keyedLeaves, ways, memberWays_eq]
  induction members with
  | nil => rfl
  | cons member rest ih =>
    rw [List.flatMap_cons, List.map_append, List.map_cons,
      ih fun member hmember => h member (List.mem_cons_of_mem _ hmember),
      ways_of_isScalar (h member List.mem_cons_self)]
    simp [wayKey_singleton]

/-- A way ends at once in a scalar only. -/
theorem mem_ways_nil {j leaf : Json} : ([], leaf) ∈ ways j ↔ j.isScalar = true ∧ leaf = j := by
  cases j with
  | array items =>
    have hitems : ([], leaf) ∉ itemWays 0 items := by
      intro hmem
      obtain ⟨_, _, _, _, hway, _⟩ := mem_itemWays.mp hmem
      cases hway
    simpa [ways, isScalar] using hitems
  | object members =>
    have hmembers : ([], leaf) ∉ memberWays members := by
      intro hmem
      obtain ⟨_, _, _, _, hway, _⟩ := mem_memberWays.mp hmem
      cases hway
    simpa [ways, isScalar] using hmembers
  | _ => simp [ways, isScalar]

theorem mem_ways_item {items : List Json} {i : Nat} {rest : List (List Char)} {leaf : Json} :
    (Text.ofNat i :: rest, leaf) ∈ ways (.array items) ↔
      ∃ item, items[i]? = some item ∧ (rest, leaf) ∈ ways item := by
  rw [ways, mem_itemWays]
  constructor
  · rintro ⟨j, item, more, hitem, hway, hmem⟩
    obtain ⟨hindex, rfl⟩ := List.cons.inj hway
    rw [Text.ofNat_inj hindex, Nat.zero_add]
    exact ⟨item, hitem, hmem⟩
  · rintro ⟨item, hitem, hmem⟩
    exact ⟨i, item, rest, hitem, by rw [Nat.zero_add], hmem⟩

theorem mem_ways_member {members : List (String × Json)} (hnodup : (entryKeys members).Nodup)
    {name : String} {rest : List (List Char)} {leaf : Json} :
    (name.toList :: rest, leaf) ∈ ways (.object members) ↔
      ∃ value, members.lookup name = some value ∧ (rest, leaf) ∈ ways value := by
  rw [ways, mem_memberWays]
  constructor
  · rintro ⟨other, value, more, hmember, hway, hmem⟩
    obtain ⟨hname, rfl⟩ := List.cons.inj hway
    rw [← String.toList_inj.mp hname] at hmember
    exact ⟨value, Table.get?_of_mem ⟨members, hnodup⟩ hmember, hmem⟩
  · rintro ⟨value, hvalue, hmem⟩
    exact ⟨name, value, rest, mem_of_lookup_eq_some hvalue, rfl, hmem⟩

/-- What is found under the key of a way is what stands at its end. A member with the empty name
must be a scalar: what is below it would have a key of another way. -/
theorem get?_keyedLeaves {members : List (String × Json)} {segment : List Char}
    {rest : List (List Char)} {found : Option Json} (hsegment : segment ≠ [])
    (hempty : ∀ member ∈ members, member.1 = "" → member.2.isScalar = true)
    (hfound : ∀ leaf, (segment :: rest, leaf) ∈ ways (.object members) ↔ found = some leaf) :
    (Table.ofList (keyedLeaves (.object members))).get? (wayKey (segment :: rest)) = found := by
  -- a leaf with this key has this way: one below an empty name has the empty key
  have hkeyed : ∀ leaf, (wayKey (segment :: rest), leaf) ∈ keyedLeaves (.object members) →
      found = some leaf := by
    intro leaf hmem
    obtain ⟨⟨way, _⟩, hway, heq⟩ := List.mem_map.mp hmem
    obtain ⟨hkey, rfl⟩ := Prod.mk.inj heq
    obtain ⟨name, value, more, hmember, rfl, hmore⟩ := mem_memberWays.mp hway
    have hname : name.toList ≠ [] := by
      intro hnil
      rw [String.toList_eq_nil_iff.mp hnil] at hmember hkey
      rw [ways_of_isScalar (hempty _ hmember rfl), List.mem_singleton] at hmore
      cases hmore
      exact wayKey_cons_ne_empty hsegment rest hkey.symm
    rw [wayKey_inj hname hsegment hkey] at hway
    exact (hfound _).mp hway
  cases found with
  | none =>
    rw [Table.get?_ofList_eq_none_iff]
    intro hmem
    obtain ⟨⟨_, leaf⟩, hleaf, rfl⟩ := List.mem_map.mp hmem
    cases hkeyed leaf hleaf
  | some leaf =>
    apply Table.get?_ofList_eq_some
    · exact List.mem_map_of_mem (f := fun entry => (wayKey entry.1, entry.2)) ((hfound leaf).mpr rfl)
    · intro other hother
      exact (Option.some.inj (hkeyed other hother)).symm

end Crosswalk.Json
