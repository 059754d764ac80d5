import Mathlib.Data.List.DropRight
import Crosswalk.Proofs.Json.Leaves

/-!
The scalars of a document in its flat table.

A flat key is the way to a scalar, but empty names in front of a way leave no trace in it. So two
scalars have one key exactly if their ways differ by such names only, and then the later one
overwrites the earlier. This takes an array or object under an empty name at the top; without one,
the table lists all scalars in document order, and each key spells the way to its scalar.
-/

namespace Crosswalk.Json

variable {j leaf : Json} {way : List (List Char)} {members : List (String × Json)}

/-- A way without the empty names in front. -/
def bareWay (way : List (List Char)) : List (List Char) := way.dropWhile List.isEmpty

theorem bareWay_nil_cons (rest : List (List Char)) : bareWay ([] :: rest) = bareWay rest := rfl

theorem bareWay_cons {segment : List Char} (h : segment ≠ []) (rest : List (List Char)) :
    bareWay (segment :: rest) = segment :: rest :=
  List.dropWhile_cons_of_neg (by simpa using h)

theorem bareWay_cases (way : List (List Char)) :
    bareWay way = [] ∨ ∃ segment rest, segment ≠ [] ∧ bareWay way = segment :: rest := by
  induction way with
  | nil => exact .inl rfl
  | cons segment rest ih =>
    by_cases hsegment : segment = []
    · rwa [hsegment, bareWay_nil_cons]
    · exact .inr ⟨segment, rest, hsegment, bareWay_cons hsegment rest⟩

theorem wayKey_bareWay (way : List (List Char)) : wayKey (bareWay way) = wayKey way := by
  induction way with
  | nil => rfl
  | cons segment rest ih =>
    by_cases hsegment : segment = []
    · rw [hsegment, bareWay_nil_cons, ih]
      rfl
    · rw [bareWay_cons hsegment]

/-- Two ways have one key exactly if they differ by empty names in front only. -/
theorem wayKey_eq_iff {a b : List (List Char)} : wayKey a = wayKey b ↔ bareWay a = bareWay b := by
  constructor
  · intro h
    rw [← wayKey_bareWay a, ← wayKey_bareWay b] at h
    rcases bareWay_cases a with ha | ⟨x, xs, hx, ha⟩ <;>
      rcases bareWay_cases b with hb | ⟨y, ys, hy, hb⟩ <;> rw [ha, hb] at h ⊢
    · exact absurd h.symm (wayKey_cons_ne_empty hy ys)
    · exact absurd h (wayKey_cons_ne_empty hx xs)
    · exact wayKey_inj hx hy h
  · intro h
    rw [← wayKey_bareWay a, h, wayKey_bareWay]

/-- The ways to the scalars of a document, without the empty names in front. -/
def bareWays (j : Json) : List (List (List Char)) := (ways j).map fun entry => bareWay entry.1

/-- Whether a scalar stands at the end of a way that keeps its key: the way of no later scalar is
the same but for empty names in front. -/
def Lasts (j leaf : Json) : Prop :=
  ∃ front way back, ways j = front ++ (way, leaf) :: back ∧
    ∀ other ∈ back, bareWay other.1 ≠ bareWay way

/-- The documents that are flattened to written ways: arrays, and objects with an array or object
among their members. -/
inductive IsNested : Json → Prop
  | array (items : List Json) : IsNested (.array items)
  | object {members : List (String × Json)} (h : ¬ AllScalars members) : IsNested (.object members)

theorem isNested_or_allScalars (h : j.isScalar = false) :
    IsNested j ∨ ∃ members, j = .object members ∧ AllScalars members := by
  cases j with
  | array items => exact .inl (.array items)
  | object members =>
    by_cases hall : AllScalars members
    · exact .inr ⟨members, rfl, hall⟩
    · exact .inl (.object hall)
  | _ => cases h

theorem IsNested.isScalar_eq (h : IsNested j) : j.isScalar = false := by
  cases h <;> rfl

theorem IsNested.flatten_eq (h : IsNested j) : j.flatten = Table.ofList (keyedLeaves j) := by
  cases h with
  | array items =>
    rw [flatten, leavesFrom_eq_map, keyedLeaves, List.map_map]
    rfl
  | object hmixed => exact flatten_object hmixed

theorem entryKeys_keyedLeaves (j : Json) : entryKeys (keyedLeaves j) = (bareWays j).map wayKey := by
  simp [entryKeys, keyedLeaves, bareWays, wayKey_bareWay]

/-- Bare ways have different keys. -/
theorem eq_of_wayKey_eq {a b : List (List Char)} (ha : a ∈ bareWays j) (hb : b ∈ bareWays j)
    (h : wayKey a = wayKey b) : a = b := by
  have hbare : ∀ {way}, way ∈ bareWays j → bareWay way = way := by
    intro way hway
    obtain ⟨entry, -, rfl⟩ := List.mem_map.mp hway
    exact List.dropWhile_idempotent _ _
  rw [wayKey_eq_iff, hbare ha, hbare hb] at h
  exact h

/-- When all bare ways are different, every scalar has an entry of its own. -/
theorem entries_flatten_of_nodup (h : IsNested j) (hbare : (bareWays j).Nodup) :
    j.flatten.entries = keyedLeaves j := by
  have hkeys : (entryKeys (keyedLeaves j)).Nodup := by
    rw [entryKeys_keyedLeaves]
    exact hbare.map_on fun a ha b hb heq => eq_of_wayKey_eq ha hb heq
  rw [h.flatten_eq, Table.entries_ofList hkeys]

/-- The way to a scalar of an array or object begins with a segment, which is empty only if it is
the name of a member. -/
theorem exists_cons_of_mem_ways (hj : j.isScalar = false) (h : (way, leaf) ∈ ways j) :
    ∃ segment rest, way = segment :: rest ∧
      (segment = [] → ∃ members value, j = .object members ∧ ("", value) ∈ members ∧
        (rest, leaf) ∈ ways value) := by
  cases j with
  | array items =>
    obtain ⟨i, item, rest, -, rfl, -⟩ := mem_itemWays.mp h
    exact ⟨_, rest, rfl, fun hempty => absurd hempty Nat.toDigits_ne_nil⟩
  | object members =>
    obtain ⟨name, value, rest, hmember, rfl, hrest⟩ := mem_memberWays.mp h
    refine ⟨_, rest, rfl, fun hempty => ?_⟩
    rw [String.toList_eq_nil_iff.mp hempty] at hmember
    exact ⟨members, value, rfl, hmember, hrest⟩
  | _ => cases hj

/-- Without an array or object under an empty name at the top, no two ways become the same. -/
theorem nodup_bareWays (hj : j.isScalar = false) (hnames : j.everywhere namesOnce = true)
    (hempty : ∀ members, j = .object members →
      ∀ member ∈ members, member.1 = "" → member.2.isScalar = true) :
    (bareWays j).Nodup := by
  -- an empty name in front leads to a scalar at once, so it is all of its way
  have hshape : ∀ way ∈ (ways j).map Prod.fst,
      way = [[]] ∨ ∃ segment rest, segment ≠ [] ∧ way = segment :: rest := by
    intro way hway
    obtain ⟨⟨_, leaf⟩, hmem, rfl⟩ := List.mem_map.mp hway
    obtain ⟨segment, rest, rfl, hsegment⟩ := exists_cons_of_mem_ways hj hmem
    by_cases hnil : segment = []
    · obtain ⟨members, value, hobject, hmember, hrest⟩ := hsegment hnil
      rw [ways_of_isScalar (hempty members hobject _ hmember rfl), List.mem_singleton] at hrest
      cases hrest
      exact .inl (by rw [hnil])
    · exact .inr ⟨segment, rest, hnil, rfl⟩
  have hinj : ∀ a ∈ (ways j).map Prod.fst, ∀ b ∈ (ways j).map Prod.fst,
      bareWay a = bareWay b → a = b := by
    intro a ha b hb h
    rcases hshape a ha with rfl | ⟨x, xs, hx, rfl⟩ <;>
      rcases hshape b hb with rfl | ⟨y, ys, hy, rfl⟩
    · rfl
    · rw [bareWay_cons hy] at h
      cases h
    · rw [bareWay_cons hx] at h
      cases h
    · rwa [bareWay_cons hx, bareWay_cons hy] at h
  have hbare := (nodup_ways hnames).map_on hinj
  rwa [List.map_map] at hbare

/-- A document that is an array, or an object that holds an array or object, and that has no empty
name at the top, is flattened to its scalars in document order, each under a key of its own. The key
is read back into the names and indexes on the way to the scalar, and leads to it. -/
theorem flatten_faithful (j : Json) (hnested : IsNested j)
    (hempty : ∀ members, j = .object members → "" ∉ entryKeys members)
    (hnames : j.everywhere namesOnce = true) (hwords : j.everywhere fitsWords = true) :
    j.flatten.entries = (ways j).map (fun entry => (wayKey entry.1, entry.2)) ∧
    ((ways j).map fun entry => wayKey entry.1).Nodup ∧
    ∀ way leaf, (way, leaf) ∈ ways j →
      leaf.isScalar = true ∧ splitKey (wayKey way) = way.map String.ofList ∧
        j.atKey? (wayKey way) = some leaf := by
  have hscalar := hnested.isScalar_eq
  have hbare : (bareWays j).Nodup := by
    refine nodup_bareWays hscalar hnames fun members hobject member hmember hname => ?_
    exact absurd (hname ▸ List.mem_map_of_mem hmember) (hempty members hobject)
  have hentries := entries_flatten_of_nodup hnested hbare
  refine ⟨hentries, ?_, fun way leaf hmem => ⟨isScalar_of_mem_ways hmem, ?_⟩⟩
  · have hkeys : (entryKeys j.flatten.entries).Nodup := j.flatten.nodup
    rw [hentries, entryKeys, keyedLeaves, List.map_map] at hkeys
    exact hkeys
  · obtain ⟨segment, rest, rfl, hsegment⟩ := exists_cons_of_mem_ways hscalar hmem
    have hne : segment ≠ [] := by
      intro hnil
      obtain ⟨members, value, hobject, hmember, -⟩ := hsegment hnil
      exact hempty members hobject (List.mem_map_of_mem hmember)
    have hread := splitSegments_wayKey hne rest
    have hsome : (wayKey (segment :: rest)).isEmpty = false := by
      simpa using wayKey_cons_ne_empty hne rest
    rw [splitKey, atKey?, hsome, hread]
    exact ⟨rfl, follow_of_mem_ways hnames hwords hmem⟩

/-- Names with dots and backslashes or like indexes, and an empty name below the top. -/
theorem flatten_faithful_subjects :
    let inner := Json.object [("", .ofInt 1), ("0", .null)]
    let j := Json.object [("dc.date", .text "1859"), ("a\\b", .array [.text "x", inner])]
    j.flatten.keys = ["dc\\.date", "a\\\\b.0", "a\\\\b.1.", "a\\\\b.1.0"] ∧
      j.flatten.entries.length = 4 ∧
      splitKey "a\\\\b.1." = ["a\\b", "1", ""] ∧ j.atKey? "a\\\\b.1." = some (.ofInt 1) := by
  intro inner j
  have hempty : ∀ members, j = .object members → "" ∉ entryKeys members := by
    intro members hobject
    rw [← Json.object.inj hobject]
    decide
  obtain ⟨hentries, -, hways⟩ := flatten_faithful j (.object (by decide)) hempty (by decide)
    (by decide +kernel)
  have hlast : (ways j)[2]? = some (["a\\b".toList, "1".toList, []], Json.ofInt 1) := rfl
  have hkey : wayKey ["a\\b".toList, "1".toList, []] = "a\\\\b.1." := by decide +kernel
  have hfound := hways _ _ (List.mem_of_getElem? hlast)
  rw [hkey] at hfound
  refine ⟨by decide +kernel, ?_, hfound.2⟩
  rw [hentries]
  rfl

theorem mem_values_flatten_iff (h : IsNested j) : leaf ∈ j.flatten.values ↔ Lasts j leaf := by
  simp only [h.flatten_eq, Table.mem_values_iff, Table.get?_ofList_eq_some_iff]
  constructor
  · rintro ⟨key, front, back, hsplit, hback⟩
    obtain ⟨first, rest, hways, -, hrest⟩ := List.map_eq_append_iff.mp hsplit
    obtain ⟨⟨way, _⟩, last, rfl, hentry, rfl⟩ := List.map_eq_cons_iff.mp hrest
    cases hentry
    refine ⟨first, way, last, hways, fun other hother hsame => hback ?_⟩
    rw [← wayKey_eq_iff.mpr hsame]
    exact List.mem_map_of_mem (List.mem_map_of_mem hother)
  · rintro ⟨front, way, back, hways, hback⟩
    refine ⟨wayKey way, _, _, by rw [keyedLeaves, hways, List.map_append, List.map_cons], ?_⟩
    intro hmem
    obtain ⟨entry, hentry, hkey⟩ := List.mem_map.mp hmem
    obtain ⟨other, hother, rfl⟩ := List.mem_map.mp hentry
    exact hback other hother (wayKey_eq_iff.mp hkey)

theorem length_flatten (h : IsNested j) :
    j.flatten.entries.length = (bareWays j).toFinset.card := by
  have himage : (entryKeys (keyedLeaves j)).toFinset = (bareWays j).toFinset.image wayKey := by
    ext key
    simp [entryKeys_keyedLeaves]
  rw [h.flatten_eq, Table.length_entries_ofList, himage, Finset.card_image_of_injOn]
  intro a ha b hb heq
  exact eq_of_wayKey_eq (List.mem_toFinset.mp ha) (List.mem_toFinset.mp hb) heq

theorem values_flatten_of_nodup (h : IsNested j) (hbare : (bareWays j).Nodup) :
    j.flatten.values = (ways j).map Prod.snd := by
  rw [Table.values, entries_flatten_of_nodup h hbare, keyedLeaves, List.map_map]
  rfl

theorem values_flatten_of_allScalars (h : AllScalars members)
    (hnames : (Json.object members).everywhere namesOnce = true) :
    (Json.object members).flatten.values = (ways (.object members)).map Prod.snd := by
  have hnodup : (entryKeys members).Nodup := of_decide_eq_true (everywhere_object.mp hnames).1
  have hleaves := congrArg (List.map Prod.snd) (keyedLeaves_of_allScalars h)
  rw [keyedLeaves, List.map_map, List.map_map] at hleaves
  rw [flatten_object_of_allScalars h, Table.values, Table.entries_ofList hnodup]
  exact hleaves.symm

/-- When all bare ways are different, every scalar keeps its key. -/
theorem lasts_iff_of_nodup (h : (bareWays j).Nodup) :
    Lasts j leaf ↔ leaf ∈ (ways j).map Prod.snd := by
  constructor
  · rintro ⟨front, way, back, hways, -⟩
    rw [hways]
    simp
  · intro hmem
    obtain ⟨⟨way, _⟩, hway, rfl⟩ := List.mem_map.mp hmem
    obtain ⟨front, back, hways⟩ := List.append_of_mem hway
    refine ⟨front, way, back, hways, fun other hother hsame => ?_⟩
    rw [bareWays, hways, List.map_append, List.map_cons, List.nodup_append] at h
    exact (List.nodup_cons.mp h.2.1).1 (hsame ▸ List.mem_map_of_mem hother)

/-- An array or object is flattened to as many scalars as it has bare ways: of those with the same
bare way the last one stays. So all scalars are there, in document order, exactly if the bare ways
are different; and they are, unless an array or object stands under an empty name at the top. -/
theorem flatten_lasting (j : Json) (hj : j.isScalar = false)
    (hnames : j.everywhere namesOnce = true) :
    j.flatten.entries.length = (bareWays j).toFinset.card ∧
    (∀ leaf, leaf ∈ j.flatten.values ↔ Lasts j leaf) ∧
    (j.flatten.entries.length = (ways j).length ↔ (bareWays j).Nodup) ∧
    (j.flatten.values = (ways j).map Prod.snd ↔ (bareWays j).Nodup) ∧
    ((∀ members, j = .object members → ∀ member ∈ members, member.1 = "" →
      member.2.isScalar = true) → (bareWays j).Nodup) := by
  have hways : (bareWays j).length = (ways j).length := List.length_map _
  have hempty := nodup_bareWays hj hnames
  rcases isNested_or_allScalars hj with hnested | ⟨members, rfl, hall⟩
  · have hlength := length_flatten hnested
    have hcount : j.flatten.entries.length = (ways j).length ↔ (bareWays j).Nodup := by
      rw [hlength, ← hways, List.card_toFinset, (List.dedup_sublist _).length_eq,
        List.dedup_eq_self]
    refine ⟨hlength, fun _ => mem_values_flatten_iff hnested, hcount, ⟨fun hvalues => ?_,
      values_flatten_of_nodup hnested⟩, hempty⟩
    apply hcount.mp
    simpa [Table.values] using congrArg List.length hvalues
  · -- the names of an object of scalars are its keys as they stand, the empty one too
    have hbare : (bareWays (.object members)).Nodup := by
      refine hempty fun _ hobject member hmember _ => ?_
      cases hobject
      exact hall member hmember
    have hvalues := values_flatten_of_allScalars hall hnames
    have hlength := congrArg List.length hvalues
    rw [Table.values, List.length_map, List.length_map] at hlength
    refine ⟨?_, fun _ => ?_, iff_of_true hlength hbare, iff_of_true hvalues hbare, hempty⟩
    · rw [hlength, ← hways, List.toFinset_card_of_nodup hbare]
    · rw [hvalues, lasts_iff_of_nodup hbare]

/-- A list under an empty name, where its items have keys of their own and where a member
overwrites one of them, and a text under an empty name. -/
theorem flatten_lasting_empty_name :
    let list := ("", Json.array [.ofInt 1, .ofInt 3])
    let apart := Json.object [list, ("a", .ofInt 2)]
    let clashing := Json.object [list, ("0", .ofInt 2)]
    let plain := Json.object [("", .text "x"), ("a", .array [.null])]
    apart.flatten.values = (ways apart).map Prod.snd ∧
      clashing.flatten.entries.length = 2 ∧ (ways clashing).length = 3 ∧
      Lasts clashing (.ofInt 2) ∧ ¬ (bareWays clashing).Nodup ∧ (bareWays plain).Nodup := by
  intro list apart clashing plain
  obtain ⟨-, -, -, happart, -⟩ := flatten_lasting apart rfl (by decide)
  obtain ⟨hlength, hlasts, hcount, -⟩ := flatten_lasting clashing rfl (by decide)
  obtain ⟨-, -, -, -, hplain⟩ := flatten_lasting plain rfl (by decide)
  refine ⟨happart.mpr (by decide +kernel), hlength.trans rfl, rfl,
    (hlasts _).mp (Table.mem_values_iff.mpr ⟨"0", rfl⟩),
    fun h => absurd (hcount.mpr h) (by decide +kernel), hplain fun members hobject => ?_⟩
  rw [← Json.object.inj hobject]
  decide

/-- Two scalars are flattened to one. -/
theorem flatten_overwrites :
    let j := Json.object [("", .object [("a", .ofInt 1)]), ("a", .ofInt 2)]
    j.isScalar = false ∧ (ways j).map Prod.snd = [.ofInt 1, .ofInt 2] ∧
      j.flatten.entries = [("a", .ofInt 2)] := by
  exact ⟨rfl, rfl, rfl⟩

end Crosswalk.Json
