import Mathlib.Data.Finset.Card
import Mathlib.Data.List.Nodup
import Mathlib.Data.List.Perm.Basic
import Crosswalk.Table

/-!
What setting and looking up entries do to each other.

Setting a key changes what is found under it and nothing else. Setting entries whose keys are all
different, one after the other, lists them as they are.
-/

namespace Crosswalk

variable {α β : Type}

theorem lookup_setEntry (key k : String) (value : α) (entries : List (String × α)) :
    (setEntry key value entries).lookup k = if k = key then some value else entries.lookup k := by
  induction entries with
  | nil =>
    by_cases hk : k = key
    · simp [setEntry, hk]
    · simp [setEntry, hk, List.lookup_cons, beq_eq_false_iff_ne.mpr hk]
  | cons entry rest ih =>
    obtain ⟨first, kept⟩ := entry
    by_cases hkey : first = key
    · by_cases hk : k = key
      · simp [setEntry, hkey, hk]
      · simp [setEntry, hkey, hk, List.lookup_cons, beq_eq_false_iff_ne.mpr hk]
    · by_cases hk : k = first
      · simp [setEntry, hk, hkey]
      · simp only [setEntry, hkey, if_false, List.lookup_cons, beq_eq_false_iff_ne.mpr hk, ih]

theorem setEntry_setEntry (key : String) (first second : α) (entries : List (String × α)) :
    setEntry key second (setEntry key first entries) = setEntry key second entries := by
  induction entries with
  | nil => simp [setEntry]
  | cons entry rest ih =>
    by_cases hkey : entry.1 = key
    · simp [setEntry, hkey]
    · simp [setEntry, hkey, ih]

theorem setEntry_of_not_mem {key : String} {entries : List (String × α)}
    (h : key ∉ entryKeys entries) (value : α) :
    setEntry key value entries = entries ++ [(key, value)] := by
  induction entries with
  | nil => rfl
  | cons entry rest ih =>
    simp only [entryKeys, List.map_cons, List.mem_cons, not_or] at h
    simp [setEntry, Ne.symm h.1, ih h.2]

/-- An entry that is there is changed in its place. -/
theorem setEntry_of_lookup {key : String} {old : α} {entries : List (String × α)}
    (h : entries.lookup key = some old) :
    ∃ front back, entries = front ++ (key, old) :: back ∧
      ∀ value, setEntry key value entries = front ++ (key, value) :: back := by
  induction entries with
  | nil => cases h
  | cons entry rest ih =>
    obtain ⟨first, kept⟩ := entry
    by_cases hkey : key = first
    · subst hkey
      rw [List.lookup_cons_self, Option.some.injEq] at h
      exact ⟨[], rest, by rw [h]; rfl, fun value => by simp [setEntry]⟩
    · rw [List.lookup_cons, beq_eq_false_iff_ne.mpr hkey] at h
      obtain ⟨front, back, hrest, hset⟩ := ih h
      refine ⟨(first, kept) :: front, back, by rw [hrest]; rfl, fun value => ?_⟩
      simp [setEntry, Ne.symm hkey, hset value]

theorem mem_setEntry {key : String} {value : α} {entries : List (String × α)}
    {entry : String × α} (h : entry ∈ setEntry key value entries) :
    entry = (key, value) ∨ entry ∈ entries := by
  induction entries with
  | nil => exact Or.inl (by simpa [setEntry] using h)
  | cons first rest ih =>
    by_cases hkey : first.1 = key
    · simp only [setEntry, hkey, if_true, List.mem_cons] at h
      rcases h with rfl | h
      · exact Or.inl rfl
      · exact Or.inr (List.mem_cons_of_mem _ h)
    · simp only [setEntry, hkey, if_false, List.mem_cons] at h
      rcases h with rfl | h
      · exact Or.inr (by simp)
      · rcases ih h with heq | hmem
        · exact Or.inl heq
        · exact Or.inr (List.mem_cons_of_mem _ hmem)

theorem entryKeys_setEntry (key : String) (value : α) (entries : List (String × α)) :
    entryKeys (setEntry key value entries) =
      if key ∈ entryKeys entries then entryKeys entries else entryKeys entries ++ [key] := by
  induction entries with
  | nil => simp [setEntry, entryKeys]
  | cons entry rest ih =>
    simp only [entryKeys] at ih
    by_cases hkey : entry.1 = key
    · simp [setEntry, entryKeys, hkey]
    · by_cases hmem : key ∈ rest.map Prod.fst
      · simp [setEntry, entryKeys, hkey, ih, hmem]
      · simp [setEntry, entryKeys, hkey, ih, hmem, Ne.symm hkey]

theorem lookup_map_values (f : String → α → β) (key : String) (entries : List (String × α)) :
    (entries.map fun entry => (entry.1, f entry.1 entry.2)).lookup key =
      (entries.lookup key).map (f key) := by
  induction entries with
  | nil => rfl
  | cons entry rest ih =>
    obtain ⟨first, kept⟩ := entry
    by_cases hkey : key = first
    · simp [hkey]
    · simp only [List.map_cons, List.lookup_cons, beq_eq_false_iff_ne.mpr hkey, ih]

theorem lookup_eq_none_iff {key : String} {entries : List (String × α)} :
    entries.lookup key = none ↔ key ∉ entryKeys entries := by
  rw [List.lookup_eq_none_iff, entryKeys, List.mem_map]
  constructor
  · rintro h ⟨entry, hentry, rfl⟩
    simpa using h entry hentry
  · intro h entry hentry
    rw [bne_iff_ne]
    rintro rfl
    exact h ⟨entry, hentry, rfl⟩

theorem lookup_imageEntries (f : String → α → Option β) (key : String)
    {entries : List (String × α)} (h : (entryKeys entries).Nodup) :
    (imageEntries f entries).lookup key = (entries.lookup key).bind (f key) := by
  induction entries with
  | nil => rfl
  | cons entry rest ih =>
    obtain ⟨first, value⟩ := entry
    obtain ⟨hfirst, hrest⟩ := List.nodup_cons.mp h
    have hstep : imageEntries f ((first, value) :: rest) =
        ((f first value).map (first, ·)).toList ++ imageEntries f rest := by
      cases hf : f first value <;> simp [imageEntries, hf]
    rw [hstep, List.lookup_append, ih hrest]
    by_cases hkey : key = first
    · subst hkey
      rw [lookup_eq_none_iff.mpr hfirst, List.lookup_cons_self]
      cases hf : f key value <;> simp [hf]
    · have hne : (key == first) = false := beq_eq_false_iff_ne.mpr hkey
      rw [List.lookup_cons, hne]
      cases f first value <;> simp [List.lookup_cons, hne]

theorem mem_of_lookup_eq_some {k : String} {value : α} {entries : List (String × α)}
    (h : entries.lookup k = some value) : (k, value) ∈ entries := by
  obtain ⟨before, after, rfl, -⟩ := List.lookup_eq_some_iff.mp h
  simp

theorem lookup_filter (keep : String → α → Bool) (key : String) {entries : List (String × α)}
    (h : (entryKeys entries).Nodup) :
    (entries.filter fun entry => keep entry.1 entry.2).lookup key =
      (entries.lookup key).filter (keep key) := by
  induction entries with
  | nil => rfl
  | cons entry rest ih =>
    obtain ⟨first, value⟩ := entry
    obtain ⟨hfirst, hrest⟩ := List.nodup_cons.mp h
    by_cases hkey : key = first
    · subst hkey
      have hnone := ih hrest
      rw [lookup_eq_none_iff.mpr hfirst, Option.filter_none] at hnone
      cases hkeep : keep key value <;> simp [hkeep, hnone, Option.filter]
    · have hne : (key == first) = false := beq_eq_false_iff_ne.mpr hkey
      cases hkeep : keep first value <;> simp [hkeep, List.lookup_cons, hne, ih hrest]

/-- The first occurrences in a list without repetitions are all of it. -/
theorem eraseDups_of_nodup {terms : List String} (h : terms.Nodup) : terms.eraseDups = terms := by
  induction terms with
  | nil => rfl
  | cons term rest ih =>
    obtain ⟨hterm, hrest⟩ := List.nodup_cons.mp h
    have hkeep : rest.filter (fun t => !t == term) = rest := by
      apply List.filter_eq_self.mpr
      intro t ht
      simpa using fun heq : t = term => hterm (heq ▸ ht)
    rw [List.eraseDups_cons, hkeep, ih hrest]

theorem eraseDups_append_cons {terms : List String} {term : String} (h : term ∈ terms)
    (rest : List String) : (terms ++ term :: rest).eraseDups = (terms ++ rest).eraseDups := by
  simp [List.eraseDups_append, List.removeAll, h]

theorem eraseDups_concat (terms : List String) (term : String) :
    (terms ++ [term]).eraseDups =
      if term ∈ terms then terms.eraseDups else terms.eraseDups ++ [term] := by
  by_cases h : term ∈ terms <;>
    simp [List.eraseDups_append, List.eraseDups_cons, List.removeAll, h]

theorem nodup_eraseDups (terms : List String) : terms.eraseDups.Nodup := by
  cases terms with
  | nil => simp
  | cons term rest =>
    rw [List.eraseDups_cons, List.nodup_cons]
    exact ⟨by simp [List.mem_eraseDups], nodup_eraseDups _⟩
termination_by terms.length
decreasing_by
  have hle := List.length_filter_le (fun t => !t == term) rest
  simp only [List.length_cons]
  omega

/-- The order in which the members of a list come first depends on their order only. -/
theorem eraseDups_perm {first second : List String} (h : first.Perm second) :
    first.eraseDups.Perm second.eraseDups := by
  rw [List.perm_ext_iff_of_nodup (nodup_eraseDups first) (nodup_eraseDups second)]
  intro term
  rw [List.mem_eraseDups, List.mem_eraseDups]
  exact h.mem_iff

theorem eraseDups_filter (keep : String → Bool) (terms : List String) :
    (terms.filter keep).eraseDups = terms.eraseDups.filter keep := by
  cases terms with
  | nil => rfl
  | cons term rest =>
    have hshort := eraseDups_filter keep (rest.filter fun t => !t == term)
    rw [List.filter_filter] at hshort
    cases hkeep : keep term with
    | true =>
      rw [List.filter_cons_of_pos hkeep, List.eraseDups_cons, List.eraseDups_cons,
        List.filter_cons_of_pos hkeep, ← hshort, List.filter_filter]
      simp only [Bool.and_comm]
    | false =>
      -- the term that is dropped stands nowhere in what is kept
      have hsame : rest.filter keep = rest.filter fun t => keep t && !t == term := by
        apply List.filter_congr
        intro t _
        by_cases ht : t = term <;> simp [ht, hkeep]
      rw [List.filter_cons_of_neg (by simp [hkeep]), List.eraseDups_cons,
        List.filter_cons_of_neg (by simp [hkeep]), ← hshort, hsame]
termination_by terms.length
decreasing_by
  have hle := List.length_filter_le (fun t => !t == term) rest
  simp only [List.length_cons]
  omega

namespace Table

variable (t : Table α)

theorem get?_set (key k : String) (value : α) :
    (t.set key value).get? k = if k = key then some value else t.get? k :=
  lookup_setEntry key k value t.entries

theorem set_set (key : String) (first second : α) :
    (t.set key first).set key second = t.set key second :=
  ext_entries (setEntry_setEntry key first second t.entries)

theorem mem_of_get? {t : Table α} {key : String} {value : α} (h : t.get? key = some value) :
    (key, value) ∈ t.entries :=
  mem_of_lookup_eq_some h

theorem get?_mapValues (f : α → β) (key : String) :
    (t.mapValues f).get? key = (t.get? key).map f :=
  lookup_map_values (fun _ => f) key t.entries

theorem keys_set (key : String) (value : α) :
    (t.set key value).keys = if key ∈ t.keys then t.keys else t.keys ++ [key] :=
  entryKeys_setEntry key value t.entries

theorem get?_filterMapValues (f : String → α → Option β) (key : String) :
    (t.filterMapValues f).get? key = (t.get? key).bind (f key) :=
  lookup_imageEntries f key t.nodup

theorem get?_filter (keep : String → α → Bool) (key : String) :
    (t.filter keep).get? key = (t.get? key).filter (keep key) :=
  lookup_filter keep key t.nodup

theorem get?_eq_none_iff {t : Table α} {key : String} : t.get? key = none ↔ key ∉ t.keys :=
  lookup_eq_none_iff

theorem exists_get?_of_mem_keys {t : Table α} {key : String} (h : key ∈ t.keys) :
    ∃ value, t.get? key = some value := by
  cases hvalue : t.get? key with
  | some value => exact ⟨value, rfl⟩
  | none => exact absurd h (get?_eq_none_iff.mp hvalue)

theorem mem_keys_iff {t : Table α} {key : String} :
    key ∈ t.keys ↔ ∃ value, t.get? key = some value :=
  ⟨exists_get?_of_mem_keys, fun ⟨_, hvalue⟩ => List.mem_map_of_mem (mem_of_get? hvalue)⟩

theorem get?_of_mem {key : String} {value : α} (h : (key, value) ∈ t.entries) :
    t.get? key = some value := by
  have hentries : ∀ entries : List (String × α), (entryKeys entries).Nodup →
      (key, value) ∈ entries → entries.lookup key = some value := by
    intro entries
    induction entries with
    | nil =>
      intro _ hmem
      cases hmem
    | cons entry rest ih =>
      intro hnodup hmem
      obtain ⟨hfirst, hrest⟩ := List.nodup_cons.mp hnodup
      rcases List.mem_cons.mp hmem with rfl | hmem
      · rw [List.lookup_cons_self]
      · have hne : (key == entry.1) = false := by
          apply beq_false_of_ne
          rintro rfl
          exact hfirst (List.mem_map.mpr ⟨_, hmem, rfl⟩)
        rw [← Prod.eta entry, List.lookup_cons, hne]
        exact ih hrest hmem
  exact hentries t.entries t.nodup h

theorem mem_values_iff {t : Table α} {value : α} :
    value ∈ t.values ↔ ∃ key, t.get? key = some value := by
  constructor
  · intro h
    obtain ⟨entry, hentry, rfl⟩ := List.mem_map.mp h
    exact ⟨entry.1, t.get?_of_mem hentry⟩
  · rintro ⟨key, hvalue⟩
    exact List.mem_map.mpr ⟨(key, value), mem_of_get? hvalue, rfl⟩

theorem get?_setIfAbsent (key k : String) (value : α) :
    (t.setIfAbsent key value).get? k =
      (t.get? k).or (if k = key then some value else none) := by
  rw [setIfAbsent, contains]
  cases hkept : t.get? key with
  | some kept => by_cases hk : k = key <;> simp [hk, hkept]
  | none => by_cases hk : k = key <;> simp [get?_set, hk, hkept]

/-- Of entries with different keys, each is found after all have been set. -/
theorem get?_setAll {entries : List (String × α)} (h : (entryKeys entries).Nodup) (key : String) :
    (t.setAll entries).get? key = (entries.lookup key).or (t.get? key) := by
  induction entries generalizing t with
  | nil => rfl
  | cons entry rest ih =>
    obtain ⟨first, value⟩ := entry
    obtain ⟨hfirst, hrest⟩ := List.nodup_cons.mp h
    have hstep := ih (t.set first value) hrest
    rw [get?_set] at hstep
    by_cases hkey : key = first
    · subst hkey
      rw [lookup_eq_none_iff.mpr hfirst, if_pos rfl] at hstep
      rw [List.lookup_cons_self]
      exact hstep
    · rw [if_neg hkey] at hstep
      rw [List.lookup_cons, beq_eq_false_iff_ne.mpr hkey]
      exact hstep

/-- Of entries with one key the last one set is found. -/
theorem get?_setAll_eq (entries : List (String × α)) (key : String) :
    (t.setAll entries).get? key = (entries.reverse.lookup key).or (t.get? key) := by
  induction entries generalizing t with
  | nil => rfl
  | cons entry rest ih =>
    obtain ⟨first, value⟩ := entry
    have hstep := ih (t.set first value)
    rw [get?_set] at hstep
    rw [List.reverse_cons, List.lookup_append, Option.or_assoc]
    refine hstep.trans (congrArg _ ?_)
    by_cases hkey : key = first
    · simp [hkey]
    · simp [hkey, List.lookup_cons, beq_eq_false_iff_ne.mpr hkey]

theorem get?_ofList (entries : List (String × α)) (key : String) :
    (ofList entries).get? key = entries.reverse.lookup key := by
  rw [ofList, get?_setAll_eq]
  exact Option.or_none

theorem get?_ofList_eq_none_iff {entries : List (String × α)} {key : String} :
    (ofList entries).get? key = none ↔ key ∉ entryKeys entries := by
  rw [get?_ofList, lookup_eq_none_iff]
  simp [entryKeys]

theorem get?_ofList_insert {front more back : List (String × α)} {key : String}
    (h : key ∉ entryKeys more) :
    (ofList (front ++ (more ++ back))).get? key = (ofList (front ++ back)).get? key := by
  have hmore : more.reverse.lookup key = none := by
    rw [lookup_eq_none_iff, entryKeys, List.map_reverse, List.mem_reverse]
    exact h
  simp only [get?_ofList, List.reverse_append, List.lookup_append, hmore, Option.or_none]

/-- A value is found under a key that no other value stands under. -/
theorem get?_ofList_eq_some {entries : List (String × α)} {key : String} {value : α}
    (hmem : (key, value) ∈ entries) (honly : ∀ other, (key, other) ∈ entries → other = value) :
    (ofList entries).get? key = some value := by
  cases hfound : (ofList entries).get? key with
  | none =>
    rw [get?_ofList_eq_none_iff] at hfound
    exact absurd (List.mem_map_of_mem hmem) hfound
  | some other =>
    rw [get?_ofList] at hfound
    have hother := mem_of_lookup_eq_some hfound
    rw [honly other (List.mem_reverse.mp hother)]

/-- Of the values of a key the last one is found. -/
theorem get?_ofList_eq_some_iff {entries : List (String × α)} {key : String} {value : α} :
    (ofList entries).get? key = some value ↔
      ∃ front back, entries = front ++ (key, value) :: back ∧ key ∉ entryKeys back := by
  have hother : ∀ rest : List (String × α),
      (∀ entry ∈ rest, (key != entry.1) = true) ↔ key ∉ entryKeys rest := by
    intro rest
    rw [← List.lookup_eq_none_iff, lookup_eq_none_iff]
  simp only [get?_ofList, List.lookup_eq_some_iff, hother]
  constructor
  · rintro ⟨back, front, hentries, hback⟩
    refine ⟨front.reverse, back.reverse, ?_, by simpa [entryKeys] using hback⟩
    simpa using congrArg List.reverse hentries
  · rintro ⟨front, back, rfl, hback⟩
    exact ⟨back.reverse, front.reverse, by simp, by simpa [entryKeys] using hback⟩

/-- Keys that are changed into different ones are found under what they are changed into. -/
theorem get?_ofList_map {f : String → String} (hf : ∀ a b, f a = f b → a = b)
    (entries : List (String × α)) (key : String) :
    (ofList (entries.map fun entry => (f entry.1, entry.2))).get? (f key) =
      (ofList entries).get? key := by
  rw [get?_ofList, get?_ofList, ← List.map_reverse]
  generalize entries.reverse = rest
  induction rest with
  | nil => rfl
  | cons entry rest ih =>
    obtain ⟨first, value⟩ := entry
    rw [List.map_cons, List.lookup_cons, List.lookup_cons]
    by_cases hkey : key = first
    · simp [hkey]
    · have hne : f key ≠ f first := fun heq => hkey (hf key first heq)
      rw [beq_eq_false_iff_ne.mpr hkey, beq_eq_false_iff_ne.mpr hne]
      exact ih

/-- A table is what is found under its keys. -/
theorem entries_eq_map_keys (d : α) :
    t.entries = t.keys.map fun key => (key, (t.get? key).getD d) := by
  rw [keys, entryKeys, List.map_map]
  have hself : ∀ entry ∈ t.entries,
      ((fun key => (key, (t.get? key).getD d)) ∘ Prod.fst) entry = id entry := by
    intro entry hentry
    simp [t.get?_of_mem hentry]
  rw [List.map_congr_left hself, List.map_id]

/-- Entries with new keys are listed at the end. -/
theorem entries_setAll {t : Table α} {entries : List (String × α)}
    (h : (entryKeys (t.entries ++ entries)).Nodup) :
    (t.setAll entries).entries = t.entries ++ entries := by
  induction entries generalizing t with
  | nil => simp [setAll]
  | cons entry rest ih =>
    have hnew : entry.1 ∉ entryKeys t.entries := by
      simp only [entryKeys, List.map_append, List.map_cons, List.nodup_append] at h
      intro hmem
      exact h.2.2 entry.1 hmem entry.1 (by simp) rfl
    have hset : (t.set entry.1 entry.2).entries = t.entries ++ [entry] :=
      setEntry_of_not_mem hnew entry.2
    have hnodup : (entryKeys ((t.set entry.1 entry.2).entries ++ rest)).Nodup := by
      simpa [hset] using h
    have hrest := ih hnodup
    rw [hset, List.append_assoc] at hrest
    exact hrest

theorem keys_filterMapValues (f : String → α → Option β) :
    (t.filterMapValues f).keys =
      t.keys.filter fun key => ((t.get? key).bind (f key)).isSome := by
  have himage : (t.filterMapValues f).keys =
      (t.entries.filter fun entry => (f entry.1 entry.2).isSome).map Prod.fst := by
    change (imageEntries f t.entries).map Prod.fst = _
    rw [imageEntries, List.map_filterMap, ← List.filterMap_eq_map, List.filterMap_filter]
    apply List.filterMap_congr
    intro entry _
    cases hf : f entry.1 entry.2 <;> simp
  rw [himage, keys, entryKeys, List.filter_map]
  congr 1
  apply List.filter_congr
  intro entry hentry
  simp [t.get?_of_mem hentry]

theorem keys_filter (keep : String → α → Bool) :
    (t.filter keep).keys = t.keys.filter fun key => (t.get? key).any (keep key) := by
  rw [keys, entryKeys, filter, keys, entryKeys, List.filter_map]
  congr 1
  apply List.filter_congr
  intro entry hentry
  simp [t.get?_of_mem hentry]

/-- Setting entries adds their new keys behind the old ones, in the order of their first
occurrences. -/
theorem keys_setAll (entries : List (String × α)) :
    (t.setAll entries).keys = (t.keys ++ entryKeys entries).eraseDups := by
  induction entries generalizing t with
  | nil =>
    rw [show entryKeys ([] : List (String × α)) = [] from rfl, List.append_nil]
    exact (eraseDups_of_nodup t.nodup).symm
  | cons entry rest ih =>
    obtain ⟨key, value⟩ := entry
    have hstep := ih (t.set key value)
    rw [keys_set] at hstep
    refine hstep.trans ?_
    by_cases hkey : key ∈ t.keys
    · rw [if_pos hkey]
      exact (eraseDups_append_cons hkey (entryKeys rest)).symm
    · rw [if_neg hkey, List.append_assoc]
      rfl

/-- Of entries with different keys, those come last whose keys are new. -/
theorem keys_setAll_of_nodup {entries : List (String × α)} (h : (entryKeys entries).Nodup) :
    (t.setAll entries).keys = t.keys ++ (entryKeys entries).filter fun key => key ∉ t.keys := by
  have hkeys : t.keys.eraseDups = t.keys := eraseDups_of_nodup t.nodup
  have hnew : (entryKeys entries).removeAll t.keys =
      (entryKeys entries).filter fun key => key ∉ t.keys := by
    rw [List.removeAll]
    apply List.filter_congr
    intro key _
    simp
  rw [keys_setAll, List.eraseDups_append, hkeys, hnew, eraseDups_of_nodup (h.filter _)]

/-- Tables with the same keys in the same order, and the same values under them, are equal. -/
theorem ext_get? {s t : Table α} (hkeys : s.keys = t.keys) (h : ∀ key, s.get? key = t.get? key) :
    s = t := by
  apply ext_entries
  cases hs : s.entries with
  | nil =>
    have hnil : t.keys = [] := by rw [← hkeys, keys, hs]; rfl
    exact (List.map_eq_nil_iff.mp hnil).symm
  | cons entry rest =>
    rw [← hs, s.entries_eq_map_keys entry.2, t.entries_eq_map_keys entry.2, hkeys]
    simp only [h]

/-- Setting one more entry of a table that is set on top of another is the same before and after. -/
theorem setAll_set (base : Table α) (key : String) (value : α) :
    base.setAll (t.set key value).entries = (base.setAll t.entries).set key value := by
  apply ext_get?
  · have hleft : (base.setAll (t.set key value).entries).keys =
        (base.keys ++ (t.set key value).keys).eraseDups := base.keys_setAll _
    have hright : (base.setAll t.entries).keys = (base.keys ++ t.keys).eraseDups :=
      base.keys_setAll _
    rw [hleft, keys_set, keys_set, hright]
    by_cases hkey : key ∈ t.keys
    · simp [List.mem_eraseDups, hkey]
    · rw [if_neg hkey, ← List.append_assoc, eraseDups_concat]
      simp only [List.mem_eraseDups]
  · intro k
    have hleft : (base.setAll (t.set key value).entries).get? k =
        ((t.set key value).get? k).or (base.get? k) := base.get?_setAll (t.set key value).nodup k
    have hright : (base.setAll t.entries).get? k = (t.get? k).or (base.get? k) :=
      base.get?_setAll t.nodup k
    rw [hleft, get?_set, get?_set, hright]
    by_cases hk : k = key <;> simp [hk]

/-- Entries with different keys are listed as they are. -/
theorem entries_ofList {entries : List (String × α)} (h : (entryKeys entries).Nodup) :
    (ofList entries).entries = entries :=
  entries_setAll h

/-- A table has as many entries as there are different keys among those that were set. -/
theorem length_entries_ofList (entries : List (String × α)) :
    (ofList entries).entries.length = (entryKeys entries).toFinset.card := by
  have hkeys : (ofList entries).keys.toFinset = (entryKeys entries).toFinset := by
    ext key
    rw [List.mem_toFinset, List.mem_toFinset, ← not_iff_not, ← get?_eq_none_iff,
      get?_ofList_eq_none_iff]
  have hcard : (ofList entries).keys.toFinset.card = (ofList entries).keys.length :=
    List.toFinset_card_of_nodup (ofList entries).nodup
  rw [← hkeys, hcard, keys, entryKeys, List.length_map]

/-- Setting the entries of a table one after the other gives the table. -/
theorem ofList_entries : ofList t.entries = t :=
  ext_entries (entries_ofList t.nodup)

end Table

end Crosswalk
