/-!
Tables that keep their entries in the order of first insertion.

A table lists its entries; no key stands twice. Setting a key that is there keeps its place and
changes its value, setting a new key puts it last.
-/

namespace Crosswalk

def entryKeys {α : Type} (entries : List (String × α)) : List String :=
  entries.map Prod.fst

/-- Gives the first entry with a key a new value, or adds an entry at the end. -/
def setEntry {α : Type} (key : String) (value : α) : List (String × α) → List (String × α)
  | [] => [(key, value)]
  | (k, v) :: rest => if k = key then (k, value) :: rest else (k, v) :: setEntry key value rest

theorem mem_entryKeys_setEntry {α : Type} {key k : String} {value : α}
    {entries : List (String × α)} :
    k ∈ entryKeys (setEntry key value entries) ↔ k = key ∨ k ∈ entryKeys entries := by
  induction entries with
  | nil => simp [setEntry, entryKeys]
  | cons entry rest ih =>
    simp only [entryKeys] at ih
    by_cases h : entry.1 = key
    · simp [setEntry, entryKeys, h]
    · simp [setEntry, entryKeys, h, ih, or_left_comm]

theorem nodup_setEntry {α : Type} (key : String) (value : α) {entries : List (String × α)}
    (h : (entryKeys entries).Nodup) : (entryKeys (setEntry key value entries)).Nodup := by
  induction entries with
  | nil => simp [setEntry, entryKeys]
  | cons entry rest ih =>
    obtain ⟨first, others⟩ := List.nodup_cons.1 h
    by_cases hk : entry.1 = key
    · simpa [setEntry, entryKeys, hk] using h
    · have absent : entry.1 ∉ entryKeys (setEntry key value rest) := by
        rw [mem_entryKeys_setEntry]
        exact not_or.2 ⟨hk, first⟩
      simpa only [setEntry, hk, if_false, entryKeys, List.map_cons, List.nodup_cons] using
        ⟨absent, ih others⟩

/-- The entries whose values have an image, with the images. -/
def imageEntries {α β : Type} (f : String → α → Option β) (entries : List (String × α)) :
    List (String × β) :=
  entries.filterMap fun entry => (f entry.1 entry.2).map (entry.1, ·)

theorem entryKeys_imageEntries_sublist {α β : Type} (f : String → α → Option β)
    (entries : List (String × α)) :
    (entryKeys (imageEntries f entries)).Sublist (entryKeys entries) := by
  induction entries with
  | nil => exact .slnil
  | cons entry rest ih =>
    cases hf : f entry.1 entry.2 with
    | none =>
      simpa only [imageEntries, List.filterMap_cons, hf, Option.map_none, entryKeys, List.map_cons]
        using ih.cons _
    | some image =>
      simpa only [imageEntries, List.filterMap_cons, hf, Option.map_some, entryKeys, List.map_cons]
        using ih.cons_cons _

/-- Entries in the order in which their keys came first, every key once. -/
structure Table (α : Type) where
  entries : List (String × α)
  nodup : (entryKeys entries).Nodup
deriving DecidableEq

namespace Table

variable {α β : Type}

@[ext]
theorem ext_entries {s t : Table α} (h : s.entries = t.entries) : s = t := by
  cases s; cases t; cases h; rfl

def empty : Table α := ⟨[], List.nodup_nil⟩

instance : Inhabited (Table α) := ⟨empty⟩

def keys (t : Table α) : List String := entryKeys t.entries

def values (t : Table α) : List α := t.entries.map Prod.snd

def isEmpty (t : Table α) : Bool := t.entries.isEmpty

def get? (t : Table α) (key : String) : Option α := t.entries.lookup key

def contains (t : Table α) (key : String) : Bool := (t.get? key).isSome

/-- Gives a key its value: in place when the key is there, at the end otherwise. -/
def set (t : Table α) (key : String) (value : α) : Table α :=
  ⟨setEntry key value t.entries, nodup_setEntry key value t.nodup⟩

/-- Gives a key a value unless it has one. -/
def setIfAbsent (t : Table α) (key : String) (value : α) : Table α :=
  if t.contains key then t else t.set key value

def setAll (t : Table α) (entries : List (String × α)) : Table α :=
  entries.foldl (fun acc (key, value) => acc.set key value) t

/-- The table that setting the entries of a list gives. -/
def ofList (entries : List (String × α)) : Table α :=
  empty.setAll entries

/-- Puts a value at the end of the list under a key. -/
def append (t : Table (List α)) (key : String) (value : α) : Table (List α) :=
  t.set key (((t.get? key).getD []) ++ [value])

def mapValues (f : α → β) (t : Table α) : Table β :=
  ⟨t.entries.map fun (key, value) => (key, f value), by
    simpa [entryKeys, Function.comp_def] using t.nodup⟩

def filter (keep : String → α → Bool) (t : Table α) : Table α :=
  ⟨t.entries.filter fun (key, value) => keep key value,
    t.nodup.sublist (List.filter_sublist.map Prod.fst)⟩

/-- Changes every entry that has an image and drops the others. -/
def filterMapValues (f : String → α → Option β) (t : Table α) : Table β :=
  ⟨imageEntries f t.entries, t.nodup.sublist (entryKeys_imageEntries_sublist f t.entries)⟩

end Table

end Crosswalk
