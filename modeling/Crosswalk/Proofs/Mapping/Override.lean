import Crosswalk.Proofs.Mapping.RoundTrip

/-!
A mapping text behind another one.

A text that begins with a header is read behind another text as it is read alone, and its groups
are set on top of the groups that were there. For from its first header on, no line of it looks at
anything that was read before.
-/

namespace Crosswalk.Mapping

open Text

/-- Whether the first line of a text that says something is a header that can be read. -/
def isHeaded (s : List Char) : Bool :=
  (linesOf s).head?.all fun line => (readHeader? line).isSome

/-- The keys of the headers among some lines. -/
def headerKeys (lines : List (List Char)) : List String :=
  lines.filterMap fun line => (readHeader? line).map Group.key

theorem readHeader?_of_ne {line : List Char} (h : line.head? ≠ some '[') :
    readHeader? line = none := by
  unfold readHeader?
  split
  · simp at h
  · rfl

namespace Reading

/-- What a line does: a header that can be read opens a group, any other line with a bracket in
front changes nothing, and what is left adds to the group that is open. -/
theorem addLine_eq (r : Reading) (line : List Char) :
    r.addLine line =
      match readHeader? line with
      | some group => ⟨r.groups.set group.key group, some group.key⟩
      | none =>
        if line.head? = some '[' then r
        else
          match r.current.bind fun key => (r.groups.get? key).map (key, ·) with
          | some (key, group) => { r with groups := r.groups.set key (group.addLine line) }
          | none => r := by
  by_cases hheader : line.head? = some '['
  · obtain ⟨rest, rfl⟩ := List.head?_eq_some_iff.mp hheader
    cases hread : readHeader? ('[' :: rest) <;> simp [addLine, hread]
  · rw [readHeader?_of_ne hheader]
    unfold addLine
    split
    · simp at hheader
    · cases hcurrent : r.current with
      | none => simp [hheader]
      | some key => cases hkept : r.groups.get? key <;> simp [hheader, hkept]

/-- A reading is in step with another one that began on top of some groups: it has the same open
group, and the other one's groups are its own, set on top of those. -/
structure Follows (base : Table Group) (alone behind : Reading) : Prop where
  groups : behind.groups = base.setAll alone.groups.entries
  current : behind.current = alone.current
  isOpen : ∃ key, alone.current = some key ∧ key ∈ alone.groups.keys

variable {base : Table Group} {alone behind : Reading}

/-- A header brings any two readings into step. -/
theorem follows_of_header {line : List Char} {group : Group}
    (hread : readHeader? line = some group) (r : Reading) :
    Follows r.groups (start.addLine line) (r.addLine line) := by
  rw [addLine_eq, addLine_eq, hread]
  exact ⟨rfl, rfl, group.key, rfl, mem_entryKeys_setEntry.mpr (.inl rfl)⟩

theorem Follows.get?_eq_some (h : Follows base alone behind) {key : String} {group : Group}
    (hgroup : alone.groups.get? key = some group) : behind.groups.get? key = some group := by
  have hbehind : (base.setAll alone.groups.entries).get? key =
      (alone.groups.get? key).or (base.get? key) := base.get?_setAll alone.groups.nodup key
  rw [h.groups, hbehind, hgroup, Option.some_or]

/-- Setting the same group keeps two readings in step. -/
theorem Follows.set (h : Follows base alone behind) (key : String) (group : Group) :
    Follows base ⟨alone.groups.set key group, some key⟩
      ⟨behind.groups.set key group, some key⟩ := by
  refine ⟨?_, rfl, key, rfl, mem_entryKeys_setEntry.mpr (.inl rfl)⟩
  rw [h.groups]
  exact (alone.groups.setAll_set base key group).symm

/-- Every line keeps two readings in step. -/
theorem Follows.addLine (h : Follows base alone behind) (line : List Char) :
    Follows base (alone.addLine line) (behind.addLine line) := by
  rw [addLine_eq, addLine_eq]
  cases hread : readHeader? line with
  | some group => exact h.set group.key group
  | none =>
    by_cases hheader : line.head? = some '['
    · simpa [hheader] using h
    · obtain ⟨key, hcurrent, hkey⟩ := h.isOpen
      obtain ⟨group, hgroup⟩ := Table.exists_get?_of_mem_keys hkey
      have hset := h.set key (group.addLine line)
      simp only [hheader, if_false, h.current, hcurrent, Option.bind_some, h.get?_eq_some hgroup,
        hgroup, Option.map_some]
      simpa only [hcurrent, h.current] using hset

theorem Follows.foldl (h : Follows base alone behind) (lines : List (List Char)) :
    Follows base (lines.foldl Reading.addLine alone) (lines.foldl Reading.addLine behind) := by
  induction lines generalizing alone behind with
  | nil => exact h
  | cons line rest ih => exact ih (h.addLine line)

/-- The keys of the groups are those of the headers, in the order in which they come first. -/
theorem keys_foldl (r : Reading) (lines : List (List Char)) :
    (lines.foldl Reading.addLine r).groups.keys =
      (r.groups.keys ++ headerKeys lines).eraseDups := by
  induction lines generalizing r with
  | nil =>
    rw [headerKeys, List.filterMap_nil, List.append_nil]
    exact (eraseDups_of_nodup r.groups.nodup).symm
  | cons line rest ih =>
    rw [List.foldl_cons, ih, addLine_eq]
    cases hread : readHeader? line with
    | some group =>
      have hkeys : headerKeys (line :: rest) = group.key :: headerKeys rest := by
        simp [headerKeys, hread]
      rw [hkeys, Table.keys_set]
      by_cases hkey : group.key ∈ r.groups.keys
      · rw [if_pos hkey, eraseDups_append_cons hkey]
      · rw [if_neg hkey, List.append_assoc]
        rfl
    | none =>
      have hkeys : headerKeys (line :: rest) = headerKeys rest := by simp [headerKeys, hread]
      rw [hkeys]
      by_cases hheader : line.head? = some '['
      · simp [hheader]
      · simp only [hheader, if_false]
        split
        · rename_i key group hopen
          -- a group that is open has its key already
          obtain ⟨current, -, hkept⟩ := Option.bind_eq_some_iff.mp hopen
          obtain ⟨kept, hget, heq⟩ := Option.map_eq_some_iff.mp hkept
          obtain ⟨rfl, rfl⟩ := Prod.mk.inj heq
          have hmem : current ∈ r.groups.keys := List.mem_map_of_mem (Table.mem_of_get? hget)
          rw [Table.keys_set, if_pos hmem]
        · rfl

end Reading

/-- The groups of a text that begins with a header are set on top of those before it. -/
theorem readGroups_append (a : List Char) {b : List Char} (h : isHeaded b = true) :
    readGroups (a ++ '\n' :: b) = (readGroups a).setAll (readGroups b).entries := by
  rw [readGroups, linesOf_append, List.foldl_append]
  cases hlines : linesOf b with
  | nil =>
    rw [readGroups, readGroups, hlines]
    rfl
  | cons line rest =>
    obtain ⟨group, hread⟩ : ∃ group, readHeader? line = some group := by
      rw [isHeaded, hlines] at h
      exact Option.isSome_iff_exists.mp (by simpa using h)
    have hstep := Reading.follows_of_header hread ((linesOf a).foldl Reading.addLine .start)
    rw [readGroups, readGroups, hlines]
    exact (hstep.foldl rest).groups

theorem keys_readGroups (s : List Char) :
    (readGroups s).keys = (headerKeys (linesOf s)).eraseDups :=
  Reading.keys_foldl .start (linesOf s)

/-- A group that was read stands under its own key. -/
theorem key_of_get?_readGroups {s : List Char} {key : String} {group : Group}
    (h : (readGroups s).get? key = some group) : group.IsNamed ∧ group.key = key := by
  obtain ⟨hcanonical, hkey⟩ := isCanonicalTable_readGroups s _ (Table.mem_of_get? h)
  exact ⟨hcanonical.named, hkey⟩

end Crosswalk.Mapping
