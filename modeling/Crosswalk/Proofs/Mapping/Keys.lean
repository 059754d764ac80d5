import Crosswalk.Proofs.Mapping.Override

/-!
Keys of groups.

The key of a group that a header opens says which service, part and variant the group is for, and
nothing else: it can be read as a header of its own. So a group that is read can only take the place
of one for the same service, part and variant, and no line changes which one a group is for.
-/

namespace Crosswalk.Mapping

/-- Groups under their own keys, as reading gives them. -/
def IsKeyedTable (groups : Table Group) : Prop :=
  ∀ key g, groups.get? key = some g → g.IsKeyed ∧ g.key = key

/-- Where there was a group there still is one, for the same service, part and variant. -/
def KeepsParts (groups groups' : Table Group) : Prop :=
  ∀ key old, groups.get? key = some old → ∃ new, groups'.get? key = some new ∧ new.SameParts old

variable {groups groups' groups'' : Table Group} {g : Group} {r : Reading}

theorem Group.SameParts.trans {g g' g'' : Group} (h : g.SameParts g') (h' : g'.SameParts g'') :
    g.SameParts g'' :=
  ⟨h.service.trans h'.service, h.sub.trans h'.sub, h.variant.trans h'.variant⟩

theorem KeepsParts.refl (groups : Table Group) : KeepsParts groups groups :=
  fun _ old hold => ⟨old, hold, rfl, rfl, rfl⟩

theorem KeepsParts.trans (h : KeepsParts groups groups') (h' : KeepsParts groups' groups'') :
    KeepsParts groups groups'' := by
  intro key old hold
  obtain ⟨middle, hmiddle, hparts⟩ := h key old hold
  obtain ⟨new, hnew, hparts'⟩ := h' key middle hmiddle
  exact ⟨new, hnew, hparts'.trans hparts⟩

/-- A group that is set under its own key takes the place of one with the same parts. -/
theorem IsKeyedTable.set (h : IsKeyedTable groups) (hg : g.IsKeyed) :
    IsKeyedTable (groups.set g.key g) ∧ KeepsParts groups (groups.set g.key g) := by
  constructor
  · intro key g' hget
    rw [Table.get?_set] at hget
    split at hget
    · rename_i hkey
      obtain rfl := Option.some.inj hget
      exact ⟨hg, hkey.symm⟩
    · exact h key g' hget
  · intro key old hold
    rw [Table.get?_set]
    split
    · rename_i hkey
      obtain ⟨hold, holdKey⟩ := h key old hold
      exact ⟨g, rfl, (hg.key_eq_iff hold).mp (hkey.symm.trans holdKey.symm)⟩
    · exact ⟨old, hold, rfl, rfl, rfl⟩

/-- Every line leaves the groups under their own keys and keeps what they are for. -/
theorem IsKeyedTable.addLine (h : IsKeyedTable r.groups) (line : List Char) :
    IsKeyedTable (r.addLine line).groups ∧ KeepsParts r.groups (r.addLine line).groups := by
  rw [Reading.addLine_eq]
  cases hread : readHeader? line with
  | some group => exact h.set (isKeyed_of_readHeader? hread)
  | none =>
    by_cases hheader : line.head? = some '['
    · simp only [hheader, if_true]
      exact ⟨h, .refl _⟩
    · simp only [hheader, if_false]
      split
      · rename_i key group hopen
        -- the group that is open stands under its key, and so does what the line makes of it
        obtain ⟨current, -, hfound⟩ := Option.bind_eq_some_iff.mp hopen
        obtain ⟨found, hget, heq⟩ := Option.map_eq_some_iff.mp hfound
        obtain ⟨rfl, rfl⟩ := Prod.mk.inj heq
        obtain ⟨hkeyed, hkey⟩ := h current found hget
        have hset := h.set (hkeyed.congr (found.sameParts_addLine line))
        rwa [found.key_addLine, hkey] at hset
      · exact ⟨h, .refl _⟩

theorem IsKeyedTable.foldl (h : IsKeyedTable r.groups) (lines : List (List Char)) :
    IsKeyedTable (lines.foldl Reading.addLine r).groups ∧
      KeepsParts r.groups (lines.foldl Reading.addLine r).groups := by
  induction lines generalizing r with
  | nil => exact ⟨h, .refl _⟩
  | cons line rest ih =>
    obtain ⟨hstep, hkept⟩ := h.addLine line
    obtain ⟨hrest, hkept'⟩ := ih hstep
    exact ⟨hrest, hkept.trans hkept'⟩

theorem isKeyedTable_start : IsKeyedTable Reading.start.groups := fun _ _ hget => nomatch hget

/-- The key of a group identifies it. Two groups that headers open have one key exactly when they
are for the same service, part and variant. The key in brackets is a header that opens such a group.
And whatever group stands under a key while a text is read, at the end there is one for the same
service, part and variant under this key: a group is replaced only by one that is for the same. -/
theorem keys_identify :
    (∀ line line' g g', readHeader? line = some g → readHeader? line' = some g' →
      (g.key = g'.key ↔ g.service = g'.service ∧ g.sub = g'.sub ∧ g.variant = g'.variant)) ∧
      (∀ line g, readHeader? line = some g →
        ∃ again, readHeader? ('[' :: (g.key.toList ++ [']'])) = some again ∧
          again.service = g.service ∧ again.sub = g.sub ∧ again.variant = g.variant) ∧
      ∀ (text : String) lines more, linesOf text.toList = lines ++ more →
        ∀ key old, (lines.foldl Reading.addLine .start).groups.get? key = some old →
          ∃ new, (parseGroups text).get? key = some new ∧
            new.service = old.service ∧ new.sub = old.sub ∧ new.variant = old.variant := by
  refine ⟨?_, ?_, ?_⟩
  · intro line line' g g' h h'
    rw [(isKeyed_of_readHeader? h).key_eq_iff (isKeyed_of_readHeader? h')]
    exact ⟨fun hparts => ⟨hparts.service, hparts.sub, hparts.variant⟩,
      fun ⟨hservice, hsub, hvariant⟩ => ⟨hservice, hsub, hvariant⟩⟩
  · intro line g h
    exact ⟨_, readHeader?_key (isKeyed_of_readHeader? h), rfl, rfl, rfl⟩
  · intro text lines more hlines key old hold
    obtain ⟨hkeyed, -⟩ := isKeyedTable_start.foldl lines
    obtain ⟨new, hnew, hparts⟩ := (hkeyed.foldl more).2 key old hold
    rw [← List.foldl_append, ← hlines] at hnew
    exact ⟨new, hnew, hparts.service, hparts.sub, hparts.variant⟩

/-- A header with blanks around its parts and one without, with separators inside the parts; the
second group takes the place of the first. -/
theorem keys_identify_blanks :
    let line := "[ a : b:c # d #[:e ] = X".toList
    let line' := "[a:b:c#d #[:e]".toList
    let g := { Group.ofService "a" with
      sub := some "b:c", variant := some "d #[:e", label := some "X" }
    let g' := { Group.ofService "a" with sub := some "b:c", variant := some "d #[:e" }
    let text := "[ a : b:c # d #[:e ] = X\n[a:b:c#d #[:e]"
    readHeader? line = some g ∧ readHeader? line' = some g' ∧ g.key = "a:b:c #d #[:e" ∧
      g'.key = g.key ∧
      (∃ again, readHeader? ('[' :: (g.key.toList ++ [']'])) = some again ∧
        again.service = g.service ∧ again.sub = g.sub ∧ again.variant = g.variant) ∧
      linesOf text.toList = [line] ++ [line'] ∧
      (Reading.start.addLine line).groups.get? g.key = some g ∧
      ∃ new, (parseGroups text).get? g.key = some new ∧
        new.service = g.service ∧ new.sub = g.sub ∧ new.variant = g.variant := by
  intro line line' g g' text
  have hline : readHeader? line = some g := by decide +kernel
  have hline' : readHeader? line' = some g' := by decide +kernel
  have htext : linesOf text.toList = [line] ++ [line'] := by decide +kernel
  have hstart : (Reading.start.addLine line).groups.get? g.key = some g := by decide +kernel
  obtain ⟨hsame, hagain, hkept⟩ := keys_identify
  exact ⟨hline, hline', by decide +kernel, (hsame line' line g' g hline' hline).mpr ⟨rfl, rfl, rfl⟩,
    hagain line g hline, htext, hstart, hkept text [line] [line'] htext g.key g hstart⟩

end Crosswalk.Mapping
