import Crosswalk.Proofs.Extraction.Rules
import Crosswalk.Proofs.Template.Merge

/-!
What becomes of a payload that is saved again and again.

On every save a template computes a patch, and the patch is applied at once. The payload only grows:
its terms keep their places, every list keeps what it held, and what is put behind it is new there.
This holds from any point of a run to any later one. Default values go where there was no value.
-/

namespace Crosswalk

/-- Whether a document is an object. -/
def Json.isObject : Json → Bool
  | .object _ => true
  | _ => false

/-- The names of the members of an object, in order. -/
def Json.memberNames : Json → List String
  | .object members => entryKeys members
  | _ => []

namespace Template

open Mapping Extraction

/-- One save: the kind of values that a template adds. -/
inductive Round where
  | automatic (e : Extractor) (t : Template)
  | default (e : Extractor) (t : Template)

namespace Round

def isDefault : Round → Bool
  | .automatic _ _ => false
  | .default _ _ => true

/-- What is computed in a round, and the cache afterwards. -/
def compute : Round → Json → Cache → Computed × Cache
  | .automatic e t, payload, c => addAutomatic e t payload c
  | .default e t, payload, c => addDefaults e t payload c

end Round

/-- A payload between two saves, and the cache that all of them share. -/
structure Session where
  payload : Json
  cache : Cache

namespace Session

/-- The patch that a round computes. -/
def patch (s : Session) (r : Round) : ValueTable := (r.compute s.payload s.cache).1.patch

/-- Computes the patch of a round and applies it. -/
def save (s : Session) (r : Round) : Session :=
  ⟨applyPatch s.payload (s.patch r), (r.compute s.payload s.cache).2⟩

def run (s : Session) (rounds : List Round) : Session := rounds.foldl save s

end Session

/-- What may become of that which stands under a term: a list has new values behind it, a list of
new values is made, or nothing changes. -/
inductive IsGrown : Option Json → Option Json → Prop where
  | same (kept : Option Json) : IsGrown kept kept
  | behind (items : List Json) (values : List Value) (h : Value.AllNew items values) :
      IsGrown (some (.array items)) (some (.array (items ++ values.map Value.toJson)))
  | made (values : List Value) (h : Value.AllNew [] values) :
      IsGrown none (some (.array (values.map Value.toJson)))

/-- What may become of a payload. One that is no object stays as it is; the terms of an object keep
their places, with new terms behind them, and what stands under a term only grows. -/
structure IsExtension (before after : Json) : Prop where
  other : before.isObject = false → after = before
  isObject : after.isObject = before.isObject
  names : ∃ added, after.memberNames = before.memberNames ++ added ∧ added.Nodup ∧
    ∀ name ∈ added, name ∉ before.memberNames
  grown : ∀ term, IsGrown (before.member? term) (after.member? term)

theorem IsGrown.trans {first second third : Option Json} (h : IsGrown first second)
    (h' : IsGrown second third) : IsGrown first third := by
  cases h with
  | same => exact h'
  | behind items values hnew =>
    cases h' with
    | same => exact .behind items values hnew
    | behind _ more hmore =>
      rw [List.append_assoc, ← List.map_append]
      exact .behind items (values ++ more)
        ((Value.allNew_append items values more).mpr ⟨hnew, hmore⟩)
  | made values hnew =>
    cases h' with
    | same => exact .made values hnew
    | behind _ more hmore =>
      rw [← List.map_append]
      exact .made (values ++ more) ((Value.allNew_append [] values more).mpr ⟨hnew, hmore⟩)

namespace IsExtension

theorem refl (payload : Json) : IsExtension payload payload :=
  ⟨fun _ => rfl, rfl, ⟨[], by simp⟩, fun _ => .same _⟩

theorem trans {first second third : Json} (h : IsExtension first second)
    (h' : IsExtension second third) : IsExtension first third := by
  refine ⟨?_, h'.isObject.trans h.isObject, ?_, fun term => (h.grown term).trans (h'.grown term)⟩
  · intro hother
    rw [h'.other (h.isObject.trans hother), h.other hother]
  · obtain ⟨added, hnames, hnodup, hnew⟩ := h.names
    obtain ⟨more, hnames', hnodup', hnew'⟩ := h'.names
    rw [hnames] at hnames' hnew'
    refine ⟨added ++ more, by rw [hnames', List.append_assoc], ?_, ?_⟩
    · rw [List.nodup_append]
      refine ⟨hnodup, hnodup', ?_⟩
      rintro name hname _ hmore rfl
      exact hnew' name hmore (List.mem_append_right _ hname)
    · intro name hname
      rcases List.mem_append.mp hname with hadded | hmore
      · exact hnew name hadded
      · exact fun hkept => hnew' name hmore (List.mem_append_left _ hkept)

end IsExtension

variable (payload : Json) (candidates : ValueTable)

theorem member?_applyPatch_of_get? {payload : Json} (hobject : payload.isObject = true)
    {patch : ValueTable} {term : String} {values : List Value}
    (h : patch.get? term = some values) :
    (applyPatch payload patch).member? term = grown values (payload.member? term) := by
  cases payload with
  | object members =>
    rw [member?_applyPatch, h]
    rfl
  | _ => cases hobject

theorem member?_applyPatch_of_not_mem {patch : ValueTable} {term : String}
    (h : term ∉ patch.keys) : (applyPatch payload patch).member? term = payload.member? term := by
  cases payload with
  | object members =>
    rw [member?_applyPatch, Table.get?_eq_none_iff.mpr h]
    rfl
  | _ => rfl

/-- What is merged under a term is new to the list there. -/
theorem isGrown_merged (members : List (String × Json)) (term : String) :
    IsGrown (members.lookup term) ((merged (.object members) candidates).member? term) := by
  have hvalues := getD_newValues term (.object members) candidates
  rw [merged, member?_applyPatch]
  cases hpatch : (newValues (.object members) candidates).get? term with
  | none => exact .same _
  | some values =>
    rw [hpatch, Option.getD_some, storedValues_object] at hvalues
    have hnew := Value.allNew_newAmong ((((members.lookup term).bind Json.asArray?)).getD [])
      (((candidates.get? term).getD []).map Value.asLiteral)
    rw [← hvalues] at hnew
    cases hkept : members.lookup term with
    | none =>
      rw [hkept] at hnew
      exact .made values hnew
    | some kept =>
      cases kept with
      | array items =>
        rw [hkept] at hnew
        exact .behind items values hnew
      | _ => exact .same _

/-- Merging extends a payload. -/
theorem isExtension_merged : IsExtension payload (merged payload candidates) := by
  cases payload with
  | object members =>
    refine ⟨nofun, rfl, ?_, isGrown_merged candidates members⟩
    let patch := newValues (.object members) candidates
    refine ⟨patch.keys.filter fun key => key ∉ entryKeys members,
      entryKeys_appendEntries members patch.nodup, patch.nodup.filter _, ?_⟩
    intro name hname
    exact of_decide_eq_true (List.mem_filter.mp hname).2
  | _ => exact .refl _

variable (s : Session) (r : Round)

/-- A round merges what the rules of its template extract. -/
theorem patch_eq_newValues : ∃ candidates, s.patch r = newValues s.payload candidates := by
  cases r with
  | automatic e t => exact ⟨_, rfl⟩
  | default e t => exact ⟨_, rfl⟩

theorem isExtension_save : IsExtension s.payload (s.save r).payload := by
  obtain ⟨candidates, hpatch⟩ := patch_eq_newValues s r
  rw [Session.save, hpatch]
  exact isExtension_merged s.payload candidates

/-- From any point of a run to any later one, a payload is extended. -/
theorem isExtension_run (rounds : List Round) : IsExtension s.payload (s.run rounds).payload := by
  induction rounds generalizing s with
  | nil => exact .refl _
  | cons r rest ih => exact (isExtension_save s r).trans (ih (s.save r))

theorem mem_keys_of_newValues {payload : Json} {candidates : ValueTable} {term : String}
    (h : term ∈ (newValues payload candidates).keys) : term ∈ candidates.keys := by
  by_contra habsent
  have hnone := get?_newValues term payload candidates
  rw [Table.get?_eq_none_iff.mpr habsent, Option.bind_none, Table.get?_eq_none_iff] at hnone
  exact hnone h

/-- Default values are computed for terms that hold no list with anything in it. -/
theorem storedValues_of_default {r : Round} (hr : r.isDefault = true) {term : String}
    (h : term ∈ (s.patch r).keys) : storedValues s.payload term = [] := by
  cases r with
  | automatic e t => cases hr
  | default e t =>
    obtain ⟨rule, hrule, hfills⟩ := mem_terms_run e (.ofJson e.isInternal s.payload) _
      (mem_keys_of_newValues h)
    obtain ⟨-, hempty⟩ := List.mem_filter.mp hrule
    obtain ⟨-, hfield⟩ : fillsField rule = true ∧ rule.target.field = term := by
      simpa [fillsTerm] using hfills
    rw [← hfield]
    exact List.isEmpty_iff.mp hempty

/-- What a round does to a payload: it extends it, puts the values of its patch behind what stood
under their terms and changes no other term, and puts default values only where there is no list
yet or an empty one. -/
structure IsRound (r : Round) (patch : ValueTable) (before after : Json) : Prop where
  extends_before : IsExtension before after
  appended : before.isObject = true → ∀ term values, patch.get? term = some values →
    after.member? term = grown values (before.member? term)
  unchanged : ∀ term, term ∉ patch.keys → after.member? term = before.member? term
  default : r.isDefault = true → ∀ term, after.member? term ≠ before.member? term →
    before.member? term = none ∨ before.member? term = some (.array [])

theorem isRound_save : IsRound r (s.patch r) s.payload (s.save r).payload := by
  refine ⟨isExtension_save s r, fun hobject _ _ h => member?_applyPatch_of_get? hobject h,
    fun _ h => member?_applyPatch_of_not_mem s.payload h, ?_⟩
  intro hdefault term hchanged
  have hkeys : term ∈ (s.patch r).keys := by
    by_contra habsent
    exact hchanged (member?_applyPatch_of_not_mem s.payload habsent)
  have hempty := storedValues_of_default s hdefault hkeys
  generalize hafter : (s.save r).payload.member? term = after at hchanged
  have hgrown := (isExtension_save s r).grown term
  rw [hafter] at hgrown
  generalize hbefore : s.payload.member? term = before at hchanged hgrown
  cases hgrown with
  | same => exact absurd rfl hchanged
  | behind items values =>
    right
    rw [storedValues, hbefore] at hempty
    simp only [Option.bind_some, Json.asArray?, Option.getD_some] at hempty
    rw [hempty]
  | made => exact .inl rfl

/-- The history of a payload over a run of saves with one cache. Between any two points the payload
is extended: one that is no object is kept, no term is removed or moved and new ones come last, what
is no list is kept, and every list begins with what it held before, with values behind it each of
which is no duplicate of one before it. Each round changes only the terms of its patch, and default
values are put only where there was no value. -/
theorem payload_history (start : Session) (rounds later : List Round) (next : Round) :
    IsExtension (start.run rounds).payload (start.run (rounds ++ later)).payload ∧
      IsRound next ((start.run rounds).patch next) (start.run rounds).payload
        (start.run (rounds ++ [next])).payload := by
  have hrun : ∀ more, start.run (rounds ++ more) = (start.run rounds).run more := fun more =>
    List.foldl_append
  rw [hrun, hrun]
  exact ⟨isExtension_run _ later, isRound_save _ next⟩

end Template

end Crosswalk
