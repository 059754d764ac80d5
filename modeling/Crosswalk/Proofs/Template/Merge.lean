import Crosswalk.Proofs.Table
import Crosswalk.Proofs.Value.Identity
import Crosswalk.Template.Patch

/-!
Merging values into a payload without duplicates.

Applying a patch changes what stands under its terms and nothing else: a list has the values of the
patch behind it, and a list that is not there is made. With the patch for some candidates, a payload
holds a duplicate of each of them; so a second patch for the same candidates is empty.
-/

namespace Crosswalk.Template

open Mapping Extraction

/-- What stands under a term after values are put behind what stood there. -/
def grown (values : List Value) : Option Json → Option Json
  | none => some (.array (values.map Value.toJson))
  | some (.array items) => some (.array (items ++ values.map Value.toJson))
  | some other => some other

variable (members : List (String × Json)) (term : String) (values : List Value)

theorem lookup_appendValues (key : String) :
    (appendValues members term values).lookup key =
      if key = term then grown values (members.lookup key) else members.lookup key := by
  by_cases hkey : key = term
  · subst hkey
    rw [appendValues, if_pos rfl]
    split
    · rename_i habsent
      simp [List.lookup_append, habsent, grown]
    · rename_i items hitems
      simp [lookup_setEntry, hitems, grown]
    · rename_i other hother hkept
      rw [hkept, grown]
      exact hother
  · rw [appendValues, if_neg hkey]
    split
    · simp [List.lookup_append, List.lookup_cons, beq_eq_false_iff_ne.mpr hkey]
    · rw [lookup_setEntry, if_neg hkey]
    · rfl

theorem entryKeys_appendValues :
    entryKeys (appendValues members term values) =
      if term ∈ entryKeys members then entryKeys members else entryKeys members ++ [term] := by
  rw [appendValues]
  split
  · rename_i habsent
    rw [if_neg (lookup_eq_none_iff.mp habsent)]
    simp [entryKeys]
  · exact entryKeys_setEntry term _ members
  · rename_i other _ hother
    have hmem : term ∈ entryKeys members := by
      by_contra hterm
      rw [lookup_eq_none_iff.mpr hterm] at hother
      cases hother
    rw [if_pos hmem]

/-- Puts the values of entries behind the lists under their terms. -/
def appendEntries (entries : List (String × List Value)) : List (String × Json) :=
  entries.foldl (fun acc entry => appendValues acc entry.1 entry.2) members

/-- Each term of some entries has its values behind what stood there, and no other term changes. -/
theorem lookup_appendEntries {entries : List (String × List Value)}
    (h : (entryKeys entries).Nodup) (key : String) :
    (appendEntries members entries).lookup key =
      match entries.lookup key with
      | some values => grown values (members.lookup key)
      | none => members.lookup key := by
  induction entries generalizing members with
  | nil => rfl
  | cons entry rest ih =>
    obtain ⟨first, values⟩ := entry
    obtain ⟨hfirst, hrest⟩ := List.nodup_cons.mp h
    have hstep := ih (appendValues members first values) hrest
    rw [lookup_appendValues] at hstep
    by_cases hkey : key = first
    · subst hkey
      rw [if_pos rfl, lookup_eq_none_iff.mpr hfirst] at hstep
      rw [List.lookup_cons_self]
      exact hstep
    · rw [if_neg hkey] at hstep
      rw [List.lookup_cons, beq_eq_false_iff_ne.mpr hkey]
      exact hstep

/-- Terms keep their places, and new ones come last. -/
theorem entryKeys_appendEntries {entries : List (String × List Value)}
    (h : (entryKeys entries).Nodup) :
    entryKeys (appendEntries members entries) =
      entryKeys members ++ (entryKeys entries).filter fun key => key ∉ entryKeys members := by
  induction entries generalizing members with
  | nil => simp [appendEntries, entryKeys]
  | cons entry rest ih =>
    obtain ⟨first, values⟩ := entry
    obtain ⟨hfirst, hrest⟩ := List.nodup_cons.mp h
    have hstep := ih (appendValues members first values) hrest
    rw [entryKeys_appendValues] at hstep
    have hcons : entryKeys ((first, values) :: rest) = first :: entryKeys rest := rfl
    rw [hcons, show appendEntries members ((first, values) :: rest) =
      appendEntries (appendValues members first values) rest from rfl, hstep]
    by_cases hmem : first ∈ entryKeys members
    · rw [List.filter_cons_of_neg (by simp [hmem])]
      simp only [hmem, if_true]
    · -- no later entry has the term that is new here
      have hsame : ((entryKeys rest).filter fun key => key ∉ entryKeys members ++ [first]) =
          (entryKeys rest).filter fun key => key ∉ entryKeys members := by
        apply List.filter_congr
        intro key hkey
        have hne : key ≠ first := fun heq => hfirst (heq ▸ hkey)
        simp [hne]
      rw [List.filter_cons_of_pos (by simp [hmem])]
      simp only [hmem, if_false]
      rw [hsame, List.append_assoc]
      rfl

variable (payload : Json) (patch candidates : ValueTable)

/-- Under a term of a patch stand its values behind what stood there; other terms do not change. -/
theorem member?_applyPatch :
    (applyPatch (.object members) patch).member? term =
      match patch.get? term with
      | some values => grown values (members.lookup term)
      | none => members.lookup term :=
  lookup_appendEntries members patch.nodup term

theorem storedValues_object :
    storedValues (.object members) term = ((members.lookup term).bind Json.asArray?).getD [] := by
  rfl

/-- What a payload holds under a term is a list of it, if it is anything. -/
theorem member?_of_storedValues {payload : Json} {term : String}
    (h : storedValues payload term ≠ []) :
    payload.member? term = some (.array (storedValues payload term)) := by
  unfold storedValues at h ⊢
  cases hmember : payload.member? term with
  | none => simp [hmember] at h
  | some kept =>
    cases kept with
    | array items => rfl
    | _ => simp [hmember, Json.asArray?] at h

theorem get?_newValues :
    (newValues payload candidates).get? term =
      (candidates.get? term).bind fun values =>
        match Value.newAmong (storedValues payload term) (values.map Value.asLiteral) with
        | [] => none
        | fresh => some fresh :=
  candidates.get?_filterMapValues _ term

/-- The values of the patch for some candidates under a term. -/
theorem getD_newValues :
    ((newValues payload candidates).get? term).getD [] =
      Value.newAmong (storedValues payload term)
        (((candidates.get? term).getD []).map Value.asLiteral) := by
  rw [get?_newValues]
  cases candidates.get? term with
  | none => rfl
  | some values =>
    simp only [Option.bind_some, Option.getD_some]
    split
    · rename_i hnone
      exact hnone.symm
    · rfl

/-- A term under which there is a list, or nothing yet, has the values of the patch behind it. -/
theorem storedValues_applyPatch {members : List (String × Json)} {term : String}
    (h : members.lookup term = none ∨ ∃ items, members.lookup term = some (.array items)) :
    storedValues (applyPatch (.object members) patch) term =
      storedValues (.object members) term ++ ((patch.get? term).getD []).map Value.toJson := by
  rw [storedValues, member?_applyPatch, storedValues_object]
  cases patch.get? term with
  | none => simp
  | some values =>
    rcases h with habsent | ⟨items, hitems⟩
    · simp [habsent, grown, Json.asArray?]
    · simp [hitems, grown, Json.asArray?]

/-- Whether a payload can take values under every term of some candidates: there is a list, or
nothing yet. -/
def Accepts : Prop :=
  ∀ term ∈ candidates.keys,
    members.lookup term = none ∨ ∃ items, members.lookup term = some (.array items)

/-- A payload with the values of some candidates merged into it. -/
def merged : Json := applyPatch payload (newValues payload candidates)

/-- A merged payload holds a duplicate of every candidate. -/
theorem isDuplicate_merged {members : List (String × Json)} {candidates : ValueTable}
    (h : Accepts members candidates) {term : String} {v : Value}
    (hv : v ∈ (candidates.get? term).getD []) :
    v.asLiteral.isDuplicate (storedValues (merged (.object members) candidates) term) = true := by
  have hterm : term ∈ candidates.keys := by
    by_contra habsent
    rw [Table.get?_eq_none_iff.mpr habsent] at hv
    simp at hv
  rw [merged, storedValues_applyPatch _ (h term hterm), getD_newValues]
  exact Value.isDuplicate_newAmong _ (List.mem_map_of_mem hv)

theorem newValues_merged {members : List (String × Json)} {candidates : ValueTable}
    (h : Accepts members candidates) :
    newValues (merged (.object members) candidates) candidates = Table.empty := by
  apply Table.ext_entries
  apply List.filterMap_eq_nil_iff.mpr
  rintro ⟨term, values⟩ hentry
  have hget : candidates.get? term = some values := candidates.get?_of_mem hentry
  have hnone : Value.newAmong (storedValues (merged (.object members) candidates) term)
      (values.map Value.asLiteral) = [] := by
    apply Value.newAmong_eq_nil
    intro w hw
    obtain ⟨v, hv, rfl⟩ := List.mem_map.mp hw
    exact isDuplicate_merged h (by rw [hget]; exact hv)
  simp [hnone]

/-- What a template adds on a save is merged from what its rules extract. -/
theorem patch_addAutomatic (e : Extractor) (t : Template) (c : Cache) :
    (addAutomatic e t payload c).1.patch =
      newValues payload (extract e (.json payload) (c.automaticRules t).1).values := by
  rfl

/-- The rules that a cache gives for a template are the ones that it gives from then on. -/
theorem automaticRules_again (t : Template) (c : Cache) :
    ((c.automaticRules t).2.automaticRules t).1 = (c.automaticRules t).1 := by
  have hagain : ∀ entries : List (Nat × List Rule),
      (Cache.lookupOrAdd (Cache.lookupOrAdd entries t.id t.automaticRules).2 t.id
        t.automaticRules).1 = (Cache.lookupOrAdd entries t.id t.automaticRules).1 := by
    intro entries
    cases hkept : entries.lookup t.id with
    | some kept => simp [Cache.lookupOrAdd, hkept]
    | none => simp [Cache.lookupOrAdd, hkept, List.lookup_append]
  exact hagain c.automatic

/-- Merging loses no candidate and is idempotent. For a payload that can take the candidates, every
candidate, a link that is not verified as a literal, is a duplicate in the list of its term
afterwards. So nothing is left to merge: when a template extracts the same candidates again, it adds
nothing. -/
theorem merge_idempotent {members : List (String × Json)} {candidates : ValueTable}
    (h : Accepts members candidates) :
    let payload := Json.object members
    let after := applyPatch payload (newValues payload candidates)
    (∀ term, ∀ v ∈ (candidates.get? term).getD [], ∃ items,
      after.member? term = some (.array items) ∧ v.asLiteral.isDuplicate items = true) ∧
    newValues after candidates = Table.empty ∧
    ∀ (e : Extractor) (t : Template) (c : Cache),
      let rules := (c.automaticRules t).1
      (extract e (.json payload) rules).values = candidates →
      (extract e (.json after) rules).values = candidates →
      let first := addAutomatic e t payload c
      first.1.patch = newValues payload candidates ∧
        (addAutomatic e t after first.2).1.patch = Table.empty := by
  intro payload after
  refine ⟨?_, newValues_merged h, ?_⟩
  · intro term v hv
    have hduplicate : v.asLiteral.isDuplicate (storedValues after term) = true :=
      isDuplicate_merged h hv
    refine ⟨_, member?_of_storedValues ?_, hduplicate⟩
    intro hnil
    rw [hnil] at hduplicate
    cases hduplicate
  · intro e t c rules hfirst hsecond first
    refine ⟨by rw [patch_addAutomatic, hfirst], ?_⟩
    have hrules : (first.2.automaticRules t).1 = rules := automaticRules_again t c
    rw [patch_addAutomatic, hrules, hsecond]
    exact newValues_merged h

/-- A title that is stored with a blank behind it, a link that is not verified and given twice, and
a verified one under a term that is new to the payload. -/
theorem merge_idempotent_titles :
    let members : List (String × Json) :=
      [("dcterms:title", .array [.object [("type", .text "literal"), ("@value", .text "Paris ")]]),
        ("o:id", .ofNat 3)]
    let payload := Json.object members
    let e : Extractor := ⟨.ofDeclared Table.empty, none, some (.ofIds [7]), true⟩
    let property (term dataType value : String) : Property :=
      { (default : Property) with
        term := term, dataTypes := [dataType], automaticValue := some value }
    let t : Template :=
      { id := 1, label := "", automaticValues := ""
        properties :=
          [property "dcterms:title" "literal" "Paris", property "dcterms:title" "resource:item" "12",
            property "dcterms:title" "resource:item" "12",
            property "dcterms:relation" "resource:item" "7"] }
    let candidates := (extract e (.json payload) (Cache.empty.automaticRules t).1).values
    let after := applyPatch payload (newValues payload candidates)
    let first := addAutomatic e t payload Cache.empty
    Accepts members candidates ∧
      first.1.patch.values.map (·.map Value.text) = [["12"], ["7"]] ∧
      (extract e (.json after) (Cache.empty.automaticRules t).1).values = candidates ∧
      (addAutomatic e t after first.2).1.patch = Table.empty := by
  intro members payload e property t candidates after first
  have hlisted : candidates.entries =
      [("dcterms:title", [⟨"literal", .literal "Paris", none, true, none, none⟩,
          ⟨"resource:item", .unresolved "12", none, true, none, none⟩,
          ⟨"resource:item", .unresolved "12", none, true, none, none⟩]),
        ("dcterms:relation", [⟨"resource:item", .resource 7, none, true, none, none⟩])] := by
    decide +kernel
  have haccepts : Accepts members candidates := by
    intro term hterm
    have hkeys : term = "dcterms:title" ∨ term = "dcterms:relation" := by
      simpa [Table.keys, entryKeys, hlisted] using hterm
    rcases hkeys with rfl | rfl
    · exact .inr ⟨_, rfl⟩
    · exact .inl rfl
  have hpatch : first.1.patch.values.map (·.map Value.text) = [["12"], ["7"]] := by
    decide +kernel
  have hsecond : (extract e (.json after) (Cache.empty.automaticRules t).1).values = candidates := by
    apply Table.ext_entries
    rw [hlisted]
    decide +kernel
  have hagain := (merge_idempotent haccepts).2.2 e t Cache.empty rfl hsecond
  exact ⟨haccepts, hpatch, hsecond, hagain.2⟩

end Crosswalk.Template
