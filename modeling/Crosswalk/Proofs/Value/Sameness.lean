import Crosswalk.Proofs.Table
import Crosswalk.Proofs.Text.Trim
import Crosswalk.Proofs.Value.Identity

/-!
Values that are the same.

A value is the same as another when it is a duplicate of what the other is stored as. Two values are
the same exactly when their identities are equal: their data types, and their contents, where blanks
around a text do not count and an unresolved content counts as the text that is stored for it. So to
be the same is an equivalence, and whatever a list holds already, it takes no value that is the same
as one that was offered to it before.
-/

namespace Crosswalk

/-- The form in which contents are compared. -/
def Content.canonical : Content → Content
  | .literal s => .literal (Text.trimmed s)
  | .uri s => .uri (Text.trimmed s)
  | .resource id => .resource id
  | .unresolved s => .literal (Text.trimmed s)

namespace Value

/-- What has to be equal for two values to be the same. -/
def identity (v : Value) : String × Content := (v.dataType, v.content.canonical)

/-- A value is a duplicate of what another is stored as. -/
def IsSame (a b : Value) : Prop := a.isDuplicate [b.toJson] = true

instance : DecidableRel IsSame := fun a b =>
  inferInstanceAs (Decidable (a.isDuplicate [b.toJson] = true))

theorem sameText_iff {s t : String} : sameText s t = true ↔ Text.trimmed t = Text.trimmed s := by
  rw [sameText, beq_iff_eq, Text.trimmed, Text.trimmed, String.ofList_inj, eq_comm]

theorem trimmed_trimmed (s : String) : Text.trimmed (Text.trimmed s) = Text.trimmed s := by
  rw [Text.trimmed, Text.trimmed, String.toList_ofList, (Text.isTrimmed_trim s.toList).trim_eq]

theorem sameText_trimmed (s t : String) : sameText s (Text.trimmed t) = sameText s t := by
  rw [Bool.eq_iff_iff, sameText_iff, sameText_iff, trimmed_trimmed]

/-- What carries a content carries its canonical form. -/
theorem sameContent_canonical (content : Content) (stored : Json) :
    sameContent content.canonical stored = sameContent content stored := by
  cases content with
  | literal s => simp only [Content.canonical, sameContent, sameText_trimmed]
  | uri s => simp only [Content.canonical, sameContent, sameText_trimmed]
  | resource id => rfl
  | unresolved s => simp only [Content.canonical, sameContent, sameText_trimmed]

/-- Which stored values are the same as a value depends on its identity alone. -/
theorem isStoredAs_congr {a b : Value} (h : a.identity = b.identity) (stored : Json) :
    a.isStoredAs stored = b.isStoredAs stored := by
  obtain ⟨htype, hcontent⟩ := Prod.mk.inj h
  rw [isStoredAs, isStoredAs, htype, ← sameContent_canonical a.content, hcontent,
    sameContent_canonical]

theorem isDuplicate_congr {a b : Value} (h : a.identity = b.identity) (existing : List Json) :
    a.isDuplicate existing = b.isDuplicate existing := by
  rw [isDuplicate, isDuplicate, funext (isStoredAs_congr h)]

/-- Of the members that identify values, the stored form of a value has the one of its content. -/
theorem member?_contentMember (v : Value) (content : Content) :
    v.toJson.member? (contentMember content).1 =
      if (contentMember content).1 = (contentMember v.content).1 then
        some (contentMember v.content).2
      else none := by
  have hstored : v.toJson = .object (imageEntries (fun _ value => value)
      [("type", some (.text v.dataType)),
        ((contentMember v.content).1, some (contentMember v.content).2),
        ("@language", v.language.map .text), ("is_public", some (.bool v.isPublic)),
        ("property_id", v.propertyId.map .ofNat),
        ("property_label", v.propertyLabel.map .text)]) := rfl
  rw [hstored, Json.member?, lookup_imageEntries]
  · cases content <;> cases v.content <;> rfl
  · cases v.content <;> simp [entryKeys, contentMember]

/-- The stored form of a value carries the contents that are compared in the same form. -/
theorem sameContent_toJson_iff {content : Content} {v : Value} :
    sameContent content v.toJson = true ↔ content.canonical = v.content.canonical := by
  have hmember := member?_contentMember v content
  cases content with
  | literal s | unresolved s =>
    rw [contentMember] at hmember
    rw [sameContent, hmember]
    cases v.content <;> simp [contentMember, Content.canonical, sameText_iff, Json.plainText]
  | uri s =>
    rw [contentMember] at hmember
    rw [sameContent, hmember]
    cases v.content <;> simp [contentMember, Content.canonical, sameText_iff, Json.asText?]
  | resource id =>
    rw [contentMember] at hmember
    rw [sameContent, hmember]
    cases v.content with
    | resource id' =>
      simpa [contentMember, Content.canonical, Json.resourceId?, Json.ofNat, Json.asNat?]
        using eq_comm
    | _ => simp [contentMember, Content.canonical]

theorem isSame_iff {a b : Value} : a.IsSame b ↔ a.identity = b.identity := by
  rw [IsSame, isDuplicate, List.any_cons, List.any_nil, Bool.or_false, isStoredAs,
    storedType_toJson, Bool.and_eq_true, beq_iff_eq, sameContent_toJson_iff, identity, identity,
    Prod.mk.injEq, eq_comm (a := b.dataType)]

theorem equivalence_isSame : Equivalence IsSame where
  refl _ := isSame_iff.mpr rfl
  symm h := isSame_iff.mpr (isSame_iff.mp h).symm
  trans h h' := isSame_iff.mpr ((isSame_iff.mp h).trans (isSame_iff.mp h'))

/-- A list to which a value was offered holds a duplicate of it. -/
theorem isDuplicate_appendUnique (v : Value) (existing : List Json) :
    v.isDuplicate (appendUnique existing v) = true := by
  rw [appendUnique]
  split
  · assumption
  · rw [isDuplicate_append, isDuplicate, isDuplicate, List.any_cons, isStoredAs_toJson,
      Bool.true_or, Bool.or_true]

/-- To be the same is an equivalence, and what counts for it is the identity alone: neither
language, visibility nor property of either value change anything. Once a value was offered to a
list, whatever the list holds, one that is the same is not appended. -/
theorem identity_survives_storage :
    Equivalence IsSame ∧
      (∀ a b : Value, a.IsSame b ↔ a.identity = b.identity) ∧
      (∀ a a' b b' : Value, a'.dataType = a.dataType → a'.content = a.content →
        b'.dataType = b.dataType → b'.content = b.content → (a'.IsSame b' ↔ a.IsSame b)) ∧
      ∀ (existing : List Json) (a b : Value), b.IsSame a →
        appended? (appendUnique existing a) b = none ∧
          appendUnique (appendUnique existing a) b = appendUnique existing a := by
  refine ⟨equivalence_isSame, fun a b => isSame_iff, ?_, ?_⟩
  · intro a a' b b' htype hcontent htype' hcontent'
    rw [isSame_iff, isSame_iff, identity, identity, identity, identity, htype, hcontent, htype',
      hcontent']
  · intro existing a b h
    have hduplicate : b.isDuplicate (appendUnique existing a) = true := by
      rw [isDuplicate_congr (isSame_iff.mp h), isDuplicate_appendUnique]
    exact ⟨if_pos hduplicate, if_pos hduplicate⟩

/-- A text that a list holds as a number already, then an unresolved link of another language with
other blanks. -/
theorem identity_survives_storage_number :
    let a : Value := ⟨"literal", .literal "12 ", some "fr", true, none, none⟩
    let b : Value := ⟨"literal", .unresolved "\u00a012", none, false, some 7, some "Date"⟩
    let existing : List Json :=
      [.null, .object [("@value", .ofNat 12), ("type", .text "literal")]]
    b.IsSame a ∧ appended? existing a = none ∧ appended? [] a = some a ∧
      appended? (appendUnique existing a) b = none ∧
        appendUnique (appendUnique [] a) b = appendUnique [] a := by
  intro a b existing
  have hsame : b.IsSame a := by decide +kernel
  have hstored : ∀ list, appended? (appendUnique list a) b = none ∧
      appendUnique (appendUnique list a) b = appendUnique list a := fun list =>
    identity_survives_storage.2.2.2 list a b hsame
  exact ⟨hsame, by decide +kernel, by decide +kernel, (hstored existing).1, (hstored []).2⟩

end Value

end Crosswalk
