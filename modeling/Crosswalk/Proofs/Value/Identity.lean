import Mathlib.Data.List.Basic
import Crosswalk.Value.Stored

/-!
Values that are new to a list of stored ones.

A value is a duplicate of its own stored form. So of values that are offered to a list one after
the other, those that are kept are new where they stand, and afterwards every value that was offered
is a duplicate: offering the same values again keeps none.
-/

namespace Crosswalk.Value

theorem storedType_toJson (v : Value) : storedType v.toJson = v.dataType := by
  rfl

/-- The member that identifies a value is found in its stored form. -/
theorem member?_toJson (v : Value) :
    v.toJson.member? (contentMember v.content).1 = some (contentMember v.content).2 := by
  rw [toJson]
  cases v.content <;> rfl

/-- What holds the member that a content is stored as carries this content. -/
theorem sameContent_of_member? {content : Content} {stored : Json}
    (h : stored.member? (contentMember content).1 = some (contentMember content).2) :
    sameContent content stored = true := by
  cases content with
  | literal s =>
    have hvalue : stored.member? "@value" = some (.text s) := h
    simp [sameContent, hvalue, Json.plainText, sameText]
  | uri s =>
    have hid : stored.member? "@id" = some (.text s) := h
    simp [sameContent, hid, Json.asText?, sameText]
  | resource id =>
    have hresource : stored.member? "value_resource_id" = some (.ofNat id) := h
    simp [sameContent, hresource, Json.ofNat, Json.resourceId?, Json.asNat?]
  | unresolved s =>
    have hvalue : stored.member? "@value" = some (.text s) := h
    simp [sameContent, hvalue, Json.plainText, sameText]

theorem isStoredAs_toJson (v : Value) : v.isStoredAs v.toJson = true := by
  rw [isStoredAs, storedType_toJson, sameContent_of_member? v.member?_toJson]
  simp

variable (v : Value) (existing more : List Json) (values : List Value)

theorem isUnresolved_asLiteral : v.asLiteral.isUnresolved = false := by
  rw [asLiteral]
  cases hcontent : v.content <;> simp [isUnresolved, hcontent]

theorem isDuplicate_append :
    v.isDuplicate (existing ++ more) = (v.isDuplicate existing || v.isDuplicate more) := by
  simp [isDuplicate]

/-- Whether values are no duplicates when they stand behind a list: each is new to the list and to
the values in front of it. -/
def AllNew : Prop :=
  ∀ before v after, values = before ++ v :: after →
    v.isDuplicate (existing ++ before.map toJson) = false

theorem allNew_nil : AllNew existing [] := by
  intro before v after h
  simp at h

theorem allNew_cons :
    AllNew existing (v :: values) ↔
      v.isDuplicate existing = false ∧ AllNew (existing ++ [v.toJson]) values := by
  constructor
  · intro h
    refine ⟨by simpa using h [] v values rfl, ?_⟩
    intro before w after hvalues
    have hw := h (v :: before) w after (by rw [hvalues, List.cons_append])
    simpa using hw
  · rintro ⟨hv, hrest⟩ before w after hvalues
    cases before with
    | nil =>
      obtain ⟨rfl, -⟩ := List.cons.inj hvalues
      simpa using hv
    | cons first before =>
      obtain ⟨rfl, htail⟩ := List.cons.inj hvalues
      simpa using hrest before w after htail

theorem allNew_append (others : List Value) :
    AllNew existing (values ++ others) ↔
      AllNew existing values ∧ AllNew (existing ++ values.map toJson) others := by
  induction values generalizing existing with
  | nil => simp [allNew_nil]
  | cons v rest ih =>
    rw [List.cons_append, allNew_cons, allNew_cons, ih, and_assoc]
    simp

theorem allNew_newAmong : AllNew existing (newAmong existing values) := by
  induction values generalizing existing with
  | nil => exact allNew_nil existing
  | cons v rest ih =>
    rw [newAmong]
    split
    · exact ih existing
    · rename_i hnew
      rw [allNew_cons]
      exact ⟨by simpa using hnew, ih (existing ++ [v.toJson])⟩

/-- Values that are offered later are compared with those that were kept before. -/
theorem newAmong_append (others : List Value) :
    newAmong existing (values ++ others) =
      newAmong existing values ++
        newAmong (existing ++ (newAmong existing values).map toJson) others := by
  induction values generalizing existing with
  | nil => simp [newAmong]
  | cons v rest ih =>
    rw [List.cons_append, newAmong, newAmong]
    split
    · exact ih existing
    · rw [ih, List.map_cons, List.append_assoc, List.singleton_append, List.cons_append]

theorem newAmong_subset : newAmong existing values ⊆ values := by
  induction values generalizing existing with
  | nil => exact List.Subset.refl _
  | cons v rest ih =>
    rw [newAmong]
    split
    · exact List.subset_cons_of_subset v (ih existing)
    · exact List.cons_subset_cons v (ih _)

/-- With those that are kept, a list holds a duplicate of every value that was offered. -/
theorem isDuplicate_newAmong {values : List Value} {v : Value} (h : v ∈ values) :
    v.isDuplicate (existing ++ (newAmong existing values).map toJson) = true := by
  induction values generalizing existing with
  | nil => simp at h
  | cons first rest ih =>
    rw [newAmong]
    split
    · rename_i hduplicate
      rcases List.mem_cons.mp h with rfl | h
      · simp [isDuplicate_append, hduplicate]
      · exact ih existing h
    · have hrest : existing ++ (first :: newAmong (existing ++ [first.toJson]) rest).map toJson =
          (existing ++ [first.toJson]) ++
            (newAmong (existing ++ [first.toJson]) rest).map toJson := by simp
      rw [hrest]
      rcases List.mem_cons.mp h with rfl | h
      · simp [isDuplicate, isStoredAs_toJson]
      · exact ih _ h

/-- Values that are all duplicates are all dropped. -/
theorem newAmong_eq_nil {existing : List Json} {values : List Value}
    (h : ∀ v ∈ values, v.isDuplicate existing = true) : newAmong existing values = [] := by
  induction values with
  | nil => rfl
  | cons v rest ih =>
    rw [newAmong, if_pos (h v (by simp))]
    exact ih fun w hw => h w (List.mem_cons_of_mem v hw)

end Crosswalk.Value
