import Crosswalk.Extraction.Source
import Crosswalk.Proofs.Json.Ways

/-!
What a member of a document does to locators of other members.

A locator addresses a member by its name, by its escaped name, or by a flat key below it. A locator
that addresses another member is not touched by a member that is put into a document, as long as the
keys of the document are written as before. They are written as they stand when all members are
scalars, and escaped otherwise; so the one thing to look out for is the first array or object in a
document of scalars. It leaves names without dots and backslashes alone, and moves the others to
their escaped names.
-/

namespace Crosswalk.Extraction

open Json

variable {front back : List (String × Json)} {key locator : String} {value : Json}

/-- Whether a locator is the flat key of a member or of something below it. -/
def LeadsTo (locator key : String) : Prop :=
  locator = escapeKey key ∨ (escapeKey key).toList ++ ['.'] <+: locator.toList

/-- Whether a locator names a member or leads to it. -/
def Addresses (locator key : String) : Prop :=
  locator = key ∨ LeadsTo locator key

instance (locator key : String) : Decidable (LeadsTo locator key) :=
  inferInstanceAs (Decidable (_ ∨ _))

instance (locator key : String) : Decidable (Addresses locator key) :=
  inferInstanceAs (Decidable (_ ∨ _))

theorem values_ofJson (document : Json) (locator : String) :
    (Source.ofJson false document).values locator =
      (Source.scalarAt? document.flatten locator).toList := by
  simp only [Source.ofJson, Source.flatText?]
  cases Source.scalarAt? document.flatten locator <;> rfl

theorem values_ofJson_congr {a b : Json} {p q : String}
    (h : a.flatten.get? p = b.flatten.get? q) :
    (Source.ofJson false a).values p = (Source.ofJson false b).values q := by
  rw [values_ofJson, values_ofJson, Source.scalarAt?, Source.scalarAt?, h]

/-- The keys of what a member holds lead to it. A member with the empty name is the exception: what
is below it has the key that it would have on its own. -/
theorem not_mem_keyedLeaves_member (hlocator : ¬ LeadsTo locator key)
    (hempty : key = "" → locator ∉ entryKeys (keyedLeaves value)) :
    locator ∉ entryKeys (keyedLeaves (.object [(key, value)])) := by
  intro hmem
  obtain ⟨⟨_, leaf⟩, hleaf, rfl⟩ := List.mem_map.mp hmem
  obtain ⟨⟨way, _⟩, hway, heq⟩ := List.mem_map.mp hleaf
  cases heq
  obtain ⟨name, held, rest, hmember, rfl, hrest⟩ := mem_memberWays.mp hway
  cases List.mem_singleton.mp hmember
  by_cases hkey : key.toList = []
  · apply hempty (String.toList_eq_nil_iff.mp hkey)
    have hsame : wayKey (key.toList :: rest) = wayKey rest := by
      rw [hkey, wayKey, writeWay_cons]
      rfl
    rw [hsame]
    exact List.mem_map_of_mem (List.mem_map_of_mem hrest)
  · cases rest with
    | nil => exact hlocator (Or.inl (wayKey_singleton key))
    | cons segment rest =>
      apply hlocator
      refine Or.inr ⟨escapeSegment segment ++ writeWay rest, ?_⟩
      simp [wayKey_cons hkey, writeWay_cons, escapeKey]

theorem get?_keyedLeaves_insert (hlocator : ¬ LeadsTo locator key)
    (hempty : key = "" → locator ∉ entryKeys (keyedLeaves value)) :
    (Table.ofList (keyedLeaves (.object (front ++ (key, value) :: back)))).get? locator =
      (Table.ofList (keyedLeaves (.object (front ++ back)))).get? locator := by
  have hsplit : front ++ (key, value) :: back = front ++ ([(key, value)] ++ back) := rfl
  rw [hsplit, keyedLeaves_append, keyedLeaves_append, keyedLeaves_append,
    Table.get?_ofList_insert (not_mem_keyedLeaves_member hlocator hempty)]

/-- A document that already holds an array or an object has its keys escaped, and goes on so. -/
theorem values_insert_of_mixed (hmixed : ¬ AllScalars (front ++ back))
    (hlocator : ¬ LeadsTo locator key)
    (hempty : key = "" → locator ∉ entryKeys (keyedLeaves value)) :
    (Source.ofJson false (.object (front ++ (key, value) :: back))).values locator =
      (Source.ofJson false (.object (front ++ back))).values locator := by
  have hafter : ¬ AllScalars (front ++ (key, value) :: back) :=
    fun hall => hmixed (allScalars_insert.mp hall).1
  apply values_ofJson_congr
  rw [flatten_object hmixed, flatten_object hafter, get?_keyedLeaves_insert hlocator hempty]

/-- A scalar among scalars stands under its name. -/
theorem values_insert_scalar (hflat : AllScalars (front ++ back)) (hvalue : value.isScalar = true)
    (hlocator : ¬ Addresses locator key) :
    (Source.ofJson false (.object (front ++ (key, value) :: back))).values locator =
      (Source.ofJson false (.object (front ++ back))).values locator := by
  have hne : locator ≠ key := fun heq => hlocator (Or.inl heq)
  have hkey : locator ∉ entryKeys [(key, value)] := by
    simpa [entryKeys] using hne
  apply values_ofJson_congr
  rw [flatten_object_of_allScalars hflat,
    flatten_object_of_allScalars (allScalars_insert.mpr ⟨hflat, hvalue⟩)]
  exact Table.get?_ofList_insert hkey

/-- The first array or object among scalars makes their names be escaped. -/
theorem get?_insert_container (hflat : AllScalars (front ++ back))
    (hvalue : value.isScalar = false) (hlocator : ¬ LeadsTo locator key)
    (hempty : key = "" → locator ∉ entryKeys (keyedLeaves value)) :
    (Json.object (front ++ (key, value) :: back)).flatten.get? locator =
      (Table.ofList ((front ++ back).map fun member =>
        (escapeKey member.1, member.2))).get? locator := by
  have hafter : ¬ AllScalars (front ++ (key, value) :: back) := by
    intro hall
    rw [(allScalars_insert.mp hall).2] at hvalue
    cases hvalue
  rw [flatten_object hafter, get?_keyedLeaves_insert hlocator hempty,
    keyedLeaves_of_allScalars hflat]

theorem values_insert_escaped (hflat : AllScalars (front ++ back))
    (hvalue : value.isScalar = false) {name : String}
    (hlocator : ¬ LeadsTo (escapeKey name) key)
    (hempty : key = "" → escapeKey name ∉ entryKeys (keyedLeaves value)) :
    (Source.ofJson false (.object (front ++ (key, value) :: back))).values (escapeKey name) =
      (Source.ofJson false (.object (front ++ back))).values name := by
  apply values_ofJson_congr
  rw [get?_insert_container hflat hvalue hlocator hempty, flatten_object_of_allScalars hflat,
    Table.get?_ofList_map escapeKey_inj]

theorem values_insert_unescaped (hflat : AllScalars (front ++ back))
    (hvalue : value.isScalar = false) (hname : ∀ name, locator ≠ escapeKey name)
    (hlocator : ¬ LeadsTo locator key)
    (hempty : key = "" → locator ∉ entryKeys (keyedLeaves value)) :
    (Source.ofJson false (.object (front ++ (key, value) :: back))).values locator = [] := by
  have habsent : locator ∉ entryKeys ((front ++ back).map fun member =>
      (escapeKey member.1, member.2)) := by
    intro hmem
    obtain ⟨_, hescaped, rfl⟩ := List.mem_map.mp hmem
    obtain ⟨member, -, rfl⟩ := List.mem_map.mp hescaped
    exact hname member.1 rfl
  have hnone := get?_insert_container hflat hvalue hlocator hempty
  rw [Table.get?_ofList_eq_none_iff.mpr habsent] at hnone
  rw [values_ofJson, Source.scalarAt?, hnone]
  rfl

/-- A member that is put into a document changes what a locator of other members finds only if it
is the first that is more than a scalar, and then only by escaping the names of the others. -/
theorem values_insert_member (front back : List (String × Json)) (key : String) (value : Json)
    (locator : String) (hlocator : ¬ Addresses locator key)
    (hempty : key = "" → locator ∉ entryKeys (keyedLeaves value)) :
    let before := Source.ofJson false (.object (front ++ back))
    let after := Source.ofJson false (.object (front ++ (key, value) :: back))
    (¬ AllScalars (front ++ back) ∨ value.isScalar = true →
      after.values locator = before.values locator) ∧
    ((∀ c ∈ locator.toList, c ≠ '.' ∧ c ≠ '\\') →
      after.values locator = before.values locator) ∧
    (AllScalars (front ++ back) ∧ value.isScalar = false →
      (∀ name, locator = escapeKey name → after.values locator = before.values name) ∧
      ((∀ name, locator ≠ escapeKey name) → after.values locator = [])) := by
  intro before after
  have hway : ¬ LeadsTo locator key := (not_or.mp hlocator).2
  have hkept : ¬ AllScalars (front ++ back) ∨ value.isScalar = true →
      after.values locator = before.values locator := by
    intro hcase
    by_cases hflat : AllScalars (front ++ back)
    · exact values_insert_scalar hflat (hcase.resolve_left (not_not.mpr hflat)) hlocator
    · exact values_insert_of_mixed hflat hway hempty
  have hescaped : AllScalars (front ++ back) ∧ value.isScalar = false →
      ∀ name, locator = escapeKey name → after.values locator = before.values name := by
    rintro ⟨hflat, hvalue⟩ name rfl
    exact values_insert_escaped hflat hvalue hway hempty
  refine ⟨hkept, ?_, fun hcase => ⟨hescaped hcase, fun hname => ?_⟩⟩
  · intro hplain
    by_cases hcase : AllScalars (front ++ back) ∧ value.isScalar = false
    · exact hescaped hcase locator (escapeKey_eq_self hplain).symm
    · apply hkept
      by_cases hflat : AllScalars (front ++ back)
      · exact Or.inr (Bool.not_eq_false _ ▸ fun hvalue => hcase ⟨hflat, hvalue⟩)
      · exact Or.inl hflat
  · exact values_insert_unescaped hcase.1 hcase.2 hname hway hempty

/-- A list that is put between two texts leaves a plain name alone, and has a name with a dot be
looked up by its escaped name. -/
theorem values_insert_subjects :
    let title := ("title", Json.text "Flora")
    let date := ("dc.date", Json.text "1859")
    let subjects := ("subjects", Json.array [.text "botany"])
    let before := Source.ofJson false (.object [title, date])
    let after := Source.ofJson false (.object [title, subjects, date])
    after.values "title" = before.values "title" ∧ before.values "title" = ["Flora"] ∧
      after.values "dc\\.date" = before.values "dc.date" ∧ before.values "dc.date" = ["1859"] := by
  intro title date subjects before after
  have htitle := values_insert_member [title] [date] "subjects" subjects.2 "title"
    (by decide +kernel) (by decide)
  have hdate := values_insert_member [title] [date] "subjects" subjects.2 "dc\\.date"
    (by decide +kernel) (by decide)
  have hflat : AllScalars ([title] ++ [date]) ∧ subjects.2.isScalar = false := by decide
  exact ⟨htitle.2.1 (by simp), by decide +kernel,
    (hdate.2.2 hflat).1 "dc.date" (by decide +kernel), by decide +kernel⟩

/-- A list among scalars hides a name with a dot; below an empty name it takes the place of another
member. -/
theorem values_insert_hides_name :
    let dotted := [("a.b", Json.text "1")]
    let indexed := [("0", Json.text "5")]
    (¬ Addresses "a.b" "x" ∧ "x" ∉ entryKeys dotted ∧
      (Source.ofJson false (.object dotted)).values "a.b" = ["1"] ∧
      (Source.ofJson false (.object (dotted ++ [("x", .array [.text "2"])]))).values "a.b" = []) ∧
    (¬ Addresses "0" "" ∧ "" ∉ entryKeys indexed ∧
      (Source.ofJson false (.object indexed)).values "0" = ["5"] ∧
      (Source.ofJson false (.object (indexed ++ [("", .array [.text "7"])]))).values "0" =
        ["7"]) := by
  decide +kernel

end Crosswalk.Extraction
