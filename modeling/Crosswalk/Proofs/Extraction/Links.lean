import Crosswalk.Extraction.Documents
import Crosswalk.Proofs.Extraction.Modes

/-!
Which links of an extraction are verified.

A text of a target for links is a reference to a resource. It fails when it names no number, when
there is no library to look the number up in, or when the look-up finds nothing; the value is
unresolved then, and keeps the text. Every other value that is a link carries the number of a
resource that a look-up of the same extraction found, for the kind of its data type.
-/

namespace Crosswalk.Extraction

open Mapping

/-- The data type of the values of a target. -/
def valueType (target : Target) : String := target.spec.dataType.getD Category.literal.name

/-- The ways in which a text fails to refer to a resource. -/
inductive FailsToRefer (e : Extractor) (dataType text : String) : Prop where
  | notNumeric (h : Text.unsigned? (Text.trim text.toList) = none)
  | noLibrary (h : e.library = none)
  | notFound (library : Host.Library) (id : Nat) (failure : Host.NotFound)
      (hlibrary : e.library = some library)
      (hid : Text.unsigned? (Text.trim text.toList) = some id)
      (h : library.find (linkedKind dataType) id = .error failure)

/-- A text that is to be a link and fails to refer to a resource. -/
structure IsBroken (e : Extractor) (target : Target) (text : String) : Prop where
  isLink : e.registry.categoryOf (valueType target) = .resource
  fails : FailsToRefer e (valueType target) text

/-- Whether the resource that a value links to, if it does, was found by one of some look-ups: in
the library of the extraction, and for the kind of the value. -/
def IsLinked (e : Extractor) (reads : List Read) (v : Value) : Prop :=
  ∀ id, v.content = .resource id → ∃ read ∈ reads, ∃ library resource,
    e.library = some library ∧ read.kind = linkedKind v.dataType ∧
      library.find read.kind read.id = .ok resource ∧ read.outcome = .ok resource ∧
      resource.id = id

variable {e : Extractor} {target : Target} {text : String}

theorem IsLinked.mono {reads more : List Read} {v : Value} (h : IsLinked e reads v)
    (hsubset : reads ⊆ more) : IsLinked e more v := by
  intro id hid
  obtain ⟨read, hread, hfound⟩ := h id hid
  exact ⟨read, hsubset hread, hfound⟩

/-- What a look-up that is made has found and reported. -/
theorem lookUp_eq_some {dataType : String} {read : Read}
    (h : e.lookUp dataType text = some read) :
    ∃ library id, e.library = some library ∧ Text.unsigned? (Text.trim text.toList) = some id ∧
      read = ⟨linkedKind dataType, id, library.find (linkedKind dataType) id⟩ := by
  rw [Extractor.lookUp] at h
  split at h
  · rename_i id library hid hlibrary
    exact ⟨library, id, hlibrary, hid, (Option.some.inj h).symm⟩
  · cases h

theorem lookUp_eq_none {dataType : String} (h : e.lookUp dataType text = none) :
    FailsToRefer e dataType text := by
  rw [Extractor.lookUp] at h
  cases hid : Text.unsigned? (Text.trim text.toList) with
  | none => exact .notNumeric hid
  | some id =>
    cases hlibrary : e.library with
    | none => exact .noLibrary hlibrary
    | some library => simp [hid, hlibrary] at h

/-- The content of a link is what its look-up found, or the text itself. -/
theorem linkContent_cases (e : Extractor) (dataType text : String) :
    (∃ read resource, e.lookUp dataType text = some read ∧ read.outcome = .ok resource ∧
      Extractor.linkContent (e.lookUp dataType text) text = .resource resource.id) ∨
    (FailsToRefer e dataType text ∧
      Extractor.linkContent (e.lookUp dataType text) text = .unresolved text) := by
  cases hread : e.lookUp dataType text with
  | none => exact .inr ⟨lookUp_eq_none hread, rfl⟩
  | some read =>
    obtain ⟨library, id, hlibrary, hid, rfl⟩ := lookUp_eq_some hread
    cases hfind : library.find (linkedKind dataType) id with
    | ok resource => exact .inl ⟨_, resource, rfl, rfl, rfl⟩
    | error failure => exact .inr ⟨.notFound library id failure hlibrary hid hfind, rfl⟩

/-- A look-up that found a resource is none of a text that fails to refer. -/
theorem not_failsToRefer {dataType : String} {read : Read} {resource : Host.Resource}
    (hread : e.lookUp dataType text = some read) (hfound : read.outcome = .ok resource) :
    ¬ FailsToRefer e dataType text := by
  obtain ⟨library, id, hlibrary, hid, rfl⟩ := lookUp_eq_some hread
  intro h
  cases h with
  | notNumeric h => simp [hid] at h
  | noLibrary h => simp [hlibrary] at h
  | notFound other number failure hother hnumber h =>
    rw [hlibrary] at hother
    rw [hid] at hnumber
    cases hother
    cases hnumber
    have hboth := h.symm.trans hfound
    cases hboth

theorem content_shape_of_not_link (h : e.registry.categoryOf (valueType target) ≠ .resource) :
    (e.shape target text).1.content = .literal text ∨
      (e.shape target text).1.content = .uri text := by
  simp only [valueType] at h
  simp only [Extractor.shape]
  cases hcategory : e.registry.categoryOf (target.spec.dataType.getD Category.literal.name) with
  | literal => exact .inl rfl
  | uri => exact .inr rfl
  | resource => exact absurd hcategory h

theorem shape_of_link (h : e.registry.categoryOf (valueType target) = .resource) :
    (e.shape target text).1.content =
        Extractor.linkContent (e.lookUp (valueType target) text) text ∧
      (e.shape target text).2 = e.lookUp (valueType target) text := by
  simp only [valueType] at h ⊢
  simp only [Extractor.shape, h, if_true, and_self]

/-- What a text comes to: an unresolved value if it is a broken link, and otherwise one whose link,
if it is one, has just been looked up. -/
theorem shape_cases (e : Extractor) (target : Target) (text : String) :
    (IsBroken e target text ∧ (e.shape target text).1.content = .unresolved text) ∨
    (¬ IsBroken e target text ∧ (e.shape target text).1.isUnresolved = false ∧
      IsLinked e (e.shape target text).2.toList (e.shape target text).1) := by
  by_cases hlink : e.registry.categoryOf (valueType target) = .resource
  · obtain ⟨hcontent, hread⟩ := @shape_of_link e target text hlink
    rcases linkContent_cases e (valueType target) text with
      ⟨read, resource, hlookUp, hfound, hresource⟩ | ⟨hfails, hunresolved⟩
    · refine .inr ⟨?_, ?_, ?_⟩
      · intro hbroken
        exact not_failsToRefer hlookUp hfound hbroken.fails
      · rw [Value.isUnresolved, hcontent, hresource]
      · intro id hid
        rw [hcontent, hresource] at hid
        cases hid
        obtain ⟨library, id, hlibrary, -, rfl⟩ := lookUp_eq_some hlookUp
        exact ⟨_, by simp [hread, hlookUp], library, resource, hlibrary, rfl, hfound, hfound, rfl⟩
    · exact .inl ⟨⟨hlink, hfails⟩, hcontent.trans hunresolved⟩
  · refine .inr ⟨fun hbroken => hlink hbroken.isLink, ?_, ?_⟩
    · rcases @content_shape_of_not_link e target text hlink with hcontent | hcontent <;>
        rw [Value.isUnresolved, hcontent]
    · intro id hid
      rcases @content_shape_of_not_link e target text hlink with hcontent | hcontent <;>
        cases hcontent.symm.trans hid

theorem isUnresolved_shape_iff :
    (e.shape target text).1.isUnresolved = true ↔ IsBroken e target text := by
  rcases shape_cases e target text with ⟨hbroken, hcontent⟩ | ⟨hsound, hresolved, -⟩
  · simp [hbroken, Value.isUnresolved, hcontent]
  · simp [hsound, hresolved]

instance (e : Extractor) (target : Target) : DecidablePred (IsBroken e target) := fun _ =>
  decidable_of_iff _ isUnresolved_shape_iff

theorem isLinked_shape : IsLinked e (e.shape target text).2.toList (e.shape target text).1 := by
  rcases shape_cases e target text with ⟨-, hcontent⟩ | ⟨-, -, hlinked⟩
  · intro id hid
    cases hcontent.symm.trans hid
  · exact hlinked

variable (e : Extractor) (source : Source) (rule : Rule) (rules : List Rule) (term : String)

/-- The texts of a rule that make values: all that are not empty. -/
def valueTexts : List String := (texts source rule).filter (· ≠ "")

/-- The value that a rule makes of a text. -/
def valueOf (text : String) : Value := (e.shape rule.target text).1

/-- Under a term stand the values of the rules that fill it, in order. -/
theorem get_run_eq_flatMap :
    (run e source rules).get term =
      (rules.filter (fillsTerm term)).flatMap fun rule =>
        (valueTexts source rule).map (valueOf e rule) := by
  have hrule : ∀ rule ∈ rules.filter (fillsTerm term),
      valuesUnder term (ruleEntries e source rule) =
        (valueTexts source rule).map (valueOf e rule) := by
    intro rule hmem
    have hfills := (List.mem_filter.mp hmem).2
    simp only [fillsTerm, fillsField, Bool.and_eq_true, decide_eq_true_eq] at hfills
    rw [ruleEntries_of_field e source hfills.1, shapedTexts, listedTexts_eq_texts, valuesUnder,
      ← hfills.2, List.filter_map, List.map_map, valueTexts]
    simp [Function.comp_def, valueOf]
  rw [get_run, ← flatMap_filter_of_nil (fun _ => valuesUnder_of_not_fills e source term),
    List.flatMap_congr hrule]

/-- Without broken links there are the values of the texts that are none. -/
theorem filter_get_run :
    ((run e source rules).get term).filter (!·.isUnresolved) =
      (rules.filter (fillsTerm term)).flatMap fun rule =>
        ((valueTexts source rule).filter fun text => ¬ IsBroken e rule.target text).map
          (valueOf e rule) := by
  rw [get_run_eq_flatMap, List.filter_flatMap]
  apply List.flatMap_congr
  intro rule _
  rw [List.filter_map]
  congr 1
  apply List.filter_congr
  intro text _
  rw [Bool.eq_iff_iff]
  simp [valueOf, ← isUnresolved_shape_iff]

/-- What a run links to, it has looked up. -/
theorem isLinked_of_mem_run {term : String} {v : Value} (h : v ∈ (run e source rules).get term) :
    IsLinked e (readsOf (outcomes e source rules)) v := by
  rw [get_run_eq_flatMap, List.mem_flatMap] at h
  obtain ⟨rule, hrule, hv⟩ := h
  obtain ⟨text, htext, rfl⟩ := List.mem_map.mp hv
  obtain ⟨hmem, hfills⟩ := List.mem_filter.mp hrule
  obtain ⟨htext, hne⟩ := List.mem_filter.mp htext
  apply isLinked_shape.mono
  intro read hread
  have houtcome : outcome e rule text =
      .value rule.target.field (e.shape rule.target text).1 (some read) := by
    simp only [fillsTerm, fillsField, Bool.and_eq_true, decide_eq_true_eq] at hfills
    rw [← Option.mem_toList.mp hread]
    simp [outcome, hfills.1, by simpa using hne]
  have hlisted : outcome e rule text ∈ outcomes e source rules :=
    List.mem_flatMap.mpr ⟨rule, hmem, List.mem_map_of_mem htext⟩
  rw [houtcome] at hlisted
  exact List.mem_filterMap.mpr ⟨_, hlisted, rfl⟩

end Crosswalk.Extraction
