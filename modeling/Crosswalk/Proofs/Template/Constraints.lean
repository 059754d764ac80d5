import Mathlib.Data.List.Pairwise
import Crosswalk.Template.Validation

/-!
What a template demands of a payload, and what checking it reports.

A constraint can be broken at a property as a whole or at one of its values. Checking reports every
broken constraint once: property by property, at each one first what is wrong with it as a whole and
then value by value. So nothing is reported exactly when every property is met.
-/

namespace Crosswalk.Template

/-- The text of a value, if it has one. -/
def textOf? (value : Json) : Option String := (value.member? "@value").bind Json.asText?

variable {registry : Host.Registry} {p : Property} {values : List Json}

theorem mem_toList_map {α : Type} {o : Option Nat} {keep : Nat → Bool} {make : Nat → α} {a : α} :
    a ∈ ((o.filter keep).map make).toList ↔ ∃ n, o = some n ∧ keep n = true ∧ a = make n := by
  simp only [Option.mem_toList, Option.map_eq_some_iff, Option.filter_eq_some_iff, and_assoc,
    eq_comm (a := a)]

theorem mem_countViolations {count : Nat} {v : Violation} :
    v ∈ countViolations p count ↔
      (∃ least, p.minValues = some least ∧ count < least ∧ v = .tooFewValues p.term least count) ∨
        ∃ most, p.maxValues = some most ∧ most < count ∧ v = .tooManyValues p.term most count := by
  rw [countViolations, List.mem_append, mem_toList_map, mem_toList_map]
  simp only [decide_eq_true_eq]

theorem mem_typeViolations {value : Json} {v : Violation} :
    v ∈ typeViolations registry p value ↔ registry.has (Value.storedType value) = false ∧
      v = .unknownDataType p.term (Value.storedType value) := by
  rw [typeViolations]
  cases registry.has (Value.storedType value) <;> simp

theorem flatMap_zipIdx {α β : Type} (list : List α) (f : α → List β) (n : Nat) :
    (list.zipIdx n).flatMap (fun entry => f entry.1) = list.flatMap f := by
  induction list generalizing n with
  | nil => rfl
  | cons a rest ih => rw [List.zipIdx_cons, List.flatMap_cons, List.flatMap_cons, ih]

variable [Pattern.Compiler]

/-- A constraint of a property that its values break: at the property as a whole, or at the value of
a number. -/
inductive Property.Breaks (registry : Host.Registry) (p : Property) (values : List Json) :
    Option Nat → Violation → Prop
  | required (hvalues : values = []) (h : p.isRequired = true) :
    Breaks registry p values none (.required p.term)
  | tooFewValues {least : Nat} (hvalues : values ≠ []) (h : p.minValues = some least)
    (hcount : values.length < least) :
    Breaks registry p values none (.tooFewValues p.term least values.length)
  | tooManyValues {most : Nat} (hvalues : values ≠ []) (h : p.maxValues = some most)
    (hcount : most < values.length) :
    Breaks registry p values none (.tooManyValues p.term most values.length)
  | invalidInputControl {pattern : String} (hvalues : values ≠ [])
    (h : nonBlank? p.inputControl = some pattern) (hread : Pattern.readAnchored? pattern = none) :
    Breaks registry p values none (.invalidInputControl p.term pattern)
  | unknownDataType {i : Nat} {value : Json} (hvalue : values[i]? = some value)
    (h : registry.has (Value.storedType value) = false) :
    Breaks registry p values (some i) (.unknownDataType p.term (Value.storedType value))
  | tooShort {i least : Nat} {value : Json} {text : String} (hvalue : values[i]? = some value)
    (htext : textOf? value = some text) (h : p.minLength = some least)
    (hlength : text.length < least) :
    Breaks registry p values (some i) (.tooShort p.term text least)
  | tooLong {i most : Nat} {value : Json} {text : String} (hvalue : values[i]? = some value)
    (htext : textOf? value = some text) (h : p.maxLength = some most)
    (hlength : most < text.length) :
    Breaks registry p values (some i) (.tooLong p.term text most)
  | inputControl {i : Nat} {value : Json} {text pattern : String} {form : Pattern}
    (hvalue : values[i]? = some value) (htext : textOf? value = some text)
    (h : nonBlank? p.inputControl = some pattern)
    (hread : Pattern.readAnchored? pattern = some form) (hfound : form.isFoundIn text = false) :
    Breaks registry p values (some i) (.inputControl p.term text pattern)

/-- A text is as long as a property demands and has the form that it demands. -/
structure Property.IsMetByText (p : Property) (text : String) : Prop where
  minLength : ∀ least, p.minLength = some least → least ≤ text.length
  maxLength : ∀ most, p.maxLength = some most → text.length ≤ most
  inputControl : ∀ pattern form, nonBlank? p.inputControl = some pattern →
    Pattern.readAnchored? pattern = some form → form.isFoundIn text = true

/-- Some values are as many as a property demands, and each of them is as it demands. -/
structure Property.IsMetByValues (registry : Host.Registry) (p : Property) (values : List Json) :
    Prop where
  minValues : ∀ least, p.minValues = some least → least ≤ values.length
  maxValues : ∀ most, p.maxValues = some most → values.length ≤ most
  inputControl : ∀ pattern, nonBlank? p.inputControl = some pattern →
    ∃ form, Pattern.readAnchored? pattern = some form
  dataTypes : ∀ value ∈ values, registry.has (Value.storedType value) = true
  texts : ∀ value ∈ values, ∀ text, textOf? value = some text → p.IsMetByText text

/-- The values of a property are as it demands; there need be none if it is not required. -/
def Property.IsMet (registry : Host.Registry) (p : Property) (values : List Json) : Prop :=
  values = [] ∧ p.isRequired = false ∨ values ≠ [] ∧ p.IsMetByValues registry values

theorem mem_controlViolations {v : Violation} :
    v ∈ controlViolations p p.control ↔ ∃ pattern, nonBlank? p.inputControl = some pattern ∧
      Pattern.readAnchored? pattern = none ∧ v = .invalidInputControl p.term pattern := by
  rw [Property.control]
  cases hpattern : nonBlank? p.inputControl with
  | none => simp [controlViolations]
  | some pattern =>
    cases hread : Pattern.readAnchored? pattern with
    | none => simp [controlViolations, hread]
    | some form => simp [controlViolations, hread]

theorem mem_textViolations {text : String} {v : Violation} :
    v ∈ textViolations p p.control text ↔
      (∃ least, p.minLength = some least ∧ text.length < least ∧ v = .tooShort p.term text least) ∨
        (∃ most, p.maxLength = some most ∧ most < text.length ∧
          v = .tooLong p.term text most) ∨
        ∃ pattern form, nonBlank? p.inputControl = some pattern ∧
          Pattern.readAnchored? pattern = some form ∧ form.isFoundIn text = false ∧
          v = .inputControl p.term text pattern := by
  unfold textViolations Property.control
  rw [List.mem_append, List.mem_append, mem_toList_map, mem_toList_map, or_assoc]
  simp only [decide_eq_true_eq]
  refine or_congr_right (or_congr_right ?_)
  cases hpattern : nonBlank? p.inputControl with
  | none => simp
  | some pattern =>
    cases hread : Pattern.readAnchored? pattern with
    | none => simp [hread]
    | some form => cases hfound : form.isFoundIn text <;> simp [hread, hfound]

theorem mem_valueViolations {value : Json} {v : Violation} :
    v ∈ valueViolations registry p p.control value ↔ v ∈ typeViolations registry p value ∨
      ∃ text, textOf? value = some text ∧ v ∈ textViolations p p.control text := by
  rw [valueViolations, List.mem_append, ← textOf?]
  cases textOf? value <;> simp

/-- The violations of a property, each with the number of its value. -/
def Property.reports (registry : Host.Registry) (p : Property) (values : List Json) :
    List (Option Nat × Violation) :=
  match values with
  | [] => if p.isRequired then [(none, .required p.term)] else []
  | values =>
    (countViolations p values.length ++ controlViolations p p.control).map (none, ·) ++
      values.zipIdx.flatMap fun (value, i) =>
        (valueViolations registry p p.control value).map (some i, ·)

theorem reports_of_ne_nil (h : values ≠ []) :
    p.reports registry values =
      (countViolations p values.length ++ controlViolations p p.control).map (none, ·) ++
        values.zipIdx.flatMap fun (value, i) =>
          (valueViolations registry p p.control value).map (some i, ·) := by
  cases values with
  | nil => exact absurd rfl h
  | cons value rest => rfl

theorem propertyViolations_of_ne_nil (h : values ≠ []) :
    propertyViolations registry p values =
      countViolations p values.length ++ controlViolations p p.control ++
        values.flatMap (valueViolations registry p p.control) := by
  cases values with
  | nil => exact absurd rfl h
  | cons value rest => rfl

/-- The reports of a property are its violations, in the order in which they are found. -/
theorem map_snd_reports :
    (p.reports registry values).map Prod.snd = propertyViolations registry p values := by
  by_cases hvalues : values = []
  · rw [hvalues, Property.reports, propertyViolations]
    split <;> rfl
  · rw [reports_of_ne_nil hvalues, propertyViolations_of_ne_nil hvalues, List.map_append,
      List.map_map, List.map_flatMap]
    have hvalue := flatMap_zipIdx values (valueViolations registry p p.control) 0
    simp only [List.map_map, Function.comp_def, List.map_id'] at hvalue ⊢
    rw [hvalue]

/-- At a property with values as a whole, what is found are the constraints that it breaks. -/
theorem breaks_whole_iff (hvalues : values ≠ []) {v : Violation} :
    v ∈ countViolations p values.length ++ controlViolations p p.control ↔
      p.Breaks registry values none v := by
  rw [List.mem_append, mem_countViolations, mem_controlViolations]
  constructor
  · rintro ((⟨least, h, hlt, rfl⟩ | ⟨most, h, hlt, rfl⟩) | ⟨pattern, h, hread, rfl⟩)
    · exact .tooFewValues hvalues h hlt
    · exact .tooManyValues hvalues h hlt
    · exact .invalidInputControl hvalues h hread
  · intro h
    cases h with
    | required hempty => exact absurd hempty hvalues
    | tooFewValues _ h hlt => exact Or.inl (Or.inl ⟨_, h, hlt, rfl⟩)
    | tooManyValues _ h hlt => exact Or.inl (Or.inr ⟨_, h, hlt, rfl⟩)
    | invalidInputControl _ h hread => exact Or.inr ⟨_, h, hread, rfl⟩

/-- At a value, what is found are the constraints that it breaks. -/
theorem breaks_value_iff {i : Nat} {value : Json} (hvalue : values[i]? = some value)
    {v : Violation} :
    v ∈ valueViolations registry p p.control value ↔ p.Breaks registry values (some i) v := by
  rw [mem_valueViolations, mem_typeViolations]
  constructor
  · rintro (⟨h, rfl⟩ | ⟨text, htext, hmem⟩)
    · exact .unknownDataType hvalue h
    · rcases mem_textViolations.mp hmem with
        ⟨least, h, hlt, rfl⟩ | ⟨most, h, hlt, rfl⟩ | ⟨pattern, form, h, hread, hfound, rfl⟩
      · exact .tooShort hvalue htext h hlt
      · exact .tooLong hvalue htext h hlt
      · exact .inputControl hvalue htext h hread hfound
  · intro h
    cases h with
    | unknownDataType hother h =>
      cases hvalue.symm.trans hother
      exact Or.inl ⟨h, rfl⟩
    | tooShort hother htext h hlt =>
      cases hvalue.symm.trans hother
      exact Or.inr ⟨_, htext, mem_textViolations.mpr (Or.inl ⟨_, h, hlt, rfl⟩)⟩
    | tooLong hother htext h hlt =>
      cases hvalue.symm.trans hother
      exact Or.inr ⟨_, htext, mem_textViolations.mpr (Or.inr (Or.inl ⟨_, h, hlt, rfl⟩))⟩
    | inputControl hother htext h hread hfound =>
      cases hvalue.symm.trans hother
      exact Or.inr ⟨_, htext,
        mem_textViolations.mpr (Or.inr (Or.inr ⟨_, _, h, hread, hfound, rfl⟩))⟩

theorem Property.Breaks.exists_value {i : Nat} {v : Violation}
    (h : p.Breaks registry values (some i) v) : ∃ value, values[i]? = some value := by
  cases h with
  | unknownDataType hvalue => exact ⟨_, hvalue⟩
  | tooShort hvalue => exact ⟨_, hvalue⟩
  | tooLong hvalue => exact ⟨_, hvalue⟩
  | inputControl hvalue => exact ⟨_, hvalue⟩

theorem breaks_nil_iff {place : Option Nat} {v : Violation} :
    p.Breaks registry [] place v ↔
      p.isRequired = true ∧ place = none ∧ v = .required p.term := by
  constructor
  · intro h
    cases place with
    | some i =>
      obtain ⟨value, hvalue⟩ := h.exists_value
      cases hvalue
    | none =>
      cases h with
      | required _ hrequired => exact ⟨hrequired, rfl, rfl⟩
      | tooFewValues hne => exact absurd rfl hne
      | tooManyValues hne => exact absurd rfl hne
      | invalidInputControl hne => exact absurd rfl hne
  · rintro ⟨hrequired, rfl, rfl⟩
    exact .required rfl hrequired

/-- What is reported of a property are the constraints that its values break, and no others. -/
theorem mem_reports_iff {place : Option Nat} {v : Violation} :
    (place, v) ∈ p.reports registry values ↔ p.Breaks registry values place v := by
  by_cases hvalues : values = []
  · rw [hvalues, Property.reports, breaks_nil_iff]
    cases p.isRequired <;> simp
  · rw [reports_of_ne_nil hvalues, List.mem_append, List.mem_map, List.mem_flatMap]
    constructor
    · rintro (⟨w, hw, heq⟩ | ⟨⟨value, i⟩, hentry, hmem⟩)
      · cases heq
        exact (breaks_whole_iff hvalues).mp hw
      · obtain ⟨w, hw, heq⟩ := List.mem_map.mp hmem
        cases heq
        exact (breaks_value_iff (List.mk_mem_zipIdx_iff_getElem?.mp hentry)).mp hw
    · intro h
      cases place with
      | none => exact Or.inl ⟨v, (breaks_whole_iff hvalues).mpr h, rfl⟩
      | some i =>
        obtain ⟨value, hvalue⟩ := h.exists_value
        exact Or.inr ⟨(value, i), List.mk_mem_zipIdx_iff_getElem?.mpr hvalue,
          List.mem_map.mpr ⟨v, (breaks_value_iff hvalue).mpr h, rfl⟩⟩

theorem Property.IsMet.not_breaks (h : p.IsMet registry values) {place : Option Nat}
    {v : Violation} : ¬ p.Breaks registry values place v := by
  intro hbreaks
  rcases h with ⟨rfl, hrequired⟩ | ⟨hvalues, hmet⟩
  · rw [breaks_nil_iff, hrequired] at hbreaks
    exact absurd hbreaks.1 Bool.false_ne_true
  · cases hbreaks with
    | required hempty => exact hvalues hempty
    | tooFewValues _ h hlt => exact absurd (hmet.minValues _ h) (Nat.not_le.mpr hlt)
    | tooManyValues _ h hlt => exact absurd (hmet.maxValues _ h) (Nat.not_le.mpr hlt)
    | invalidInputControl _ h hread =>
      obtain ⟨form, hform⟩ := hmet.inputControl _ h
      cases hread.symm.trans hform
    | unknownDataType hvalue h =>
      rw [hmet.dataTypes _ (List.mem_of_getElem? hvalue)] at h
      cases h
    | tooShort hvalue htext h hlt =>
      have htext := hmet.texts _ (List.mem_of_getElem? hvalue) _ htext
      exact absurd (htext.minLength _ h) (Nat.not_le.mpr hlt)
    | tooLong hvalue htext h hlt =>
      have htext := hmet.texts _ (List.mem_of_getElem? hvalue) _ htext
      exact absurd (htext.maxLength _ h) (Nat.not_le.mpr hlt)
    | inputControl hvalue htext h hread hfound =>
      have htext := hmet.texts _ (List.mem_of_getElem? hvalue) _ htext
      rw [htext.inputControl _ _ h hread] at hfound
      cases hfound

theorem isMetByText_of_not_breaks {i : Nat} {value : Json} {text : String}
    (hvalue : values[i]? = some value) (htext : textOf? value = some text)
    (h : ∀ v, ¬ p.Breaks registry values (some i) v) : p.IsMetByText text where
  minLength least hleast := by
    by_contra hlt
    exact h _ (.tooShort hvalue htext hleast (Nat.not_le.mp hlt))
  maxLength most hmost := by
    by_contra hlt
    exact h _ (.tooLong hvalue htext hmost (Nat.not_le.mp hlt))
  inputControl pattern form hpattern hread := by
    by_contra hfound
    exact h _ (.inputControl hvalue htext hpattern hread (by simpa using hfound))

theorem isMetByValues_of_not_breaks (hvalues : values ≠ [])
    (h : ∀ place v, ¬ p.Breaks registry values place v) : p.IsMetByValues registry values where
  minValues least hleast := by
    by_contra hlt
    exact h none _ (.tooFewValues hvalues hleast (Nat.not_le.mp hlt))
  maxValues most hmost := by
    by_contra hlt
    exact h none _ (.tooManyValues hvalues hmost (Nat.not_le.mp hlt))
  inputControl pattern hpattern := by
    cases hread : Pattern.readAnchored? pattern with
    | some form => exact ⟨form, rfl⟩
    | none => exact absurd (.invalidInputControl hvalues hpattern hread) (h none _)
  dataTypes value hmem := by
    obtain ⟨i, hvalue⟩ := List.mem_iff_getElem?.mp hmem
    by_contra hhas
    exact h (some i) _ (.unknownDataType hvalue (by simpa using hhas))
  texts value hmem text htext := by
    obtain ⟨i, hvalue⟩ := List.mem_iff_getElem?.mp hmem
    exact isMetByText_of_not_breaks hvalue htext (h (some i))

/-- Nothing is broken exactly when the property is met. -/
theorem isMet_iff :
    p.IsMet registry values ↔ ∀ place v, ¬ p.Breaks registry values place v := by
  refine ⟨fun h place v => h.not_breaks, fun h => ?_⟩
  by_cases hvalues : values = []
  · subst hvalues
    refine Or.inl ⟨rfl, ?_⟩
    by_contra hrequired
    exact h none _ (.required rfl (by simpa using hrequired))
  · exact Or.inr ⟨hvalues, isMetByValues_of_not_breaks hvalues h⟩

end Crosswalk.Template
