import Crosswalk.Proofs.Template.Constraints

/-!
The order in which violations are reported, and what they depend on.

The reports of a template stand in the order of properties, then of values, then of kinds, so no two
of them are equal. They are the constraints that are broken, and they depend on nothing but the
lists of values under the terms of the template.
-/

namespace Crosswalk.Template

/-- A violation with the number of its property in the template and, if it is one of a value, the
number of the value. -/
structure Report where
  property : Nat
  value : Option Nat
  violation : Violation

/-- The place of a violation among those of one property as a whole or of one value. -/
def Violation.rank : Violation → Nat
  | .required .. => 0
  | .tooFewValues .. => 1
  | .tooManyValues .. => 2
  | .invalidInputControl .. => 3
  | .unknownDataType .. => 4
  | .tooShort .. => 5
  | .tooLong .. => 6
  | .inputControl .. => 7

/-- Whether a report comes before another: by property, then by value with the property as a whole
first, then by the kind of violation. -/
def Report.IsBefore (a b : Report) : Prop :=
  a.property < b.property ∨ a.property = b.property ∧
    (a.value < b.value ∨ a.value = b.value ∧ a.violation.rank < b.violation.rank)

variable {registry : Host.Registry} {p : Property} {values : List Json}

theorem pairwise_toList {α : Type} (R : α → α → Prop) (o : Option α) : o.toList.Pairwise R := by
  cases o with
  | none => exact List.Pairwise.nil
  | some a => exact List.pairwise_singleton R a

/-- Lists found one after the other for the elements of a list are in order together, if each is in
order and those of later elements come later. -/
theorem pairwise_flatMap_zipIdx {α β : Type} {R : β → β → Prop} {f : α × Nat → List β}
    (list : List α) (hinner : ∀ entry ∈ list.zipIdx, (f entry).Pairwise R)
    (houter : ∀ a b : α × Nat, a.2 < b.2 → ∀ x ∈ f a, ∀ y ∈ f b, R x y) :
    (list.zipIdx.flatMap f).Pairwise R := by
  have hindex : list.zipIdx.Pairwise fun a b => a.2 < b.2 := by
    rw [← List.pairwise_map (f := Prod.snd), List.zipIdx_map_snd]
    exact List.pairwise_lt_range'
  exact List.pairwise_flatMap.mpr ⟨hinner, hindex.imp fun hlt => houter _ _ hlt⟩

section Compiler

variable [Pattern.Compiler]

theorem pairwise_whole (count : Nat) :
    (countViolations p count ++ controlViolations p p.control).Pairwise fun a b =>
      a.rank < b.rank := by
  have hcontrol : (controlViolations p p.control).Pairwise fun a b => a.rank < b.rank := by
    cases p.control with
    | invalid pattern => exact List.pairwise_singleton _ _
    | none => exact List.Pairwise.nil
    | form pattern form => exact List.Pairwise.nil
  have hcount : (countViolations p count).Pairwise fun a b => a.rank < b.rank := by
    refine List.pairwise_append.mpr ⟨pairwise_toList _ _, pairwise_toList _ _, ?_⟩
    intro a ha b hb
    obtain ⟨least, -, -, rfl⟩ := mem_toList_map.mp ha
    obtain ⟨most, -, -, rfl⟩ := mem_toList_map.mp hb
    simp [Violation.rank]
  refine List.pairwise_append.mpr ⟨hcount, hcontrol, fun a ha b hb => ?_⟩
  obtain ⟨pattern, -, -, rfl⟩ := mem_controlViolations.mp hb
  rcases mem_countViolations.mp ha with ⟨least, -, -, rfl⟩ | ⟨most, -, -, rfl⟩
  · simp [Violation.rank]
  · simp [Violation.rank]

theorem pairwise_textViolations (text : String) :
    (textViolations p p.control text).Pairwise fun a b => a.rank < b.rank := by
  unfold textViolations
  generalize p.control = control
  refine List.pairwise_append.mpr ⟨?_, ?_, ?_⟩
  · refine List.pairwise_append.mpr ⟨pairwise_toList _ _, pairwise_toList _ _, ?_⟩
    intro a ha b hb
    obtain ⟨least, -, -, rfl⟩ := mem_toList_map.mp ha
    obtain ⟨most, -, -, rfl⟩ := mem_toList_map.mp hb
    simp [Violation.rank]
  · split
    · split
      · exact List.Pairwise.nil
      · exact List.pairwise_singleton _ _
    · exact List.Pairwise.nil
  · intro a ha b hb
    have hrank : b.rank = 7 := by
      split at hb
      · split at hb
        · cases hb
        · rw [List.mem_singleton.mp hb, Violation.rank]
      · cases hb
    rw [hrank]
    rcases List.mem_append.mp ha with hshort | hlong
    · obtain ⟨least, -, -, rfl⟩ := mem_toList_map.mp hshort
      simp [Violation.rank]
    · obtain ⟨most, -, -, rfl⟩ := mem_toList_map.mp hlong
      simp [Violation.rank]

theorem pairwise_valueViolations (value : Json) :
    (valueViolations registry p p.control value).Pairwise fun a b => a.rank < b.rank := by
  unfold valueViolations
  rw [← textOf?]
  refine List.pairwise_append.mpr ⟨?_, ?_, ?_⟩
  · unfold typeViolations
    dsimp only
    split
    · exact List.Pairwise.nil
    · exact List.pairwise_singleton _ _
  · split
    · exact pairwise_textViolations _
    · exact List.Pairwise.nil
  · intro a ha b hb
    obtain ⟨-, rfl⟩ := mem_typeViolations.mp ha
    split at hb
    · rcases mem_textViolations.mp hb with
        ⟨least, -, -, rfl⟩ | ⟨most, -, -, rfl⟩ | ⟨pattern, form, -, -, -, rfl⟩
      · simp [Violation.rank]
      · simp [Violation.rank]
      · simp [Violation.rank]
    · cases hb

theorem pairwise_reports :
    (p.reports registry values).Pairwise fun a b =>
      a.1 < b.1 ∨ a.1 = b.1 ∧ a.2.rank < b.2.rank := by
  by_cases hvalues : values = []
  · rw [hvalues, Property.reports]
    split
    · exact List.pairwise_singleton _ _
    · exact List.Pairwise.nil
  · rw [reports_of_ne_nil hvalues]
    refine List.pairwise_append.mpr ⟨?_, pairwise_flatMap_zipIdx values ?_ ?_, ?_⟩
    · exact List.pairwise_map.mpr ((pairwise_whole _).imp fun h => Or.inr ⟨rfl, h⟩)
    · rintro ⟨value, i⟩ -
      exact List.pairwise_map.mpr ((pairwise_valueViolations value).imp fun h => Or.inr ⟨rfl, h⟩)
    · rintro ⟨value, i⟩ ⟨other, j⟩ hlt x hx y hy
      obtain ⟨v, -, rfl⟩ := List.mem_map.mp hx
      obtain ⟨w, -, rfl⟩ := List.mem_map.mp hy
      exact Or.inl (by simpa using hlt)
    · intro a ha b hb
      obtain ⟨v, -, rfl⟩ := List.mem_map.mp ha
      obtain ⟨⟨value, i⟩, -, hmem⟩ := List.mem_flatMap.mp hb
      obtain ⟨w, -, rfl⟩ := List.mem_map.mp hmem
      exact Or.inl (by simp)

/-- The violations by a payload, each with its property and its value. -/
def reports (registry : Host.Registry) (t : Template) (payload : Json) : List Report :=
  t.properties.zipIdx.flatMap fun (p, k) =>
    (p.reports registry (storedValues payload p.term)).map fun (value, violation) =>
      ⟨k, value, violation⟩

variable {t : Template} {payload : Json}

theorem map_violation_reports :
    (reports registry t payload).map Report.violation = validate registry t payload := by
  rw [reports, List.map_flatMap, validate]
  have hproperties := flatMap_zipIdx t.properties
    (fun p => propertyViolations registry p (storedValues payload p.term)) 0
  rw [← hproperties]
  refine congrArg (List.flatMap · _) (funext fun entry => ?_)
  rw [List.map_map, ← map_snd_reports]
  rfl

theorem mem_templateReports_iff {r : Report} :
    r ∈ reports registry t payload ↔ ∃ p, t.properties[r.property]? = some p ∧
      p.Breaks registry (storedValues payload p.term) r.value r.violation := by
  rw [reports, List.mem_flatMap]
  constructor
  · rintro ⟨⟨p, k⟩, hentry, hmem⟩
    obtain ⟨⟨value, violation⟩, hbroken, rfl⟩ := List.mem_map.mp hmem
    exact ⟨p, List.mk_mem_zipIdx_iff_getElem?.mp hentry, mem_reports_iff.mp hbroken⟩
  · rintro ⟨p, hp, hbreaks⟩
    exact ⟨(p, r.property), List.mk_mem_zipIdx_iff_getElem?.mpr hp,
      List.mem_map.mpr ⟨(r.value, r.violation), mem_reports_iff.mpr hbreaks, rfl⟩⟩

theorem pairwise_templateReports : (reports registry t payload).Pairwise Report.IsBefore := by
  refine pairwise_flatMap_zipIdx t.properties ?_ ?_
  · rintro ⟨p, k⟩ -
    exact List.pairwise_map.mpr (pairwise_reports.imp fun h => Or.inr ⟨rfl, h⟩)
  · rintro ⟨p, k⟩ ⟨q, l⟩ hlt x hx y hy
    obtain ⟨v, -, rfl⟩ := List.mem_map.mp hx
    obtain ⟨w, -, rfl⟩ := List.mem_map.mp hy
    exact Or.inl hlt

/-- A payload without reports is one that meets every property of the template. -/
theorem validate_eq_nil_iff :
    validate registry t payload = [] ↔
      ∀ p ∈ t.properties, p.IsMet registry (storedValues payload p.term) := by
  rw [← map_violation_reports, List.map_eq_nil_iff, List.eq_nil_iff_forall_not_mem]
  constructor
  · intro h p hp
    obtain ⟨k, hk⟩ := List.mem_iff_getElem?.mp hp
    exact isMet_iff.mpr fun place v hbreaks =>
      h ⟨k, place, v⟩ (mem_templateReports_iff.mpr ⟨p, hk, hbreaks⟩)
  · rintro h r hr
    obtain ⟨p, hp, hbreaks⟩ := mem_templateReports_iff.mp hr
    exact isMet_iff.mp (h p (List.mem_of_getElem? hp)) _ _ hbreaks

/-- Checking a payload reports nothing exactly when the payload meets every property of the
template. What it reports are the constraints that are broken, each of them once at its property and
value, in the order of properties, then of values, then of kinds. It depends on the values under the
terms of the template only. -/
theorem validate_complete (registry : Host.Registry) (t : Template) :
    (∀ payload, validate registry t payload = [] ↔
      ∀ p ∈ t.properties, p.IsMet registry (storedValues payload p.term)) ∧
    (∀ payload, ∃ reports : List Report,
      validate registry t payload = reports.map Report.violation ∧
      reports.Pairwise Report.IsBefore ∧
      ∀ r, r ∈ reports ↔ ∃ p, t.properties[r.property]? = some p ∧
        p.Breaks registry (storedValues payload p.term) r.value r.violation) ∧
    ∀ payload payload',
      (∀ p ∈ t.properties, storedValues payload p.term = storedValues payload' p.term) →
        validate registry t payload = validate registry t payload' := by
  refine ⟨fun payload => validate_eq_nil_iff, fun payload => ?_, fun payload payload' h => ?_⟩
  · exact ⟨reports registry t payload, map_violation_reports.symm, pairwise_templateReports,
      fun r => mem_templateReports_iff⟩
  · rw [validate, validate, List.flatMap_def, List.flatMap_def]
    exact congrArg List.flatten (List.map_congr_left fun p hp => by rw [h p hp])

end Compiler

/-- A term with two properties, and values of which one has no text and one breaks what the second
property demands. -/
theorem validate_complete_repeated_term :
    let form : Property :=
      { term := "b:t", dataTypes := [], isRequired := true, automaticValue := none,
        defaultValue := none, minValues := none, maxValues := some 1, minLength := none,
        maxLength := none, inputControl := some "a|b" }
    let size : Property := { form with maxValues := none, minLength := some 2, inputControl := none }
    let t : Template := ⟨1, "", "", [form, size]⟩
    let values : Json := .array
      [.object [("type", .text "uri"), ("@id", .text "x")],
        .object [("type", .text "other"), ("@value", .text "c")]]
    let payload : Json := .object [("b:t", values)]
    let payload' : Json := .object [("o:id", .ofNat 7), ("b:t", values)]
    (∀ p ∈ t.properties, storedValues payload p.term = storedValues payload' p.term) ∧
      validate (.ofDeclared Table.empty) t payload =
        validate (.ofDeclared Table.empty) t payload' ∧
      validate (.ofDeclared Table.empty) t payload =
        [.tooManyValues "b:t" 1 2, .unknownDataType "b:t" "other", .inputControl "b:t" "c" "a|b",
          .unknownDataType "b:t" "other", .tooShort "b:t" "c" 2] := by
  intro form size t values payload payload'
  have hvalues : ∀ p ∈ t.properties,
      storedValues payload p.term = storedValues payload' p.term := by
    intro p hp
    rcases List.mem_cons.mp hp with rfl | hp
    · rfl
    · obtain rfl := List.mem_singleton.mp hp
      rfl
  exact ⟨hvalues, (validate_complete _ t).2.2 payload payload' hvalues, by decide +kernel⟩

end Crosswalk.Template
