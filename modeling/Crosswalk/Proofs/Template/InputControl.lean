import Crosswalk.Proofs.Pattern.Framing
import Crosswalk.Proofs.Template.Constraints

/-!
What the pattern of a property asks of texts.

Checking puts the pattern between the start and the end of a text. For a pattern that the frame
leaves what it is, that asks the whole text to match it, and reports a pattern that is not valid.
-/

namespace Crosswalk.Template

def Violation.isInvalidControl : Violation → Bool
  | .invalidInputControl _ _ => true
  | _ => false

def Violation.isControl : Violation → Bool
  | .inputControl _ _ _ => true
  | _ => false

variable {registry : Host.Registry} {p : Property} {values : List Json}

/-- What a text is reported for because of the pattern. -/
def formViolations (p : Property) (control : Control) (text : String) : List Violation :=
  match control with
  | .form pattern form => if form.isFoundIn text then [] else [.inputControl p.term text pattern]
  | _ => []

theorem filter_countViolations {kind : Violation → Bool} (count : Nat)
    (hfew : ∀ term least count, kind (.tooFewValues term least count) = false)
    (hmany : ∀ term most count, kind (.tooManyValues term most count) = false) :
    (countViolations p count).filter kind = [] := by
  rw [List.filter_eq_nil_iff]
  intro v hv
  rcases mem_countViolations.mp hv with ⟨least, -, -, rfl⟩ | ⟨most, -, -, rfl⟩
  · simp [hfew]
  · simp [hmany]

theorem filter_isControl_textViolations (control : Control) (text : String) :
    (textViolations p control text).filter Violation.isControl = formViolations p control text := by
  have hlength : ∀ (bound : Option Nat) (make : Nat → Violation),
      (∀ n, (make n).isControl = false) →
        ((bound.map make).toList).filter Violation.isControl = [] := by
    intro bound make hmake
    cases bound with
    | none => rfl
    | some n => simp [hmake]
  unfold textViolations formViolations
  rw [List.filter_append, List.filter_append, hlength _ _ fun _ => rfl, hlength _ _ fun _ => rfl,
    List.nil_append, List.nil_append]
  cases control with
  | none => rfl
  | invalid pattern => rfl
  | form pattern form =>
    dsimp only
    cases form.isFoundIn text <;> rfl

theorem filter_isControl_valueViolations (control : Control) (value : Json) :
    (valueViolations registry p control value).filter Violation.isControl =
      (textOf? value).elim [] (formViolations p control) := by
  have htype : (typeViolations registry p value).filter Violation.isControl = [] := by
    rw [typeViolations]
    cases registry.has (Value.storedType value) <;> rfl
  rw [valueViolations, List.filter_append, htype, List.nil_append, ← textOf?]
  cases textOf? value with
  | none => rfl
  | some text => exact filter_isControl_textViolations control text

theorem flatMap_formViolations (pattern : String) (form : Pattern) (texts : List String) :
    texts.flatMap (formViolations p (.form pattern form.anchored)) =
      (texts.filter fun text => !decide (form.MatchesAll text)).map
        (.inputControl p.term · pattern) := by
  induction texts with
  | nil => rfl
  | cons text rest ih =>
    rw [List.flatMap_cons, ih, formViolations]
    by_cases hmatch : form.MatchesAll text
    · rw [if_pos (Pattern.isFoundIn_anchored.mpr hmatch), List.filter_cons_of_neg (by simp [hmatch]),
        List.nil_append]
    · rw [if_neg (mt Pattern.isFoundIn_anchored.mp hmatch),
        List.filter_cons_of_pos (by simp [hmatch]), List.map_cons]
      rfl

section Compiler

variable [Pattern.Compiler]

theorem kind_of_mem_controlViolations {v : Violation} (hv : v ∈ controlViolations p p.control) :
    v.isInvalidControl = true ∧ v.isControl = false := by
  obtain ⟨pattern, -, -, rfl⟩ := mem_controlViolations.mp hv
  exact ⟨rfl, rfl⟩

/-- A pattern that is not valid is reported for the property as a whole, and by nothing else. -/
theorem filter_isInvalidControl (hvalues : values ≠ []) :
    (propertyViolations registry p values).filter Violation.isInvalidControl =
      controlViolations p p.control := by
  have hvalue : ∀ v ∈ values.flatMap (valueViolations registry p p.control),
      ¬ v.isInvalidControl = true := by
    intro v hv
    obtain ⟨value, -, hv⟩ := List.mem_flatMap.mp hv
    rcases mem_valueViolations.mp hv with htype | ⟨text, -, htext⟩
    · obtain ⟨-, rfl⟩ := mem_typeViolations.mp htype
      exact Bool.false_ne_true
    · rcases mem_textViolations.mp htext with
        ⟨_, -, -, rfl⟩ | ⟨_, -, -, rfl⟩ | ⟨_, _, -, -, -, rfl⟩ <;> exact Bool.false_ne_true
  rw [propertyViolations_of_ne_nil hvalues, List.filter_append, List.filter_append,
    filter_countViolations _ (fun _ _ _ => rfl) (fun _ _ _ => rfl), List.nil_append,
    List.filter_eq_self.mpr fun v hv => (kind_of_mem_controlViolations hv).1,
    List.filter_eq_nil_iff.mpr hvalue, List.append_nil]

/-- Texts are reported for the pattern value by value. -/
theorem filter_isControl (hvalues : values ≠ []) :
    (propertyViolations registry p values).filter Violation.isControl =
      (values.filterMap textOf?).flatMap (formViolations p p.control) := by
  have hcontrol : (controlViolations p p.control).filter Violation.isControl = [] :=
    List.filter_eq_nil_iff.mpr fun v hv =>
      Bool.eq_false_iff.mp (kind_of_mem_controlViolations hv).2
  rw [propertyViolations_of_ne_nil hvalues, List.filter_append, List.filter_append,
    filter_countViolations _ (fun _ _ _ => rfl) (fun _ _ _ => rfl), List.nil_append, hcontrol,
    List.nil_append, List.filter_flatMap]
  simp only [filter_isControl_valueViolations]
  clear hvalues
  induction values with
  | nil => rfl
  | cons value rest ih =>
    rw [List.flatMap_cons, ih]
    cases htext : textOf? value with
    | none => rw [List.filterMap_cons_none htext]; rfl
    | some text => rw [List.filterMap_cons_some htext, List.flatMap_cons]; rfl

theorem control_eq {pattern : String} (hcontrol : nonBlank? p.inputControl = some pattern)
    (hframe : Pattern.KeepsFrame pattern.toList) :
    p.control = (Pattern.read? pattern.toList).elim (.invalid pattern) fun form =>
      .form pattern form.anchored := by
  rw [Property.control, hcontrol]
  dsimp only
  rw [hframe.readAnchored?_eq]
  cases Pattern.read? pattern.toList <;> rfl

/-- Every valid pattern that the frame does not leave what it is, for a comment at its end or
because it then nests too deep or takes too much memory, is reported as if it were not valid, and no
text is checked against it. -/
theorem filter_violations_of_frame {pattern : String} (hvalues : values ≠ [])
    (hcontrol : nonBlank? p.inputControl = some pattern)
    (hvalid : (Pattern.read? pattern.toList).isSome = true)
    (hframe : ¬ Pattern.KeepsFrame pattern.toList) :
    (propertyViolations registry p values).filter Violation.isInvalidControl =
        [.invalidInputControl p.term pattern] ∧
      (propertyViolations registry p values).filter Violation.isControl = [] := by
  have hanchored : Pattern.readAnchored? pattern = none :=
    Option.not_isSome_iff_eq_none.mp (mt (Pattern.keepsFrame_iff hvalid).mpr hframe)
  have hinvalid : p.control = .invalid pattern := by
    rw [Property.control, hcontrol]
    dsimp only
    rw [hanchored]
  rw [filter_isInvalidControl hvalues, filter_isControl hvalues, hinvalid]
  exact ⟨rfl, List.flatMap_eq_nil_iff.mpr fun _ _ => rfl⟩

/-- A property of a template is checked by itself, between those before it and those behind it. -/
theorem validate_split {t : Template} {before after : List Property} {payload : Json}
    (ht : t.properties = before ++ p :: after) :
    validate registry t payload = validate registry { t with properties := before } payload ++
      propertyViolations registry p (storedValues payload p.term) ++
      validate registry { t with properties := after } payload := by
  rw [validate, ht, List.flatMap_append, List.flatMap_cons, ← List.append_assoc]
  rfl

end Compiler

end Crosswalk.Template
