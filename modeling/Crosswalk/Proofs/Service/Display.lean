import Crosswalk.Service.Suggestion

/-!
What a suggestion displays.

A record displays its label, or the text of its first verified value if it has no label. A blank
text is not displayed: the record is left out then, also if there is something to be read further
on. So every record that makes a suggestion has something to be read, but not the other way round.
-/

namespace Crosswalk.Service.Suggestion

open Extraction Mapping

variable {r : Result} {text : String}

/-- The values of a result, in order, without links that are not verified. -/
def resolvedValues (r : Result) : List Value := r.allValues.filter (!·.isUnresolved)

/-- Whether there is something to be read in a text. -/
def isLegible (text : String) : Bool := !Text.isAllBlank text.toList

/-- Whether there is something to be read in the label or in a verified value of a result. -/
def isUsable (r : Result) : Bool :=
  r.label.any isLegible || (resolvedValues r).any fun v => isLegible v.text

/-- A result displays its label and, without a label, the text of its first verified value. -/
def Displays (r : Result) (text : String) : Prop :=
  r.label = some text ∨ r.label = none ∧ ∃ v rest, resolvedValues r = v :: rest ∧ v.text = text

theorem displays_iff :
    Displays r text ↔ r.label.or ((resolvedValues r).head?.map Value.text) = some text := by
  simp only [Displays, Option.or_eq_some_iff, Option.map_eq_some_iff, List.head?_eq_some_iff,
    exists_and_right]

theorem flatten_values_verified (values : ValueTable) :
    (verified values).values.flatten = values.values.flatten.filter (!·.isUnresolved) := by
  have hlists : (verified values).values =
      (values.values.map (List.filter (!·.isUnresolved))).filter (!·.isEmpty) := by
    simp only [verified, Table.filter, Table.mapValues, Table.values, List.map_map,
      List.filter_map]
    rfl
  rw [hlists, List.flatten_filter_not_isEmpty, List.filter_flatten]

theorem allValues_verified (r : Result) :
    Result.allValues { r with values := verified r.values } = resolvedValues r :=
  flatten_values_verified r.values

theorem ofResult?_eq (r : Result) :
    ofResult? r =
      ((r.label.or ((resolvedValues r).head?.map Value.text)).filter isLegible).map fun display =>
        ⟨display, Result.firstUri? { r with values := verified r.values }, verified r.values,
          none⟩ := by
  rw [ofResult?, Result.firstText?, allValues_verified]
  cases r.label <;> rfl

/-- A result makes a suggestion exactly if what it displays can be read. -/
theorem exists_ofResult?_iff :
    (∃ s, ofResult? r = some s ∧ s.display = text) ↔
      Displays r text ∧ isLegible text = true := by
  rw [ofResult?_eq, displays_iff, ← Option.filter_eq_some_iff]
  constructor
  · rintro ⟨s, hs, rfl⟩
    obtain ⟨display, hdisplay, rfl⟩ := Option.map_eq_some_iff.mp hs
    exact hdisplay
  · intro h
    exact ⟨_, by rw [h]; rfl, rfl⟩

theorem ofResult?_eq_none_iff :
    ofResult? r = none ↔ ∀ text, Displays r text → isLegible text = false := by
  simp only [ofResult?_eq, Option.map_eq_none_iff, Option.filter_eq_none_iff, displays_iff,
    Bool.not_eq_true]

theorem isUsable_of_displays (h : Displays r text) (hlegible : isLegible text = true) :
    isUsable r = true := by
  rw [isUsable, Bool.or_eq_true]
  rcases h with hlabel | ⟨-, v, rest, hvalues, rfl⟩
  · exact .inl (by rw [hlabel]; exact hlegible)
  · exact .inr (by rw [hvalues, List.any_cons, hlegible, Bool.true_or])

theorem exists_displays_of_isUsable (h : isUsable r = true) : ∃ text, Displays r text := by
  cases hlabel : r.label with
  | some label => exact ⟨label, .inl hlabel⟩
  | none =>
    cases hvalues : resolvedValues r with
    | nil =>
      rw [isUsable, hlabel, hvalues] at h
      cases h
    | cons v rest => exact ⟨v.text, .inr ⟨hlabel, v, rest, hvalues, rfl⟩⟩

/-- A record makes a suggestion exactly if the text that it displays can be read, and this text is
displayed: its label, or the text of its first verified value if it has no label. So a record makes
none exactly if there is nothing to be read in it, or if the label or value to be displayed is
blank. -/
theorem suggestion_displays (r : Result) :
    (∀ text, (∃ s, ofResult? r = some s ∧ s.display = text) ↔
      Displays r text ∧ isLegible text = true) ∧
    (ofResult? r = none ↔
      isUsable r = false ∨ ∃ text, Displays r text ∧ isLegible text = false) := by
  refine ⟨fun text => exists_ofResult?_iff, ?_⟩
  rw [ofResult?_eq_none_iff]
  constructor
  · intro h
    cases husable : isUsable r with
    | false => exact .inl rfl
    | true =>
      obtain ⟨text, hdisplays⟩ := exists_displays_of_isUsable husable
      exact .inr ⟨text, hdisplays, h text hdisplays⟩
  · rintro (hunusable | ⟨blank, hblank, hlegible⟩) text hdisplays
    · rw [Bool.eq_false_iff]
      intro htext
      rw [isUsable_of_displays hdisplays htext] at hunusable
      cases hunusable
    · rw [displays_iff] at hblank hdisplays
      rw [hblank, Option.some.injEq] at hdisplays
      exact hdisplays ▸ hlegible

/-- A blank label leaves a record without a suggestion that has an address, and so does a blank
value in front of a title. -/
theorem blank_display_leaves_out :
    let e : Extractor := ⟨.ofDeclared Table.empty, none, none, false⟩
    let record := Json.object [("name", .text " "), ("id", .text "p1")]
    let labelled := parseRules "name = \x7b__label__\x7d\nid = b:id ^^uri"
    let unlabelled := parseRules "name = b:name\nid = b:id ^^uri"
    let made := fun rules => run e (Source.ofJson false record) rules
    (isUsable (made labelled) = true ∧ ofResult? (made labelled) = none) ∧
      (isUsable (made unlabelled) = true ∧ ofResult? (made unlabelled) = none) := by
  decide +kernel

end Crosswalk.Service.Suggestion
