import Crosswalk.Extraction.Run
import Crosswalk.Proofs.Extraction.Locators
import Crosswalk.Proofs.Extraction.Rendering
import Crosswalk.Proofs.Field.Grammar

/-!
What a bare term finds in a payload of the host.

A payload lists the values of a term under the term, each of them an object. A term is to find its
first value: the first of the identifying members of that object that is a scalar and not null. The
flat keys of these members begin with the escaped term. So the escaped term finds the first value,
and the bare term finds it too as long as no dot is in it; a term with a dot finds whatever stands
under the way that its dots spell, and nothing of its own values.
-/

namespace Crosswalk.Extraction

open Crosswalk.Json Crosswalk.Mapping

/-- The text of a member that is a scalar and not null. -/
def scalarText? (fields : List (String × Json)) (name : String) : Option String :=
  ((fields.lookup name).filter fun j => j.isScalar && !j.isNull).map plainText

/-- The text of the first identifying member that has one. -/
def identityText? (fields : List (String × Json)) : Option String :=
  Source.identityKeys.findSome? (scalarText? fields)

theorem payloadText?_eq_findSome? {flat : Table Json} {term : String}
    {textOf : String → Option String}
    (h : ∀ name ∈ Source.identityKeys,
      Source.scalarAt? flat (term ++ ".0." ++ name) = textOf name) :
    Source.payloadText? flat term = Source.identityKeys.findSome? textOf := by
  rw [Source.payloadText?, ← List.head?_filterMap, ← List.head?_filterMap, List.filterMap_congr h]

/-- A payload in which the members of the first value of a term are the given ones. No name stands
twice, and under the empty name there is at most a scalar. -/
structure IsFirstValue (members : List (String × Json)) (term : String)
    (fields : List (String × Json)) : Prop where
  isTerm : Field.isTerm term.toList = true
  nodup : (entryKeys members).Nodup
  listed : ∃ more, members.lookup term = some (.array (.object fields :: more))
  nodup_fields : (entryKeys fields).Nodup
  empty_name : ∀ member ∈ members, member.1 = "" → member.2.isScalar = true

namespace IsFirstValue

variable {members fields : List (String × Json)} {term : String}

theorem ne_nil (h : IsFirstValue members term fields) : term.toList ≠ [] := by
  obtain ⟨c, rest, hterm, -⟩ := Field.head_of_isTerm h.isTerm
  rw [hterm]
  exact List.cons_ne_nil c rest

theorem flatten_eq (h : IsFirstValue members term fields) :
    (Json.object members).flatten = Table.ofList (keyedLeaves (.object members)) := by
  apply flatten_object
  intro hall
  obtain ⟨more, hlisted⟩ := h.listed
  cases hall _ (mem_of_lookup_eq_some hlisted)

/-- The term itself is no scalar. -/
theorem get?_escapeKey (h : IsFirstValue members term fields) :
    (Json.object members).flatten.get? (escapeKey term) = none := by
  rw [h.flatten_eq, ← wayKey_singleton]
  apply get?_keyedLeaves h.ne_nil h.empty_name
  intro leaf
  obtain ⟨more, hlisted⟩ := h.listed
  simp [mem_ways_member h.nodup, hlisted, mem_ways_nil, isScalar]

/-- A scalar of the first value stands under the term, a zero and its name. -/
theorem get?_field (h : IsFirstValue members term fields) (name : String) :
    (Json.object members).flatten.get? (wayKey [term.toList, Text.ofNat 0, name.toList]) =
      (fields.lookup name).filter isScalar := by
  rw [h.flatten_eq]
  apply get?_keyedLeaves h.ne_nil h.empty_name
  intro leaf
  obtain ⟨more, hlisted⟩ := h.listed
  rw [mem_ways_member h.nodup, hlisted]
  simp only [Option.some.injEq, exists_eq_left', mem_ways_item, List.getElem?_cons_zero,
    mem_ways_member h.nodup_fields, mem_ways_nil, Option.filter_eq_some_iff]
  constructor
  · rintro ⟨value, hvalue, hscalar, rfl⟩
    exact ⟨hvalue, hscalar⟩
  · rintro ⟨hvalue, hscalar⟩
    exact ⟨leaf, hvalue, hscalar, rfl⟩

theorem wayKey_field (h : IsFirstValue members term fields) {name : String}
    (hname : name ∈ Source.identityKeys) :
    wayKey [term.toList, Text.ofNat 0, name.toList] = escapeKey term ++ ".0." ++ name := by
  have hplain : ∀ name ∈ Source.identityKeys, escapeSegment name.toList = name.toList := by decide
  apply String.toList_inj.mp
  rw [wayKey_cons h.ne_nil, writeWay_cons, writeWay_cons, escapeSegment_ofNat, hplain name hname]
  simp [writeWay, escapeKey, Text.ofNat]

theorem payloadText?_escapeKey (h : IsFirstValue members term fields) :
    Source.payloadText? (Json.object members).flatten (escapeKey term) = identityText? fields := by
  apply payloadText?_eq_findSome?
  intro name hname
  rw [Source.scalarAt?, ← h.wayKey_field hname, h.get?_field, Option.filter_filter, scalarText?]

theorem values_escapeKey (h : IsFirstValue members term fields) {text : String}
    (htext : identityText? fields = some text) :
    (Source.ofJson true (.object members)).values (escapeKey term) = [text] := by
  have hnone : Source.scalarAt? (Json.object members).flatten (escapeKey term) = none := by
    rw [Source.scalarAt?, h.get?_escapeKey]
    rfl
  simp [Source.ofJson, Source.flatText?, hnone, h.payloadText?_escapeKey, htext]

end IsFirstValue

section Dotted

variable {front back : List (String × Json)} {term : String} {value other : Json}

/-- A dot of a term is escaped in its key, and no way that is written without a backslash leads
there. -/
theorem not_leadsTo_of_dotted {locator : String} (hdot : '.' ∈ term.toList)
    (hslash : '\\' ∉ locator.toList) : ¬ LeadsTo locator term := by
  have hescaped : '\\' ∈ (escapeKey term).toList := by
    rw [escapeKey, String.toList_ofList, escapeSegment, List.mem_flatMap]
    exact ⟨'.', hdot, by decide⟩
  rintro (rfl | hbelow)
  · exact hslash hescaped
  · exact hslash (hbelow.subset (List.mem_append_left _ hescaped))

/-- A member of another way may stand under a term with a dot, but none of the values of the term. -/
theorem values_replace_dotted (hterm : Field.isTerm term.toList = true)
    (hdot : '.' ∈ term.toList) (hvalue : value.isScalar = false) (hother : other.isScalar = false) :
    (Source.ofJson true (.object (front ++ (term, other) :: back))).values term =
      (Source.ofJson true (.object (front ++ (term, value) :: back))).values term := by
  have hslash : '\\' ∉ term.toList :=
    Field.not_mem_of_isTerm hterm (by decide) (by decide +kernel) (by decide) (by decide)
  have hne : term ≠ "" := by
    rintro rfl
    cases hdot
  have hmixed : ∀ {held : Json}, held.isScalar = false →
      ¬ AllScalars (front ++ (term, held) :: back) := by
    intro held hheld hall
    rw [(allScalars_insert.mp hall).2] at hheld
    cases hheld
  have hkept : ∀ locator : String, '\\' ∉ locator.toList →
      Source.scalarAt? (Json.object (front ++ (term, other) :: back)).flatten locator =
        Source.scalarAt? (Json.object (front ++ (term, value) :: back)).flatten locator := by
    intro locator hlocator
    have hway := not_leadsTo_of_dotted hdot hlocator
    rw [Source.scalarAt?, Source.scalarAt?, flatten_object (hmixed hother),
      flatten_object (hmixed hvalue), get?_keyedLeaves_insert hway fun h => absurd h hne,
      get?_keyedLeaves_insert hway fun h => absurd h hne]
  have hpayload : Source.payloadText? (Json.object (front ++ (term, other) :: back)).flatten term =
      Source.payloadText? (Json.object (front ++ (term, value) :: back)).flatten term := by
    have hplain : ∀ name ∈ Source.identityKeys, '\\' ∉ (".0." ++ name).toList := by decide
    apply payloadText?_eq_findSome?
    intro name hname
    apply hkept
    rw [String.append_assoc, String.toList_append, List.mem_append, not_or]
    exact ⟨hslash, hplain name hname⟩
  simp only [Source.ofJson, Source.flatText?, hkept term hslash, hpayload]

end Dotted

/-- The variable of an expression is no term, if it stands for the value at hand. -/
theorem not_mem_ownVariables {term : String} (hterm : Field.isTerm term.toList = true) :
    term ∉ ownVariables := by
  have hcolon : ∀ name ∈ ownVariables, ':' ∉ name.toList := by decide
  intro hmem
  exact hcolon term hmem (Field.colon_mem_of_isTerm hterm)

theorem isBraceFree_of_isTerm {s : List Char} (hterm : Field.isTerm s = true) : IsBraceFree s := by
  intro c hc
  rw [isBrace_eq_false_iff]
  constructor
  · rintro rfl
    exact Field.not_mem_of_isTerm hterm (by decide) (by decide +kernel) (by decide) (by decide) hc
  · rintro rfl
    exact Field.not_mem_of_isTerm hterm (by decide) (by decide +kernel) (by decide) (by decide) hc

/-- In a placeholder a term is looked up in the source. -/
theorem placeholderValue_term {source : Source} {raw default term : String}
    (hterm : Field.isTerm term.toList = true) :
    placeholderValue source raw (placeholderText term.toList) default =
      (source.first? term).getD default := by
  have hmarker : ∀ marker : List Char, ':' ∉ marker →
      placeholderText term.toList ≠ placeholderText marker := by
    intro marker hcolon heq
    apply hcolon
    rw [← placeholderText_injective heq]
    exact Field.colon_mem_of_isTerm hterm
  have hvalue := hmarker "__value__".toList (by decide)
  have hlabel := hmarker "__label__".toList (by decide)
  rw [placeholderValue, valueMarker_eq, labelMarker_eq, if_neg (not_or.mpr ⟨hvalue, hlabel⟩),
    placeholderLocator_placeholderText (isBraceFree_of_isTerm hterm), String.ofList_toList]

/-- A term finds its first value in a payload under its escaped name, and as it stands if there is
no dot in it: in locators, in placeholders and as the variable of an expression. What a term with a
dot finds as it stands has nothing to do with its values. -/
theorem values_first_value (members fields : List (String × Json)) (term text : String)
    (h : IsFirstValue members term fields) (htext : identityText? fields = some text) :
    let source := Source.ofJson true (.object members)
    source.values (escapeKey term) = [text] ∧
    ('.' ∉ term.toList →
      (∀ rule : Rule, rule.isConstant = false → rule.source = term →
        found source rule = [text]) ∧
      (∀ raw default,
        placeholderValue source raw (placeholderText term.toList) default = text) ∧
      (∀ raw calls,
        expressionValue source raw ⟨term, calls⟩ = Filter.Pipeline.apply ⟨term, calls⟩ text)) ∧
    ('.' ∈ term.toList → ∀ other : Json, other.isScalar = false →
      (Source.ofJson true (.object (setEntry term other members))).values term =
        source.values term) := by
  intro source
  have hescaped : source.values (escapeKey term) = [text] := h.values_escapeKey htext
  refine ⟨hescaped, fun hdot => ?_, fun hdot other hother => ?_⟩
  · have hslash : '\\' ∉ term.toList :=
      Field.not_mem_of_isTerm h.isTerm (by decide) (by decide +kernel) (by decide) (by decide)
    have hplain : ∀ c ∈ term.toList, c ≠ '.' ∧ c ≠ '\\' := by
      intro c hc
      constructor
      · rintro rfl
        exact hdot hc
      · rintro rfl
        exact hslash hc
    rw [escapeKey_eq_self hplain] at hescaped
    have hfirst : source.first? term = some text := by
      rw [Source.first?, hescaped]
      rfl
    refine ⟨fun rule hrule hsource => ?_, fun raw default => ?_, fun raw calls => ?_⟩
    · rw [found, hrule, hsource]
      exact hescaped
    · rw [placeholderValue_term h.isTerm, hfirst]
      rfl
    · rw [expressionValue, if_neg (not_mem_ownVariables h.isTerm), hfirst]
      rfl
  · obtain ⟨more, hlisted⟩ := h.listed
    obtain ⟨front, back, hmembers, hset⟩ := setEntry_of_lookup hlisted
    rw [hset other]
    subst hmembers
    exact values_replace_dotted h.isTerm hdot rfl hother

/-- The identifier of a link is the text of its term. -/
theorem values_first_value_link :
    let link := [("@value", Json.null), ("@id", .text "http://a.org/1"), ("o:label", .text "A")]
    let members := [("o:id", Json.ofInt 7), ("dcterms:source", .array [.object link, .text "x"])]
    let source := Source.ofJson true (.object members)
    source.values "dcterms:source" = ["http://a.org/1"] ∧
      placeholderValue source "" (placeholderText "dcterms:source".toList) "" =
        "http://a.org/1" := by
  intro link members source
  have hfirst : IsFirstValue members "dcterms:source" link :=
    ⟨by decide +kernel, by decide, ⟨[.text "x"], rfl⟩, by decide, by decide⟩
  have hall := values_first_value members link "dcterms:source" "http://a.org/1" hfirst
    (by decide +kernel)
  have hbare := hall.2.1 (by decide)
  exact ⟨hall.1, hbare.2.1 "" ""⟩

/-- A term with a dot does not find its value, but one that another member spells; and a list below
an empty name takes the place of one. -/
theorem values_dotted_term :
    let listed := Json.array [.object [("@value", .text "x")]]
    let spelled := Json.object [("b", .text "y")]
    (Field.isTerm "dcterms:a.b".toList = true ∧
      (Source.ofJson true (.object [("dcterms:a.b", listed)])).values "dcterms:a.b" = [] ∧
      (Source.ofJson true (.object [("dcterms:a.b", listed), ("dcterms:a", spelled)])).values
        "dcterms:a.b" = ["y"]) ∧
    (Field.isTerm "dcterms:a".toList = true ∧
      (Source.ofJson true (.object [("dcterms:a", listed),
        ("", .object [("dcterms:a", .array [.object [("@value", .text "z")]])])])).values
        "dcterms:a" = ["z"]) := by
  decide +kernel

end Crosswalk.Extraction
