import Crosswalk.Extraction.Run
import Crosswalk.Proofs.Table

/-!
What outcomes add up to.

A result has three sides, and each can be read off the outcomes: its label is the first label, its
terms stand in the order in which they come first, and under a term stand its values in their order.
So results are compared by comparing lists.
-/

namespace Crosswalk

namespace Extraction

/-- The label that an outcome gives. -/
def Outcome.label? : Outcome → Option String
  | .label s => some s
  | _ => none

/-- The value that an outcome gives, with its term. -/
def Outcome.entry? : Outcome → Option (String × Value)
  | .value term v _ => some (term, v)
  | _ => none

/-- The values under a term in a list of them. -/
def valuesUnder (term : String) (entries : List (String × Value)) : List Value :=
  (entries.filter fun entry => entry.1 = term).map Prod.snd

namespace Result

/-- The terms of a result, in order. -/
def terms (r : Result) : List String := r.values.keys

/-- A result is its label, its terms and the values under them. -/
theorem ext_get {r s : Result} (hlabel : r.label = s.label) (hterms : r.terms = s.terms)
    (hget : ∀ term, r.get term = s.get term) : r = s := by
  have hvalues : r.values = s.values := by
    apply Table.ext_entries
    rw [r.values.entries_eq_map_keys [], s.values.entries_eq_map_keys [],
      show r.values.keys = s.values.keys from hterms]
    apply List.map_congr_left
    intro term _
    exact congrArg (Prod.mk term) (hget term)
  cases r
  cases s
  cases hlabel
  cases hvalues
  rfl

theorem terms_add_value (r : Result) (term : String) (v : Value) (read : Option Read) :
    (r.add (.value term v read)).terms =
      if term ∈ r.terms then r.terms else r.terms ++ [term] :=
  r.values.keys_set term _

theorem get_add_value (r : Result) (t term : String) (v : Value) (read : Option Read) :
    (r.add (.value t v read)).get term = r.get term ++ valuesUnder term [(t, v)] := by
  by_cases hterm : term = t
  · simp [add, get, Table.append, Table.get?_set, valuesUnder, hterm]
  · simp [add, get, Table.append, Table.get?_set, valuesUnder, hterm, Ne.symm hterm]

theorem label_foldl_add (outcomes : List Outcome) (r : Result) :
    (outcomes.foldl add r).label = (r.label <|> (outcomes.filterMap Outcome.label?).head?) := by
  induction outcomes generalizing r with
  | nil => simp
  | cons o rest ih =>
    rw [List.foldl_cons, ih]
    cases o with
    | label s => cases hlabel : r.label <;> simp [add, Outcome.label?, hlabel]
    | value term v read => rfl
    | nothing => rfl

theorem terms_foldl_add (outcomes : List Outcome) (r : Result) :
    (outcomes.foldl add r).terms =
      (r.terms ++ (outcomes.filterMap Outcome.entry?).map Prod.fst).eraseDups := by
  induction outcomes generalizing r with
  | nil =>
    rw [List.filterMap_nil, List.map_nil, List.append_nil]
    exact (eraseDups_of_nodup r.values.nodup).symm
  | cons o rest ih =>
    rw [List.foldl_cons, ih]
    cases o with
    | label s => rfl
    | value term v read =>
      rw [terms_add_value]
      by_cases hterm : term ∈ r.terms
      · simp [Outcome.entry?, hterm, eraseDups_append_cons]
      · simp [Outcome.entry?, hterm]
    | nothing => rfl

theorem get_foldl_add (outcomes : List Outcome) (r : Result) (term : String) :
    (outcomes.foldl add r).get term =
      r.get term ++ valuesUnder term (outcomes.filterMap Outcome.entry?) := by
  induction outcomes generalizing r with
  | nil => simp [valuesUnder]
  | cons o rest ih =>
    rw [List.foldl_cons, ih]
    cases o with
    | label s => rfl
    | value t v read =>
      rw [get_add_value, List.append_assoc, valuesUnder, valuesUnder, ← List.map_append,
        ← List.filter_append]
      rfl
    | nothing => rfl

variable (outcomes : List Outcome) (term : String)

/-- Only the first label counts. -/
theorem label_ofOutcomes :
    (ofOutcomes outcomes).label = (outcomes.filterMap Outcome.label?).head? := by
  rw [ofOutcomes, label_foldl_add]
  rfl

/-- Terms stand in the order in which they come first. -/
theorem terms_ofOutcomes :
    (ofOutcomes outcomes).terms = ((outcomes.filterMap Outcome.entry?).map Prod.fst).eraseDups := by
  rw [ofOutcomes, terms_foldl_add]
  rfl

/-- The values under a term stand in the order in which they come. -/
theorem get_ofOutcomes :
    (ofOutcomes outcomes).get term = valuesUnder term (outcomes.filterMap Outcome.entry?) := by
  rw [ofOutcomes, get_foldl_add]
  rfl

end Result

end Extraction

end Crosswalk
