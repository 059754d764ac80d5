import Crosswalk.Extraction.Documents
import Crosswalk.Proofs.Query.Order
import Crosswalk.Proofs.Query.Record

/-!
Records of an XML document.

A record gives what it would give as a document of its own with the same namespaces: queries find
the same texts in both and nothing outside of the record. So the result of a record in a list does
not depend on what else stands in the document.
-/

namespace Crosswalk.Extraction

open Mapping Query

variable {n : Namespaces} {d : Xml.Document} {r : Located}

theorem ofContext_record (hr : r ∈ listFrom [] 0 d.children) :
    Source.ofContext (recordOf n d r) = Source.ofContext (aloneOf n r) := by
  rw [Source.ofContext, Source.ofContext]
  congr 1
  funext locator
  rw [strings_within hr]

/-- What a query selects in a record is the record, something in it, or the top above it. -/
theorem selectText_record (hr : r ∈ listFrom [] 0 d.children) (query : String) :
    ∀ x ∈ (recordOf n d r).selectText query,
      x = .top ∨ ∃ l ∈ r :: r.descendants, x ∈ l.items := by
  have hplaced : (recordOf n d r).IsPlaced := by
    intro r' hr'
    exact Option.some.inj hr' ▸ hr
  intro x hx
  rw [Context.selectText] at hx
  split at hx
  · exact mem_inOrder.mp (select_subset_inOrder hplaced _ x hx)
  · cases hx

/-- The elements that a query selects in a document. -/
def selectedElements (query : String) (d : Xml.Document) : List Located :=
  ((Context.ofDocument d).selectText query).filterMap fun
    | .node l => if l.node.isElement then some l else none
    | _ => none

theorem xmlRecords_eq (query : String) (d : Xml.Document) :
    xmlRecords query d =
      (selectedElements query d).map fun r => recordOf (Namespaces.ofDocument d) d r := by
  rw [xmlRecords, selectedElements, List.map_filterMap]
  apply List.filterMap_congr
  intro x _
  cases x with
  | node l =>
    cases hl : l.node.isElement with
    | true =>
      simp only [hl, if_true, Option.map_some]
      rfl
    | false => simp [hl]
  | _ => rfl

theorem mem_of_mem_selectedElements {query : String} (h : r ∈ selectedElements query d) :
    r ∈ listFrom [] 0 d.children := by
  obtain ⟨x, hx, hr⟩ := List.mem_filterMap.mp h
  have hplaced : (Context.ofDocument d).IsPlaced := by
    intro r' hr'
    cases hr'
  rw [Context.selectText] at hx
  split at hx
  · have hmem := select_subset_inOrder hplaced _ x hx
    match x with
    | .node l =>
      simp only at hr
      split at hr
      · exact Option.some.inj hr ▸ mem_allNodes_of_node hmem
      · cases hr
    | .top => cases hr
    | .attribute _ _ => cases hr
  · cases hx

/-- An element of a document, taken as a record, is queried as if it were a document of its own
with the same namespaces: item by item the same things are selected, with the same texts, and
nothing outside of the record. In a list of records every result is that of the record alone. -/
theorem record_as_document (d : Xml.Document) :
    (∀ (namespaces : Namespaces), ∀ r ∈ listFrom [] 0 d.children, r.node.isElement = true →
      let record : Context := ⟨namespaces, d, some r⟩
      let alone : Context := ⟨namespaces, ⟨[r.node]⟩, none⟩
      (∀ query, record.strings query = alone.strings query ∧
        record.selectText query = (alone.selectText query).map (Item.within r.place) ∧
        ∀ x ∈ record.selectText query, x = .top ∨ ∃ l ∈ r :: r.descendants, x ∈ l.items) ∧
      Source.ofContext record = Source.ofContext alone) ∧
    ∀ (e : Extractor) (rules : List Rule) (rule : Rule), listRule? rules = some rule →
      extractList e (.xml d) rules =
        ((selectedElements rule.source d).map fun r =>
          run e (Source.ofContext ⟨Namespaces.ofDocument d, ⟨[r.node]⟩, none⟩) rules).filter
            Result.isUseful := by
  constructor
  · intro namespaces r hr _ record alone
    refine ⟨?_, ofContext_record hr⟩
    intro query
    exact ⟨strings_within hr query, selectText_within hr query, selectText_record hr query⟩
  · intro e rules rule hrule
    have hresults : (recordOutcomes e (.xml d) rules).map Result.ofOutcomes =
        (selectedElements rule.source d).map fun r =>
          run e (Source.ofContext (aloneOf (Namespaces.ofDocument d) r)) rules := by
      simp only [recordOutcomes, Document.records, hrule, xmlRecords_eq, List.map_map]
      apply List.map_congr_left
      intro r hr
      simp only [Function.comp_apply, ofContext_record (mem_of_mem_selectedElements hr)]
      rfl
    rw [extractList, hrule]
    exact congrArg _ hresults

/-- The second record of a list gives its own title for every way up and down again. -/
theorem second_record_as_document :
    let second : Xml.Node := .element ⟨none, "r"⟩ [] [] [.element ⟨none, "t"⟩ [] [] [.text "2"]]
    let d : Xml.Document :=
      ⟨[.element ⟨none, "l"⟩ [] []
        [.element ⟨none, "r"⟩ [] [] [.element ⟨none, "t"⟩ [] [] [.text "1"]], second]]⟩
    let record : Context := ⟨Namespaces.ofDocument d, d, some ⟨[0, 1], second⟩⟩
    let alone : Context := ⟨Namespaces.ofDocument d, ⟨[second]⟩, none⟩
    let list : Rule := ⟨"//r", .ofMarker listMarker⟩
    ⟨[0, 1], second⟩ ∈ listFrom [] 0 d.children ∧ second.isElement = true ∧
      record.strings "//t/../..//t | ../../l/r" = alone.strings "//t/../..//t | ../../l/r" ∧
      alone.strings "//t/../..//t | ../../l/r" = ["2"] ∧
      listRule? [list] = some list ∧
      ∀ e : Extractor, extractList e (.xml d) [list] =
        ((selectedElements "//r" d).map fun r =>
          run e (Source.ofContext ⟨Namespaces.ofDocument d, ⟨[r.node]⟩, none⟩) [list]).filter
            Result.isUseful := by
  intro second d record alone list
  have hmem : ⟨[0, 1], second⟩ ∈ listFrom [] 0 d.children := mem_of_nodeAt? rfl
  have hlist : listRule? [list] = some list := by decide +kernel
  obtain ⟨hrecords, hresults⟩ := record_as_document d
  obtain ⟨hquery, -⟩ := hrecords (Namespaces.ofDocument d) _ hmem rfl
  exact ⟨hmem, rfl, (hquery _).1, by decide +kernel, hlist, fun e => hresults e [list] list hlist⟩

end Crosswalk.Extraction
