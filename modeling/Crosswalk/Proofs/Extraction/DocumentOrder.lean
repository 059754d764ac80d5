import Crosswalk.Extraction.Documents
import Crosswalk.Proofs.Query.Spread
import Crosswalk.Proofs.Xml.Attributes

/-!
The order in which a source of XML gives its values.

The values of a locator come in the order in which its query selects items. This is document order
for every query whose last steps find in document order, one after the other, and so for every path
of steps that keep it. The slashes of `//a` stand for a step to all nodes: the children of an outer
element are found before those of the elements in it, and a value may come before an earlier one.
-/

namespace Crosswalk.Extraction

open Query

/-- A query selects no item twice, and only items of its context. It selects them in document order
exactly when each list that a last step finds adds only what stands behind all that was found
before, and then the values of its text come in document order. A path of steps that keep the order
does so in every context. -/
theorem select_document_order {text : String} {d : Xml.Document}
    (hd : Xml.Document.parse? text = some d) (namespaces : Namespaces) (record : Option Located)
    (hrecord : ∀ r, record = some r → r ∈ listFrom [] 0 d.children) (query : Query) :
    let c : Context := ⟨namespaces, d, record⟩
    ((c.select query).Pairwise fun x y => x.same y = false) ∧
      (c.select query).Subperm c.inOrder ∧
      ((c.select query).Sublist c.inOrder ↔ c.AddsBehind [] (c.finds query)) ∧
      (c.AddsBehind [] (c.finds query) → ∀ locator, Query.parse? locator = some query →
        ((Source.ofContext c).values locator).Sublist
          ((c.inOrder.map c.stringValue).map Text.trimmed)) ∧
      ∀ path, query = ⟨[path]⟩ → path.keepsOrder = true → (c.select query).Sublist c.inOrder := by
  intro c
  have hc : c.IsProper := ⟨Xml.hasDistinctAttributes_of_parse? hd, hrecord⟩
  have hiff := select_sublist_inOrder_iff hc query
  have hdistinct := pairwise_select c query
  have hnodup : (c.select query).Nodup := by
    apply hdistinct.imp
    rintro x y hsame rfl
    rw [same_self] at hsame
    cases hsame
  refine ⟨hdistinct, List.subperm_of_subset hnodup (select_subset_inOrder hc.placed query), hiff, ?_, ?_⟩
  · intro hbehind locator hlocator
    have hstrings : c.strings locator = (c.select query).map c.stringValue := by
      rw [Context.strings, Context.selectText, hlocator]
    have hvalues : ((c.strings locator).map Text.trimmed).Sublist
        ((c.inOrder.map c.stringValue).map Text.trimmed) := by
      rw [hstrings]
      exact ((hiff.mpr hbehind).map _).map _
    exact List.filter_sublist.trans hvalues
  · rintro path rfl hkeeps
    exact select_sublist_inOrder hc hkeeps

/-- An element without attributes. -/
def plainElement (name : String) (children : List Xml.Node) : Xml.Node :=
  .element ⟨none, name⟩ [] [] children

/-- The titles of one record of a list are found in order. -/
theorem select_titles_of_record :
    let first := plainElement "r" [plainElement "t" [.text "1"]]
    let second := plainElement "r" [plainElement "t" [.text "2"], plainElement "t" [.text "3"]]
    let d : Xml.Document := ⟨[plainElement "l" [first, second]]⟩
    let record : Located := ⟨[0, 1], second⟩
    let c : Context := ⟨Namespaces.ofDocument d, d, some record⟩
    let titles : Path :=
      ⟨true, [⟨.child, .name ⟨none, "r"⟩, []⟩, ⟨.child, .name ⟨none, "t"⟩, []⟩]⟩
    Xml.Document.parse? "<l><r><t>1</t></r><r><t>2</t><t>3</t></r></l>" = some d ∧
      record ∈ listFrom [] 0 d.children ∧ titles.keepsOrder = true ∧
      (c.select ⟨[titles]⟩).Sublist c.inOrder ∧ Query.parse? "/r/t" = some ⟨[titles]⟩ ∧
      ((Source.ofContext c).values "/r/t").Sublist
        ((c.inOrder.map c.stringValue).map Text.trimmed) := by
  intro first second d record c titles
  have hd : Xml.Document.parse? "<l><r><t>1</t></r><r><t>2</t><t>3</t></r></l>" = some d := rfl
  have hmem : record ∈ listFrom [] 0 d.children := mem_of_nodeAt? rfl
  have hkeeps : titles.keepsOrder = true := by decide
  have hrecord : ∀ r, some record = some r → r ∈ listFrom [] 0 d.children := by
    intro r hr
    exact Option.some.inj hr ▸ hmem
  have hlocator : Query.parse? "/r/t" = some ⟨[titles]⟩ := by decide +kernel
  obtain ⟨-, -, hiff, hvalues, hpath⟩ :=
    select_document_order hd (Namespaces.ofDocument d) (some record) hrecord ⟨[titles]⟩
  have hordered := hpath titles rfl hkeeps
  exact ⟨hd, hmem, hkeeps, hordered, hlocator, hvalues (hiff.mp hordered) "/r/t" hlocator⟩

/-- The values of two elements change places when the first one stands deeper. -/
theorem select_leaves_document_order :
    let d : Xml.Document :=
      ⟨[plainElement "r" [plainElement "x" [plainElement "a" [.text "1"]],
        plainElement "a" [.text "2"]]]⟩
    let c := Context.ofDocument d
    let query : Query := ⟨[⟨true, [.everywhere, ⟨.child, .name ⟨none, "a"⟩, []⟩]⟩]⟩
    Xml.Document.parse? "<r><x><a>1</a></x><a>2</a></r>" = some d ∧
      Query.parse? "//a" = some query ∧
      ¬(c.select query).Sublist c.inOrder ∧
      (Source.ofContext c).values "//a" = ["2", "1"] ∧
      (Source.ofContext c).first? "//a" = some "2" := by
  intro d c query
  refine ⟨rfl, by decide +kernel, ?_, by decide +kernel, by decide +kernel⟩
  intro hordered
  have htexts : ¬((c.select query).map c.stringValue).Sublist (c.inOrder.map c.stringValue) := by
    decide +kernel
  exact htexts (hordered.map _)

end Crosswalk.Extraction
