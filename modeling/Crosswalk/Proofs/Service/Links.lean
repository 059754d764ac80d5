import Crosswalk.Proofs.Extraction.Promotion
import Crosswalk.Proofs.Template.Links
import Crosswalk.Service.Suggestion

/-!
The links that leave the library.

Every suggestion is made of one record of the answer of a service: under each term it has the values
of the texts that the record gives, without the broken links. So with the patches of templates, no
value that is given out is unresolved, and every link was looked up for it and found.
-/

namespace Crosswalk.Extraction

open Mapping

/-- A result of a document is the run on one of its records; a document that cannot be read gives an
empty one. -/
theorem mem_extractList {e : Extractor} {d : Document} {rules : List Rule} {r : Result}
    (h : r ∈ extractList e d rules) :
    r = Result.empty ∨ ∃ source ∈ d.records e.isInternal rules, r = run e source rules := by
  rw [extractList] at h
  rw [Document.records]
  cases hlist : listRule? rules with
  | none =>
    simp only [hlist, List.mem_singleton] at h
    rw [h, extract_eq]
    cases d.source? e.isInternal with
    | none => exact .inl rfl
    | some source => exact .inr ⟨source, by simp, rfl⟩
  | some rule =>
    simp only [hlist] at h
    obtain ⟨outs, houts, rfl⟩ := List.mem_map.mp (List.mem_filter.mp h).1
    obtain ⟨source, hsource, rfl⟩ := List.mem_map.mp houts
    rw [Document.records, hlist] at hsource
    exact .inr ⟨source, hsource, rfl⟩

/-- The look-ups of a record are among those of its document. -/
theorem readsOf_subset {e : Extractor} {d : Document} {rules : List Rule} {source : Source}
    (h : source ∈ d.records e.isInternal rules) :
    readsOf (outcomes e source rules) ⊆ readsOf (recordOutcomes e d rules).flatten := by
  have hmem : outcomes e source rules ∈ recordOutcomes e d rules := List.mem_map_of_mem h
  intro read hread
  obtain ⟨o, ho, hfound⟩ := List.mem_filterMap.mp hread
  exact List.mem_filterMap.mpr ⟨o, List.mem_flatten.mpr ⟨_, hmem, ho⟩, hfound⟩

end Crosswalk.Extraction

namespace Crosswalk.Service

open Mapping Extraction Template

/-- What is said of the links in a suggestion that is made of a record. -/
structure Suggestion.HasVerifiedLinks (e : Extractor) (rules : List Rule) (source : Source)
    (reads : List Read) (s : Suggestion) : Prop where
  verified : ∀ term, ∀ v ∈ (s.data.get? term).getD [],
    v.isUnresolved = false ∧ IsLinked e reads v
  /-- Under a term stand the values of all texts but those that are broken links. -/
  values : ∀ term, (s.data.get? term).getD [] =
    (rules.filter (fillsTerm term)).flatMap fun rule =>
      ((valueTexts source rule).filter fun text => ¬ IsBroken e rule.target text).map
        (valueOf e rule)

namespace Suggestion

theorem getD_verified (values : ValueTable) (term : String) :
    ((verified values).get? term).getD [] =
      ((values.get? term).getD []).filter (!·.isUnresolved) := by
  rw [verified, Table.get?_filter, Table.get?_mapValues]
  cases values.get? term with
  | none => rfl
  | some list =>
    rw [Option.map_some, Option.getD_some]
    cases hkept : list.filter (!·.isUnresolved) <;> simp [Option.filter]

theorem data_of_ofResult? {r : Result} {s : Suggestion} (h : ofResult? r = some s) :
    s.data = verified r.values := by
  obtain ⟨display, -, rfl⟩ := Option.map_eq_some_iff.mp h
  rfl

theorem ofResult?_empty : ofResult? Result.empty = none := by
  rfl

theorem hasVerifiedLinks_of_run {e : Extractor} {rules : List Rule} {source : Source}
    {reads : List Read} {s : Suggestion} (h : ofResult? (run e source rules) = some s)
    (hreads : readsOf (outcomes e source rules) ⊆ reads) :
    s.HasVerifiedLinks e rules source reads := by
  have hdata : ∀ term, (s.data.get? term).getD [] =
      ((run e source rules).get term).filter (!·.isUnresolved) := by
    intro term
    rw [data_of_ofResult? h, getD_verified, Result.get]
  constructor
  · intro term v hv
    rw [hdata] at hv
    obtain ⟨hmem, hresolved⟩ := List.mem_filter.mp hv
    exact ⟨by simpa using hresolved, (isLinked_of_mem_run e source rules hmem).mono hreads⟩
  · intro term
    rw [hdata, filter_get_run]

end Suggestion

variable {s : Settings} {e : Extractor} {counter : Option Host.Counter} {rules : List Rule}
  {request : Request} {document : Document} {suggestion : Suggestion}

/-- Counting the uses of suggestions and ranking them leaves their values alone. -/
theorem exists_kept_of_mem_answerFrom
    (h : suggestion ∈ (answerFrom s e counter rules request document).suggestions.getD []) :
    ∃ made ∈ kept s (extractList e document rules), suggestion.data = made.data := by
  unfold answerFrom at h
  dsimp only at h
  split at h
  · rename_i counter call _ _
    rw [Option.getD_some, rank, List.mem_mergeSort] at h
    obtain ⟨made, hmade, rfl⟩ := List.mem_map.mp h
    refine ⟨made, hmade, ?_⟩
    rw [Suggestion.withCount]
    split <;> rfl
  · exact ⟨suggestion, h, rfl⟩

theorem reads_answerFrom :
    (answerFrom s e counter rules request document).reads =
      readsOf (recordOutcomes e document rules).flatten := by
  unfold answerFrom
  dsimp only
  split <;> rfl

theorem hasVerifiedLinks_of_mem_answerFrom
    (h : suggestion ∈ (answerFrom s e counter rules request document).suggestions.getD []) :
    ∃ source ∈ document.records e.isInternal rules,
      suggestion.HasVerifiedLinks e rules source
        (answerFrom s e counter rules request document).reads := by
  obtain ⟨made, hmade, hdata⟩ := exists_kept_of_mem_answerFrom h
  obtain ⟨r, hr, hresult⟩ := List.mem_filterMap.mp (List.mem_of_mem_take hmade)
  rcases mem_extractList hr with rfl | ⟨source, hsource, rfl⟩
  · rw [Suggestion.ofResult?_empty] at hresult
    cases hresult
  · have hlinks := Suggestion.hasVerifiedLinks_of_run hresult (readsOf_subset hsource)
    rw [reads_answerFrom]
    exact ⟨source, hsource, ⟨hdata ▸ hlinks.verified, hdata ▸ hlinks.values⟩⟩

/-- What is suggested was read in the answer to the request. -/
theorem answerFrom_of_mem_suggest {fetch : Request → Except Failure String} {a : Autofiller}
    {query : String} {locale : Option String}
    (h : suggestion ∈ (suggest s e counter fetch a query locale).suggestions.getD []) :
    ∃ request body document, fetch request = .ok body ∧
      readBody? a.provider body = some document ∧
      suggest s e counter fetch a query locale =
        answerFrom s e counter a.group.rules request document := by
  unfold suggest at h ⊢
  split at h
  · cases h
  · rename_i url _
    dsimp only at h ⊢
    split at h
    · cases h
    · rename_i body hbody
      split at h
      · cases h
      · rename_i document hdocument
        exact ⟨_, body, document, hbody, hdocument, rfl⟩

/-- Only verified links leave the library. A suggestion is made of a record of the answer, and has
the values of its texts but for the broken links; a patch has a literal with the text of every
broken link, unless that is a duplicate. No value in either is unresolved, and every link in them
was found in a look-up of the same call, for the kind of its data type. -/
theorem verified_links (e : Extractor) :
    (∀ (s : Settings) (counter : Option Host.Counter) (fetch : Request → Except Failure String)
      (a : Autofiller) (query : String) (locale : Option String),
      let answer := suggest s e counter fetch a query locale
      ∀ suggestion ∈ answer.suggestions.getD [],
        ∃ request body document, fetch request = .ok body ∧
          readBody? a.provider body = some document ∧
          ∃ source ∈ document.records e.isInternal a.group.rules,
            suggestion.HasVerifiedLinks e a.group.rules source answer.reads) ∧
    (∀ (t : Template) (payload : Json) (c : Cache),
      HasVerifiedLinks e (c.automaticRules t).1 payload (addAutomatic e t payload c).1) ∧
    (∀ (t : Template) (payload : Json) (c : Cache),
      HasVerifiedLinks e
        ((c.defaultRules t).1.filter fun rule => (storedValues payload rule.target.field).isEmpty)
        payload (addDefaults e t payload c).1) := by
  refine ⟨?_, fun t payload c => ?_, fun t payload c => ?_⟩
  · intro s counter fetch a query locale answer suggestion hsuggestion
    obtain ⟨request, body, document, hbody, hdocument, hanswer⟩ :=
      answerFrom_of_mem_suggest hsuggestion
    refine ⟨request, body, document, hbody, hdocument, ?_⟩
    rw [show answer = _ from hanswer] at hsuggestion ⊢
    exact hasVerifiedLinks_of_mem_answerFrom hsuggestion
  · exact hasVerifiedLinks_compute e _ payload
  · exact hasVerifiedLinks_compute e _ payload

/-- A record with two links, the second to a resource that is not there; and a template with a link
that is no number and one that is found. -/
theorem verified_links_of_record :
    let e : Extractor := ⟨.ofDeclared Table.empty, none, some (.ofIds [7]), true⟩
    let rules := parseRules "a = b:r ^^resource:item\nc = b:r ^^resource:item"
    let group : Group := { Group.ofService "generic" with url := some "http://a.org/", rules := rules }
    let body := "\x7b\"a\":\"7\",\"c\":\"12\"\x7d"
    let answer := suggest .default e none (fun _ => .ok body) ⟨"a", .genericJson, group⟩ "p" none
    let t : Template :=
      ⟨1, "", "~ = b:r ^^resource:item ~ no. 7\n~ = b:r ^^resource:item ~ 7", []⟩
    let computed := (addAutomatic e t (.object []) Cache.empty).1
    (answer.suggestions.getD []).map (fun s => s.data.values.map (·.map Value.content)) =
        [[[.resource 7]]] ∧
      (∀ suggestion ∈ answer.suggestions.getD [], ∃ source,
        suggestion.HasVerifiedLinks e rules source answer.reads) ∧
      computed.patch.values.map (·.map fun v => (v.dataType, v.content)) =
        [[("literal", .literal "no. 7"), ("resource:item", .resource 7)]] ∧
      HasVerifiedLinks e (Cache.empty.automaticRules t).1 (.object []) computed := by
  intro e rules group body answer t computed
  obtain ⟨hsuggest, hautomatic, -⟩ := verified_links e
  refine ⟨by decide +kernel, ?_, by decide +kernel, hautomatic t (.object []) Cache.empty⟩
  intro suggestion hsuggestion
  obtain ⟨_, _, _, _, _, source, _, hlinks⟩ :=
    hsuggest .default none (fun _ => .ok body) ⟨"a", .genericJson, group⟩ "p" none suggestion
      hsuggestion
  exact ⟨source, hlinks⟩

end Crosswalk.Service
