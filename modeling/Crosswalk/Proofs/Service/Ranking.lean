import Mathlib.Data.List.Basic
import Crosswalk.Service.Suggestion

/-!
The order of suggestions.

Suggestions are the first records of an answer that make one. With a counter, and an address to
count, the addresses of all of them are counted in one call. Then the suggestions used most come
first, and those used equally often stay in the order of the service.
-/

namespace Crosswalk.Service

open Extraction Mapping

/-- The suggestion with the number of uses of its address, if it has an address. -/
def Suggestion.counted (uses : String → Option Nat) (s : Suggestion) : Suggestion :=
  { s with count := s.uri.map fun uri => (uses uri).getD 0 }

/-- The number that a suggestion is ranked by; without a count it is zero. -/
def Suggestion.weight (s : Suggestion) : Nat := s.count.getD 0

/-- A list of the suggestions that are kept, each with the count of its address, with the greatest
count first and the order of the service where counts are equal. -/
structure IsRanking (uses : String → Option Nat) (kept ranked : List Suggestion) : Prop where
  perm : ranked.Perm (kept.map (Suggestion.counted uses))
  sorted : ranked.Pairwise fun a b => b.weight ≤ a.weight
  stable : ∀ n, ranked.filter (·.weight = n) =
    (kept.map (Suggestion.counted uses)).filter (·.weight = n)
  count : ∀ s ∈ ranked, s.count = s.uri.map fun uri => (uses uri).getD 0

/-- Sorting leaves elements alone that may all stand before each other. -/
theorem filter_mergeSort {α : Type} {le : α → α → Bool}
    (htrans : ∀ a b c, le a b = true → le b c = true → le a c = true)
    (htotal : ∀ a b, (le a b || le b a) = true) {p : α → Bool}
    (hle : ∀ a b, p a = true → p b = true → le a b = true) (list : List α) :
    (list.mergeSort le).filter p = list.filter p := by
  -- they are sorted as they stand, so they are a sublist of the sorted list, and all of its part
  have hpairwise : (list.filter p).Pairwise fun a b => le a b = true := by
    refine List.pairwise_of_forall_mem_list fun a ha b hb => ?_
    exact hle a b (List.mem_filter.mp ha).2 (List.mem_filter.mp hb).2
  have hsublist : (list.filter p).Sublist ((list.mergeSort le).filter p) := by
    have hfilter := (List.sublist_mergeSort htrans htotal hpairwise List.filter_sublist).filter p
    simpa only [List.filter_filter, Bool.and_self] using hfilter
  have hlength := ((List.mergeSort_perm list le).filter p).length_eq
  exact (hsublist.eq_of_length hlength.symm).symm

namespace Suggestion

theorem notAfter_trans (a b c : Suggestion) (hab : notAfter a b = true)
    (hbc : notAfter b c = true) : notAfter a c = true := by
  simp only [notAfter, decide_eq_true_eq] at hab hbc ⊢
  omega

theorem notAfter_total (a b : Suggestion) : (notAfter a b || notAfter b a) = true := by
  simp only [notAfter, Bool.or_eq_true, decide_eq_true_eq]
  omega

theorem withCount_of_count_eq_none {s : Suggestion} (h : s.count = none)
    (uses : String → Option Nat) : withCount uses s = counted uses s := by
  obtain ⟨display, uri, data, count⟩ := s
  cases h
  cases uri <;> rfl

theorem count_of_ofResult? {r : Result} {s : Suggestion} (h : ofResult? r = some s) :
    s.count = none := by
  obtain ⟨display, -, rfl⟩ := Option.map_eq_some_iff.mp h
  rfl

end Suggestion

variable {s : Settings} {e : Extractor} {counter : Option Host.Counter} {rules : List Rule}
  {request : Request} {document : Document}

theorem count_of_mem_kept {results : List Result} {made : Suggestion}
    (h : made ∈ kept s results) : made.count = none := by
  obtain ⟨r, -, hresult⟩ := List.mem_filterMap.mp (List.mem_of_mem_take h)
  exact Suggestion.count_of_ofResult? hresult

theorem isRanking_rank {list : List Suggestion} (h : ∀ made ∈ list, made.count = none)
    (counter : Host.Counter) (call : Counting) :
    IsRanking (counter.count call.uris call.dataType) list (rank counter call list) := by
  have hcounted : list.map (Suggestion.withCount (counter.count call.uris call.dataType)) =
      list.map (Suggestion.counted (counter.count call.uris call.dataType)) :=
    List.map_congr_left fun made hmade => Suggestion.withCount_of_count_eq_none (h made hmade) _
  have hperm := List.mergeSort_perm
    (list.map (Suggestion.counted (counter.count call.uris call.dataType))) Suggestion.notAfter
  rw [rank, hcounted]
  refine ⟨hperm, ?_, fun n => ?_, fun ranked hranked => ?_⟩
  · have hsorted := List.pairwise_mergeSort Suggestion.notAfter_trans Suggestion.notAfter_total
      (list.map (Suggestion.counted (counter.count call.uris call.dataType)))
    exact hsorted.imp fun hle => of_decide_eq_true hle
  · apply filter_mergeSort Suggestion.notAfter_trans Suggestion.notAfter_total
    intro a b ha hb
    have hweights := (of_decide_eq_true hb).trans (of_decide_eq_true ha).symm
    exact decide_eq_true (Nat.le_of_eq hweights)
  · obtain ⟨made, -, rfl⟩ := List.mem_map.mp (hperm.mem_iff.mp hranked)
    rfl

theorem counting?_eq_some {registry : Host.Registry} {list : List Suggestion}
    (h : list.filterMap (·.uri) ≠ []) :
    counting? registry rules list =
      some ⟨list.filterMap (·.uri), uriType? registry rules⟩ :=
  if_neg (by simpa using h)

theorem counting?_eq_none {registry : Host.Registry} {list : List Suggestion}
    (h : list.filterMap (·.uri) = []) : counting? registry rules list = none :=
  if_pos (by simpa using h)

theorem suggest_eq_answerFrom {fetch : Request → Except Failure String} {a : Autofiller}
    {query url body : String} {locale : Option String}
    (hurl : requestUrl s a.provider a.group query locale = .ok url)
    (hbody : fetch ⟨url, a.provider.accept⟩ = .ok body)
    (hdocument : readBody? a.provider body = some document) :
    suggest s e counter fetch a query locale =
      answerFrom s e counter a.group.rules ⟨url, a.provider.accept⟩ document := by
  simp only [suggest, hurl, hbody, hdocument]

/-- With a counter and an address, the addresses of all suggestions that are kept are counted in one
call, and the suggestions are ranked by the counts. -/
theorem answerFrom_counted {c : Host.Counter}
    (h : (kept s (extractList e document rules)).filterMap (·.uri) ≠ []) :
    let first := kept s (extractList e document rules)
    let call : Counting := ⟨first.filterMap (·.uri), uriType? e.registry rules⟩
    let answer := answerFrom s e (some c) rules request document
    answer.suggestions = some (rank c call first) ∧ answer.counting = some call := by
  simp only [answerFrom, counting?_eq_some h, and_self]

theorem answerFrom_uncounted
    (h : counter = none ∨ (kept s (extractList e document rules)).filterMap (·.uri) = []) :
    let answer := answerFrom s e counter rules request document
    answer.suggestions = some (kept s (extractList e document rules)) ∧ answer.counting = none := by
  rcases h with rfl | hempty
  · exact ⟨rfl, rfl⟩
  · simp only [answerFrom, counting?_eq_none hempty, and_self]

/-- Suggestions are the first records of the answer that make one, as many as are asked for. With a
counter and an address, the counter is called once, with the addresses of them all in the order of
the service, and they are ranked by the counts. Otherwise it is not called, and they stay as they
are. -/
theorem suggest_ranked (s : Settings) (e : Extractor) (counter : Option Host.Counter)
    (fetch : Request → Except Failure String) (a : Autofiller) (query url body : String)
    (locale : Option String) (document : Document)
    (hurl : requestUrl s a.provider a.group query locale = .ok url)
    (hbody : fetch ⟨url, a.provider.accept⟩ = .ok body)
    (hdocument : readBody? a.provider body = some document) :
    let answer := suggest s e counter fetch a query locale
    let first := ((extractList e document a.group.rules).filterMap Suggestion.ofResult?).take
      s.maxResults
    let uris := first.filterMap (·.uri)
    let dataType := uriType? e.registry a.group.rules
    ∃ list, answer.suggestions = some list ∧ list.length ≤ s.maxResults ∧
      (∀ c, counter = some c → uris ≠ [] →
        answer.counting = some ⟨uris, dataType⟩ ∧
          IsRanking (c.count uris dataType) first list) ∧
      (counter = none ∨ uris = [] →
        answer.counting = none ∧ list = first ∧ ∀ made ∈ list, made.count = none) := by
  intro answer first uris dataType
  have hanswer : answer = answerFrom s e counter a.group.rules ⟨url, a.provider.accept⟩ document :=
    suggest_eq_answerFrom hurl hbody hdocument
  have hlength : first.length ≤ s.maxResults := List.length_take_le _ _
  have hcounts : ∀ made ∈ first, made.count = none := fun made hmade => count_of_mem_kept hmade
  rw [hanswer]
  by_cases hcount : counter = none ∨ uris = []
  · obtain ⟨hsuggestions, hcounting⟩ := answerFrom_uncounted hcount
    refine ⟨first, hsuggestions, hlength, ?_, fun _ => ⟨hcounting, rfl, hcounts⟩⟩
    rintro c rfl huris
    exact absurd hcount (not_or.mpr ⟨Option.some_ne_none c, huris⟩)
  · obtain ⟨hcounter, huris⟩ := not_or.mp hcount
    obtain ⟨c, rfl⟩ := Option.ne_none_iff_exists'.mp hcounter
    obtain ⟨hsuggestions, hcounting⟩ := answerFrom_counted huris
    have hranking := isRanking_rank hcounts c ⟨uris, dataType⟩
    refine ⟨rank c ⟨uris, dataType⟩ first, hsuggestions, ?_, ?_, fun h => absurd h hcount⟩
    · rw [hranking.perm.length_eq, List.length_map]
      exact hlength
    · rintro _ hsome _
      cases hsome
      exact ⟨hcounting, hranking⟩

/-- A record without an address, one whose address is not in use, and one that moves to the
front. -/
theorem suggest_ranked_records :
    let e : Extractor := ⟨.ofDeclared Table.empty, none, none, false⟩
    let rules := parseRules "r = \x7blist\x7d\nn = \x7b__label__\x7d\ni = b:id ^^uri"
    let group : Group :=
      { Group.ofService "generic" with url := some "http://a.org/", rules := rules }
    let body := "\x7b\"r\":[\x7b\"n\":\"A\"\x7d,\x7b\"i\":\"p\"\x7d,\x7b\"i\":\"q\"\x7d]\x7d"
    let counter := Host.Counter.ofTable (Table.ofList [("q", 2)])
    let answer :=
      suggest .default e (some counter) (fun _ => .ok body) ⟨"a", .genericJson, group⟩ "n" none
    answer.counting = some ⟨["p", "q"], some "uri"⟩ ∧
      ∃ list, answer.suggestions = some list ∧
        list.Pairwise (fun a b => b.weight ≤ a.weight) ∧
        (list.filter (·.weight = 2)).map (fun s => (s.display, s.count)) = [("q", some 2)] ∧
        (list.filter (·.weight = 0)).map (fun s => (s.display, s.count)) =
          [("A", none), ("p", some 0)] := by
  intro e rules group body counter answer
  let document := (readBody? .genericJson body).getD (.json .null)
  have hdocument : readBody? .genericJson body = some document := by
    have hread : (readBody? .genericJson body).isSome = true := by decide +kernel
    obtain ⟨read, hread⟩ := Option.isSome_iff_exists.mp hread
    simp only [document, hread, Option.getD_some]
  have huris : (kept .default (extractList e document rules)).filterMap (·.uri) = ["p", "q"] := by
    decide +kernel
  obtain ⟨list, hlist, -, hcounted, -⟩ := suggest_ranked .default e (some counter)
    (fun _ => .ok body) ⟨"a", .genericJson, group⟩ "n" "http://a.org/" body none document
    (by decide +kernel) rfl hdocument
  obtain ⟨hcounting, hranking⟩ := hcounted counter rfl
    (fun hnil => List.cons_ne_nil _ _ (huris.symm.trans hnil))
  refine ⟨hcounting.trans ?_, list, hlist, hranking.sorted, ?_, ?_⟩
  · decide +kernel
  · rw [hranking.stable]
    decide +kernel
  · rw [hranking.stable]
    decide +kernel

end Crosswalk.Service
