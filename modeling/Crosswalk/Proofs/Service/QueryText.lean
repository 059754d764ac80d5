import Mathlib.Data.List.Count
import Crosswalk.Proofs.Service.QueryParts

/-!
What the text of a request can and cannot do to its query.

Values are encoded without braces and without any character that separates something in a query, so
a query keeps its separators whatever is asked for. Each placeholder is replaced by its own value,
unless the query has one between braces of its own: there a value can complete a placeholder that is
filled later.
-/

namespace Crosswalk.Service

open Mapping Text QueryPart

/-- The query of a group, or else of its kind of service, before it is filled. -/
def queryTemplate (p : Provider) (g : Group) : List Char :=
  ((g.query <|> p.query? g.sub).getD "").toList

/-- The placeholder of the text that is searched for. -/
def queryMark : List Char := "\x7bquery\x7d".toList

/-- The characters that separate something in a query. -/
def isDelimiter (c : Char) : Bool := "&=#?/;:(), ".toList.contains c

variable (s : Settings) (p : Provider) (g : Group) (query : String) (locale : Option String)

theorem queryText_eq :
    queryText s p g query locale = fillQuery (parameters s query locale) (queryTemplate p g) := rfl

theorem mem_placeholders_of_parameters :
    ∀ parameter ∈ parameters s query locale, parameter.1 ∈ placeholders := by
  have hmarks : (parameters s query locale).map Prod.fst = placeholders := rfl
  intro parameter hmem
  rw [← hmarks]
  exact List.mem_map_of_mem hmem

theorem not_encloses_of_own {parts : List QueryPart}
    (h : ∀ c, own c ∈ parts → isBrace c = false) : ¬ Encloses parts := by
  rintro ⟨before, inner, after, rfl, -, -⟩
  exact absurd (h '\x7b' (by simp)) (by decide)

/-- The queries of the known services have no placeholder between braces of their own. -/
theorem not_encloses_query? {sub : Option String} {text : String} (h : p.query? sub = some text) :
    ¬ Encloses (partsOf text.toList) := by
  cases p with
  | genericJson => cases h
  | genericXml => cases h
  | geoNames =>
    cases h
    decide +kernel
  | idRef =>
    cases h
    have hindex : Provider.idRefIndex sub ∈ ["corpname_t", "subjectheading_t", "persname_t"] := by
      rw [Provider.idRefIndex]
      split
      · simp
      · split <;> simp
    revert hindex
    generalize Provider.idRefIndex sub = index
    revert index
    decide +kernel

/-- Each placeholder that one scan of the query finds is replaced by its own value and nothing that
is put in is replaced again, if the group's own query has no placeholder between braces of its
own. -/
theorem queryText_at_once
    (h : ∀ text, g.query = some text → ¬ Encloses (partsOf text.toList)) :
    queryText s p g query locale =
      writeParts ((partsOf (queryTemplate p g)).map (fill (parameters s query locale))) := by
  have hencloses : ¬ Encloses (partsOf (queryTemplate p g)) := by
    rw [queryTemplate]
    cases hown : g.query with
    | some text => exact h text hown
    | none =>
      cases hservice : p.query? g.sub with
      | some text => exact not_encloses_query? p hservice
      | none => exact not_encloses_of_own (by simp [partsOf, partsFrom])
  exact fillQuery_eq (mem_placeholders_of_parameters s query locale) hencloses

/-- Braces of the query's own beside its placeholders, and a text that looks like one of them. -/
theorem queryText_at_once_braces :
    let own := "\x7ba\x7d=\x7b\x7bquery\x7d&l=\x7blanguage\x7d"
    let g : Group := { Group.ofService "generic" with query := some own }
    let filled := "\x7ba\x7d=\x7b%7Busername%7D&l=fr"
    (∀ text, g.query = some text → ¬ Encloses (partsOf text.toList)) ∧
      queryText Settings.default .genericJson g "\x7busername\x7d" (some "fr_FR") =
        filled.toList := by
  intro own g filled
  have hencloses : ∀ text, g.query = some text → ¬ Encloses (partsOf text.toList) := by
    rintro text ⟨⟩
    decide +kernel
  have hfilled : writeParts ((partsOf (queryTemplate .genericJson g)).map
      (fill (parameters Settings.default "\x7busername\x7d" (some "fr_FR")))) =
        filled.toList := by
    decide +kernel
  exact ⟨hencloses, (queryText_at_once _ _ _ _ _ hencloses).trans hfilled⟩

/-- Between braces of the query's own a text that is searched for can complete the placeholder of
the user's name, and the name is put in. -/
theorem queryText_reveals_username :
    let g : Group := { Group.ofService "generic" with query := some "q=\x7buser\x7bquery\x7d\x7d" }
    let s : Settings := { Settings.default with geonamesUsername := "demo" }
    queryText s .genericJson g "name" none = "q=demo".toList ∧
      writeParts ((partsOf (queryTemplate .genericJson g)).map (fill (parameters s "name" none))) =
        "q=\x7busername\x7d".toList := by
  decide +kernel

theorem isDelimiter_of_mem_placeholders {mark : List Char} (h : mark ∈ placeholders) {c : Char}
    (hc : c ∈ mark) : isDelimiter c = false := by
  have hall : (placeholders.all fun mark => mark.all fun c => !isDelimiter c) = true := by
    decide +kernel
  have hmark := List.all_eq_true.mp (List.all_eq_true.mp hall mark h) c hc
  rwa [Bool.not_eq_true'] at hmark

theorem isDelimiter_of_mem_form {text : List Char} {c : Char} (h : c ∈ Url.Percent.form text) :
    isDelimiter c = false := by
  have hall : ("&=#?/;:(), ".toList.all fun c => !Url.Percent.isFormChar c) = true := by
    decide +kernel
  have hwritten := Url.Percent.isFormChar_of_mem_form h
  by_contra hdelimiter
  rw [Bool.not_eq_false, isDelimiter, List.contains_iff_mem] at hdelimiter
  have hreserved := List.all_eq_true.mp hall c hdelimiter
  rw [hwritten] at hreserved
  cases hreserved

/-- Separators are neither put in nor replaced. -/
theorem filter_fillQuery {values : List (List Char × List Char)}
    (h : ∀ value ∈ values, value.1 ∈ placeholders) (template : List Char) :
    (fillQuery values template).filter isDelimiter = template.filter isDelimiter := by
  induction values using List.reverseRecOn with
  | nil => rfl
  | append_singleton earlier value ih =>
    obtain ⟨hearlier, hvalue⟩ := List.forall_mem_append.mp h
    have hmark : ∀ c ∈ value.1, isDelimiter c = false := fun _ =>
      isDelimiter_of_mem_placeholders (hvalue value List.mem_cons_self)
    have hform : ∀ c ∈ Url.Percent.form value.2, isDelimiter c = false := fun _ =>
      isDelimiter_of_mem_form
    rw [fillQuery, List.foldl_concat, ← fillQuery]
    exact (filter_replaceText hmark hform _).trans (ih hearlier)

/-- If two maps differ at one element only and give the same list, they give the same there. -/
theorem eq_of_flatMap_eq {α β : Type} [DecidableEq α] {f h : α → List β} {a : α} {list : List α}
    (hsame : ∀ x, x ≠ a → f x = h x) (ha : a ∈ list) (heq : list.flatMap f = list.flatMap h) :
    f a = h a := by
  -- equally long texts are put in, since all else is equally long
  have hcount : ∀ list : List α, (list.flatMap f).length + list.count a * (h a).length =
      (list.flatMap h).length + list.count a * (f a).length := by
    intro list
    induction list with
    | nil => simp
    | cons x rest ih =>
      by_cases hx : x = a
      · subst hx
        simp only [List.flatMap_cons, List.length_append, List.count_cons_self, Nat.add_mul]
        omega
      · rw [List.flatMap_cons, List.flatMap_cons, List.length_append, List.length_append,
          List.count_cons_of_ne hx, hsame x hx]
        omega
  have hlength : (f a).length = (h a).length := by
    have htotal := hcount list
    rw [heq, Nat.add_left_cancel_iff] at htotal
    exact (Nat.eq_of_mul_eq_mul_left (List.count_pos_iff.mpr ha) htotal).symm
  induction list with
  | nil => cases ha
  | cons x rest ih =>
    rw [List.flatMap_cons, List.flatMap_cons] at heq
    by_cases hx : x = a
    · subst hx
      exact (List.append_inj heq hlength).1
    · rw [hsame x hx, List.append_cancel_left_eq] at heq
      exact ih ((List.mem_cons.mp ha).resolve_left (Ne.symm hx)) heq

theorem parameters_eq_cons : parameters s query locale =
    (queryMark, trim query.toList) :: (parameters s "" locale).tail := rfl

theorem write_fill_queryMark :
    ((placeholder queryMark).fill (parameters s query locale)).write =
      Url.Percent.form (trim query.toList) := by
  rw [parameters_eq_cons, fill, List.lookup_cons_self]
  rfl

/-- Only the placeholder of the text that is searched for depends on that text. -/
theorem fill_parameters_of_ne {part : QueryPart} (h : part ≠ placeholder queryMark)
    (query' : String) :
    part.fill (parameters s query locale) = part.fill (parameters s query' locale) := by
  cases part with
  | own c => rfl
  | value text => rfl
  | placeholder mark =>
    have hmark : (mark == queryMark) = false := by simpa using h
    rw [parameters_eq_cons, parameters_eq_cons s query', fill, fill, List.lookup_cons, hmark,
      List.lookup_cons, hmark]

/-- Two texts that are searched for give the same query only if they are equal but for the blanks
around them. -/
theorem trim_eq_of_queryText_eq {query query' : String} {locale : Option String}
    (hquery : placeholder queryMark ∈ partsOf (queryTemplate p g))
    (hown : ∀ c, own c ∈ partsOf (queryTemplate p g) → isBrace c = false)
    (h : queryText s p g query locale = queryText s p g query' locale) :
    trim query.toList = trim query'.toList := by
  have hencloses := not_encloses_of_own hown
  rw [queryText_eq, queryText_eq,
    fillQuery_eq (mem_placeholders_of_parameters s query locale) hencloses,
    fillQuery_eq (mem_placeholders_of_parameters s query' locale) hencloses,
    writeParts, writeParts, List.flatMap_map, List.flatMap_map] at h
  have hsame : ∀ part : QueryPart, part ≠ placeholder queryMark →
      (part.fill (parameters s query locale)).write =
        (part.fill (parameters s query' locale)).write := by
    intro part hpart
    rw [fill_parameters_of_ne s query locale hpart query']
  have hvalue := eq_of_flatMap_eq hsame hquery h
  rw [write_fill_queryMark, write_fill_queryMark] at hvalue
  exact Url.Percent.form_injective hvalue

/-- Whatever is searched for, in whatever language, a query has the separators of its template and
no others. Where the template has the placeholder of the text that is searched for, and no braces
but those of placeholders, texts that differ in more than the blanks around them give different
queries. -/
theorem queryText_keeps_shape :
    (∀ query locale query' locale',
      (queryText s p g query locale).filter isDelimiter =
          (queryText s p g query' locale').filter isDelimiter ∧
        (queryText s p g query locale).filter isDelimiter =
          (queryTemplate p g).filter isDelimiter) ∧
      (queryMark <:+: queryTemplate p g →
        (∀ c, own c ∈ partsOf (queryTemplate p g) → isBrace c = false) →
        ∀ query query' locale, trim query.toList ≠ trim query'.toList →
          queryText s p g query locale ≠ queryText s p g query' locale) := by
  have hshape : ∀ query locale, (queryText s p g query locale).filter isDelimiter =
      (queryTemplate p g).filter isDelimiter := fun query locale =>
    filter_fillQuery (mem_placeholders_of_parameters s query locale) _
  refine ⟨fun query locale query' locale' => ⟨?_, hshape query locale⟩, ?_⟩
  · rw [hshape query locale, hshape query' locale']
  · intro hquery hown query query' locale hdiffer heq
    have hfound : placeholder queryMark ∈ partsOf (queryTemplate p g) :=
      placeholder_mem_partsOf List.mem_cons_self hquery
    exact hdiffer (trim_eq_of_queryText_eq s p g hfound hown heq)

/-- A text with separators of its own, and one that differs from it in one character. -/
theorem queryText_keeps_shape_separators :
    let g := Group.ofService "geonames"
    let s := Settings.default
    queryMark <:+: queryTemplate .geoNames g ∧
      (∀ c, own c ∈ partsOf (queryTemplate .geoNames g) → isBrace c = false) ∧
      trim " a&b=c ".toList ≠ trim "a b=c".toList ∧
      queryText s .geoNames g " a&b=c " none ≠ queryText s .geoNames g "a b=c" none ∧
      (queryText s .geoNames g " a&b=c " none).filter isDelimiter = "=&=&=&=".toList := by
  intro g s
  have hquery : queryMark <:+: queryTemplate .geoNames g := by
    decide +kernel
  have hall : (((partsOf (queryTemplate .geoNames g)).filterMap own?).all fun c =>
      !isBrace c) = true := by
    decide +kernel
  have hown : ∀ c, own c ∈ partsOf (queryTemplate .geoNames g) → isBrace c = false := by
    intro c hc
    simpa using List.all_eq_true.mp hall c (List.mem_filterMap.mpr ⟨own c, hc, rfl⟩)
  have hdiffer : trim " a&b=c ".toList ≠ trim "a b=c".toList := by
    decide +kernel
  obtain ⟨hshape, hinjective⟩ := queryText_keeps_shape s .geoNames g
  refine ⟨hquery, hown, hdiffer, hinjective hquery hown _ _ none hdiffer, ?_⟩
  rw [(hshape " a&b=c " none "" none).2]
  decide +kernel

end Crosswalk.Service
