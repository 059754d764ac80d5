import Crosswalk.Proofs.Decimal.Numeral
import Crosswalk.Proofs.Query.Enclosed
import Crosswalk.Proofs.Query.Subjects

/-!
How comparisons are written.

A comparison has a subject on its left, an operator, and on its right a number or a text in quotes.
The reader takes no other comparison as long as the text does not hold its own quotes and is not one
of the words that are read like numbers. But it looks at the ends of a text in quotes only: whatever
stands between the first quote and the last is compared, with all quotes and operators in it.
-/

namespace Crosswalk.Query

open Text

/-- What stands on the right of a comparison: a number, or a text in quotes that it does not hold. -/
inductive IsOperand (value : List Char) : List Char → Prop where
  | quoted {s : List Char} (h : IsQuoted value s) : IsOperand value s
  | number (h : Decimal.IsNumber value) : IsOperand value value

/-- What the reader takes on the right of a comparison: also a text that holds the quotes that it
stands in, and a word that is read like a number. -/
inductive IsTakenOperand (value : List Char) : List Char → Prop where
  | operand {s : List Char} (h : IsOperand value s) : IsTakenOperand value s
  | holdsQuote {quote : Char} (hquote : isQuote quote = true) (h : quote ∈ value) :
    IsTakenOperand value (quote :: value ++ [quote])
  | word (h : Decimal.IsNumberWord value) : IsTakenOperand value value

/-- A comparison as it stands in its bracket, with blanks around its parts. -/
inductive Predicate.IsComparedAs (operand : List Char → List Char → Prop) :
    Predicate → List Char → Prop where
  | of {subject : Subject} {value : String} {negated : Bool}
    {front left before after right back : List Char} (hfront : isAllBlank front = true)
    (hleft : subject.IsWrittenAs left) (hbefore : isAllBlank before = true)
    (hafter : isAllBlank after = true) (hright : operand value.toList right)
    (hback : isAllBlank back = true) :
    IsComparedAs operand (subject.compared value negated)
      (front ++ (left ++ before ++ operator negated ++ (after ++ right)) ++ back)

section Operands

variable {value s : List Char}

/-- A character that stands in numbers or in words that are read like them. -/
def IsNumberCharacter (c : Char) : Prop :=
  c.isDigit = true ∨ c ∈ Decimal.numberMarks ∨ c.toLower ∈ Decimal.wordLetters

instance : DecidablePred IsNumberCharacter := fun c =>
  inferInstanceAs (Decidable (c.isDigit = true ∨ c ∈ Decimal.numberMarks ∨
    c.toLower ∈ Decimal.wordLetters))

theorem quiet_of_isNumberCharacter {c : Char} (h : IsNumberCharacter c) :
    isBlank c = false ∧ isQuote c = false := by
  have hblanks : ∀ n ∈ Field.blankCodes, ¬IsNumberCharacter (Char.ofNat n) := by decide
  have hquotes : ¬IsNumberCharacter '"' ∧ ¬IsNumberCharacter '\'' := by decide
  constructor
  · by_contra hblank
    have hmem := @Field.mem_blankCodes c (by simpa using hblank)
    apply hblanks c.toNat hmem
    rwa [Char.ofNat_toNat]
  · rw [← Bool.not_eq_true]
    intro hquote
    rcases isQuote_iff.mp hquote with rfl | rfl
    · exact hquotes.1 h
    · exact hquotes.2 h

theorem isNumberCharacter_of_read? (h : (Decimal.Quantity.read? s).isSome = true) :
    s ≠ [] ∧ ∀ c ∈ s, IsNumberCharacter c := by
  constructor
  · rintro rfl
    revert h
    decide
  · intro c hc
    rcases Decimal.Quantity.read?_isSome_iff.mp h with hnumber | hword
    · exact (hnumber.mem c hc).imp_right .inl
    · exact .inr (hword.mem c hc)

theorem isTakenOperand_iff :
    IsTakenOperand value s ↔
      (∃ quote, isQuote quote = true ∧ s = quote :: value ++ [quote]) ∨
        (s = value ∧ (Decimal.Quantity.read? s).isSome = true) := by
  rw [Decimal.Quantity.read?_isSome_iff]
  constructor
  · intro h
    cases h with
    | operand h =>
      cases h with
      | quoted h =>
        cases h with
        | of hquote _ => exact .inl ⟨_, hquote, rfl⟩
      | number h => exact .inr ⟨rfl, .inl h⟩
    | holdsQuote hquote _ => exact .inl ⟨_, hquote, rfl⟩
    | word h => exact .inr ⟨rfl, .inr h⟩
  · rintro (⟨quote, hquote, rfl⟩ | ⟨rfl, h | h⟩)
    · by_cases hmem : quote ∈ value
      · exact .holdsQuote hquote hmem
      · exact .operand (.quoted (.of hquote hmem))
    · exact .operand (.number h)
    · exact .word h

theorem IsTakenOperand.isTrimmed (h : IsTakenOperand value s) : s ≠ [] ∧ IsTrimmed s := by
  rcases isTakenOperand_iff.mp h with ⟨quote, hquote, rfl⟩ | ⟨-, hread⟩
  · exact ⟨by simp, isTrimmed_inQuotes hquote value⟩
  · obtain ⟨hne, hall⟩ := isNumberCharacter_of_read? hread
    exact ⟨hne, isTrimmed_of_forall fun c hc => (quiet_of_isNumberCharacter (hall c hc)).1⟩

/-- The reader takes what stands between the first quote of a text and the last, whatever it is. -/
theorem literal?_eq_some_iff : literal? s = some value ↔ IsTakenOperand value (trim s) := by
  rw [isTakenOperand_iff, literal?]
  generalize trim s = t
  cases t with
  | nil =>
    have hnone : Decimal.Quantity.read? [] = none := by decide
    simp [hnone]
  | cons first rest =>
    by_cases hquoted : (first = '\'' ∨ first = '"') ∧ rest.getLast? = some first
    · have hfirst : isQuote first = true := isQuote_iff.mpr hquoted.1.symm
      have hrest : rest = rest.dropLast ++ [first] :=
        (List.dropLast_append_getLast? first hquoted.2).symm
      have hnone : ¬(Decimal.Quantity.read? (first :: rest)).isSome = true := by
        intro hread
        have hquiet := (isNumberCharacter_of_read? hread).2 first List.mem_cons_self
        rw [(quiet_of_isNumberCharacter hquiet).2] at hfirst
        cases hfirst
      simp only [hquoted, and_self, if_true, hnone, Bool.false_eq_true, and_false, or_false,
        Option.some.injEq]
      constructor
      · rintro rfl
        exact ⟨first, hfirst, by rw [List.cons_append, ← hrest]⟩
      · rintro ⟨quote, -, heq⟩
        obtain ⟨-, rfl⟩ := List.cons.inj heq
        exact List.dropLast_concat
    · have hnone : ¬∃ quote, isQuote quote = true ∧ first :: rest = quote :: value ++ [quote] := by
        rintro ⟨quote, hquote, heq⟩
        obtain ⟨rfl, rfl⟩ := List.cons.inj heq
        exact hquoted ⟨(isQuote_iff.mp hquote).symm, List.getLast?_concat⟩
      simp only [hquoted, if_false, hnone, false_or]
      rw [Option.ite_none_right_eq_some, Option.some.injEq, and_comm]

end Operands

section Comparisons

variable {s : List Char} {p : Predicate}

/-- The sides of a comparison are what stands around its operator. -/
theorem splitComparison?_eq_some {left right : List Char} {negated : Bool}
    (h : splitComparison? s = some (left, right, negated)) :
    s = left ++ operator negated ++ right := by
  obtain ⟨⟨front, back⟩, hcut, heq⟩ := Option.map_eq_some_iff.mp h
  rw [cutFrom_eq_some hcut]
  dsimp only at heq
  split at heq
  · rename_i hlast
    cases heq
    have hfront := List.dropLast_append_getLast? '!' hlast
    nth_rewrite 1 [← hfront]
    simp [operator]
  · cases heq
    simp [operator]

theorem readComparison?_eq_some {left right : List Char} {negated : Bool}
    (h : readComparison? left right negated = some p) :
    ∃ subject value, p = Subject.compared subject value negated ∧
      subject.IsWrittenAs (trim left) ∧ IsTakenOperand value.toList (trim right) := by
  obtain ⟨value, hvalue, hrest⟩ := Option.bind_eq_some_iff.mp h
  have hoperand : IsTakenOperand (String.ofList value).toList (trim right) := by
    rw [String.toList_ofList]
    exact literal?_eq_some_iff.mp hvalue
  dsimp only at hrest
  split at hrest
  · rename_i hself
    cases hrest
    rcases hself with hself | htexts
    · exact ⟨.self, _, rfl, hself ▸ .self, hoperand⟩
    · exact ⟨.texts, _, rfl, htexts ▸ .texts, hoperand⟩
  · rename_i hself
    obtain ⟨part, hpart, heq⟩ := Option.bind_eq_some_iff.mp hrest
    cases heq
    have hwritten := Part.isWrittenAs_of_read? (isTrimmed_trim left) (not_or.mp hself).1 hpart
    exact ⟨.part part, _, rfl, hwritten, hoperand⟩

theorem Predicate.isComparedAs_of_read? (h : read? s = some p) (hcomparison : p.isComparison = true) :
    p.IsComparedAs IsTakenOperand s := by
  rw [read?] at h
  split at h
  · cases h
    cases hcomparison
  · split at h
    · cases h
      cases hcomparison
    · split at h
      · rename_i left right negated hsplit
        obtain ⟨subject, value, rfl, hleft, hright⟩ := readComparison?_eq_some h
        -- the blanks around the whole comparison and those around its two sides
        obtain ⟨front, back, hfront, hback, hs⟩ := exists_blanks s
        obtain ⟨before, after, hbefore, hafter, hl⟩ := exists_blanks left
        obtain ⟨before', after', hbefore', hafter', hr⟩ := exists_blanks right
        have htext : s = front ++ before ++ (trim left ++ after ++ operator negated ++
            (before' ++ trim right)) ++ (after' ++ back) := by
          rw [hs, splitComparison?_eq_some hsplit]
          nth_rewrite 1 [hl, hr]
          simp
        rw [htext]
        exact .of (isAllBlank_append hfront hbefore) hleft hafter hbefore' hright
          (isAllBlank_append hafter' hback)
      · obtain ⟨part, -, rfl⟩ := Option.map_eq_some_iff.mp h
        cases hcomparison

theorem Predicate.read?_of_isComparedAs (h : p.IsComparedAs IsTakenOperand s) :
    read? s = some p := by
  obtain ⟨hfront, hleft, hbefore, hafter, hright, hback⟩ := h
  rename_i subject value negated front left before after right back
  obtain ⟨hne, htrimmed⟩ := hright.isTrimmed
  have hside := hleft.isSide
  have hliteral : literal? (after ++ right) = some value.toList := by
    rwa [literal?_eq_some_iff, trim_blanks_append hafter htrimmed]
  have hwhole : IsTrimmed (left ++ before ++ operator negated ++ (after ++ right)) := by
    have haround := hside.trimmed.around htrimmed hside.ne_nil hne
      (before ++ operator negated ++ after)
    simpa using haround
  rw [← read?_trim, trim_around hfront hback hwhole]
  exact read?_of_operator hside hbefore hwhole
    (Subject.readComparison?_of_isWrittenAs hleft hbefore hliteral)

theorem Predicate.IsComparedAs.isComparison {operand : List Char → List Char → Prop}
    (h : p.IsComparedAs operand s) : p.isComparison = true := by
  cases h with
  | @of subject => cases subject <;> rfl

/-- The reader takes a comparison exactly if it is written as one that it takes. -/
theorem Predicate.read?_comparison_iff :
    read? s = some p ∧ p.isComparison = true ↔ p.IsComparedAs IsTakenOperand s :=
  ⟨fun h => isComparedAs_of_read? h.1 h.2, fun h => ⟨read?_of_isComparedAs h, h.isComparison⟩⟩

/-- A comparison ends with a number or with a quote, apart from blanks. -/
theorem last_of_isComparedAs (h : p.IsComparedAs IsOperand s) {c : Char}
    (hc : s.getLast? = some c) :
    isBlank c = true ∨ isQuote c = true ∨ c.isDigit = true ∨ c ∈ Decimal.numberMarks := by
  obtain ⟨-, -, -, -, hright, hback⟩ := h
  rename_i right back
  by_cases hnil : back = []
  · obtain ⟨hne, -⟩ := (IsTakenOperand.operand hright).isTrimmed
    simp only [hnil, List.append_nil, ← List.append_assoc] at hc
    rw [List.getLast?_append_of_ne_nil _ hne] at hc
    right
    cases hright with
    | quoted h =>
      cases h with
      | of hquote _ =>
        rw [List.getLast?_concat] at hc
        cases hc
        exact .inl hquote
    | number h => exact .inr (h.mem c (List.mem_of_getLast? hc))
  · rw [List.getLast?_append_of_ne_nil _ hnil] at hc
    exact .inl (List.all_eq_true.mp hback c (List.mem_of_getLast? hc))

theorem count_eq_zero_of_isNumber {value : List Char} (h : Decimal.IsNumber value) :
    value.count '\'' = 0 := by
  rw [List.count_eq_zero]
  intro hmem
  have hquote := h.mem '\'' hmem
  revert hquote
  decide

/-- In a comparison without double quotes stand at most two single quotes. -/
theorem count_le_of_isComparedAs (h : p.IsComparedAs IsOperand s) (hdouble : '"' ∉ s) :
    s.count '\'' ≤ 2 := by
  obtain ⟨hfront, hleft, hbefore, hafter, hright, hback⟩ := h
  rename_i subject value negated front left before after right back
  have hblank : ∀ {blanks : List Char}, isAllBlank blanks = true → blanks.count '\'' = 0 := by
    intro blanks h
    rw [List.count_eq_zero]
    exact fun hmem => not_mem_marks_of_isAllBlank h _ hmem (by decide)
  have hside : left.count '\'' = 0 := by
    rw [List.count_eq_zero]
    intro hmem
    cases (hleft.isSide.quiet _ hmem).1
  have hsign : (operator negated).count '\'' = 0 := by cases negated <;> rfl
  have hoperand : right.count '\'' ≤ 2 := by
    cases hright with
    | quoted h =>
      cases h with
      | @of quote hquote h =>
        rcases isQuote_iff.mp hquote with rfl | rfl
        · exact absurd (by simp) hdouble
        · simp [List.count_eq_zero.mpr h]
    | number h => simp [count_eq_zero_of_isNumber h]
  simp only [List.count_append, hblank hfront, hblank hbefore, hblank hafter, hblank hback, hside,
    hsign]
  omega

end Comparisons

/-- In a query that was read each bracket that holds an equals sign is a comparison of a subject
with a number or a text in quotes. Two more things are taken on the right: a text that holds the
quotes that it stands in, and a word that is read like a number. A query with any other bracket that
holds an equals sign is not read and selects nothing. -/
theorem comparisons_as_taken (s : String) :
    (∀ q, parse? s = some q →
      List.Forall₂
        (fun inside p => Predicate.read? inside = some p ∧
          ('=' ∈ inside ↔ p.isComparison = true) ∧
          (p.isComparison = true ↔ p.IsComparedAs IsTakenOperand inside))
        (insides .square s.toList) q.predicates) ∧
      ((∃ inside ∈ insides .square s.toList, '=' ∈ inside ∧
          ∀ p : Predicate, ¬p.IsComparedAs IsTakenOperand inside) →
        parse? s = none ∧ ∀ c : Context, c.selectText s = []) ∧
      ∀ (inside : List Char) (p : Predicate), p.IsComparedAs IsTakenOperand inside →
        Predicate.read? inside = some p := by
  have hread : ∀ q, parse? s = some q →
      List.Forall₂
        (fun inside p => Predicate.read? inside = some p ∧
          ('=' ∈ inside ↔ p.isComparison = true) ∧
          (p.isComparison = true ↔ p.IsComparedAs IsTakenOperand inside))
        (insides .square s.toList) q.predicates := by
    intro q hq
    refine (enclosesPredicates hq).read.imp fun inside p hp => ?_
    refine ⟨hp, Predicate.equals_mem_iff hp, ?_⟩
    rw [← Predicate.read?_comparison_iff]
    exact (and_iff_right hp).symm
  refine ⟨hread, ?_, fun _ _ h => Predicate.read?_of_isComparedAs h⟩
  rintro ⟨inside, hinside, hequals, hnone⟩
  have hrejected : parse? s = none := by
    cases hq : parse? s with
    | none => rfl
    | some q =>
      obtain ⟨p, -, -, hcomparison, hwritten⟩ := exists_of_mem_left (hread q hq) hinside
      exact absurd (hwritten.mp (hcomparison.mp hequals)) (hnone p)
  exact ⟨hrejected, fun c => by rw [Context.selectText, hrejected]⟩

/-- A query with two comparisons of different kinds, each of which is read. -/
theorem comparisons_as_taken_two :
    let s := "//r[@a != \"x='y'\"][b = -1.5e3]"
    let inside := "@a != \"x='y'\"".toList
    let p : Predicate := .compares (.attribute ⟨none, "a"⟩) "x='y'" true
    ∃ q, parse? s = some q ∧ insides .square s.toList = [inside, "b = -1.5e3".toList] ∧
      p.IsComparedAs IsTakenOperand inside ∧ Predicate.read? inside = some p := by
  intro s inside p
  let name (n : String) : NamePattern := ⟨none, n⟩
  let other : Predicate := .compares (.child (name "b")) "-1.5e3" false
  let q : Query := ⟨[⟨true, [.everywhere, ⟨.child, .name (name "r"), [p, other]⟩]⟩]⟩
  have hq : parse? s = some q := by decide +kernel
  have hinsides : insides .square s.toList = [inside, "b = -1.5e3".toList] := by decide +kernel
  obtain ⟨hread, -, hback⟩ := comparisons_as_taken s
  have hall := hread q hq
  have hpredicates : q.predicates = [p, other] := by decide +kernel
  rw [hinsides, hpredicates, List.forall₂_cons] at hall
  obtain ⟨⟨-, -, hcompared⟩, -⟩ := hall
  have hwritten := hcompared.mp rfl
  exact ⟨q, hq, hinsides, hwritten, hback inside p hwritten⟩

/-- Comparisons that are joined, and a word instead of a number, are taken for one comparison. -/
theorem joined_comparisons_taken :
    let joined := "//r[@a!='x' and @b!='y']"
    let word := "//r[@a!=nan]"
    let r : Xml.Node := .element ⟨none, "r"⟩ [⟨⟨none, "a"⟩, "x"⟩, ⟨⟨none, "b"⟩, "z"⟩] [] []
    let d : Xml.Document := ⟨[.element ⟨none, "l"⟩ [] [] [r]]⟩
    let c := Context.ofDocument d
    let value (p : Predicate) : Option String :=
      match p with
      | .compares _ value _ => some value
      | _ => none
    Xml.Document.parse? "<l><r a=\"x\" b=\"z\"/></l>" = some d ∧
      (∃ q, parse? joined = some q ∧ q.predicates.map value = [some "x' and @b!='y"]) ∧
      (∃ q, parse? word = some q ∧ q.predicates.map value = [some "nan"]) ∧
      (∃ inside ∈ insides .square joined.toList, '=' ∈ inside ∧
        ∀ p : Predicate, ¬p.IsComparedAs IsOperand inside) ∧
      (∃ inside ∈ insides .square word.toList, '=' ∈ inside ∧
        ∀ p : Predicate, ¬p.IsComparedAs IsOperand inside) ∧
      (c.selectText joined).length = 1 ∧ (c.selectText word).length = 1 := by
  intro joined word r d c value
  let name (n : String) : NamePattern := ⟨none, n⟩
  let query (value : String) : Query :=
    ⟨[⟨true, [.everywhere,
      ⟨.child, .name (name "r"), [.compares (.attribute (name "a")) value true]⟩]⟩]⟩
  have hjoined : parse? joined = some (query "x' and @b!='y") := by decide +kernel
  have hword : parse? word = some (query "nan") := by decide +kernel
  refine ⟨rfl, ⟨_, hjoined, rfl⟩, ⟨_, hword, rfl⟩, ⟨"@a!='x' and @b!='y'".toList, ?_⟩,
    ⟨"@a!=nan".toList, ?_⟩, by decide +kernel, by decide +kernel⟩
  · refine ⟨by decide +kernel, by decide, fun p hp => ?_⟩
    have hcount := count_le_of_isComparedAs hp (by decide)
    revert hcount
    decide
  · refine ⟨by decide +kernel, by decide, fun p hp => ?_⟩
    have hlast : "@a!=nan".toList.getLast? = some 'n' := rfl
    have hend := last_of_isComparedAs hp hlast
    revert hend
    decide

end Crosswalk.Query
