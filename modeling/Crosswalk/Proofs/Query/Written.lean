import Crosswalk.Proofs.Text.Nesting
import Crosswalk.Proofs.Text.Trim
import Crosswalk.Query.Basic
import Crosswalk.Text.Numeral
import Crosswalk.Unicode.Case

/-!
How queries are written.

The same query can be written in several ways. An axis may be named or, where it has a short form,
left out; a text may stand in quotes of either kind that it does not hold; two slashes may stand for
the step that they abbreviate; and blanks may stand around bars, slashes, operators and predicates.
-/

namespace Crosswalk.Query

open Text

/-- A letter, a number other than the decimal digits, or `_`. -/
def isNameStart (c : Char) : Bool := c == '_' || Unicode.isAlphanumeric c && !c.isDigit

def isNameCharacter (c : Char) : Bool :=
  Unicode.isAlphanumeric c || c == '_' || c == '-' || c == '.'

def isName : List Char → Bool
  | [] => false
  | first :: rest => isNameStart first && rest.all isNameCharacter

/-- Whether a text can stand in quotes: one of the two is not in it. -/
def isQuotable (value : List Char) : Bool := !value.contains '\'' || !value.contains '"'

/-! Queries that can be written. -/

def NamePattern.isSupported (p : NamePattern) : Bool :=
  (p.isWild || isName p.localName.toList) && p.qualifier.all fun q => isName q.toList

def Part.isSupported : Part → Bool
  | .attribute name | .child name => name.isSupported

def NodeTest.isSupported : NodeTest → Bool
  | .name pattern => pattern.isSupported
  | .text | .any => true

def Predicate.isSupported : Predicate → Bool
  | .position n => n < wordLimit
  | .last => true
  | .has part => part.isSupported
  | .compares part value _ => part.isSupported && isQuotable value.toList
  | .comparesSelf value _ => isQuotable value.toList

def Step.isSupported (step : Step) : Bool :=
  step.test.isSupported && step.predicates.all Predicate.isSupported

/-- A relative path has at least one step. -/
def Path.isSupported (path : Path) : Bool :=
  (path.isAbsolute || !path.steps.isEmpty) && path.steps.all Step.isSupported

def isSupported (q : Query) : Bool := !q.paths.isEmpty && q.paths.all Path.isSupported

theorem Step.parts_of_isSupported {step : Step} (h : step.isSupported = true) :
    step.test.isSupported = true ∧ ∀ p ∈ step.predicates, p.isSupported = true := by
  obtain ⟨htest, hpredicates⟩ := Bool.and_eq_true_iff.mp h
  exact ⟨htest, List.all_eq_true.mp hpredicates⟩

theorem Path.steps_of_isSupported {path : Path} (h : path.isSupported = true) :
    ∀ step ∈ path.steps, step.isSupported = true :=
  List.all_eq_true.mp (Bool.and_eq_true_iff.mp h).2

theorem paths_of_isSupported {q : Query} (h : q.isSupported = true) :
    ∀ path ∈ q.paths, path.isSupported = true :=
  List.all_eq_true.mp (Bool.and_eq_true_iff.mp h).2

/-! The parts that are written in one way. -/

def NamePattern.write (p : NamePattern) : List Char :=
  match p.qualifier with
  | some qualifier => qualifier.toList ++ ':' :: p.localName.toList
  | none => p.localName.toList

def Part.write : Part → List Char
  | .attribute name => '@' :: name.write
  | .child name => name.write

def NodeTest.write : NodeTest → List Char
  | .name pattern => pattern.write
  | .text => "text()".toList
  | .any => "node()".toList

theorem NodeTest.write_name (pattern : NamePattern) :
    (NodeTest.name pattern).write = pattern.write := rfl

def Axis.write : Axis → List Char
  | .child => "child".toList
  | .descendant => "descendant".toList
  | .descendantOrSelf => "descendant-or-self".toList
  | .self => "self".toList
  | .parent => "parent".toList
  | .attributes => "attribute".toList

/-- The sign of a comparison. -/
def operator (negated : Bool) : List Char := if negated then ['!', '='] else ['=']

/-! The parts that are written in several ways. -/

/-- A text in quotes that it does not hold. -/
inductive IsQuoted (value : List Char) : List Char → Prop where
  | of {quote : Char} (hquote : isQuote quote = true) (h : quote ∉ value) :
    IsQuoted value (quote :: value ++ [quote])

/-- A comparison of what is written on its left with a text. -/
inductive IsComparison (left : List Char) (value : String) (negated : Bool) : List Char → Prop where
  | of {before after quoted : List Char} (hbefore : isAllBlank before = true)
    (hafter : isAllBlank after = true) (h : IsQuoted value.toList quoted) :
    IsComparison left value negated (left ++ before ++ operator negated ++ (after ++ quoted))

/-- What stands between the brackets of a predicate, apart from blanks at its ends. -/
inductive Predicate.IsWrittenAs : Predicate → List Char → Prop where
  | position (n : Nat) : IsWrittenAs (.position n) (ofNat n)
  | last : IsWrittenAs .last "last()".toList
  | has (part : Part) : IsWrittenAs (.has part) part.write
  | compares {part : Part} {value : String} {negated : Bool} {s : List Char}
    (h : IsComparison part.write value negated s) : IsWrittenAs (.compares part value negated) s
  | comparesSelf {value : String} {negated : Bool} {s : List Char}
    (h : IsComparison ['.'] value negated s) : IsWrittenAs (.comparesSelf value negated) s

/-- Predicates one behind the other, each in brackets. -/
inductive Predicate.AreWrittenAs : List Predicate → List Char → Prop where
  | nil : AreWrittenAs [] []
  | cons {p : Predicate} {more : List Predicate} {front left s right rest : List Char}
    (hfront : isAllBlank front = true) (hleft : isAllBlank left = true)
    (hright : isAllBlank right = true) (h : p.IsWrittenAs s) (hmore : AreWrittenAs more rest) :
    AreWrittenAs (p :: more) (front ++ '[' :: (left ++ s ++ right ++ ']' :: rest))

/-- The axis and the test of a step. -/
inductive IsHeadWrittenAs : Axis → NodeTest → List Char → Prop where
  | child (test : NodeTest) : IsHeadWrittenAs .child test test.write
  | named (axis : Axis) (test : NodeTest) :
    IsHeadWrittenAs axis test (axis.write ++ ':' :: ':' :: test.write)
  | short (test : NodeTest) : IsHeadWrittenAs .attributes test ('@' :: test.write)
  | self : IsHeadWrittenAs .self .any ['.']
  | parent : IsHeadWrittenAs .parent .any ['.', '.']

inductive Step.IsWrittenAs (step : Step) : List Char → Prop where
  | of {head s : List Char} (hhead : IsHeadWrittenAs step.axis step.test head)
    (h : Predicate.AreWrittenAs step.predicates s) : step.IsWrittenAs (head ++ s)

/-- Steps with slashes between them. -/
inductive Step.AreWrittenAs : List Step → List Char → Prop where
  | last {step : Step} {s : List Char} (h : step.IsWrittenAs s) : AreWrittenAs [step] s
  | slash {step : Step} {more : List Step} {s before after rest : List Char}
    (hbefore : isAllBlank before = true) (hafter : isAllBlank after = true)
    (h : step.IsWrittenAs s) (hmore : AreWrittenAs more rest) :
    AreWrittenAs (step :: more) (s ++ before ++ '/' :: (after ++ rest))
  | slashes {step : Step} {more : List Step} {s before after rest : List Char}
    (hbefore : isAllBlank before = true) (hafter : isAllBlank after = true)
    (h : step.IsWrittenAs s) (hmore : AreWrittenAs more rest) :
    AreWrittenAs (step :: .everywhere :: more) (s ++ before ++ '/' :: '/' :: (after ++ rest))

inductive Path.IsWrittenAs : Path → List Char → Prop where
  | root : IsWrittenAs ⟨true, []⟩ ['/']
  | relative {steps : List Step} {s : List Char} (h : Step.AreWrittenAs steps s) :
    IsWrittenAs ⟨false, steps⟩ s
  | absolute {steps : List Step} {after s : List Char} (hafter : isAllBlank after = true)
    (h : Step.AreWrittenAs steps s) : IsWrittenAs ⟨true, steps⟩ ('/' :: (after ++ s))
  | below {steps : List Step} {after s : List Char} (hafter : isAllBlank after = true)
    (h : Step.AreWrittenAs steps s) :
    IsWrittenAs ⟨true, .everywhere :: steps⟩ ('/' :: '/' :: (after ++ s))

/-- Paths with bars between them. -/
inductive Path.AreWrittenAs : List Path → List Char → Prop where
  | last {path : Path} {before s after : List Char} (hbefore : isAllBlank before = true)
    (hafter : isAllBlank after = true) (h : path.IsWrittenAs s) :
    AreWrittenAs [path] (before ++ s ++ after)
  | bar {path : Path} {more : List Path} {before s after rest : List Char}
    (hbefore : isAllBlank before = true) (hafter : isAllBlank after = true)
    (h : path.IsWrittenAs s) (hmore : AreWrittenAs more rest) :
    AreWrittenAs (path :: more) (before ++ s ++ after ++ '|' :: rest)

def IsWrittenAs (q : Query) (s : String) : Prop := Path.AreWrittenAs q.paths s.toList

/-! Writing a query without blanks, with every axis named. -/

/-- A text in single quotes, if it holds none, and in double quotes otherwise. -/
def quote (value : List Char) : List Char :=
  if value.contains '\'' then '"' :: value ++ ['"'] else '\'' :: value ++ ['\'']

def Predicate.write : Predicate → List Char
  | .position n => ofNat n
  | .last => "last()".toList
  | .has part => part.write
  | .compares part value negated => part.write ++ operator negated ++ quote value.toList
  | .comparesSelf value negated => '.' :: operator negated ++ quote value.toList

def Step.write (step : Step) : List Char :=
  step.axis.write ++ ':' :: ':' :: step.test.write ++
    step.predicates.flatMap fun p => '[' :: p.write ++ [']']

def Path.write (path : Path) : List Char :=
  let steps := join ['/'] (path.steps.map Step.write)
  if path.isAbsolute then '/' :: steps else steps

def write (q : Query) : String := String.ofList (join ['|'] (q.paths.map Path.write))

section Writing

variable {value : List Char}

theorem isQuoted_quote (h : isQuotable value = true) : IsQuoted value (quote value) := by
  unfold quote
  split
  · rename_i hsingle
    have hmem : '\'' ∈ value := by simpa using hsingle
    have hdouble : '"' ∉ value := by simpa [isQuotable, hmem] using h
    exact .of rfl hdouble
  · rename_i hsingle
    exact .of rfl (by simpa using hsingle)

theorem isComparison_write {left : List Char} {value : String} {negated : Bool}
    (h : isQuotable value.toList = true) :
    IsComparison left value negated (left ++ operator negated ++ quote value.toList) := by
  have hcomparison : IsComparison left value negated _ :=
    .of isAllBlank_nil isAllBlank_nil (isQuoted_quote h)
  simpa using hcomparison

theorem Predicate.isWrittenAs_write {p : Predicate} (h : p.isSupported = true) :
    p.IsWrittenAs p.write := by
  cases p with
  | position n => exact .position n
  | last => exact .last
  | has part => exact .has part
  | compares part value negated =>
    exact .compares (isComparison_write (Bool.and_eq_true_iff.mp h).2)
  | comparesSelf value negated => exact .comparesSelf (isComparison_write h)

theorem Predicate.areWrittenAs_write {predicates : List Predicate}
    (h : ∀ p ∈ predicates, p.isSupported = true) :
    AreWrittenAs predicates (predicates.flatMap fun p => '[' :: p.write ++ [']']) := by
  induction predicates with
  | nil => exact .nil
  | cons p more ih =>
    have hmore := ih fun x hx => h x (List.mem_cons_of_mem p hx)
    have hcons := AreWrittenAs.cons isAllBlank_nil isAllBlank_nil isAllBlank_nil
      (isWrittenAs_write (h p List.mem_cons_self)) hmore
    simpa using hcons

theorem Step.isWrittenAs_write {step : Step} (h : step.isSupported = true) :
    step.IsWrittenAs step.write := by
  have hstep := Step.IsWrittenAs.of (.named step.axis step.test)
    (Predicate.areWrittenAs_write (parts_of_isSupported h).2)
  simpa [write] using hstep

theorem Step.areWrittenAs_write {steps : List Step} (hne : steps ≠ [])
    (h : ∀ step ∈ steps, step.isSupported = true) :
    AreWrittenAs steps (join ['/'] (steps.map write)) := by
  induction steps with
  | nil => exact absurd rfl hne
  | cons step more ih =>
    have hstep := isWrittenAs_write (h step List.mem_cons_self)
    cases more with
    | nil => exact .last hstep
    | cons next more =>
      have hmore := ih (by simp) fun x hx => h x (List.mem_cons_of_mem step hx)
      have hslash := AreWrittenAs.slash isAllBlank_nil isAllBlank_nil hstep hmore
      simpa [join] using hslash

theorem Path.isWrittenAs_write {path : Path} (h : path.isSupported = true) :
    path.IsWrittenAs path.write := by
  have hsteps := steps_of_isSupported h
  obtain ⟨isAbsolute, steps⟩ := path
  cases isAbsolute with
  | false =>
    have hne : steps ≠ [] := by simpa using (Bool.and_eq_true_iff.mp h).1
    exact .relative (Step.areWrittenAs_write hne hsteps)
  | true =>
    cases steps with
    | nil => exact .root
    | cons step more =>
      exact .absolute isAllBlank_nil (Step.areWrittenAs_write (by simp) hsteps)

theorem Path.areWrittenAs_write {paths : List Path} (hne : paths ≠ [])
    (h : ∀ path ∈ paths, path.isSupported = true) :
    AreWrittenAs paths (join ['|'] (paths.map write)) := by
  induction paths with
  | nil => exact absurd rfl hne
  | cons path more ih =>
    have hpath := isWrittenAs_write (h path List.mem_cons_self)
    cases more with
    | nil => simpa [join] using AreWrittenAs.last isAllBlank_nil isAllBlank_nil hpath
    | cons next more =>
      have hmore := ih (by simp) fun x hx => h x (List.mem_cons_of_mem path hx)
      have hbar := AreWrittenAs.bar isAllBlank_nil isAllBlank_nil hpath hmore
      simpa [join] using hbar

/-- Every supported query is written in at least one way. -/
theorem isWrittenAs_write {q : Query} (h : q.isSupported = true) : q.IsWrittenAs q.write := by
  have hne : q.paths ≠ [] := by simpa using (Bool.and_eq_true_iff.mp h).1
  have hpaths := Path.areWrittenAs_write hne (paths_of_isSupported h)
  simpa [IsWrittenAs, write] using hpaths

end Writing

end Crosswalk.Query
