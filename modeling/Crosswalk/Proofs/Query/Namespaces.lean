import Crosswalk.Proofs.Query.Depth
import Crosswalk.Proofs.Table
import Crosswalk.Xml.Reader

/-!
Elements and the names they are written with.

A query has one namespace for each qualifier, and one for names without any: those of the first
declarations of the document. So the written name of an element finds it if the declaration in whose
scope it stands gives the namespace that the first one gives, and not otherwise.
-/

namespace Crosswalk.Query

open Text Xml

/-- The declaration that no document has to make. -/
def builtin : Declaration := ⟨some "xml", xmlNamespace⟩

/-- The declarations in whose scope a node stands, with the one that is always there. -/
def scopeOf (n : Node) : List Declaration := builtin :: n.declarations

/-- The declarations of a document, in document order. -/
def declarationsOf (d : Document) : List Declaration :=
  builtin :: (listFrom [] 0 d.children).flatMap fun l => l.node.declarations

section First

variable {declarations more : List Declaration} {qualifier : Option String} {uri : String}

theorem uriOf?_append :
    uriOf? qualifier (declarations ++ more) =
      (uriOf? qualifier declarations).or (uriOf? qualifier more) := by
  rw [uriOf?, List.find?_append, Option.map_or]
  rfl

theorem uriOf?_cons (d : Declaration) :
    uriOf? qualifier (d :: more) = (uriOf? qualifier [d]).or (uriOf? qualifier more) := by
  rw [← uriOf?_append, List.singleton_append]

theorem mem_of_uriOf? (h : uriOf? qualifier declarations = some uri) :
    ⟨qualifier, uri⟩ ∈ declarations := by
  obtain ⟨d, hfound, rfl⟩ := Option.map_eq_some_iff.mp h
  obtain rfl : d.qualifier = qualifier := by simpa using List.find?_some hfound
  exact List.mem_of_find?_eq_some hfound

/-- Declarations of a qualifier that agree give what each of them gives. -/
theorem uriOf?_of_agree (h : ⟨qualifier, uri⟩ ∈ declarations)
    (hagree : ∀ other, ⟨qualifier, other⟩ ∈ declarations → other = uri) :
    uriOf? qualifier declarations = some uri := by
  cases hfirst : uriOf? qualifier declarations with
  | some first => rw [hagree first (mem_of_uriOf? hfirst)]
  | none =>
    rw [uriOf?, Option.map_eq_none_iff, List.find?_eq_none] at hfirst
    exact absurd BEq.rfl (hfirst _ h)

/-- What is declared in the scope of a node is declared in its document. -/
theorem mem_declarationsOf {d : Document} {l : Located} (hl : l ∈ listFrom [] 0 d.children)
    (h : uriOf? qualifier (scopeOf l.node) = some uri) :
    ⟨qualifier, uri⟩ ∈ declarationsOf d := by
  refine List.cons_subset_cons _ ?_ (mem_of_uriOf? h)
  exact fun _ hmem => List.mem_flatMap.mpr ⟨l, hl, hmem⟩

end First

namespace Namespaces

/-- The namespace of the names with a qualifier, or of those without any. -/
def uriFor? (n : Namespaces) : Option String → Option String
  | some qualifier => n.uri? qualifier
  | none => n.unqualified

variable (n : Namespaces) (qualifier : Option String)

theorem uriFor?_declare (declaration : Declaration) :
    (n.declare declaration).uriFor? qualifier =
      (n.uriFor? qualifier).or (uriOf? qualifier [declaration]) := by
  obtain ⟨declared, uri⟩ := declaration
  match declared, qualifier with
  | none, none => cases h : n.unqualified <;> simp [declare, uriFor?, uriOf?, h]
  | none, some _ => cases h : n.unqualified <;> simp [declare, uriFor?, uri?, uriOf?, h]
  | some _, none => simp [declare, uriFor?, uriOf?]
  | some declared, some asked =>
    rw [declare, uriFor?, uri?, Table.get?_setIfAbsent]
    by_cases h : asked = declared
    · simp [uriFor?, uri?, uriOf?, h]
    · simp [uriFor?, uri?, uriOf?, h, Ne.symm h]

/-- Of several declarations the first counts, unless there was one before. -/
theorem uriFor?_foldl_declare (declarations : List Declaration) :
    (declarations.foldl declare n).uriFor? qualifier =
      (n.uriFor? qualifier).or (uriOf? qualifier declarations) := by
  induction declarations generalizing n with
  | nil => simp [uriOf?]
  | cons declaration rest ih =>
    rw [List.foldl_cons, ih, uriFor?_declare, Option.or_assoc, ← uriOf?_cons]

/-- The namespaces of a document are those of its first declarations. -/
theorem uriFor?_ofDocument (d : Document) :
    (ofDocument d).uriFor? qualifier = uriOf? qualifier (declarationsOf d) := by
  have hfold : ofDocument d = (declarationsOf d).foldl declare ⟨Table.empty, none⟩ := by
    rw [declarationsOf, List.foldl_cons, List.foldl_flatMap]
    rfl
  have hempty : uriFor? ⟨Table.empty, none⟩ qualifier = none := by cases qualifier <;> rfl
  rw [hfold, uriFor?_foldl_declare, hempty, Option.none_or]

end Namespaces

section Elements

variable {c : Context} {l : Located}

/-- A test behind two slashes finds the nodes of a context that pass it. -/
theorem mem_selectText_slashes (hc : c.IsPlaced) {test : NodeTest}
    (htest : test.isSupported = true) :
    Item.node l ∈ c.selectText (String.ofList ('/' :: '/' :: test.write)) ↔
      l ∈ c.allNodes ∧ c.passes test .child (.node l) = true := by
  let path : Path := ⟨true, []⟩
  have hstep : Step.IsWrittenAs ⟨.child, test, []⟩ (test.write ++ []) := .of (.child test) .nil
  rw [List.append_nil] at hstep
  have hwritten := (Path.isWrittenAs_followedBy .root hstep).2
  have hroot : path.isSupported = true := rfl
  have hsteps : ∀ step ∈ [Step.everywhere, ⟨.child, test, []⟩], step.isSupported = true := by
    simp [Step.isSupported, Step.everywhere, htest]
    rfl
  have hsupported := Path.isSupported_followedBy hroot (by simp) hsteps
  have htext : ['/'] ++ path.separator ++ '/' :: test.write = '/' :: '/' :: test.write := rfl
  have hselect := selectText_of_isWrittenAs c hsupported hwritten
  rw [htext] at hselect
  rw [hselect, mem_select_slashes hc rfl rfl]
  simp

variable {d : Document} {name : Name}

/-- The element with a name is found at any depth by what the name fits. -/
theorem mem_selectText_name (hl : l ∈ listFrom [] 0 d.children)
    (hname : l.node.elementName? = some name) {pattern : NamePattern}
    (hpattern : pattern.isSupported = true) :
    Item.node l ∈ (Context.ofDocument d).selectText
        (String.ofList ('/' :: '/' :: pattern.write)) ↔
      (Context.ofDocument d).fits pattern false name = true := by
  have hplaced : (Context.ofDocument d).IsPlaced := by
    intro r hr
    cases hr
  have hpasses : (Context.ofDocument d).passes (.name pattern) .child (.node l) =
      (Context.ofDocument d).fits pattern false name := by
    rw [Context.passes, hname]
    rfl
  have htest : (NodeTest.name pattern).isSupported = true := hpattern
  rw [← NodeTest.write_name, mem_selectText_slashes hplaced htest, hpasses]
  exact and_iff_right hl

theorem isWild_of_isName {pattern : NamePattern} (h : isName pattern.localName.toList = true) :
    pattern.isWild = false := by
  apply beq_false_of_ne
  intro hstar
  rw [hstar] at h
  exact absurd h (by decide +kernel)

/-- A name with a qualifier fits exactly what is in the namespace that the document declares first
for the qualifier. -/
theorem fits_qualified {q : String} :
    (Context.ofDocument d).fits ⟨some q, name.localName⟩ false name = true ↔
      ∃ uri, uriOf? (some q) (declarationsOf d) = some uri ∧ name.uri = some uri := by
  have huri : (Context.ofDocument d).namespaces.uri? q = uriOf? (some q) (declarationsOf d) :=
    Namespaces.uriFor?_ofDocument (some q) d
  cases hfirst : uriOf? (some q) (declarationsOf d) <;> simp [Context.fits, huri, hfirst]

theorem fits_unqualified (h : isName name.localName.toList = true) :
    (Context.ofDocument d).fits ⟨none, name.localName⟩ false name = true ↔
      name.uri = none ∨ name.uri = uriOf? none (declarationsOf d) := by
  have hunqualified : (Context.ofDocument d).namespaces.unqualified =
      uriOf? none (declarationsOf d) := Namespaces.uriFor?_ofDocument none d
  have hwild : NamePattern.isWild ⟨none, name.localName⟩ = false := isWild_of_isName h
  simp [Context.fits, hwild, hunqualified]

section Written

variable (hl : l ∈ listFrom [] 0 d.children) (hname : l.node.elementName? = some name)
  (hlocal : isName name.localName.toList = true)

include hl hname hlocal

theorem mem_selectText_qualified {p : String} (hp : isName p.toList = true) :
    Item.node l ∈ (Context.ofDocument d).selectText ("//" ++ p ++ ":" ++ name.localName) ↔
      ∃ uri, uriOf? (some p) (declarationsOf d) = some uri ∧ name.uri = some uri := by
  have hpattern : NamePattern.isSupported ⟨some p, name.localName⟩ = true := by
    simp [NamePattern.isSupported, hlocal, hp]
  have htext : "//" ++ p ++ ":" ++ name.localName =
      String.ofList ('/' :: '/' :: NamePattern.write ⟨some p, name.localName⟩) := by
    simp [← String.toList_inj, NamePattern.write]
  rw [htext, mem_selectText_name hl hname hpattern, fits_qualified]

theorem mem_selectText_unqualified :
    Item.node l ∈ (Context.ofDocument d).selectText ("//" ++ name.localName) ↔
      name.uri = none ∨ name.uri = uriOf? none (declarationsOf d) := by
  have hpattern : NamePattern.isSupported ⟨none, name.localName⟩ = true := by
    simp [NamePattern.isSupported, hlocal]
  have htext : "//" ++ name.localName =
      String.ofList ('/' :: '/' :: NamePattern.write ⟨none, name.localName⟩) := by
    simp [← String.toList_inj, NamePattern.write]
  rw [htext, mem_selectText_name hl hname hpattern, fits_unqualified hlocal]

end Written

end Elements

end Crosswalk.Query
