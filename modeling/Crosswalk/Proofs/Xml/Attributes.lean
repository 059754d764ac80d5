import Mathlib.Data.List.Nodup
import Crosswalk.Proofs.Query.Order
import Crosswalk.Xml.Reader

/-!
Attributes of a document that was read.

The reader refuses a tag with two attributes of one name. So no element of a document has two, and
its attributes are known by their names.
-/

namespace Crosswalk.Xml

/-- A node of which no element, itself or below it, has two attributes of one name. -/
inductive Node.IsDistinct : Node → Prop where
  | element (name : Name) (attributes : List Attribute) (declarations : List Declaration)
      (children : List Node) (hattributes : (attributes.map (·.name)).Nodup)
      (hchildren : ∀ child ∈ children, child.IsDistinct) :
      IsDistinct (.element name attributes declarations children)
  | text (s : String) : IsDistinct (.text s)
  | comment (s : String) : IsDistinct (.comment s)
  | instruction (target data : String) : IsDistinct (.instruction target data)

/-- An open element without two attributes of one name, around nodes without any. -/
structure Open.IsDistinct (o : Open) : Prop where
  attributes : (o.attributes.map (·.name)).Nodup
  children : ∀ child ∈ o.children, child.IsDistinct

/-- What was read so far has no two attributes of one name at one element. -/
structure Reading.IsDistinct (r : Reading) : Prop where
  opened : ∀ o ∈ r.opened, o.IsDistinct
  outside : ∀ node ∈ r.outside, node.IsDistinct

/-- What every step keeps, a fold keeps. -/
theorem foldlM_keeps {α β : Type} {P : β → Prop} {f : β → α → Option β}
    (hstep : ∀ b a b', P b → f b a = some b' → P b') {xs : List α} {b b' : β} (hb : P b)
    (h : xs.foldlM f b = some b') : P b' := by
  induction xs generalizing b with
  | nil =>
    cases h
    exact hb
  | cons a rest ih =>
    rw [List.foldlM_cons] at h
    obtain ⟨next, hnext, hrest⟩ := Option.bind_eq_some_iff.mp h
    exact ih (hstep b a next hb hnext) hrest

theorem nodup_of_ownAttributes? {declarations : List Declaration}
    {written : List WrittenAttribute} {attributes : List Attribute}
    (h : ownAttributes? declarations written = some attributes) :
    (attributes.map (·.name)).Nodup := by
  have hadd : ∀ (own own' : List Attribute) (name : Name) (value : String),
      (own.map (·.name)).Nodup →
      (if own.any (·.name == name) then none else some (own ++ [⟨name, value⟩])) = some own' →
      (own'.map (·.name)).Nodup := by
    intro own own' name value hown hadd
    split at hadd
    · cases hadd
    · rename_i hnew
      cases hadd
      rw [List.map_append, List.nodup_append]
      refine ⟨hown, List.nodup_singleton _, ?_⟩
      intro x hx y hy heq
      rw [List.map_singleton, List.mem_singleton] at hy
      obtain ⟨b, hb, rfl⟩ := List.mem_map.mp hx
      exact hnew (List.any_eq_true.mpr ⟨b, hb, by simp [heq, hy]⟩)
  refine foldlM_keeps ?_ (P := fun own => (own.map (·.name)).Nodup) List.nodup_nil h
  intro own a own' hown hstep
  simp only at hstep
  split at hstep
  · exact hadd own own' _ _ hown hstep
  · obtain ⟨name, -, hname⟩ := Option.bind_eq_some_iff.mp hstep
    exact hadd own own' name _ hown hname

theorem isDistinct_of_openElement? {outer : List Declaration} {written : WrittenName}
    {attributes : List WrittenAttribute} {o : Open}
    (h : openElement? outer written attributes = some o) : o.IsDistinct := by
  unfold openElement? at h
  split at h
  · cases h
  · simp only [Option.bind_eq_bind, Option.bind_eq_some_iff] at h
    obtain ⟨own, -, attributes', hattributes, name, -, ho⟩ := h
    cases ho
    exact ⟨nodup_of_ownAttributes? hattributes, by simp⟩

theorem Open.IsDistinct.node {o : Open} (h : o.IsDistinct) : o.node.IsDistinct := by
  refine .element _ _ _ _ h.attributes ?_
  intro child hchild
  exact h.children child (List.mem_reverse.mp hchild)

theorem isDistinct_addNode {node : Node} {nodes : List Node} (hnode : node.IsDistinct)
    (hnodes : ∀ m ∈ nodes, m.IsDistinct) : ∀ m ∈ addNode node nodes, m.IsDistinct := by
  cases nodes with
  | nil => simpa [addNode] using hnode
  | cons last rest =>
    obtain ⟨hlast, hrest⟩ := List.forall_mem_cons.mp hnodes
    simp only [addNode]
    split
    · exact List.forall_mem_cons.mpr ⟨.text _, hrest⟩
    · exact List.forall_mem_cons.mpr ⟨hnode, hnodes⟩

variable {r r' : Reading}

theorem Reading.IsDistinct.add (h : r.IsDistinct) {node : Node} (hnode : node.IsDistinct) :
    (r.add node).IsDistinct := by
  unfold Reading.add
  split
  · exact ⟨h.opened, isDistinct_addNode hnode h.outside⟩
  · rename_i o rest hopened
    have hall := h.opened
    rw [hopened] at hall
    obtain ⟨ho, hrest⟩ := List.forall_mem_cons.mp hall
    exact ⟨List.forall_mem_cons.mpr ⟨⟨ho.attributes, isDistinct_addNode hnode ho.children⟩, hrest⟩,
      h.outside⟩

/-- A token adds no element with two attributes of one name. -/
theorem Reading.IsDistinct.take? (h : r.IsDistinct) {token : Token}
    (htake : r.take? token = some r') : r'.IsDistinct := by
  cases token with
  | text s =>
    cases htake
    exact h.add (.text _)
  | comment s =>
    cases htake
    exact h.add (.comment _)
  | instruction target data =>
    cases htake
    exact h.add (.instruction _ _)
  | opening name attributes isEmpty =>
    obtain ⟨o, ho, rfl⟩ := Option.map_eq_some_iff.mp htake
    have hopen := isDistinct_of_openElement? ho
    split
    · exact h.add hopen.node
    · exact ⟨List.forall_mem_cons.mpr ⟨hopen, h.opened⟩, h.outside⟩
  | close name =>
    simp only [Reading.take?] at htake
    split at htake
    · rename_i o rest hopened
      split at htake
      · cases htake
        have hall := h.opened
        rw [hopened] at hall
        obtain ⟨ho, hrest⟩ := List.forall_mem_cons.mp hall
        have hclosed : Reading.IsDistinct { r with opened := rest } := ⟨hrest, h.outside⟩
        exact hclosed.add ho.node
      · cases htake
    · cases htake

theorem Reading.IsDistinct.run (h : r.IsDistinct) {fuel : Nat} {s : List Char}
    (hrun : Reading.run fuel r s = some r') : r'.IsDistinct := by
  induction fuel generalizing r s with
  | zero => cases hrun
  | succ fuel ih =>
    have hstep : ∀ {read : Option (Token × List Char)},
        (read.bind fun head => (r.take? head.1).bind fun r => Reading.run fuel r head.2) =
          some r' → r'.IsDistinct := by
      intro read hread
      obtain ⟨head, -, hread⟩ := Option.bind_eq_some_iff.mp hread
      obtain ⟨next, htake, hnext⟩ := Option.bind_eq_some_iff.mp hread
      exact ih (h.take? htake) hnext
    unfold Reading.run at hrun
    split at hrun
    · split at hrun
      · cases hrun
        exact h
      · exact hstep hrun
    · split at hrun
      · cases hrun
      · exact hstep hrun

theorem isDistinct_of_parse? {text : String} {d : Document} (h : Document.parse? text = some d) :
    ∀ node ∈ d.children, node.IsDistinct := by
  unfold Document.parse? at h
  simp only [Option.bind_eq_bind, Option.bind_eq_some_iff] at h
  obtain ⟨s, -, r, hrun, hd⟩ := h
  split at hd
  · cases hd
    have hstart : Reading.IsDistinct ⟨[], []⟩ := ⟨by simp, by simp⟩
    intro node hnode
    exact (hstart.run hrun).outside node (List.mem_reverse.mp hnode)
  · cases hd

open Query in
theorem nodup_of_mem_listFrom {nodes : List Node} (h : ∀ node ∈ nodes, node.IsDistinct)
    {place : List Nat} {index : Nat} {l : Located} (hl : l ∈ listFrom place index nodes) :
    (l.node.attributes.map (·.name)).Nodup := by
  induction nodes using forest_induction generalizing place index with
  | nil => simp [listFrom] at hl
  | cons node rest below beside =>
    obtain ⟨hnode, hrest⟩ := List.forall_mem_cons.mp h
    rw [listFrom_cons] at hl
    rcases List.mem_cons.mp hl with rfl | hl
    · cases hnode with
      | element _ _ _ _ hattributes _ => exact hattributes
      | _ => exact List.nodup_nil
    · rcases List.mem_append.mp hl with hl | hl
      · apply below _ hl
        cases hnode with
        | element _ _ _ _ _ hchildren => exact hchildren
        | _ => simp [Node.children]
      · exact beside hrest hl

/-- No element of a document that was read has two attributes of one name. -/
theorem hasDistinctAttributes_of_parse? {text : String} {d : Document}
    (h : Document.parse? text = some d) : Query.HasDistinctAttributes d := fun _ hl =>
  nodup_of_mem_listFrom (isDistinct_of_parse? h) hl

end Crosswalk.Xml
