import Crosswalk.Proofs.Extraction.Links
import Crosswalk.Proofs.Template.Merge

/-!
The links among the values that a template adds.

A patch offers what the rules extract from the payload, each broken link as a literal that keeps its
text. So no value of a patch is unresolved, a link in it was looked up for it, and every broken link
has its literal in the patch at its place, unless that is a duplicate there.
-/

namespace Crosswalk

namespace Extraction

/-- The literal that takes the place of a broken link. -/
def literalOf (e : Extractor) (rule : Mapping.Rule) (text : String) : Value :=
  { valueOf e rule text with dataType := Category.literal.name, content := .literal text }

variable {e : Extractor} {rule : Mapping.Rule} {text : String} {v : Value}

theorem asLiteral_valueOf (h : IsBroken e rule.target text) :
    (valueOf e rule text).asLiteral = literalOf e rule text := by
  rcases shape_cases e rule.target text with ⟨-, hcontent⟩ | ⟨hsound, -⟩
  · rw [valueOf, Value.asLiteral, hcontent]
    rfl
  · exact absurd h hsound

theorem IsLinked.asLiteral {reads : List Read} (h : IsLinked e reads v) :
    IsLinked e reads v.asLiteral := by
  rw [Value.asLiteral]
  cases hcontent : v.content with
  | unresolved s =>
    intro id hid
    cases hid
  | _ => exact h

end Extraction

namespace Template

open Mapping Extraction

/-- What is said of the links in the patch for a payload. -/
structure HasVerifiedLinks (e : Extractor) (rules : List Rule) (payload : Json)
    (computed : Computed) : Prop where
  verified : ∀ term, ∀ v ∈ (computed.patch.get? term).getD [],
    v.isUnresolved = false ∧ IsLinked e computed.reads v
  /-- In front of the literal of a broken link stand the values that were offered before it. -/
  literal : ∀ rule ∈ rules, rule.target.role = .field →
    ∀ text ∈ valueTexts (.ofJson e.isInternal payload) rule, IsBroken e rule.target text →
      ∃ before after, (computed.patch.get? rule.target.field).getD [] = before ++ after ∧
        (after.head? = some (literalOf e rule text) ∨
          (literalOf e rule text).isDuplicate
            (storedValues payload rule.target.field ++ before.map Value.toJson) = true)

variable (e : Extractor) (rules : List Rule) (payload : Json)

theorem getD_patch_compute (term : String) :
    ((compute e rules payload).patch.get? term).getD [] =
      Value.newAmong (storedValues payload term)
        (((run e (.ofJson e.isInternal payload) rules).get term).map Value.asLiteral) :=
  getD_newValues term payload _

theorem hasVerifiedLinks_compute :
    HasVerifiedLinks e rules payload (compute e rules payload) := by
  constructor
  · intro term v hv
    rw [getD_patch_compute] at hv
    obtain ⟨w, hw, rfl⟩ := List.mem_map.mp (Value.newAmong_subset _ _ hv)
    exact ⟨w.isUnresolved_asLiteral, (isLinked_of_mem_run e _ rules hw).asLiteral⟩
  · intro rule hrule hrole text htext hbroken
    have hfills : rule ∈ rules.filter (fillsTerm rule.target.field) :=
      List.mem_filter.mpr ⟨hrule, by simp [fillsTerm, fillsField, hrole]⟩
    have hoffered : (valueOf e rule text).asLiteral ∈
        ((run e (.ofJson e.isInternal payload) rules).get rule.target.field).map
          Value.asLiteral := by
      rw [get_run_eq_flatMap]
      exact List.mem_map_of_mem (List.mem_flatMap.mpr ⟨rule, hfills, List.mem_map_of_mem htext⟩)
    -- what is offered before the literal is placed first, and the literal is compared with it
    obtain ⟨front, back, hsplit⟩ := List.append_of_mem hoffered
    rw [getD_patch_compute, hsplit, Value.newAmong_append, ← asLiteral_valueOf hbroken]
    refine ⟨_, _, rfl, ?_⟩
    rw [Value.newAmong]
    split
    · rename_i hduplicate
      exact .inr hduplicate
    · exact .inl rfl

end Template

end Crosswalk
