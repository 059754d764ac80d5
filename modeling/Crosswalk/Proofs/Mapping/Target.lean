import Crosswalk.Mapping.Printer
import Crosswalk.Proofs.Field.Description

/-!
Targets, written and read again.

A target that was read is one of the two markers or what a description in canonical form makes.
Each is read back from its text, and in that text no equals sign stands in front of a tilde: so a
rule is split where it was split before.
-/

namespace Crosswalk.Mapping.Target

open Text Crosswalk.Field

/-- The targets that reading gives, with patterns that stay on their line. -/
inductive IsCanonical : Target → Prop where
  | list : IsCanonical (ofMarker listMarker)
  | label : IsCanonical (ofMarker labelMarker)
  | described (spec : Spec) (h : spec.IsCanonical)
      (hline : ∀ p, spec.pattern = some p → '\n' ∉ p.toList) : IsCanonical (ofSpec spec)

@[simp] theorem spec_ofSpec (spec : Spec) : (ofSpec spec).spec = spec := by
  unfold ofSpec
  split <;> rfl

theorem write_ofSpec {spec : Spec} (h : spec.IsCanonical) : (ofSpec spec).write = spec.write := by
  have hfield : spec.field ≠ "" := by
    intro hempty
    have hterm := h.term
    rw [hempty] at hterm
    revert hterm
    decide
  simp [write, hfield]

variable {t : Target}

/-- What a reader of lines and rules relies on in the text of a target. -/
structure IsWritten (text : List Char) : Prop where
  title : IsTitle text
  equals : '=' ∉ text.takeWhile (· != '~')

theorem isWritten_listMarker : IsWritten listMarker.toList := by
  refine ⟨⟨by decide, ⟨?_, ?_⟩, by decide⟩, by decide⟩ <;>
  · rintro c ⟨⟩
    decide

theorem isWritten_labelMarker : IsWritten labelMarker.toList := by
  refine ⟨⟨by decide, ⟨?_, ?_⟩, by decide⟩, by decide⟩ <;>
  · rintro c ⟨⟩
    decide

theorem isWritten_write (h : t.IsCanonical) : IsWritten t.write := by
  cases h with
  | list => exact isWritten_listMarker
  | label => exact isWritten_labelMarker
  | described spec h hline =>
    rw [write_ofSpec h]
    obtain ⟨c, rest, hwrite, -⟩ := Spec.head_write h
    exact ⟨⟨by simp [hwrite], Spec.isTrimmed_write h, Spec.newline_not_mem_write h hline⟩,
      Spec.equals_not_mem_front h⟩

theorem read?_listMarker : read? listMarker.toList = some (ofMarker listMarker) := by
  rw [read?, isWritten_listMarker.title.trimmed.trim_eq]
  simp

theorem read?_labelMarker : read? labelMarker.toList = some (ofMarker labelMarker) := by
  rw [read?, isWritten_labelMarker.title.trimmed.trim_eq]
  simp

/-- A description in canonical form is no marker, and the target that it makes is read. -/
theorem read?_spec {spec : Spec} (h : spec.IsCanonical) :
    read? spec.write = some (ofSpec spec) := by
  obtain ⟨c, rest, hwrite, halpha⟩ := Spec.head_write h
  have hbrace : c ≠ '\x7b' := by
    rintro rfl
    revert halpha
    decide
  have hlist : spec.write ≠ listMarker.toList := by
    rw [hwrite]
    intro heq
    exact hbrace (List.cons.inj heq).1
  have hlabel : spec.write ≠ labelMarker.toList := by
    rw [hwrite]
    intro heq
    exact hbrace (List.cons.inj heq).1
  rw [read?, (Spec.isTrimmed_write h).trim_eq]
  simp [hlist, hlabel, Spec.read?_write h]

/-- A written target is read back. -/
theorem read?_write (h : t.IsCanonical) : read? t.write = some t := by
  cases h with
  | list => exact read?_listMarker
  | label => exact read?_labelMarker
  | described spec h hline =>
    rw [write_ofSpec h]
    exact read?_spec h

/-- What is read from a line is canonical. -/
theorem isCanonical_of_read? {s : List Char} (hs : '\n' ∉ s) (h : read? s = some t) :
    t.IsCanonical := by
  simp only [read?] at h
  split at h
  · rename_i hmarker
    cases h
    rcases hmarker with hlist | hlabel
    · rw [hlist, String.ofList_toList]
      exact .list
    · rw [hlabel, String.ofList_toList]
      exact .label
  · obtain ⟨spec, hspec, rfl⟩ := Option.map_eq_some_iff.mp h
    obtain ⟨hcanonical, hpattern⟩ := Spec.isCanonical_of_read? hspec
    refine .described spec hcanonical ?_
    intro p hp hline
    exact hs (mem_of_mem_trim (hpattern p hp '\n' hline))

end Crosswalk.Mapping.Target
