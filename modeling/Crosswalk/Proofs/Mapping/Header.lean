import Mathlib.Data.List.TakeWhile
import Crosswalk.Mapping.Printer
import Crosswalk.Mapping.Reader
import Crosswalk.Proofs.Text.Pieces
import Crosswalk.Proofs.Text.Trim

/-!
Headers, written and read again.

Every part of a header ends where the next one begins: the service and its part at a character
that they cannot hold, the variant at the closing bracket, the label with the line. So a header
that was read gives the same group when it is written and read once more.
-/

namespace Crosswalk.Mapping

open Text Field.Spec

/-- A group whose key is as reading gives it. -/
structure Group.IsKeyed (g : Group) : Prop where
  service_ne_nil : g.service.toList ≠ []
  service : ∀ c ∈ g.service.toList, isServicePart c = true
  sub_ne_nil : ∀ s, g.sub = some s → s.toList ≠ []
  sub : ∀ s, g.sub = some s → ∀ c ∈ s.toList, isSubPart c = true
  variant_ne_nil : ∀ s, g.variant = some s → s.toList ≠ []
  variant : ∀ s, g.variant = some s → IsTrimmed s.toList ∧ ']' ∉ s.toList

/-- A group whose header is as reading gives it, on one line. -/
structure Group.IsNamed (g : Group) : Prop extends g.IsKeyed where
  variant_oneLine : ∀ s, g.variant = some s → '\n' ∉ s.toList
  label : ∀ s, g.label = some s → IsTitle s.toList

/-- Two groups that are for the same service, part and variant. -/
structure Group.SameParts (g g' : Group) : Prop where
  service : g.service = g'.service
  sub : g.sub = g'.sub
  variant : g.variant = g'.variant

theorem Group.SameParts.key_eq {g g' : Group} (h : g.SameParts g') : g.key = g'.key := by
  rw [Group.key, Group.key, h.service, h.sub, h.variant]

theorem Group.IsKeyed.congr {g g' : Group} (h : g.IsKeyed) (hparts : g'.SameParts g) :
    g'.IsKeyed := by
  constructor
  · exact hparts.service ▸ h.service_ne_nil
  · exact hparts.service ▸ h.service
  · exact hparts.sub ▸ h.sub_ne_nil
  · exact hparts.sub ▸ h.sub
  · exact hparts.variant ▸ h.variant_ne_nil
  · exact hparts.variant ▸ h.variant

/-- A header says nothing about the address, the query and the rules of its group. -/
theorem Group.IsNamed.congr {g g' : Group} (h : g.IsNamed) (hparts : g'.SameParts g)
    (hlabel : g'.label = g.label) : g'.IsNamed :=
  ⟨h.toIsKeyed.congr hparts, hparts.variant ▸ h.variant_oneLine, hlabel ▸ h.label⟩

theorem nonBlank?_of_isTrimmed {s : List Char} (hne : s ≠ []) (h : IsTrimmed s) :
    nonBlank? s = some (String.ofList s) := by
  simp [nonBlank?, h.trim_eq, hne]

theorem isTrimmed_of_nonBlank? {s : List Char} {t : String} (h : nonBlank? s = some t) :
    t.toList ≠ [] ∧ IsTrimmed t.toList ∧ ∀ c ∈ t.toList, c ∈ s := by
  simp only [nonBlank?] at h
  split at h
  · cases h
  · rename_i hne
    cases h
    rw [String.toList_ofList]
    exact ⟨by simpa using hne, isTrimmed_trim s, fun c hc => mem_of_mem_trim hc⟩

theorem isTitle_of_nonBlank? {s : List Char} {t : String} (hline : '\n' ∉ s)
    (h : nonBlank? s = some t) : IsTitle t.toList := by
  obtain ⟨hne, htrimmed, hmem⟩ := isTrimmed_of_nonBlank? h
  exact ⟨hne, htrimmed, fun hc => hline (hmem _ hc)⟩

theorem nonBlank?_cons_space (s : List Char) : nonBlank? (' ' :: s) = nonBlank? s := by
  rw [nonBlank?, trim_cons_blank (by decide), nonBlank?]

theorem isBlank_of_isServicePart {c : Char} (h : isServicePart c = true) : isBlank c = false := by
  simp only [isServicePart, Bool.and_eq_true, Bool.not_eq_true'] at h
  exact h.1.1.1.1

theorem isBlank_of_isSubPart {c : Char} (h : isSubPart c = true) : isBlank c = false := by
  simp only [isSubPart, Bool.and_eq_true, Bool.not_eq_true'] at h
  exact h.1.1.1

/-- A part that a test accepts is taken up to the first character that the test refuses. -/
theorem takeWhile_append_stop {p : Char → Bool} {s t : List Char} (hs : ∀ c ∈ s, p c = true)
    (ht : ∀ c, t.head? = some c → p c = false) : (s ++ t).takeWhile p = s := by
  rw [List.takeWhile_append_of_pos hs]
  cases t with
  | nil => simp
  | cons c rest => simp [ht c rfl]

theorem trimStart_append_self {s : List Char} (hne : s ≠ []) (hs : ∀ c ∈ s, isBlank c = false)
    (t : List Char) : trimStart (s ++ t) = s ++ t := by
  apply trimStart_eq_self
  intro c hc
  rw [List.head?_append_of_ne_nil _ hne] at hc
  exact hs c (List.mem_of_mem_head? hc)

/-- What stands behind the service and its part. -/
def variantText (variant : Option String) (back : List Char) : List Char :=
  markedText " #".toList variant ++ ']' :: back

/-- What stands behind the closing bracket. -/
def labelText (label : Option String) : List Char := markedText " = ".toList label

theorem readLabel?_labelText {label : Option String}
    (h : ∀ s, label = some s → IsTitle s.toList) : readLabel? (labelText label) = label := by
  cases label with
  | none => rfl
  | some s =>
    have hblank : isBlank '=' = false := by decide
    have hstart : trimStart (labelText (some s)) = '=' :: ' ' :: s.toList := by
      simp [labelText, markedText, trimStart, show isBlank ' ' = true by decide, hblank]
    rw [readLabel?, hstart]
    simp [nonBlank?_cons_space, nonBlank?_of_isTrimmed (h s rfl).ne_nil (h s rfl).trimmed]

theorem readVariant?_variantText {variant : Option String}
    (hne : ∀ s, variant = some s → s.toList ≠ [])
    (h : ∀ s, variant = some s → IsTrimmed s.toList ∧ ']' ∉ s.toList) (back : List Char) :
    readVariant? (trimStart (variantText variant back)) = some (variant, back) := by
  cases variant with
  | none =>
    have hstart : trimStart (variantText none back) = ']' :: back :=
      trimStart_eq_self (by simp [variantText, markedText]; decide)
    rw [hstart]
    rfl
  | some s =>
    obtain ⟨htrimmed, hbracket⟩ := h s rfl
    have hblank : isBlank '#' = false := by decide
    have hstart : trimStart (variantText (some s) back) = '#' :: (s.toList ++ ']' :: back) := by
      simp [variantText, markedText, trimStart, show isBlank ' ' = true by decide, hblank]
    rw [hstart, readVariant?, cutAt_append hbracket]
    simp [nonBlank?_of_isTrimmed (hne s rfl) htrimmed]

/-- The text behind a service or its part begins with a character that ends both. -/
theorem head_variantText (variant : Option String) (back : List Char) :
    ∀ c, (variantText variant back).head? = some c → c = ' ' ∨ c = ']' := by
  intro c hc
  cases variant with
  | none => exact Or.inr (by simpa [variantText, markedText] using hc.symm)
  | some s => exact Or.inl (by simpa [variantText, markedText] using hc.symm)

theorem readSub?_subText {sub : Option String} (hne : ∀ s, sub = some s → s.toList ≠ [])
    (h : ∀ s, sub = some s → ∀ c ∈ s.toList, isSubPart c = true) (variant : Option String)
    (back : List Char) :
    readSub? (trimStart (markedText [':'] sub ++ variantText variant back)) =
      some (sub, trimStart (variantText variant back)) := by
  cases sub with
  | none =>
    have hcolon : ∀ rest, trimStart (variantText variant back) ≠ ':' :: rest := by
      intro rest
      cases variant <;> simp [variantText, markedText, trimStart, show isBlank ' ' = true by decide,
        show isBlank '#' = false by decide, show isBlank ']' = false by decide]
    simp only [markedText, List.nil_append]
    unfold readSub?
    split
    · rename_i rest hrest
      exact absurd hrest (hcolon rest)
    · rfl
  | some s =>
    have hparts := h s rfl
    have hblank : ∀ c ∈ s.toList, isBlank c = false := fun c hc =>
      isBlank_of_isSubPart (hparts c hc)
    have hcolon : trimStart (':' :: (s.toList ++ variantText variant back)) =
        ':' :: (s.toList ++ variantText variant back) :=
      trimStart_eq_self (by simp; decide)
    have hstop : ∀ c, (variantText variant back).head? = some c → isSubPart c = false := by
      intro c hc
      rcases head_variantText variant back c hc with rfl | rfl <;> decide
    simp only [markedText, List.cons_append, List.nil_append]
    rw [hcolon, readSub?, trimStart_append_self (hne s rfl) hblank,
      takeWhile_append_stop hparts hstop]
    simp [hne s rfl]

theorem writeHeader_eq (g : Group) :
    g.writeHeader = '[' :: (g.service.toList ++ (markedText [':'] g.sub ++
      variantText g.variant (labelText g.label))) := by
  simp [Group.writeHeader, Group.key, variantText, labelText]

/-- A written header is read back: it opens the group without its address, query and rules. -/
theorem readHeader?_of_isKeyed {g : Group} (h : g.IsKeyed)
    (hlabel : ∀ s, g.label = some s → IsTitle s.toList) :
    readHeader? g.writeHeader = some { g with url := none, query := none, rules := [] } := by
  have hblank : ∀ c ∈ g.service.toList, isBlank c = false := fun c hc =>
    isBlank_of_isServicePart (h.service c hc)
  have hstop : ∀ c, (markedText [':'] g.sub ++
      variantText g.variant (labelText g.label)).head? = some c → isServicePart c = false := by
    intro c hc
    cases hsub : g.sub with
    | none =>
      rw [hsub] at hc
      rcases head_variantText _ _ c hc with rfl | rfl <;> decide
    | some s =>
      simp only [hsub, markedText, List.cons_append, List.head?_cons, Option.some.injEq] at hc
      subst hc
      decide
  rw [writeHeader_eq, readHeader?, trimStart_append_self h.service_ne_nil hblank,
    takeWhile_append_stop h.service hstop]
  simp [h.service_ne_nil, readSub?_subText h.sub_ne_nil h.sub,
    readVariant?_variantText h.variant_ne_nil h.variant, readLabel?_labelText hlabel,
    Group.ofService]

theorem readHeader?_writeHeader {g : Group} (h : g.IsNamed) :
    readHeader? g.writeHeader = some { g with url := none, query := none, rules := [] } :=
  readHeader?_of_isKeyed h.toIsKeyed h.label

theorem mem_of_readSub? {s rest : List Char} {sub : Option String}
    (h : readSub? s = some (sub, rest)) : ∀ c ∈ rest, c ∈ s := by
  unfold readSub? at h
  split at h
  · rename_i back
    simp only at h
    split at h
    · cases h
    · obtain ⟨-, rfl⟩ := Prod.mk.inj (Option.some.inj h)
      intro c hc
      have hback := (List.drop_sublist _ _).subset (mem_of_mem_trimStart hc)
      exact List.mem_cons_of_mem _ (mem_of_mem_trimStart hback)
  · obtain ⟨-, rfl⟩ := Prod.mk.inj (Option.some.inj h)
    exact fun c hc => hc

theorem sub_of_readSub? {s rest : List Char} {sub : Option String}
    (h : readSub? s = some (sub, rest)) :
    ∀ t, sub = some t → t.toList ≠ [] ∧ ∀ c ∈ t.toList, isSubPart c = true := by
  rintro t rfl
  unfold readSub? at h
  split at h
  · simp only at h
    split at h
    · cases h
    · rename_i hne
      obtain ⟨ht, -⟩ := Prod.mk.inj (Option.some.inj h)
      obtain rfl := Option.some.inj ht
      rw [String.toList_ofList]
      exact ⟨by simpa using hne, fun c hc => List.mem_takeWhile_imp hc⟩
  · cases (Prod.mk.inj (Option.some.inj h)).1

theorem mem_of_readVariant? {s rest : List Char} {variant : Option String}
    (h : readVariant? s = some (variant, rest)) : ∀ c ∈ rest, c ∈ s := by
  unfold readVariant? at h
  split at h
  · obtain ⟨⟨before, after⟩, hcut, heq⟩ := Option.map_eq_some_iff.mp h
    obtain ⟨rfl, -⟩ := cutAt_eq_some_iff.mp hcut
    obtain ⟨-, rfl⟩ := Prod.mk.inj heq
    intro c hc
    simp [hc]
  · obtain ⟨-, rfl⟩ := Prod.mk.inj (Option.some.inj h)
    exact fun c hc => List.mem_cons_of_mem _ hc
  · cases h

theorem variant_of_readVariant? {s rest : List Char} {variant : Option String}
    (h : readVariant? s = some (variant, rest)) :
    ∀ t, variant = some t → t.toList ≠ [] ∧ (IsTrimmed t.toList ∧ ']' ∉ t.toList) ∧
      ∀ c ∈ t.toList, c ∈ s := by
  rintro t rfl
  unfold readVariant? at h
  split at h
  · obtain ⟨⟨before, after⟩, hcut, heq⟩ := Option.map_eq_some_iff.mp h
    obtain ⟨rfl, hbracket⟩ := cutAt_eq_some_iff.mp hcut
    obtain ⟨hne, htrimmed, hmem⟩ := isTrimmed_of_nonBlank? (Prod.mk.inj heq).1
    exact ⟨hne, ⟨htrimmed, fun hc => hbracket (hmem _ hc)⟩, fun c hc => by simp [hmem c hc]⟩
  · cases (Prod.mk.inj (Option.some.inj h)).1
  · cases h

theorem isTitle_of_readLabel? {s : List Char} {label : String} (hline : '\n' ∉ s)
    (h : readLabel? s = some label) : IsTitle label.toList := by
  have hstart : '\n' ∉ trimStart s := fun hmem => hline (mem_of_mem_trimStart hmem)
  unfold readLabel? at h
  split at h
  · rename_i rest hrest
    rw [hrest] at hstart
    exact isTitle_of_nonBlank? (fun hmem => hstart (by simp [hmem])) h
  · exact isTitle_of_nonBlank? hstart h

/-- What a header is read from: the service, its part and the variant, one behind the other, and
the label behind them. -/
theorem exists_of_readHeader? {line : List Char} {g : Group} (h : readHeader? line = some g) :
    ∃ afterService afterSub afterVariant,
      (g.service.toList ≠ [] ∧ ∀ c ∈ g.service.toList, isServicePart c = true) ∧
      readSub? afterService = some (g.sub, afterSub) ∧
      readVariant? afterSub = some (g.variant, afterVariant) ∧
      g = { Group.ofService g.service with
        sub := g.sub, variant := g.variant, label := readLabel? afterVariant } ∧
      ∀ c ∈ afterService, c ∈ line := by
  unfold readHeader? at h
  split at h
  · rename_i back
    simp only at h
    split at h
    · cases h
    · rename_i hne
      obtain ⟨⟨sub, afterSub⟩, hsub, h⟩ := Option.bind_eq_some_iff.mp h
      obtain ⟨⟨variant, afterVariant⟩, hvariant, rfl⟩ := Option.map_eq_some_iff.mp h
      refine ⟨_, _, _, ⟨?_, ?_⟩, hsub, hvariant, rfl, ?_⟩
      · simpa [Group.ofService] using hne
      · intro c hc
        rw [Group.ofService, String.toList_ofList] at hc
        exact List.mem_takeWhile_imp hc
      · exact fun c hc => List.mem_cons_of_mem _
          (mem_of_mem_trimStart ((List.drop_sublist _ _).subset (mem_of_mem_trimStart hc)))
  · cases h

/-- The group that a header opens has its key from it. -/
theorem isKeyed_of_readHeader? {line : List Char} {g : Group} (h : readHeader? line = some g) :
    g.IsKeyed := by
  obtain ⟨_, _, _, ⟨hne, hservice⟩, hsub, hvariant, -, -⟩ := exists_of_readHeader? h
  exact ⟨hne, hservice, fun s hs => (sub_of_readSub? hsub s hs).1,
    fun s hs => (sub_of_readSub? hsub s hs).2,
    fun s hs => (variant_of_readVariant? hvariant s hs).1,
    fun s hs => (variant_of_readVariant? hvariant s hs).2.1⟩

/-- The group that a header opens is named by it and holds nothing. -/
theorem isNamed_of_readHeader? {line : List Char} {g : Group} (hline : '\n' ∉ line)
    (h : readHeader? line = some g) :
    g.IsNamed ∧ g.url = none ∧ g.query = none ∧ g.rules = [] := by
  obtain ⟨_, afterSub, afterVariant, -, hsub, hvariant, hg, hmem⟩ := exists_of_readHeader? h
  have hsubLine : '\n' ∉ afterSub := fun hc => hline (hmem _ (mem_of_readSub? hsub _ hc))
  have hvariantLine : '\n' ∉ afterVariant := fun hc =>
    hsubLine (mem_of_readVariant? hvariant _ hc)
  refine ⟨⟨isKeyed_of_readHeader? h, ?_, ?_⟩, ?_⟩
  · exact fun s hs hc => hsubLine ((variant_of_readVariant? hvariant s hs).2.2 _ hc)
  · intro s hs
    rw [hg] at hs
    exact isTitle_of_readLabel? hvariantLine hs
  · rw [hg]
    exact ⟨rfl, rfl, rfl⟩

/-- A key in brackets is a header of its own. -/
theorem readHeader?_key {g : Group} (h : g.IsKeyed) :
    readHeader? ('[' :: (g.key.toList ++ [']'])) =
      some { Group.ofService g.service with sub := g.sub, variant := g.variant } := by
  let bare : Group := { g with label := none }
  have hparts : bare.SameParts g := ⟨rfl, rfl, rfl⟩
  have hread := readHeader?_of_isKeyed (h.congr hparts) fun s hs => nomatch hs
  have hwrite : bare.writeHeader = '[' :: (g.key.toList ++ [']']) := by
    simp [Group.writeHeader, bare, Group.key, markedText]
  rw [hwrite] at hread
  exact hread

/-- Groups have one key when they are for the same service, part and variant. -/
theorem Group.IsKeyed.key_eq_iff {g g' : Group} (h : g.IsKeyed) (h' : g'.IsKeyed) :
    g.key = g'.key ↔ g.SameParts g' := by
  refine ⟨fun hkey => ?_, Group.SameParts.key_eq⟩
  have hread := readHeader?_key h
  rw [hkey, readHeader?_key h', Option.some.injEq] at hread
  injection hread with hservice hsub hvariant
  exact ⟨hservice.symm, hsub.symm, hvariant.symm⟩

theorem not_mem_markedText {c : Char} {mark : List Char} {t : Option String} (hmark : c ∉ mark)
    (ht : ∀ s, t = some s → c ∉ s.toList) : c ∉ markedText mark t := by
  cases t with
  | none => simp [markedText]
  | some s => simpa [markedText] using And.intro hmark (ht s rfl)

/-- A header is a line of its own. -/
theorem isTitle_writeHeader {g : Group} (h : g.IsNamed) : IsTitle g.writeHeader := by
  have hlast : ∀ c, (variantText g.variant (labelText g.label)).getLast? = some c →
      isBlank c = false := by
    intro c hc
    cases hlabel : g.label with
    | none =>
      simp only [variantText, labelText, hlabel, markedText, List.getLast?_concat,
        Option.some.injEq] at hc
      subst hc
      decide
    | some s =>
      obtain ⟨hne, htrimmed, -⟩ := h.label s hlabel
      apply htrimmed.last c
      rw [variantText, labelText, hlabel, markedText, List.getLast?_append_of_ne_nil _ (by simp),
        List.getLast?_cons_of_ne_nil (by simp), List.getLast?_append_of_ne_nil _ hne] at hc
      exact hc
  have hservice : '\n' ∉ g.service.toList := fun hmem =>
    absurd (h.service _ hmem) (by decide)
  have hsub : '\n' ∉ markedText [':'] g.sub := not_mem_markedText (by decide) fun s hs hmem =>
    absurd (h.sub s hs _ hmem) (by decide)
  have hvariant : '\n' ∉ markedText " #".toList g.variant :=
    not_mem_markedText (by decide) h.variant_oneLine
  have hlabel : '\n' ∉ markedText " = ".toList g.label :=
    not_mem_markedText (by decide) fun s hs => (h.label s hs).oneLine
  refine ⟨by simp [writeHeader_eq], ?_, ?_⟩
  · have hsplit : g.writeHeader = ('[' :: (g.service.toList ++ markedText [':'] g.sub)) ++
        variantText g.variant (labelText g.label) := by simp [writeHeader_eq]
    rw [hsplit]
    exact IsTrimmed.append (by simp) (by simp [variantText]) (by simp; decide) hlast
  · simpa [writeHeader_eq, variantText, labelText, hservice, hsub] using And.intro hvariant hlabel

end Crosswalk.Mapping
