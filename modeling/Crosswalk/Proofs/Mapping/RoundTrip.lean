import Crosswalk.Proofs.Mapping.Header
import Crosswalk.Proofs.Mapping.Rule
import Crosswalk.Proofs.Table

/-!
Mapping text, written and read again.

Reading keeps every group canonical, line after line: its header, query, address and rules are such
that their own lines give them back. So writing what was read and reading it again changes nothing
but the order of the rules, of which those with a marker for their pattern come first.
-/

namespace Crosswalk.Mapping

open Text

/-- A line that says something. -/
structure IsLine (line : List Char) : Prop where
  title : IsTitle line
  speaks : line.head? ≠ some ';'

theorem IsLine.isIdle {line : List Char} (h : IsLine line) : isIdle line = false := by
  simpa [Mapping.isIdle, h.title.ne_nil] using h.speaks

theorem isLine_of_mem_linesOf {s line : List Char} (h : line ∈ linesOf s) : IsLine line := by
  simp only [linesOf, List.mem_filter, List.mem_map, isIdle, Bool.not_eq_true',
    Bool.or_eq_false_iff] at h
  obtain ⟨⟨part, hpart, rfl⟩, hne, hspeaks⟩ := h
  refine ⟨⟨by simpa using hne, isTrimmed_trim part, ?_⟩, by simpa using hspeaks⟩
  intro hmem
  obtain ⟨-, hline⟩ := mem_of_mem_pieces hpart (mem_of_mem_trim hmem)
  simp at hline

theorem linesOf_append (a b : List Char) :
    linesOf (a ++ '\n' :: b) = linesOf a ++ linesOf b := by
  rw [linesOf, lines, pieces_append_cons (by simp), List.map_append, List.filter_append]
  rfl

theorem linesOf_self {line : List Char} (h : IsLine line) : linesOf line = [line] := by
  have hpieces : lines line = [line] := by
    apply pieces_eq_self
    intro c hc
    exact beq_false_of_ne fun heq => h.title.oneLine (heq ▸ hc)
  simp [linesOf, hpieces, h.title.trimmed.trim_eq, h.isIdle]

/-- Texts that stand on different lines are read one after the other. -/
theorem linesOf_join {between : List Char}
    (hbetween : ∀ a b, linesOf (a ++ between ++ b) = linesOf a ++ linesOf b)
    (parts : List (List Char)) : linesOf (join between parts) = parts.flatMap linesOf := by
  induction parts with
  | nil => rfl
  | cons part more ih =>
    cases more with
    | nil => simp [join]
    | cons next more =>
      rw [join_cons_cons, hbetween, ih]
      rfl

theorem linesOf_joinLines {parts : List (List Char)} (h : ∀ part ∈ parts, IsLine part) :
    linesOf (join ['\n'] parts) = parts := by
  rw [linesOf_join (by simp [linesOf_append])]
  induction parts with
  | nil => rfl
  | cons part more ih =>
    rw [List.flatMap_cons, linesOf_self (h part (by simp)),
      ih fun p hp => h p (List.mem_cons_of_mem part hp)]
    rfl

/-- Whether a line is the address of a service. -/
def isAddress (line : List Char) : Bool :=
  beginsWith "http://".toList line || beginsWith "https://".toList line

/-- A group as reading gives it: each of its parts is read back from its own line. -/
structure Group.IsCanonical (g : Group) : Prop where
  named : g.IsNamed
  query : ∀ q, g.query = some q → IsTitle ('?' :: q.toList)
  url : ∀ u, g.url = some u → IsTitle u.toList ∧ isAddress u.toList = true
  rules : ∀ rule ∈ g.rules, rule.IsCanonical

/-- A group with the rules first whose pattern is a marker. -/
def Group.promoted (g : Group) : Group := { g with rules := promote g.rules }

theorem Group.addLine_query (g : Group) (query : List Char) :
    g.addLine ('?' :: query) = { g with query := some (String.ofList query) } := rfl

theorem Group.addLine_of_ne (g : Group) {line : List Char} (h : line.head? ≠ some '?') :
    g.addLine line =
      if isAddress line then { g with url := some (String.ofList line) }
      else match readRule? line with
        | some rule => { g with rules := g.rules ++ [rule] }
        | none => g := by
  unfold Group.addLine
  split
  · simp at h
  · rfl

/-- Only a header gives a group its name. -/
theorem Group.sameParts_addLine (g : Group) (line : List Char) :
    (g.addLine line).SameParts g := by
  by_cases h : line.head? = some '?'
  · obtain ⟨query, rfl⟩ := List.head?_eq_some_iff.mp h
    exact ⟨rfl, rfl, rfl⟩
  · rw [g.addLine_of_ne h]
    split
    · exact ⟨rfl, rfl, rfl⟩
    · split <;> exact ⟨rfl, rfl, rfl⟩

theorem Group.key_addLine (g : Group) (line : List Char) : (g.addLine line).key = g.key :=
  (g.sameParts_addLine line).key_eq

/-- A line that is no header keeps a group canonical. -/
theorem Group.IsCanonical.addLine {g : Group} (h : g.IsCanonical) {line : List Char}
    (hline : IsLine line) (hheader : line.head? ≠ some '[') : (g.addLine line).IsCanonical := by
  by_cases hquery : line.head? = some '?'
  · obtain ⟨query, rfl⟩ := List.head?_eq_some_iff.mp hquery
    rw [addLine_query]
    refine ⟨h.named.congr ⟨rfl, rfl, rfl⟩ rfl, ?_, h.url, h.rules⟩
    intro q hq
    cases hq
    simpa using hline.title
  · rw [g.addLine_of_ne hquery]
    by_cases haddress : isAddress line = true
    · rw [if_pos haddress]
      refine ⟨h.named.congr ⟨rfl, rfl, rfl⟩ rfl, h.query, ?_, h.rules⟩
      intro u hu
      cases hu
      simpa using And.intro hline.title haddress
    · rw [if_neg haddress]
      split
      · rename_i rule hrule
        have hother : isOtherLine line = false := by
          simp only [isAddress, Bool.or_eq_true, not_or, Bool.not_eq_true] at haddress
          simpa [isOtherLine, hheader, hline.speaks, hquery] using haddress
        have hcanonical := isCanonical_of_readRule? hline.title hother hrule
        refine ⟨h.named.congr ⟨rfl, rfl, rfl⟩ rfl, h.query, h.url, ?_⟩
        intro r hr
        rcases List.mem_append.mp hr with hr | hr
        · exact h.rules r hr
        · rw [List.mem_singleton] at hr
          exact hr ▸ hcanonical
      · exact h

/-- The lines of a group, without its header. -/
def Group.bodyLines (g : Group) : List (List Char) :=
  (g.query.map fun query => '?' :: query.toList).toList ++
    (g.url.map String.toList).toList ++ (promote g.rules).map Rule.write

theorem Group.writeLines_eq (g : Group) : g.writeLines = g.writeHeader :: g.bodyLines := by
  simp [writeLines, bodyLines]

theorem mem_promote {rules : List Rule} {rule : Rule} : rule ∈ promote rules ↔ rule ∈ rules := by
  simp only [promote, List.mem_append, List.mem_filter, Bool.not_eq_true']
  constructor
  · rintro (h | h) <;> exact h.1
  · intro h
    cases hmarker : rule.target.isPromoted with
    | true => exact Or.inl ⟨h, rfl⟩
    | false => exact Or.inr ⟨h, rfl⟩

theorem promote_promote (rules : List Rule) : promote (promote rules) = promote rules := by
  simp [promote, List.filter_append, List.filter_filter]

theorem head_of_isAddress {line : List Char} (h : isAddress line = true) :
    line.head? = some 'h' := by
  simp only [isAddress, beginsWith, Bool.or_eq_true, Option.isSome_iff_exists,
    stripLead?_eq_some_iff] at h
  rcases h with ⟨rest, rfl⟩ | ⟨rest, rfl⟩ <;> rfl

variable {g : Group}

/-- A line below a header is a line that opens no group. -/
theorem isLine_bodyLines (h : g.IsCanonical) :
    ∀ line ∈ g.bodyLines, IsLine line ∧ line.head? ≠ some '[' := by
  intro line hline
  simp only [Group.bodyLines, List.mem_append, Option.mem_toList, Option.map_eq_some_iff,
    List.mem_map] at hline
  rcases hline with (⟨q, hq, rfl⟩ | ⟨u, hu, rfl⟩) | ⟨rule, hrule, rfl⟩
  · exact ⟨⟨h.query q hq, by simp⟩, by simp⟩
  · obtain ⟨htitle, haddress⟩ := h.url u hu
    have hhead := head_of_isAddress haddress
    exact ⟨⟨htitle, by simp [hhead]⟩, by simp [hhead]⟩
  · have hcanonical := h.rules rule (mem_promote.mp hrule)
    have hother := isOtherLine_write hcanonical
    simp only [isOtherLine, Bool.or_eq_false_iff, beq_eq_false_iff_ne] at hother
    exact ⟨⟨isTitle_write hcanonical, hother.1.1.1.2⟩, hother.1.1.1.1⟩

theorem foldl_addLine_rules {rules : List Rule} (h : ∀ rule ∈ rules, rule.IsCanonical)
    (g : Group) :
    (rules.map Rule.write).foldl Group.addLine g = { g with rules := g.rules ++ rules } := by
  induction rules generalizing g with
  | nil => simp
  | cons rule rest ih =>
    have hrule := h rule (by simp)
    have hother := isOtherLine_write hrule
    simp only [isOtherLine, Bool.or_eq_false_iff, beq_eq_false_iff_ne] at hother
    have haddress : isAddress rule.write = false := Bool.or_eq_false_iff.mpr ⟨hother.1.2, hother.2⟩
    have hstep : g.addLine rule.write = { g with rules := g.rules ++ [rule] } := by
      simp [g.addLine_of_ne hother.1.1.2, haddress, readRule?_write hrule]
    rw [List.map_cons, List.foldl_cons, hstep, ih fun r hr => h r (List.mem_cons_of_mem rule hr)]
    simp

/-- The lines below a header fill the group that the header opens. -/
theorem Group.IsCanonical.foldl_bodyLines (h : g.IsCanonical) :
    g.bodyLines.foldl Group.addLine { g with url := none, query := none, rules := [] } =
      g.promoted := by
  have hquery : ∀ g' : Group, g'.query = none →
      ((g.query.map fun query => '?' :: query.toList).toList).foldl Group.addLine g' =
        { g' with query := g.query } := by
    intro g' hnone
    cases hq : g.query with
    | none =>
      cases g'
      cases hnone
      rfl
    | some q => simp [addLine_query]
  have hurl : ∀ g' : Group, g'.url = none →
      ((g.url.map String.toList).toList).foldl Group.addLine g' = { g' with url := g.url } := by
    intro g' hnone
    cases hu : g.url with
    | none =>
      cases g'
      cases hnone
      rfl
    | some u =>
      obtain ⟨-, haddress⟩ := h.url u hu
      have hhead : u.toList.head? ≠ some '?' := by simp [head_of_isAddress haddress]
      simp [g'.addLine_of_ne hhead, haddress]
  have hrules : ∀ rule ∈ promote g.rules, rule.IsCanonical := fun rule hrule =>
    h.rules rule (mem_promote.mp hrule)
  rw [Group.bodyLines, List.foldl_append, List.foldl_append, hquery _ rfl, hurl _ rfl,
    foldl_addLine_rules hrules]
  rfl

/-- Groups as reading gives them, each under its key. -/
def IsCanonicalTable (groups : Table Group) : Prop :=
  ∀ entry ∈ groups.entries, entry.2.IsCanonical ∧ entry.2.key = entry.1

theorem IsCanonicalTable.set {groups : Table Group} (h : IsCanonicalTable groups)
    (hg : g.IsCanonical) : IsCanonicalTable (groups.set g.key g) := by
  intro entry hentry
  rcases mem_setEntry hentry with rfl | hmem
  · exact ⟨hg, rfl⟩
  · exact h entry hmem

/-- Every line keeps the groups read so far canonical. -/
theorem IsCanonicalTable.addLine {r : Reading} (h : IsCanonicalTable r.groups)
    {line : List Char} (hline : IsLine line) : IsCanonicalTable (r.addLine line).groups := by
  by_cases hheader : line.head? = some '['
  · obtain ⟨rest, rfl⟩ := List.head?_eq_some_iff.mp hheader
    simp only [Reading.addLine]
    split
    · rename_i g hg
      obtain ⟨hnamed, hurl, hquery, hrules⟩ := isNamed_of_readHeader? hline.title.oneLine hg
      exact h.set ⟨hnamed, by simp [hquery], by simp [hurl], by simp [hrules]⟩
    · exact h
  · unfold Reading.addLine
    split
    · simp at hheader
    · split
      · rename_i key hcurrent
        split
        · rename_i g hg
          obtain ⟨hcanonical, hkey⟩ := h _ (Table.mem_of_get? hg)
          have hset := h.set (hcanonical.addLine hline hheader)
          rwa [g.key_addLine, hkey] at hset
        · exact h
      · exact h

/-- What is read from any text is canonical. -/
theorem isCanonicalTable_readGroups (s : List Char) : IsCanonicalTable (readGroups s) := by
  have hrun : ∀ (lines : List (List Char)) (r : Reading), (∀ line ∈ lines, IsLine line) →
      IsCanonicalTable r.groups → IsCanonicalTable (lines.foldl Reading.addLine r).groups := by
    intro lines
    induction lines with
    | nil => exact fun _ _ h => h
    | cons line rest ih =>
      intro r hlines h
      exact ih (r.addLine line) (fun l hl => hlines l (List.mem_cons_of_mem line hl))
        (h.addLine (hlines line (by simp)))
  apply hrun _ _ fun line hline => isLine_of_mem_linesOf hline
  intro entry hentry
  cases hentry

/-- Lines below a header change the group that the header opened. -/
theorem foldl_addLine_open {lines : List (List Char)}
    (h : ∀ line ∈ lines, line.head? ≠ some '[') (groups : Table Group) (key : String)
    (g : Group) :
    lines.foldl Reading.addLine ⟨groups.set key g, some key⟩ =
      ⟨groups.set key (lines.foldl Group.addLine g), some key⟩ := by
  induction lines generalizing g with
  | nil => rfl
  | cons line rest ih =>
    have hstep : Reading.addLine ⟨groups.set key g, some key⟩ line =
        ⟨groups.set key (g.addLine line), some key⟩ := by
      have hne := h line (by simp)
      unfold Reading.addLine
      split
      · simp at hne
      · simp [Table.get?_set, Table.set_set]
    rw [List.foldl_cons, hstep, ih (fun l hl => h l (List.mem_cons_of_mem line hl)),
      List.foldl_cons]

/-- The lines of a group put it under its key, whatever was read before. -/
theorem foldl_writeLines (h : g.IsCanonical) (r : Reading) :
    g.writeLines.foldl Reading.addLine r = ⟨r.groups.set g.key g.promoted, some g.key⟩ := by
  have hopen : Reading.addLine r g.writeHeader =
      ⟨r.groups.set g.key { g with url := none, query := none, rules := [] }, some g.key⟩ := by
    have hread := readHeader?_writeHeader h.named
    rw [writeHeader_eq] at hread ⊢
    simp only [Reading.addLine, hread]
    rfl
  rw [g.writeLines_eq, List.foldl_cons, hopen,
    foldl_addLine_open fun line hline => (isLine_bodyLines h line hline).2, h.foldl_bodyLines]

theorem isLine_writeLines (h : g.IsCanonical) : ∀ line ∈ g.writeLines, IsLine line := by
  intro line hline
  rw [g.writeLines_eq] at hline
  rcases List.mem_cons.mp hline with rfl | hline
  · exact ⟨isTitle_writeHeader h.named, by simp [Group.writeHeader]⟩
  · exact (isLine_bodyLines h line hline).1

variable {groups : Table Group}

theorem linesOf_writeGroups (h : IsCanonicalTable groups) :
    linesOf (writeGroups groups) = groups.values.flatMap Group.writeLines := by
  have hempty : linesOf [] = [] := rfl
  have hblock : ∀ a b, linesOf (a ++ ['\n', '\n'] ++ b) = linesOf a ++ linesOf b := by
    intro a b
    rw [List.append_assoc, List.cons_append, linesOf_append, List.cons_append,
      show '\n' :: ([] ++ b) = [] ++ '\n' :: b from rfl, linesOf_append, hempty, List.nil_append]
  have hlines : ∀ g ∈ groups.values, linesOf (join ['\n'] g.writeLines) = g.writeLines := by
    intro g hg
    obtain ⟨entry, hentry, rfl⟩ := List.mem_map.mp hg
    exact linesOf_joinLines (isLine_writeLines (h entry hentry).1)
  have hjoin := linesOf_join hblock (groups.values.map fun g => join ['\n'] g.writeLines)
  rw [List.flatMap_map, List.flatMap_congr hlines] at hjoin
  rw [← hjoin, writeGroups]
  split
  · rename_i hnil
    rw [List.isEmpty_iff.mp hnil]
  · rw [linesOf_append, hempty, List.append_nil]

/-- Canonical groups are read back, each with its marked rules first. -/
theorem readGroups_writeGroups (h : IsCanonicalTable groups) :
    readGroups (writeGroups groups) = groups.mapValues Group.promoted := by
  have hrun : ∀ (entries : List (String × Group)) (r : Reading),
      (∀ entry ∈ entries, entry.2.IsCanonical ∧ entry.2.key = entry.1) →
      ((entries.flatMap fun entry => entry.2.writeLines).foldl Reading.addLine r).groups =
        r.groups.setAll (entries.map fun entry => (entry.1, entry.2.promoted)) := by
    intro entries
    induction entries with
    | nil => exact fun _ _ => rfl
    | cons entry rest ih =>
      intro r hentries
      obtain ⟨hcanonical, hkey⟩ := hentries entry (by simp)
      rw [List.flatMap_cons, List.foldl_append, foldl_writeLines hcanonical,
        ih _ fun e he => hentries e (List.mem_cons_of_mem entry he), hkey]
      rfl
  have hall := hrun groups.entries Reading.start h
  rw [readGroups, linesOf_writeGroups h, Table.values, List.flatMap_map, hall]
  exact (groups.mapValues Group.promoted).ofList_entries

theorem writeLines_promoted (g : Group) : g.promoted.writeLines = g.writeLines := by
  simp [Group.writeLines, Group.promoted, Group.writeHeader, Group.key, promote_promote]

/-- What was read from any text is read again from its saved form. -/
theorem parseGroups_saved (text : String) :
    parseGroups (groupsText (parseGroups text)) = (parseGroups text).mapValues Group.promoted := by
  rw [parseGroups, groupsText, String.toList_ofList]
  exact readGroups_writeGroups (isCanonicalTable_readGroups text.toList)

/-- Saving groups as text and reading them again gives the same keys in the same order, each with
its service, part, variant, label, address and query, and with the same rules, of which those come
first whose pattern is a marker. The text saved from what was read again is the same. -/
theorem parseGroups_groupsText (text : String) :
    let groups := parseGroups text
    let again := parseGroups (groupsText groups)
    again.keys = groups.keys ∧
      again = groups.mapValues (fun g => { g with
        rules := g.rules.filter (fun rule => rule.target.isPromoted) ++
          g.rules.filter fun rule => !rule.target.isPromoted }) ∧
      groupsText again = groupsText groups := by
  intro groups again
  have hagain : again = groups.mapValues Group.promoted := parseGroups_saved text
  have hkeys : (groups.mapValues Group.promoted).keys = groups.keys := by
    simp [Table.keys, Table.mapValues, entryKeys]
  have hvalues : (groups.mapValues Group.promoted).values = groups.values.map Group.promoted := by
    simp [Table.values, Table.mapValues]
  refine ⟨hagain ▸ hkeys, hagain, ?_⟩
  rw [hagain, groupsText, groupsText, writeGroups, writeGroups, hvalues, List.map_map]
  simp only [Function.comp_def, writeLines_promoted]

end Crosswalk.Mapping
