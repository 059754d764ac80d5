import Crosswalk.Mapping.JsonForm
import Crosswalk.Mapping.Printer
import Crosswalk.Proofs.Json.RoundTrip
import Crosswalk.Proofs.Table

/-!
Rules and groups that are made JSON documents and read again.

A record gives back the value of every field, one without a value included; so a list of records
gives back the records, and a table its entries in their order. From this each part of a group is
read as it was written, and with the parts the group.
-/

namespace Crosswalk

theorem mapM_map_of_inverse {α β : Type} {encode : α → β} {decode : β → Option α} {xs : List α}
    (h : ∀ x ∈ xs, decode (encode x) = some x) : (xs.map encode).mapM decode = some xs := by
  induction xs with
  | nil => rfl
  | cons x rest ih =>
    have hrest := ih fun y hy => h y (List.mem_cons_of_mem x hy)
    simp [List.mapM_cons, h x List.mem_cons_self, hrest]

namespace Json

variable {α : Type}

/-- Reading an object in which no name stands twice goes on with the values of its members. -/
theorem bind_record?_object {fields : List String} {members : List (String × Json)}
    {next : (String → Option Json) → Option α} {x : α} (hnodup : (entryKeys members).Nodup)
    (hnext : ∀ r, (∀ field ∈ fields, r field = members.lookup field) → next r = some x) :
    (record? fields (.object members)).bind next = some x := by
  have hgiven : (entryKeys (members.filter fun member => fields.contains member.1)).Nodup :=
    hnodup.sublist (List.filter_sublist.map Prod.fst)
  have hrecord : record? fields (.object members) =
      some fun field => (members.filter fun member => fields.contains member.1).lookup field :=
    if_pos hgiven
  rw [hrecord, Option.bind_some]
  apply hnext
  intro field hfield
  have hkeep : fields.contains field = true := List.contains_iff_mem.mpr hfield
  refine (lookup_filter (fun key _ => fields.contains key) field hnodup).trans ?_
  rw [hkeep]
  cases members.lookup field <;> rfl

/-- Reading an object whose members without a value are left out goes on with the values of all. -/
theorem bind_record?_objectOf {fields : List String} {members : List (String × Option Json)}
    {next : (String → Option Json) → Option α} {x : α} (hnodup : (entryKeys members).Nodup)
    (hnext : ∀ r, (∀ field ∈ fields, r field = (members.lookup field).join) → next r = some x) :
    (record? fields (objectOf members)).bind next = some x := by
  have hkeys := entryKeys_imageEntries_sublist (fun _ value => value) members
  apply bind_record?_object (hnodup.sublist hkeys)
  intro r hr
  apply hnext
  intro field hfield
  rw [hr field hfield, lookup_imageEntries (fun _ value => value) field hnodup]
  cases members.lookup field <;> rfl

theorem listOf?_array {encode : α → Json} {decode : Json → Option α} {xs : List α}
    (h : ∀ x ∈ xs, decode (encode x) = some x) :
    listOf? decode (.array (xs.map encode)) = some xs :=
  mapM_map_of_inverse h

end Json

namespace Mapping

open Json

variable {α : Type}

theorem tableOf?_tableJson {encode : α → Json} {decode : Json → Option α} {t : Table α}
    (h : ∀ x ∈ t.values, decode (encode x) = some x) :
    tableOf? decode (tableJson encode t) = some t := by
  have hentries : ∀ entry ∈ t.entries,
      (decode (encode entry.2)).map (entry.1, ·) = some entry := by
    intro entry hentry
    rw [h entry.2 (List.mem_map_of_mem hentry)]
    rfl
  have hmembers : (t.entries.map fun entry => (entry.1, encode entry.2)).mapM
      (fun member => (decode member.2).map (member.1, ·)) = some t.entries :=
    mapM_map_of_inverse hentries
  rw [tableJson, tableOf?, hmembers, Option.map_some, Table.ofList_entries]

/-- A table that is left out when it is empty. -/
theorem withDefault_tableJson? {encode : α → Json} {decode : Json → Option α} {t : Table α}
    (h : ∀ x ∈ t.values, decode (encode x) = some x) :
    withDefault Table.empty (tableOf? decode) (tableJson? encode t) = some t := by
  rw [tableJson?]
  split
  · rename_i hempty
    have hnil : t.entries = [] := List.isEmpty_iff.mp hempty
    exact congrArg some (Table.ext_entries hnil.symm)
  · exact tableOf?_tableJson h

theorem nullableText_map (s : Option String) : nullableText (s.map .text) = some s := by
  cases s <;> rfl

theorem listOf?_texts (texts : List String) :
    listOf? asText? (.array (texts.map .text)) = some texts :=
  listOf?_array fun _ _ => rfl

theorem callOfJson?_callJson (call : Filter.Call) : callOfJson? (callJson call) = some call := by
  apply bind_record?_objectOf (by simp [entryKeys])
  intro r hr
  have hname : r "name" = some (.text call.name) := hr "name" (by simp)
  have hargs : withDefault [] (listOf? asText?) (r "args") = some call.args := by
    rw [hr "args" (by simp)]
    change withDefault [] (listOf? asText?)
      (if call.args.isEmpty then none else some (.array (call.args.map .text))) = some call.args
    split
    · rename_i hempty
      rw [List.isEmpty_iff.mp hempty]
      rfl
    · exact listOf?_texts call.args
  simp [hname, hargs, required, asText?]

theorem pipelineOfJson?_pipelineJson (p : Filter.Pipeline) :
    pipelineOfJson? (pipelineJson p) = some p := by
  rw [pipelineOfJson?, pipelineJson]
  apply bind_record?_object (by simp [entryKeys])
  intro r hr
  have hsubject : r "variable" = some (.text p.subject) := hr "variable" (by simp)
  have hcalls : r "filters" = some (.array (p.calls.map callJson)) := hr "filters" (by simp)
  have hlist := listOf?_array fun call (_ : call ∈ p.calls) => callOfJson?_callJson call
  simp [hsubject, hcalls, hlist, required, asText?]

theorem targetOfJson?_targetJson (t : Target) : targetOfJson? (targetJson t) = some t := by
  apply bind_record?_objectOf (by simp [entryKeys, specMembers])
  intro r hr
  have hfield : r "field" = some (.text t.spec.field) := hr "field" (by simp)
  have hdataType : r "type" = t.spec.dataType.map .text := hr "type" (by simp)
  have hlanguage : r "@language" = t.spec.language.map .text := hr "@language" (by simp)
  have hisPublic : r "is_public" = t.spec.isPublic.map .bool := hr "is_public" (by simp)
  have hpattern : r "pattern" = t.spec.pattern.map .text := hr "pattern" (by simp)
  have hreplace : r "replace" = tableJson? .text t.replace := hr "replace" (by simp)
  have hfilters : r "filters" = tableJson? pipelineJson t.filters := hr "filters" (by simp)
  have hvisible : withDefault none (nullable asBool?) (t.spec.isPublic.map .bool) =
      some t.spec.isPublic := by
    cases t.spec.isPublic <;> rfl
  have hdefaults : withDefault Table.empty (tableOf? asText?) (tableJson? .text t.replace) =
      some t.replace :=
    withDefault_tableJson? fun _ _ => rfl
  have hpipelines : withDefault Table.empty (tableOf? pipelineOfJson?)
      (tableJson? pipelineJson t.filters) = some t.filters :=
    withDefault_tableJson? fun p _ => pipelineOfJson?_pipelineJson p
  simp [hfield, hdataType, hlanguage, hisPublic, hpattern, hreplace, hfilters, nullableText_map,
    hvisible, hdefaults, hpipelines, required, asText?]

theorem ruleOfJson?_ruleJson (rule : Rule) : ruleOfJson? (ruleJson rule) = some rule := by
  rw [ruleOfJson?, ruleJson]
  apply bind_record?_object (by simp [entryKeys])
  intro r hr
  have hsource : r "from" = some (.text rule.source) := hr "from" (by simp)
  have htarget : r "to" = some (targetJson rule.target) := hr "to" (by simp)
  simp [hsource, htarget, targetOfJson?_targetJson, required, asText?]

theorem groupOfJson?_groupJson (g : Group) : groupOfJson? (groupJson g) = some g := by
  apply bind_record?_objectOf (by simp [entryKeys, groupMembers])
  intro r hr
  have hservice : r "service" = some (.text g.service) := hr "service" (by simp)
  have hsub : r "sub" = g.sub.map .text := hr "sub" (by simp)
  have hvariant : r "variant" = g.variant.map .text := hr "variant" (by simp)
  have hlabel : r "label" = g.label.map .text := hr "label" (by simp)
  have hurl : r "url" = g.url.map .text := hr "url" (by simp)
  have hquery : r "query" = g.query.map .text := hr "query" (by simp)
  have hmapping : r "mapping" = some (.array (g.rules.map ruleJson)) := hr "mapping" (by simp)
  have hrules : rulesOfJson? (.array (g.rules.map ruleJson)) = some g.rules :=
    listOf?_array fun rule _ => ruleOfJson?_ruleJson rule
  simp [hservice, hsub, hvariant, hlabel, hurl, hquery, hmapping, hrules, nullableText_map,
    required, withDefault, asText?]

/-- Groups that are made a JSON document are read from it as they were, in their order. -/
theorem groupsOfJson?_groupsJson (groups : Table Group) :
    groupsOfJson? (groupsJson groups) = some groups :=
  tableOf?_tableJson fun g _ => groupOfJson?_groupJson g

/-! ### Depth -/

theorem isPlain_objectOf {depth : Nat} {members : List (String × Option Json)}
    (h : ∀ key value, (key, some value) ∈ members → IsPlain depth value) :
    IsPlain (depth + 1) (objectOf members) := by
  apply IsPlain.object
  intro member hmember
  obtain ⟨⟨key, value⟩, hmem, heq⟩ := List.mem_filterMap.mp hmember
  obtain ⟨value', rfl, rfl⟩ := Option.map_eq_some_iff.mp heq
  exact h key value' hmem

theorem isPlain_tableJson {depth : Nat} {encode : α → Json} {t : Table α}
    (h : ∀ x ∈ t.values, IsPlain depth (encode x)) : IsPlain (depth + 1) (tableJson encode t) := by
  apply IsPlain.object
  intro member hmember
  obtain ⟨entry, hentry, rfl⟩ := List.mem_map.mp hmember
  exact h entry.2 (List.mem_map_of_mem hentry)

theorem isPlain_array_map {depth : Nat} {encode : α → Json} {xs : List α}
    (h : ∀ x ∈ xs, IsPlain depth (encode x)) : IsPlain (depth + 1) (.array (xs.map encode)) := by
  apply IsPlain.array
  intro item hitem
  obtain ⟨x, hx, rfl⟩ := List.mem_map.mp hitem
  exact h x hx

theorem isPlain_of_map_text {depth : Nat} {s : Option String} {value : Json}
    (h : s.map Json.text = some value) : IsPlain depth value := by
  obtain ⟨text, -, rfl⟩ := Option.map_eq_some_iff.mp h
  exact .text text

theorem isPlain_texts (texts : List String) : IsPlain 1 (.array (texts.map .text)) :=
  isPlain_array_map fun text _ => .text text

theorem isPlain_callJson (call : Filter.Call) : IsPlain 2 (callJson call) := by
  apply isPlain_objectOf
  intro key value hmem
  simp only [List.mem_cons, Prod.mk.injEq, List.not_mem_nil, or_false] at hmem
  rcases hmem with ⟨-, hname⟩ | ⟨-, hargs⟩
  · cases hname
    exact .text call.name
  · split at hargs
    · cases hargs
    · cases hargs
      exact isPlain_texts call.args

theorem isPlain_pipelineJson (p : Filter.Pipeline) : IsPlain 4 (pipelineJson p) := by
  apply IsPlain.object
  simp only [List.forall_mem_cons, List.not_mem_nil, false_imp_iff, implies_true, and_true]
  exact ⟨.text p.subject, isPlain_array_map fun call _ => isPlain_callJson call⟩

theorem isPlain_tableJson? {depth : Nat} {encode : α → Json} {t : Table α} {value : Json}
    (h : ∀ x ∈ t.values, IsPlain depth (encode x)) (hvalue : tableJson? encode t = some value) :
    IsPlain (depth + 1) value := by
  rw [tableJson?] at hvalue
  split at hvalue
  · cases hvalue
  · cases hvalue
    exact isPlain_tableJson h

theorem isPlain_specMembers {depth : Nat} {spec : Field.Spec} {key : String} {value : Json}
    (h : (key, some value) ∈ specMembers spec) : IsPlain depth value := by
  simp only [specMembers, List.mem_cons, Prod.mk.injEq, List.not_mem_nil, or_false] at h
  rcases h with ⟨-, h⟩ | ⟨-, h⟩ | ⟨-, h⟩ | ⟨-, h⟩ | ⟨-, h⟩
  · cases h
    exact .text spec.field
  · exact isPlain_of_map_text h.symm
  · exact isPlain_of_map_text h.symm
  · obtain ⟨b, -, rfl⟩ := Option.map_eq_some_iff.mp h.symm
    exact .bool b
  · exact isPlain_of_map_text h.symm

theorem isPlain_targetJson (t : Target) : IsPlain 6 (targetJson t) := by
  apply isPlain_objectOf
  intro key value hmem
  simp only [List.mem_append, List.mem_cons, Prod.mk.injEq, List.not_mem_nil, or_false] at hmem
  rcases hmem with hspec | ⟨-, hreplace⟩ | ⟨-, hfilters⟩
  · exact isPlain_specMembers hspec
  · exact isPlain_tableJson? (fun text _ => .text text) hreplace.symm
  · exact isPlain_tableJson? (fun p _ => isPlain_pipelineJson p) hfilters.symm

theorem isPlain_ruleJson (rule : Rule) : IsPlain 7 (ruleJson rule) := by
  apply IsPlain.object
  simp only [List.forall_mem_cons, List.not_mem_nil, false_imp_iff, implies_true, and_true]
  exact ⟨.text rule.source, isPlain_targetJson rule.target⟩

theorem isPlain_groupJson (g : Group) : IsPlain 9 (groupJson g) := by
  apply isPlain_objectOf
  intro key value hmem
  simp only [groupMembers, List.mem_cons, Prod.mk.injEq, List.not_mem_nil, or_false] at hmem
  rcases hmem with ⟨-, h⟩ | ⟨-, h⟩ | ⟨-, h⟩ | ⟨-, h⟩ | ⟨-, h⟩ | ⟨-, h⟩ | ⟨-, h⟩
  · cases h
    exact .text g.service
  · exact isPlain_of_map_text h.symm
  · exact isPlain_of_map_text h.symm
  · exact isPlain_of_map_text h.symm
  · exact isPlain_of_map_text h.symm
  · exact isPlain_of_map_text h.symm
  · cases h
    exact isPlain_array_map fun rule _ => isPlain_ruleJson rule

/-- Groups make a document without numbers that is ten levels deep at most. -/
theorem isPlain_groupsJson (groups : Table Group) : IsPlain 10 (groupsJson groups) :=
  isPlain_tableJson fun g _ => isPlain_groupJson g

end Mapping

end Crosswalk
