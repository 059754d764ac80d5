import Crosswalk.Template.Patch

/-!
Runs of calls that share one cache.

Under the number of a template a cache keeps the rules of the first template with that number that
it was asked about, apart for each of the two mappings. So where templates with one number give the
same rules, no call can tell a cache in use from a new one.
-/

namespace Crosswalk.Template

open Mapping Extraction

/-- What can be asked with a cache: the rules of a template, or the values that it adds. -/
inductive Call where
  | automaticRules (t : Template)
  | defaultRules (t : Template)
  | addAutomatic (e : Extractor) (t : Template) (payload : Json)
  | addDefaults (e : Extractor) (t : Template) (payload : Json)

/-- What is given back for a call. -/
inductive Answer where
  | rules (rules : List Rule)
  | values (computed : Computed)

namespace Call

def template : Call → Template
  | .automaticRules t | .defaultRules t | .addAutomatic _ t _ | .addDefaults _ t _ => t

/-- Whether a call is about the values for properties that have none. -/
def isDefault : Call → Bool
  | .automaticRules _ | .addAutomatic _ _ _ => false
  | .defaultRules _ | .addDefaults _ _ _ => true

/-- The answer to a call, and the cache afterwards. -/
def run : Call → Cache → Answer × Cache
  | .automaticRules t, c => (.rules (c.automaticRules t).1, (c.automaticRules t).2)
  | .defaultRules t, c => (.rules (c.defaultRules t).1, (c.defaultRules t).2)
  | .addAutomatic e t payload, c =>
    (.values (Template.addAutomatic e t payload c).1, (Template.addAutomatic e t payload c).2)
  | .addDefaults e t payload, c =>
    (.values (Template.addDefaults e t payload c).1, (Template.addDefaults e t payload c).2)

/-- The rules of its own template that a call is about. -/
def rules (call : Call) : List Rule :=
  if call.isDefault then call.template.defaultRules else call.template.automaticRules

/-- The answer to a call, given the rules. -/
def answerWith : Call → List Rule → Answer
  | .automaticRules _, rules | .defaultRules _, rules => .rules rules
  | .addAutomatic e _ payload, rules => .values (compute e rules payload)
  | .addDefaults e _ payload, rules =>
    .values (compute e (rules.filter fun rule =>
      (storedValues payload rule.target.field).isEmpty) payload)

end Call

namespace Cache

/-- The table of one of the two mappings. -/
def entries (c : Cache) : Bool → List (Nat × List Rule)
  | false => c.automatic
  | true => c.default

/-- The answers to calls that are made one after the other. -/
def answers (c : Cache) : List Call → List Answer
  | [] => []
  | call :: rest => (call.run c).1 :: (call.run c).2.answers rest

/-- The cache after some calls. -/
def after (c : Cache) (calls : List Call) : Cache := calls.foldl (fun c call => (call.run c).2) c

theorem lookupOrAdd_fst (entries : List (Nat × List Rule)) (id : Nat) (rules : List Rule) :
    (lookupOrAdd entries id rules).1 = (entries.lookup id).getD rules := by
  rw [lookupOrAdd]
  split <;> rename_i hkept <;> simp [hkept]

theorem lookup_lookupOrAdd (entries : List (Nat × List Rule)) (id key : Nat)
    (rules : List Rule) :
    (lookupOrAdd entries id rules).2.lookup key =
      if id = key then some ((entries.lookup id).getD rules) else entries.lookup key := by
  rw [lookupOrAdd]
  split
  · rename_i kept hkept
    by_cases hkey : id = key
    · simp [← hkey, hkept]
    · simp [hkey]
  · rename_i hnone
    by_cases hkey : id = key
    · simp [← hkey, hnone, List.lookup_append]
    · have hne : (key == id) = false := by simp [Ne.symm hkey]
      simp [hkey, List.lookup_append, List.lookup_cons, hne]

end Cache

namespace Call

variable (call : Call) (c : Cache)

/-- A call is answered from the rules that are kept, and from those of its template otherwise. -/
theorem run_fst :
    (call.run c).1 =
      call.answerWith (((c.entries call.isDefault).lookup call.template.id).getD call.rules) := by
  cases call <;>
    simp [run, answerWith, rules, isDefault, template, Cache.entries, Cache.automaticRules,
      Cache.defaultRules, Template.addAutomatic, Template.addDefaults, Cache.lookupOrAdd_fst]

/-- A new cache keeps no rules, so that a call is answered from those of its template. -/
theorem run_empty : (call.run Cache.empty).1 = call.answerWith call.rules := by
  have hnone : (Cache.empty.entries call.isDefault).lookup call.template.id = none := by
    cases call.isDefault <;> rfl
  rw [run_fst, hnone, Option.getD_none]

/-- What a call leaves in a cache: its rules where none were kept under the number of its template.
All else stays. -/
theorem lookup_entries_run (isDefault : Bool) (id : Nat) :
    ((call.run c).2.entries isDefault).lookup id =
      if call.isDefault = isDefault ∧ call.template.id = id then
        some (((c.entries isDefault).lookup id).getD call.rules)
      else (c.entries isDefault).lookup id := by
  have hsame : ∀ (entries : List (Nat × List Rule)) (key : Nat) (rules : List Rule),
      (if key = id then some ((entries.lookup key).getD rules) else entries.lookup id) =
        if key = id then some ((entries.lookup id).getD rules) else entries.lookup id := by
    intro entries key rules
    split
    · rename_i hkey
      rw [hkey]
    · rfl
  cases call <;> cases isDefault <;>
    simp [run, rules, Call.isDefault, template, Cache.entries, Cache.automaticRules,
      Cache.defaultRules, Template.addAutomatic, Template.addDefaults, Cache.lookup_lookupOrAdd,
      hsame]

end Call

/-- Whether a call uses one of the two mappings under a number. -/
def Call.uses (isDefault : Bool) (id : Nat) (call : Call) : Bool :=
  call.isDefault == isDefault && call.template.id == id

/-- A cache after some calls: under each number it keeps the rules of the first that used it. -/
def Cache.IsAfter (c : Cache) (calls : List Call) : Prop :=
  ∀ isDefault id,
    (c.entries isDefault).lookup id = (calls.find? (Call.uses isDefault id)).map Call.rules

namespace Cache.IsAfter

variable {c : Cache} {calls : List Call}

theorem empty : Cache.empty.IsAfter [] := by
  intro isDefault id
  cases isDefault <;> rfl

theorem run (h : c.IsAfter calls) (call : Call) : (call.run c).2.IsAfter (calls ++ [call]) := by
  intro isDefault id
  have hbefore := h isDefault id
  rw [Call.lookup_entries_run, hbefore, List.find?_append]
  by_cases hused : call.isDefault = isDefault ∧ call.template.id = id
  · have huses : call.uses isDefault id = true := by simpa [Call.uses] using hused
    rw [if_pos hused, List.find?_singleton, if_pos huses]
    cases calls.find? (Call.uses isDefault id) <;> rfl
  · have huses : ¬ call.uses isDefault id = true := by simpa [Call.uses] using hused
    rw [if_neg hused, List.find?_singleton, if_neg huses, Option.or_none]

theorem append (h : c.IsAfter calls) (more : List Call) :
    (c.after more).IsAfter (calls ++ more) := by
  induction more generalizing c calls with
  | nil => simpa [after] using h
  | cons call rest ih =>
    have hrest := ih (h.run call)
    rwa [List.append_assoc] at hrest

theorem contains_iff (h : c.IsAfter calls) (id : Nat) :
    c.contains id = true ↔ ∃ call ∈ calls, call.template.id = id := by
  have hkept : ∀ isDefault, ((c.entries isDefault).lookup id).isSome = true ↔
      ∃ call ∈ calls, call.isDefault = isDefault ∧ call.template.id = id := by
    intro isDefault
    rw [h isDefault id]
    simp [Call.uses]
  have hcontains : c.contains id = true ↔
      ∃ isDefault, ((c.entries isDefault).lookup id).isSome = true := by
    simp [contains, entries]
  rw [hcontains]
  constructor
  · rintro ⟨isDefault, hsome⟩
    obtain ⟨call, hmem, -, hid⟩ := (hkept isDefault).mp hsome
    exact ⟨call, hmem, hid⟩
  · rintro ⟨call, hmem, hid⟩
    exact ⟨call.isDefault, (hkept call.isDefault).mpr ⟨call, hmem, rfl, hid⟩⟩

end Cache.IsAfter

/-- Whether the templates of some calls that have one number say the same of values. -/
def AgreeOnRules (calls : List Call) : Prop :=
  ∀ call ∈ calls, ∀ other ∈ calls, call.template.id = other.template.id →
    call.template.automaticValues = other.template.automaticValues ∧
      call.template.properties = other.template.properties

section Agreement

variable {calls : List Call}

/-- Calls about one mapping of one number have the same rules. -/
theorem AgreeOnRules.rules_eq (h : AgreeOnRules calls) {call other : Call} (hcall : call ∈ calls)
    (hother : other ∈ calls) (huses : other.uses call.isDefault call.template.id = true) :
    other.rules = call.rules := by
  obtain ⟨hkind, hid⟩ :
      other.isDefault = call.isDefault ∧ other.template.id = call.template.id := by
    simpa [Call.uses] using huses
  obtain ⟨hautomatic, hproperties⟩ := h other hother call hcall hid
  simp only [Call.rules, hkind, Template.defaultRules, Template.automaticRules, hautomatic,
    hproperties]

/-- After calls that agree with it, a call is answered as by a new cache. -/
theorem AgreeOnRules.run_eq (h : AgreeOnRules calls) {before : List Call} {c : Cache}
    (hc : c.IsAfter before) (hbefore : ∀ other ∈ before, other ∈ calls) {call : Call}
    (hcall : call ∈ calls) : (call.run c).1 = (call.run Cache.empty).1 := by
  rw [call.run_fst c, call.run_empty, hc]
  refine congrArg call.answerWith ?_
  cases hfirst : before.find? (Call.uses call.isDefault call.template.id) with
  | none => rfl
  | some other =>
    have hmem := hbefore other (List.mem_of_find?_eq_some hfirst)
    exact h.rules_eq hcall hmem (List.find?_some hfirst)

theorem AgreeOnRules.answers_eq (h : AgreeOnRules calls) {before more : List Call} {c : Cache}
    (hc : c.IsAfter before) (hcalls : before ++ more = calls) :
    c.answers more = more.map fun call => (call.run Cache.empty).1 := by
  induction more generalizing before c with
  | nil => rfl
  | cons call rest ih =>
    have hbefore : ∀ other ∈ before, other ∈ calls := fun other hother =>
      hcalls ▸ List.mem_append_left _ hother
    have hcall : call ∈ calls := hcalls ▸ List.mem_append_right _ List.mem_cons_self
    have hrest := ih (hc.run call) (by rw [List.append_assoc, ← hcalls]; rfl)
    rw [Cache.answers, List.map_cons, h.run_eq hc hbefore hcall, hrest]

end Agreement

/-- A cache is transparent. In a run of calls with one cache, in which templates with one number
have the same automatic values and properties, every call is answered as by a new cache. And at any
moment of the run the cache contains a number exactly if a call used a template that has it. -/
theorem cache_transparent {calls : List Call} (h : AgreeOnRules calls) :
    Cache.empty.answers calls = calls.map (fun call => (call.run Cache.empty).1) ∧
      ∀ before later, calls = before ++ later → ∀ id,
        (Cache.empty.after before).contains id = true ↔
          ∃ call ∈ before, call.template.id = id := by
  refine ⟨h.answers_eq Cache.IsAfter.empty rfl, ?_⟩
  intro before later _ id
  have hbefore : (Cache.empty.after before).IsAfter before :=
    Cache.IsAfter.empty.append before
  exact hbefore.contains_iff id

/-- A template that is asked for both mappings, the second time under another label and with another
template between. -/
theorem cache_transparent_labels :
    let e : Extractor := ⟨.ofDeclared Table.empty, none, some (.ofIds [7]), true⟩
    let property : Property :=
      { (default : Property) with
        term := "dcterms:title", automaticValue := some "A", defaultValue := some "D" }
    let t : Template := ⟨1, "first", "~ = dcterms:type ~ T", [property]⟩
    let other : Template := ⟨2, "other", "~ = dcterms:relation ^^resource:item ~ 7", []⟩
    let payload := Json.object [("o:id", .ofNat 3)]
    let calls :=
      [.defaultRules t, .addAutomatic e other payload,
        .addAutomatic e { t with label := "second" } payload,
        .addDefaults e { t with label := "second" } payload]
    let shown : Answer → List (List String)
      | .rules rules => [rules.map fun rule => rule.target.field]
      | .values computed => computed.patch.values.map (·.map Value.text)
    AgreeOnRules calls ∧
      Cache.empty.answers calls = calls.map (fun call => (call.run Cache.empty).1) ∧
      (Cache.empty.answers calls).map shown =
        [[["dcterms:title"]], [["7"]], [["T"], ["A"]], [["D"]]] ∧
      (Cache.empty.after (calls.take 1)).contains 1 = true ∧
      (Cache.empty.after (calls.take 1)).contains 2 = false := by
  intro e property t other payload calls shown
  have hagree : AgreeOnRules calls := by
    simp [AgreeOnRules, calls, Call.template, t, other]
  obtain ⟨hanswers, hcontains⟩ := cache_transparent hagree
  have hfirst := hcontains (calls.take 1) (calls.drop 1) (List.take_append_drop 1 calls).symm
  refine ⟨hagree, hanswers, by decide +kernel, (hfirst 1).mpr ?_, ?_⟩
  · exact ⟨_, List.mem_cons_self, rfl⟩
  · rw [← Bool.not_eq_true, hfirst 2]
    simp [calls, Call.template, t]

end Crosswalk.Template
