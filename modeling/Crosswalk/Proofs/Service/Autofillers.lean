import Crosswalk.Proofs.Mapping.Override
import Crosswalk.Service.Settings

/-!
The autofillers that a host can use.

The groups of the settings are set on top of the built-in ones, and those whose service is known
are loaded. The key of a group fixes its service and part, and with them the kind of its service: so
a built-in autofiller can be replaced by a text of the settings, but neither removed nor moved.
-/

namespace Crosswalk.Service

open Crosswalk.Mapping

/-- Whether the service of a group is known. -/
def isServed (g : Group) : Bool := (Provider.ofGroup? g).isSome

/-- Groups with one key have the same kind of service. -/
theorem ofGroup?_of_key_eq {g g' : Group} (h : g.IsNamed) (h' : g'.IsNamed)
    (hkey : g.key = g'.key) : Provider.ofGroup? g = Provider.ofGroup? g' := by
  obtain ⟨hservice, hsub, -⟩ := (h.toIsKeyed.key_eq_iff h'.toIsKeyed).mp hkey
  simp only [Provider.ofGroup?, hservice, hsub]

namespace Settings

variable (s : Settings)

theorem get?_groups (key : String) :
    s.groups.get? key =
      ((parseGroups s.autofillers).get? key).or ((parseGroups builtinText).get? key) :=
  Table.get?_setAll _ (parseGroups s.autofillers).nodup key

theorem keys_groups :
    s.groups.keys = (parseGroups builtinText).keys ++
      (parseGroups s.autofillers).keys.filter fun key => key ∉ (parseGroups builtinText).keys :=
  Table.keys_setAll_of_nodup _ (parseGroups s.autofillers).nodup

/-- A group of the settings in the place of a built-in one is served if that one was. -/
theorem any_isServed_groups {key : String} (h : key ∈ (parseGroups builtinText).keys) :
    (s.groups.get? key).any isServed = ((parseGroups builtinText).get? key).any isServed := by
  obtain ⟨builtin, hbuiltin⟩ := Table.exists_get?_of_mem_keys h
  rw [get?_groups, hbuiltin]
  cases huser : (parseGroups s.autofillers).get? key with
  | none => rfl
  | some user =>
    obtain ⟨hnamed, hkey⟩ := key_of_get?_readGroups hbuiltin
    obtain ⟨hnamed', hkey'⟩ := key_of_get?_readGroups huser
    have hsame := ofGroup?_of_key_eq hnamed' hnamed (hkey'.trans hkey.symm)
    simp [isServed, hsame]

theorem get?_load (key : String) :
    s.load.get? key =
      ((parseGroups s.autofillers).get? key |>.or ((parseGroups builtinText).get? key)).bind
        fun group => (Provider.ofGroup? group).map fun provider => ⟨key, provider, group⟩ := by
  rw [load, Table.get?_filterMapValues, get?_groups]

/-- The built-in autofillers come first, then those that only the settings define. -/
theorem keys_load :
    s.load.keys =
      ((parseGroups builtinText).filter fun _ group => isServed group).keys ++
        ((parseGroups s.autofillers).filter fun key group =>
          key ∉ (parseGroups builtinText).keys ∧ isServed group).keys := by
  have hserved : ∀ key, ((s.groups.get? key).bind fun group =>
      (Provider.ofGroup? group).map fun provider => Autofiller.mk key provider group).isSome =
        (s.groups.get? key).any isServed := by
    intro key
    cases s.groups.get? key <;> simp [isServed]
  rw [load, Table.keys_filterMapValues, Table.keys_filter, Table.keys_filter]
  simp only [hserved]
  rw [keys_groups, List.filter_append, List.filter_filter]
  refine congrArg₂ (· ++ ·) (List.filter_congr ?_) (List.filter_congr ?_)
  · exact fun key hkey => s.any_isServed_groups hkey
  · intro key hkey
    obtain ⟨group, hgroup⟩ := Table.exists_get?_of_mem_keys hkey
    by_cases hnew : key ∈ (parseGroups builtinText).keys
    · simp [hnew]
    · simp [hnew, get?_groups, hgroup]

/-- An autofiller is loaded under its own key, which is the key of its group. -/
theorem key_of_get?_load {key : String} {a : Autofiller} (h : s.load.get? key = some a) :
    a.key = key ∧ a.group.key = key := by
  rw [get?_load] at h
  obtain ⟨group, hgroup, hload⟩ := Option.bind_eq_some_iff.mp h
  obtain ⟨provider, -, rfl⟩ := Option.map_eq_some_iff.mp hload
  refine ⟨rfl, ?_⟩
  rcases Option.or_eq_some_iff.mp hgroup with huser | ⟨-, hbuiltin⟩
  · exact (key_of_get?_readGroups huser).2
  · exact (key_of_get?_readGroups hbuiltin).2

end Settings

/-- Definitions compose by override. A text that begins with a header, behind any other text, sets
its groups on top of those of the other: in their places where their keys are there, at the end
otherwise. In the same way the settings override the built-in groups. Of these and the new ones of
the settings, in the order in which their headers come first, those are loaded whose service is
known; under each key stands the group of the settings if they define it and the built-in one
otherwise, and the key is that of the autofiller and of its group. -/
theorem definitions_override {a b : String} (hb : isHeaded b.toList = true) (s : Settings) :
    let builtin := parseGroups builtinText
    let user := parseGroups s.autofillers
    parseGroups (a ++ "\n" ++ b) = (parseGroups a).setAll (parseGroups b).entries ∧
      user.keys = (headerKeys (linesOf s.autofillers.toList)).eraseDups ∧
      s.load.keys = (builtin.filter fun _ group => isServed group).keys ++
        (user.filter fun key group => key ∉ builtin.keys ∧ isServed group).keys ∧
      ∀ key,
        (s.load.get? key =
          ((user.get? key).or (builtin.get? key)).bind fun group =>
            (Provider.ofGroup? group).map fun provider => ⟨key, provider, group⟩) ∧
        ∀ autofiller, s.load.get? key = some autofiller →
          autofiller.key = key ∧ autofiller.group.key = key := by
  intro builtin user
  refine ⟨?_, keys_readGroups _, s.keys_load, fun key => ⟨s.get?_load key, ?_⟩⟩
  · have htext : (a ++ "\n" ++ b).toList = a.toList ++ '\n' :: b.toList := by simp
    rw [parseGroups, htext]
    exact readGroups_append a.toList hb
  · exact fun autofiller h => s.key_of_get?_load h

/-- A comment, a header that was there before, a header that cannot be read and a new one. -/
theorem definitions_override_places :
    let a := "[geonames] = A\n?q\n[x]"
    let b := "; c\n[geonames] = B\n[ ]\n?r\n[y]"
    isHeaded b.toList = true ∧
      parseGroups (a ++ "\n" ++ b) = (parseGroups a).setAll (parseGroups b).entries ∧
      (parseGroups (a ++ "\n" ++ b)).entries.map (fun entry => (entry.1, entry.2.query)) =
        [("geonames", some "r"), ("x", none), ("y", none)] := by
  intro a b
  have hb : isHeaded b.toList = true := by decide +kernel
  have happend := (definitions_override (a := a) hb .default).1
  refine ⟨hb, happend, ?_⟩
  rw [happend]
  decide +kernel

end Crosswalk.Service
