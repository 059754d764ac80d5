import Mathlib.Data.List.Basic

/-!
Grammars as productions.

A production derives texts: one character of a class, two productions one behind the other, one of
two, or a production some number of times. Whatever the classes do not tell apart, as the two cases
of a letter, the texts that are derived do not tell apart either.
-/

namespace Crosswalk.Text

/-- A production of a grammar. -/
inductive Production where
  /-- One character of a class. -/
  | one (holds : Char → Bool)
  | seq (first second : Production)
  | alt (first second : Production)
  /-- A production at least `low` times, and at most `high` times if this is given. -/
  | repeated (low : Nat) (high : Option Nat) (body : Production)

namespace Production

def exactly (n : Nat) (body : Production) : Production := .repeated n (some n) body

def between (low high : Nat) (body : Production) : Production := .repeated low (some high) body

def optional (body : Production) : Production := .repeated 0 (some 1) body

def many (body : Production) : Production := .repeated 0 none body

def atLeastOne (body : Production) : Production := .repeated 1 none body

/-- The texts that a production derives. -/
inductive Derives : Production → List Char → Prop where
  | one {holds : Char → Bool} {c : Char} (h : holds c = true) : Derives (.one holds) [c]
  | seq {a b : Production} {s t : List Char} (hs : Derives a s) (ht : Derives b t) :
      Derives (.seq a b) (s ++ t)
  | left {a b : Production} {s : List Char} (h : Derives a s) : Derives (.alt a b) s
  | right {a b : Production} {s : List Char} (h : Derives b s) : Derives (.alt a b) s
  | repeated {low : Nat} {high : Option Nat} {body : Production} {parts : List (List Char)}
      (hlow : low ≤ parts.length) (hhigh : ∀ n ∈ high, parts.length ≤ n)
      (h : ∀ part ∈ parts, Derives body part) : Derives (.repeated low high body) parts.flatten

variable {a b body : Production} {s t : List Char} {holds : Char → Bool}

theorem derives_one_iff : Derives (.one holds) s ↔ ∃ c, holds c = true ∧ s = [c] := by
  constructor
  · intro h
    cases h with
    | one hc => exact ⟨_, hc, rfl⟩
  · rintro ⟨c, h, rfl⟩
    exact .one h

theorem derives_seq_iff :
    Derives (.seq a b) s ↔ ∃ front back, s = front ++ back ∧ Derives a front ∧ Derives b back := by
  constructor
  · intro h
    cases h with
    | seq hfront hback => exact ⟨_, _, rfl, hfront, hback⟩
  · rintro ⟨front, back, rfl, hfront, hback⟩
    exact .seq hfront hback

theorem derives_alt_iff : Derives (.alt a b) s ↔ Derives a s ∨ Derives b s := by
  constructor
  · intro h
    cases h with
    | left h => exact .inl h
    | right h => exact .inr h
  · rintro (h | h)
    · exact .left h
    · exact .right h

theorem derives_repeated_iff {low : Nat} {high : Option Nat} :
    Derives (.repeated low high body) s ↔
      ∃ parts : List (List Char), low ≤ parts.length ∧ (∀ n ∈ high, parts.length ≤ n) ∧
        (∀ part ∈ parts, Derives body part) ∧ s = parts.flatten := by
  constructor
  · intro h
    cases h with
    | repeated hlow hhigh hparts => exact ⟨_, hlow, hhigh, hparts, rfl⟩
  · rintro ⟨parts, hlow, hhigh, h, rfl⟩
    exact .repeated hlow hhigh h

theorem derives_optional_iff : Derives (optional body) s ↔ s = [] ∨ Derives body s := by
  rw [optional, derives_repeated_iff]
  constructor
  · rintro ⟨parts, -, hhigh, h, rfl⟩
    match parts, hhigh 1 rfl with
    | [], _ => exact .inl rfl
    | [part], _ => exact .inr (by simpa using h part (by simp))
  · rintro (rfl | h)
    · exact ⟨[], by simp⟩
    · exact ⟨[s], by simpa using h⟩

/-- A production that derives the characters of a class, each on its own. -/
def IsClass (body : Production) (holds : Char → Bool) : Prop :=
  ∀ s, Derives body s ↔ ∃ c, holds c = true ∧ s = [c]

theorem isClass_one : IsClass (.one holds) holds := fun _ => derives_one_iff

theorem IsClass.alt {other : Char → Bool} (ha : IsClass a holds) (hb : IsClass b other) :
    IsClass (.alt a b) fun c => holds c || other c := by
  intro s
  rw [derives_alt_iff, ha, hb]
  constructor
  · rintro (⟨c, hc, rfl⟩ | ⟨c, hc, rfl⟩)
    · exact ⟨c, by simp [hc], rfl⟩
    · exact ⟨c, by simp [hc], rfl⟩
  · rintro ⟨c, hc, rfl⟩
    rcases Bool.or_eq_true _ _ ▸ hc with hc | hc
    · exact .inl ⟨c, hc, rfl⟩
    · exact .inr ⟨c, hc, rfl⟩

/-- A class some number of times derives the texts of that length of its characters. -/
theorem IsClass.derives_between_iff (h : IsClass body holds) {low high : Nat} :
    Derives (between low high body) s ↔
      low ≤ s.length ∧ s.length ≤ high ∧ ∀ c ∈ s, holds c = true := by
  rw [between, derives_repeated_iff]
  constructor
  · rintro ⟨parts, hlow, hhigh, hparts, rfl⟩
    have hsingle : ∀ part ∈ parts, ∃ c, holds c = true ∧ part = [c] := fun part hpart =>
      (h part).mp (hparts part hpart)
    have hlength : parts.flatten.length = parts.length := by
      rw [List.length_flatten, List.map_congr_left (g := fun _ => 1)]
      · simp
      · intro part hpart
        obtain ⟨c, -, rfl⟩ := hsingle part hpart
        rfl
    refine ⟨hlength ▸ hlow, hlength ▸ hhigh high rfl, fun c hc => ?_⟩
    obtain ⟨part, hpart, hmem⟩ := List.mem_flatten.mp hc
    obtain ⟨d, hd, rfl⟩ := hsingle part hpart
    rwa [List.mem_singleton.mp hmem]
  · rintro ⟨hlow, hhigh, hall⟩
    have hsplit : s = (s.map fun c => [c]).flatten := by
      rw [← List.flatMap_def, List.flatMap_singleton']
    refine ⟨s.map fun c => [c], by simpa using hlow, by simpa using hhigh, ?_, hsplit⟩
    intro part hpart
    obtain ⟨c, hc, rfl⟩ := List.mem_map.mp hpart
    exact (h _).mpr ⟨c, hall c hc, rfl⟩

/-! ### Letters in either case -/

/-- Only letters of ASCII have another case here. -/
theorem toLower_eq_self {c : Char} (h : 128 ≤ c.toNat) : c.toLower = c := by
  have hbeyond : ¬ (c.val ≥ 'A'.val ∧ c.val ≤ 'Z'.val) := by
    rintro ⟨-, hle⟩
    have hle := UInt32.le_iff_toNat_le.mp hle
    have hlast : 'Z'.val.toNat = 90 := rfl
    have hcode : c.toNat = c.val.toNat := rfl
    omega
  exact dif_neg hbeyond

/-- What holds of the characters of ASCII, which can be tried one by one, and of those beyond. -/
theorem forall_of_ascii {motive : Char → Prop} (hascii : ∀ n : Fin 128, motive (Char.ofNat n))
    (hbeyond : ∀ c : Char, 128 ≤ c.toNat → motive c) (c : Char) : motive c := by
  by_cases hc : c.toNat < 128
  · simpa [Char.ofNat_toNat] using hascii ⟨c.toNat, hc⟩
  · exact hbeyond c (Nat.le_of_not_lt hc)

/-- A production whose classes hold letters in both cases or in neither. -/
def IsCaseless : Production → Prop
  | .one holds => ∀ c, holds c.toLower = holds c
  | .seq a b => a.IsCaseless ∧ b.IsCaseless
  | .alt a b => a.IsCaseless ∧ b.IsCaseless
  | .repeated _ _ body => body.IsCaseless

/-- A class is caseless if the characters of ASCII show nothing else. -/
theorem isCaseless_of_ascii
    (h : ∀ n : Fin 128, holds (Char.ofNat n).toLower = holds (Char.ofNat n)) :
    (Production.one holds).IsCaseless :=
  forall_of_ascii h fun c hc => by rw [toLower_eq_self hc]

theorem exists_of_map_append {front back : List Char}
    (h : t.map Char.toLower = (front ++ back).map Char.toLower) :
    ∃ x y, t = x ++ y ∧ x.map Char.toLower = front.map Char.toLower ∧
      y.map Char.toLower = back.map Char.toLower := by
  rw [List.map_append] at h
  exact List.map_eq_append_iff.mp h

/-- The same text in other cases is derived in the same way. -/
theorem Derives.recased (h : Derives a s) (ha : a.IsCaseless)
    (ht : t.map Char.toLower = s.map Char.toLower) : Derives a t := by
  induction h generalizing t with
  | @one holds c hc =>
    obtain ⟨d, rfl, hd⟩ := List.map_eq_singleton_iff.mp ht
    exact .one (by rw [← ha d, hd, ha c, hc])
  | seq _ _ ihs iht =>
    obtain ⟨x, y, rfl, hx, hy⟩ := exists_of_map_append ht
    exact .seq (ihs ha.1 hx) (iht ha.2 hy)
  | left _ ih => exact .left (ih ha.1 ht)
  | right _ ih => exact .right (ih ha.2 ht)
  | @repeated low high body parts hlow hhigh hbody ih =>
    suffices hparts : ∃ others : List (List Char), others.length = parts.length ∧
        (∀ part ∈ others, Derives body part) ∧ t = others.flatten by
      obtain ⟨others, hlength, hothers, rfl⟩ := hparts
      exact .repeated (hlength ▸ hlow) (hlength ▸ hhigh) hothers
    clear hlow hhigh hbody
    induction parts generalizing t with
    | nil => exact ⟨[], rfl, by simp, by simpa using ht⟩
    | cons part rest ihrest =>
      obtain ⟨x, y, rfl, hx, hy⟩ := exists_of_map_append ht
      obtain ⟨others, hlength, hothers, rfl⟩ :=
        ihrest (fun part hpart => ih part (List.mem_cons_of_mem _ hpart)) hy
      refine ⟨x :: others, by rw [List.length_cons, hlength, List.length_cons], ?_, rfl⟩
      exact List.forall_mem_cons.mpr ⟨ih part List.mem_cons_self ha hx, hothers⟩

end Production

end Crosswalk.Text
