import Crosswalk.Proofs.Field.TagParts
import Crosswalk.Proofs.Text.Productions

/-!
Language tags are what the grammar of BCP 47 derives.

The productions below are those of `langtag` and `privateuse` in that grammar; the third kind of tag
that it has, the grandfathered ones, is left out. What a production behind the first subtag derives
is the text of a list of subtags with a hyphen in front of each, and the lists are those that the
checks of the parts accept.
-/

namespace Crosswalk.Field.Language

open Text Text.Production

/-! ### The productions -/

namespace Bcp47

def alpha : Production := .one Char.isAlpha

def digit : Production := .one Char.isDigit

def alphanum : Production := .alt alpha digit

def hyphen : Production := .one (· == '-')

/-- Three letters, up to three times. -/
def extlang : Production :=
  .seq (exactly 3 alpha) (between 0 2 (.seq hyphen (exactly 3 alpha)))

def language : Production :=
  .alt (.seq (between 2 3 alpha) (optional (.seq hyphen extlang)))
    (.alt (exactly 4 alpha) (between 5 8 alpha))

def script : Production := exactly 4 alpha

def region : Production := .alt (exactly 2 alpha) (exactly 3 digit)

def variant : Production := .alt (between 5 8 alphanum) (.seq digit (exactly 3 alphanum))

/-- A letter or digit other than x. -/
def singleton : Production := .one fun c => Unicode.isAsciiAlphanumeric c && c.toLower != 'x'

def extension : Production := .seq singleton (atLeastOne (.seq hyphen (between 2 8 alphanum)))

def privateuse : Production :=
  .seq (.one fun c => c.toLower == 'x') (atLeastOne (.seq hyphen (between 1 8 alphanum)))

/-- What may follow the region. -/
def afterRegion : Production :=
  .seq (many (.seq hyphen variant))
    (.seq (many (.seq hyphen extension)) (optional (.seq hyphen privateuse)))

/-- What may follow the language. -/
def afterLanguage : Production :=
  .seq (optional (.seq hyphen script)) (.seq (optional (.seq hyphen region)) afterRegion)

def langtag : Production := .seq language afterLanguage

end Bcp47

/-! ### Subtags -/

theorem isClass_alpha : IsClass Bcp47.alpha Char.isAlpha := isClass_one

theorem isClass_digit : IsClass Bcp47.digit Char.isDigit := isClass_one

theorem isClass_alphanum : IsClass Bcp47.alphanum Unicode.isAsciiAlphanumeric :=
  isClass_alpha.alt isClass_digit

variable {s t : Subtag} {tags : List Subtag} {low high : Nat}

theorem derives_alpha_iff :
    Derives (between low high Bcp47.alpha) s ↔ isAlpha low high s = true := by
  rw [isClass_alpha.derives_between_iff]
  simp [isAlpha, and_assoc]

theorem derives_alphanum_iff :
    Derives (between low high Bcp47.alphanum) s ↔ isAlphanumeric low high s = true := by
  rw [isClass_alphanum.derives_between_iff]
  simp [isAlphanumeric, and_assoc]

theorem derives_exactly_iff {body : Production} {holds : Char → Bool} (h : IsClass body holds)
    {n : Nat} : Derives (exactly n body) s ↔ (s.length == n && s.all holds) = true := by
  rw [exactly, ← between, h.derives_between_iff, ← and_assoc, and_comm (a := n ≤ s.length),
    ← Nat.le_antisymm_iff]
  simp

theorem derives_letters_iff {n : Nat} :
    Derives (exactly n Bcp47.alpha) s ↔ isAlpha n n s = true := derives_alpha_iff

theorem derives_extendedLanguage_iff :
    Derives (exactly 3 Bcp47.alpha) s ↔ isExtendedLanguage s = true := derives_letters_iff

theorem derives_script_iff : Derives Bcp47.script s ↔ isScript s = true := derives_letters_iff

theorem derives_extensionPart_iff :
    Derives (between 2 8 Bcp47.alphanum) s ↔ isExtensionPart s = true := derives_alphanum_iff

theorem derives_privatePart_iff :
    Derives (between 1 8 Bcp47.alphanum) s ↔ isPrivatePart s = true := derives_alphanum_iff

theorem derives_region_iff : Derives Bcp47.region s ↔ isRegion s = true := by
  rw [Bcp47.region, derives_alt_iff, derives_letters_iff, derives_exactly_iff isClass_digit,
    isRegion, Bool.or_eq_true]

theorem derives_variant_iff : Derives Bcp47.variant s ↔ isVariant s = true := by
  have hshort : Derives (.seq Bcp47.digit (exactly 3 Bcp47.alphanum)) s ↔
      (s.length == 4 && s.all Unicode.isAsciiAlphanumeric && s.head?.any Char.isDigit) = true := by
    rw [derives_seq_iff]
    constructor
    · rintro ⟨front, back, rfl, hfront, hback⟩
      obtain ⟨c, hc, rfl⟩ := (isClass_digit _).mp hfront
      have hback := (derives_exactly_iff isClass_alphanum).mp hback
      simp_all [Unicode.isAsciiAlphanumeric]
    · intro h
      cases s with
      | nil => simp at h
      | cons c rest =>
        simp only [Bool.and_eq_true, beq_iff_eq, List.length_cons, List.all_cons, List.head?_cons,
          Option.any_some] at h
        obtain ⟨⟨hlength, -, hall⟩, hc⟩ := h
        refine ⟨[c], rest, rfl, (isClass_digit _).mpr ⟨c, hc, rfl⟩, ?_⟩
        rw [derives_exactly_iff isClass_alphanum, Bool.and_eq_true, beq_iff_eq]
        exact ⟨by omega, hall⟩
  rw [Bcp47.variant, derives_alt_iff, derives_alphanum_iff, hshort, isVariant, Bool.or_eq_true]

theorem lower_eq_x_iff (c : Char) : (c.toLower == 'x') = isPrivateMark [c] := by
  revert c
  apply forall_of_ascii
  · decide
  · intro c hc
    have hx : c ≠ 'x' := by
      rintro rfl
      revert hc
      decide
    have hX : c ≠ 'X' := by
      rintro rfl
      revert hc
      decide
    rw [toLower_eq_self hc]
    simp [isPrivateMark, hx, hX]

theorem derives_privateMark_iff :
    Derives (.one fun c => c.toLower == 'x') s ↔ isPrivateMark s = true := by
  rw [derives_one_iff]
  constructor
  · rintro ⟨c, hc, rfl⟩
    rwa [← lower_eq_x_iff]
  · intro h
    obtain ⟨c, rfl⟩ := List.length_eq_one_iff.mp (length_of_isPrivateMark h)
    exact ⟨c, by rwa [lower_eq_x_iff], rfl⟩

theorem derives_singleton_iff : Derives Bcp47.singleton s ↔ isSingleton s = true := by
  have hone : ∀ c, isSingleton [c] = (Unicode.isAsciiAlphanumeric c && c.toLower != 'x') := by
    intro c
    rw [bne, lower_eq_x_iff]
    simp [isSingleton, isAlphanumeric]
  rw [Bcp47.singleton, derives_one_iff]
  constructor
  · rintro ⟨c, hc, rfl⟩
    rwa [hone]
  · intro h
    have hlength : s.length = 1 := by
      simp only [isSingleton, isAlphanumeric, Bool.and_eq_true, decide_eq_true_eq] at h
      omega
    obtain ⟨c, rfl⟩ := List.length_eq_one_iff.mp hlength
    exact ⟨c, by rwa [← hone], rfl⟩

/-! ### Subtags behind one another -/

/-- The text of subtags, with a hyphen in front of each. -/
def hyphened (tags : List Subtag) : List Char := tags.flatMap ('-' :: ·)

theorem hyphened_cons (t : Subtag) (tags : List Subtag) :
    hyphened (t :: tags) = '-' :: (t ++ hyphened tags) := rfl

theorem hyphened_append (tags more : List Subtag) :
    hyphened (tags ++ more) = hyphened tags ++ hyphened more := List.flatMap_append

theorem hyphened_flatten (parts : List (List Subtag)) :
    hyphened parts.flatten = (parts.map hyphened).flatten := by
  induction parts with
  | nil => rfl
  | cons part rest ih =>
    rw [List.flatten_cons, hyphened_append, ih, List.map_cons, List.flatten_cons]

theorem join_cons (t : Subtag) (tags : List Subtag) :
    join ['-'] (t :: tags) = t ++ hyphened tags := by
  induction tags generalizing t with
  | nil => simp [join, hyphened]
  | cons next rest ih =>
    rw [join_cons_cons, ih, hyphened_cons]
    simp

theorem exists_map_eq {α β : Type} {f : β → α} {p : β → Prop} {list : List α}
    (h : ∀ x ∈ list, ∃ y, p y ∧ x = f y) :
    ∃ found : List β, list = found.map f ∧ ∀ y ∈ found, p y := by
  induction list with
  | nil => exact ⟨[], rfl, by simp⟩
  | cons x rest ih =>
    obtain ⟨⟨y, hy, rfl⟩, hrest⟩ := List.forall_mem_cons.mp h
    obtain ⟨found, rfl, hfound⟩ := ih hrest
    exact ⟨y :: found, rfl, List.forall_mem_cons.mpr ⟨hy, hfound⟩⟩

/-- Whether the texts of a production are those of certain lists of subtags, with a hyphen in front
of each subtag. -/
def Spans (body : Production) (accepts : List Subtag → Prop) : Prop :=
  ∀ s, Derives body s ↔ ∃ tags, accepts tags ∧ s = hyphened tags

variable {a b body : Production} {first second accepts : List Subtag → Prop}

theorem spans_hyphen {holds : Subtag → Bool} (h : ∀ s, Derives body s ↔ holds s = true) :
    Spans (.seq Bcp47.hyphen body) fun tags => ∃ t, tags = [t] ∧ holds t = true := by
  intro s
  rw [derives_seq_iff]
  constructor
  · rintro ⟨front, back, rfl, hfront, hback⟩
    obtain ⟨c, hc, rfl⟩ := derives_one_iff.mp hfront
    rw [beq_iff_eq] at hc
    exact ⟨[back], ⟨back, rfl, (h back).mp hback⟩, by simp [hyphened, hc]⟩
  · rintro ⟨tags, ⟨t, rfl, ht⟩, rfl⟩
    exact ⟨['-'], t, by simp [hyphened], .one (by decide), (h t).mpr ht⟩

/-- A hyphen and a production that begins with a subtag and goes on with others. -/
theorem spans_hyphen_seq {holds : Subtag → Bool} (ha : ∀ s, Derives a s ↔ holds s = true)
    (hb : Spans b accepts) : Spans (.seq Bcp47.hyphen (.seq a b)) fun tags =>
      ∃ t rest, tags = t :: rest ∧ holds t = true ∧ accepts rest := by
  intro s
  rw [derives_seq_iff]
  constructor
  · rintro ⟨front, back, rfl, hfront, hback⟩
    obtain ⟨c, hc, rfl⟩ := derives_one_iff.mp hfront
    rw [beq_iff_eq] at hc
    obtain ⟨t, tail, rfl, ht, htail⟩ := derives_seq_iff.mp hback
    obtain ⟨rest, hrest, rfl⟩ := (hb tail).mp htail
    exact ⟨t :: rest, ⟨t, rest, rfl, (ha t).mp ht, hrest⟩, by rw [hyphened_cons, hc]; rfl⟩
  · rintro ⟨tags, ⟨t, rest, rfl, ht, hrest⟩, rfl⟩
    exact ⟨['-'], t ++ hyphened rest, rfl, .one (by decide),
      .seq ((ha t).mpr ht) ((hb _).mpr ⟨rest, hrest, rfl⟩)⟩

theorem Spans.seq (ha : Spans a first) (hb : Spans b second) :
    Spans (.seq a b) fun tags => ∃ x y, tags = x ++ y ∧ first x ∧ second y := by
  intro s
  rw [derives_seq_iff]
  constructor
  · rintro ⟨front, back, rfl, hfront, hback⟩
    obtain ⟨x, hx, rfl⟩ := (ha front).mp hfront
    obtain ⟨y, hy, rfl⟩ := (hb back).mp hback
    exact ⟨x ++ y, ⟨x, y, rfl, hx, hy⟩, (hyphened_append x y).symm⟩
  · rintro ⟨tags, ⟨x, y, rfl, hx, hy⟩, rfl⟩
    exact ⟨_, _, hyphened_append x y, (ha _).mpr ⟨x, hx, rfl⟩, (hb _).mpr ⟨y, hy, rfl⟩⟩

theorem Spans.optional (h : Spans body accepts) :
    Spans (optional body) fun tags => tags = [] ∨ accepts tags := by
  intro s
  rw [derives_optional_iff, h]
  constructor
  · rintro (rfl | ⟨tags, htags, rfl⟩)
    · exact ⟨[], .inl rfl, rfl⟩
    · exact ⟨tags, .inr htags, rfl⟩
  · rintro ⟨tags, rfl | htags, rfl⟩
    · exact .inl rfl
    · exact .inr ⟨tags, htags, rfl⟩

theorem Spans.repeated (h : Spans body accepts) {low : Nat} {high : Option Nat} :
    Spans (.repeated low high body) fun tags =>
      ∃ parts : List (List Subtag), tags = parts.flatten ∧ low ≤ parts.length ∧
        (∀ n ∈ high, parts.length ≤ n) ∧ ∀ part ∈ parts, accepts part := by
  intro s
  rw [derives_repeated_iff]
  constructor
  · rintro ⟨texts, hlow, hhigh, htexts, rfl⟩
    -- every text has its subtags
    obtain ⟨parts, rfl, hall⟩ := exists_map_eq fun text htext => (h text).mp (htexts text htext)
    rw [List.length_map] at hlow hhigh
    exact ⟨parts.flatten, ⟨parts, rfl, hlow, hhigh, hall⟩, (hyphened_flatten parts).symm⟩
  · rintro ⟨tags, ⟨parts, rfl, hlow, hhigh, hparts⟩, rfl⟩
    refine ⟨parts.map hyphened, by simpa using hlow, by simpa using hhigh, ?_,
      hyphened_flatten parts⟩
    intro text htext
    obtain ⟨part, hpart, rfl⟩ := List.mem_map.mp htext
    exact (h _).mpr ⟨part, hparts part hpart, rfl⟩

theorem Spans.congr (h : Spans body first) (hiff : ∀ tags, first tags ↔ second tags) :
    Spans body second := by
  intro s
  rw [h]
  simp only [hiff]

/-- A subtag some number of times, each behind a hyphen. -/
theorem spans_repeated_hyphen {holds : Subtag → Bool} (h : ∀ s, Derives body s ↔ holds s = true)
    {low : Nat} {high : Option Nat} :
    Spans (.repeated low high (.seq Bcp47.hyphen body)) fun tags =>
      low ≤ tags.length ∧ (∀ n ∈ high, tags.length ≤ n) ∧ ∀ t ∈ tags, holds t = true := by
  refine (spans_hyphen h).repeated.congr fun tags => ?_
  constructor
  · rintro ⟨parts, rfl, hlow, hhigh, hparts⟩
    -- one subtag in each part
    have hsingles : ∀ part ∈ parts, ∃ t, holds t = true ∧ part = [t] := by
      intro part hpart
      obtain ⟨t, heq, ht⟩ := hparts part hpart
      exact ⟨t, ht, heq⟩
    obtain ⟨tags, rfl, hall⟩ := exists_map_eq hsingles
    rw [List.length_map] at hlow hhigh
    rw [← List.flatMap_def, List.flatMap_singleton']
    exact ⟨hlow, hhigh, hall⟩
  · rintro ⟨hlow, hhigh, hall⟩
    refine ⟨tags.map ([·]), ?_, by simpa using hlow, by simpa using hhigh, ?_⟩
    · rw [← List.flatMap_def, List.flatMap_singleton']
    · intro part hpart
      obtain ⟨t, ht, rfl⟩ := List.mem_map.mp hpart
      exact ⟨t, rfl, hall t ht⟩

/-! ### Parts of a tag -/

theorem spans_extlang : Spans (optional (.seq Bcp47.hyphen Bcp47.extlang)) fun tags =>
    tags.length ≤ 3 ∧ ∀ t ∈ tags, isExtendedLanguage t = true := by
  refine (spans_hyphen_seq (fun _ => derives_extendedLanguage_iff)
    (spans_repeated_hyphen fun _ => derives_extendedLanguage_iff)).optional.congr fun tags => ?_
  constructor
  · rintro (rfl | ⟨t, rest, rfl, ht, -, hlength, hrest⟩)
    · exact ⟨by simp, by simp⟩
    · exact ⟨Nat.succ_le_succ (hlength 2 rfl), List.forall_mem_cons.mpr ⟨ht, hrest⟩⟩
  · rintro ⟨hlength, hall⟩
    cases tags with
    | nil => exact .inl rfl
    | cons t rest =>
      obtain ⟨ht, hrest⟩ := List.forall_mem_cons.mp hall
      have hbound : ∀ n ∈ some 2, rest.length ≤ n := by
        rintro n ⟨⟩
        exact Nat.le_of_succ_le_succ hlength
      exact .inr ⟨t, rest, rfl, ht, Nat.zero_le _, hbound, hrest⟩

theorem spans_extension : Spans (.seq Bcp47.hyphen Bcp47.extension) IsExtension := by
  refine (spans_hyphen_seq (fun _ => derives_singleton_iff)
    (spans_repeated_hyphen fun _ => derives_extensionPart_iff)).congr fun tags => ?_
  simp [IsExtension]

theorem spans_privateuse :
    Spans (.seq Bcp47.hyphen Bcp47.privateuse) fun tags => isPrivateUse tags = true := by
  refine (spans_hyphen_seq (fun _ => derives_privateMark_iff)
    (spans_repeated_hyphen fun _ => derives_privatePart_iff)).congr fun tags => ?_
  simp [isPrivateUse_iff]

theorem spans_afterRegion : Spans Bcp47.afterRegion fun tags => isAfterRegion tags = true := by
  have hvariants : Spans (many (.seq Bcp47.hyphen Bcp47.variant)) _ :=
    spans_repeated_hyphen fun _ => derives_variant_iff
  have hextensions : Spans (many (.seq Bcp47.hyphen Bcp47.extension)) _ := spans_extension.repeated
  refine (hvariants.seq (hextensions.seq spans_privateuse.optional)).congr fun tags => ?_
  rw [isAfterRegion_iff]
  constructor
  · rintro ⟨variants, _, rfl, ⟨-, -, hall⟩, _, last, rfl, ⟨extensions, rfl, -, -, hparts⟩, hlast⟩
    exact ⟨variants, _, rfl, hall, isExtensions_iff.mpr ⟨extensions, last, rfl, hparts, hlast⟩⟩
  · rintro ⟨variants, rest, rfl, hall, hrest⟩
    obtain ⟨extensions, last, rfl, hparts, hlast⟩ := isExtensions_iff.mp hrest
    exact ⟨variants, _, rfl, ⟨by simp, by simp, hall⟩, _, last, rfl,
      ⟨extensions, rfl, by simp, by simp, hparts⟩, hlast⟩

theorem spans_afterLanguage :
    Spans Bcp47.afterLanguage fun tags => isAfterLanguage tags = true := by
  have hscript := (spans_hyphen fun _ => derives_script_iff).optional
  have hregion := (spans_hyphen fun _ => derives_region_iff).optional
  refine (hscript.seq (hregion.seq spans_afterRegion)).congr fun tags => ?_
  rw [isAfterLanguage_iff]
  constructor
  · rintro ⟨script, _, rfl, hscript, region, rest, rfl, hregion, hrest⟩
    exact ⟨script, region, rest, rfl, hscript, hregion, hrest⟩
  · rintro ⟨script, region, rest, rfl, hscript, hregion, hrest⟩
    exact ⟨script, _, rfl, hscript, region, rest, rfl, hregion, hrest⟩

theorem derives_language_iff : Derives Bcp47.language s ↔
    ∃ first extended, s = first ++ hyphened extended ∧
      (isAlpha 2 3 first = true ∧ extended.length ≤ 3 ∧
          (∀ t ∈ extended, isExtendedLanguage t = true) ∨
        isAlpha 4 8 first = true ∧ extended = []) := by
  have hlong : Derives (.alt (exactly 4 Bcp47.alpha) (between 5 8 Bcp47.alpha)) s ↔
      isAlpha 4 8 s = true := by
    rw [derives_alt_iff, derives_letters_iff, derives_alpha_iff]
    simp only [isAlpha, Bool.and_eq_true, decide_eq_true_eq, ← or_and_right]
    refine and_congr_left fun _ => ?_
    omega
  rw [Bcp47.language, derives_alt_iff, hlong, derives_seq_iff]
  constructor
  · rintro (⟨first, back, rfl, hfirst, hback⟩ | h)
    · obtain ⟨extended, hextended, rfl⟩ := (spans_extlang back).mp hback
      exact ⟨first, extended, rfl, .inl ⟨derives_alpha_iff.mp hfirst, hextended⟩⟩
    · exact ⟨s, [], by simp [hyphened], .inr ⟨h, rfl⟩⟩
  · rintro ⟨first, extended, rfl, ⟨hfirst, hextended⟩ | ⟨hfirst, rfl⟩⟩
    · exact .inl ⟨first, _, rfl, derives_alpha_iff.mpr hfirst,
        (spans_extlang _).mpr ⟨extended, hextended, rfl⟩⟩
    · exact .inr (by simpa [hyphened] using hfirst)

theorem derives_langtag_iff : Derives Bcp47.langtag s ↔
    ∃ tags, isLanguageTag tags = true ∧ s = join ['-'] tags := by
  rw [Bcp47.langtag, derives_seq_iff]
  constructor
  · rintro ⟨_, _, rfl, hfront, hback⟩
    obtain ⟨first, extended, rfl, hlanguage⟩ := derives_language_iff.mp hfront
    obtain ⟨rest, hrest, rfl⟩ := (spans_afterLanguage _).mp hback
    exact ⟨first :: (extended ++ rest),
      isLanguageTag_iff.mpr ⟨first, extended, rest, rfl, hlanguage, hrest⟩,
      by rw [join_cons, hyphened_append, List.append_assoc]⟩
  · rintro ⟨tags, htags, rfl⟩
    obtain ⟨first, extended, rest, rfl, hlanguage, hrest⟩ := isLanguageTag_iff.mp htags
    exact ⟨first ++ hyphened extended, hyphened rest,
      by rw [join_cons, hyphened_append, List.append_assoc],
      derives_language_iff.mpr ⟨first, extended, rfl, hlanguage⟩,
      (spans_afterLanguage _).mpr ⟨rest, hrest, rfl⟩⟩

theorem derives_privateuse_iff : Derives Bcp47.privateuse s ↔
    ∃ tags, isPrivateUse tags = true ∧ s = join ['-'] tags := by
  have hbehind : Spans (atLeastOne (.seq Bcp47.hyphen (between 1 8 Bcp47.alphanum))) _ :=
    spans_repeated_hyphen fun _ => derives_privatePart_iff
  rw [Bcp47.privateuse, derives_seq_iff]
  constructor
  · rintro ⟨mark, _, rfl, hmark, hback⟩
    obtain ⟨parts, ⟨hlength, -, hparts⟩, rfl⟩ := (hbehind _).mp hback
    exact ⟨mark :: parts, isPrivateUse_iff.mpr
      ⟨mark, parts, rfl, derives_privateMark_iff.mp hmark, hlength, hparts⟩, (join_cons _ _).symm⟩
  · rintro ⟨tags, htags, rfl⟩
    obtain ⟨mark, parts, rfl, hmark, hlength, hparts⟩ := isPrivateUse_iff.mp htags
    exact ⟨mark, hyphened parts, join_cons mark parts, derives_privateMark_iff.mpr hmark,
      (hbehind _).mpr ⟨parts, ⟨hlength, by simp, hparts⟩, rfl⟩⟩

/-! ### Tags -/

/-- A text that is cut at its hyphens is the text of those subtags and of no others without
hyphens. -/
theorem exists_pieces_iff {accepts : List Subtag → Bool} (hnil : accepts [] = false)
    (h : ∀ tags, accepts tags = true → ∀ t ∈ tags, IsSubtag t) :
    accepts (pieces (· == '-') s) = true ↔ ∃ tags, accepts tags = true ∧ s = join ['-'] tags := by
  constructor
  · intro hs
    exact ⟨_, hs, (join_pieces s).symm⟩
  · rintro ⟨tags, htags, rfl⟩
    have hne : tags ≠ [] := by
      rintro rfl
      rw [hnil] at htags
      cases htags
    have hfree : ∀ t ∈ tags, '-' ∉ t := by
      intro t ht hmem
      have halphanumeric := (h tags htags t ht).alphanumeric '-' hmem
      exact absurd halphanumeric (by decide)
    rwa [pieces_join hne hfree]

theorem isTag_iff :
    isTag s = true ↔ Derives Bcp47.langtag s ∨ Derives Bcp47.privateuse s := by
  rw [isTag, Bool.or_eq_true, or_comm, derives_langtag_iff, derives_privateuse_iff,
    exists_pieces_iff rfl fun _ => isSubtag_of_isLanguageTag,
    exists_pieces_iff rfl fun _ => isSubtag_of_isPrivateUse]

theorem isCaseless_alpha : Bcp47.alpha.IsCaseless := isCaseless_of_ascii (by decide)

theorem isCaseless_alphanum : Bcp47.alphanum.IsCaseless :=
  ⟨isCaseless_alpha, isCaseless_of_ascii (by decide)⟩

theorem isCaseless_hyphen : Bcp47.hyphen.IsCaseless := isCaseless_of_ascii (by decide)

theorem isCaseless_privateuse : Bcp47.privateuse.IsCaseless :=
  ⟨isCaseless_of_ascii (by decide), isCaseless_hyphen, isCaseless_alphanum⟩

theorem isCaseless_language : Bcp47.language.IsCaseless :=
  ⟨⟨isCaseless_alpha, isCaseless_hyphen, isCaseless_alpha, isCaseless_hyphen, isCaseless_alpha⟩,
    isCaseless_alpha, isCaseless_alpha⟩

theorem isCaseless_langtag : Bcp47.langtag.IsCaseless := by
  have hdigit : Bcp47.digit.IsCaseless := isCaseless_of_ascii (by decide)
  have hvariant : Bcp47.variant.IsCaseless :=
    ⟨isCaseless_alphanum, hdigit, isCaseless_alphanum⟩
  have hextension : Bcp47.extension.IsCaseless :=
    ⟨isCaseless_of_ascii (by decide), isCaseless_hyphen, isCaseless_alphanum⟩
  have hafterRegion : Bcp47.afterRegion.IsCaseless :=
    ⟨⟨isCaseless_hyphen, hvariant⟩, ⟨isCaseless_hyphen, hextension⟩,
      isCaseless_hyphen, isCaseless_privateuse⟩
  exact ⟨isCaseless_language, ⟨isCaseless_hyphen, isCaseless_alpha⟩,
    ⟨isCaseless_hyphen, isCaseless_alpha, hdigit⟩, hafterRegion⟩

/-- A text is a language tag if and only if the grammar derives it, as a tag that names a language
or as a private one. So two texts that differ in the case of letters are both tags or neither is;
and there is no other case to think of, as a tag holds characters of ASCII only. -/
theorem isTag_iff_derives (s : List Char) :
    (isTag s = true ↔ Derives Bcp47.langtag s ∨ Derives Bcp47.privateuse s) ∧
      (∀ t, t.map Char.toLower = s.map Char.toLower → isTag t = isTag s) ∧
      (isTag s = true → ∀ c ∈ s, c.toNat < 128) := by
  have hrecased : ∀ {s t : List Char}, t.map Char.toLower = s.map Char.toLower →
      isTag s = true → isTag t = true := by
    intro s t ht hs
    rw [isTag_iff] at hs ⊢
    exact hs.imp (·.recased isCaseless_langtag ht) (·.recased isCaseless_privateuse ht)
  refine ⟨isTag_iff, ?_, ?_⟩
  · intro t ht
    rw [Bool.eq_iff_iff]
    exact ⟨hrecased ht.symm, hrecased ht⟩
  · intro hs c hc
    rcases @mem_pieces_of_mem (· == '-') s c hc with hhyphen | ⟨t, ht, hmem⟩
    · rw [beq_iff_eq] at hhyphen
      subst hhyphen
      decide
    · exact toNat_lt_of_isAsciiAlphanumeric ((isSubtag_of_isTag hs t ht).alphanumeric c hmem)

/-- A tag with all of its parts is derived, and is a tag in another case as well. With a long s in
its script it is none. -/
theorem isTag_iff_derives_chinese :
    let tag := "zh-cmn-Hans-CN-1994-u-co-pinyin-x-a".toList
    let other := "ZH-CMN-hANS-cn-1994-U-CO-PINYIN-X-A".toList
    let long := "zh-cmn-Hanſ-CN-1994-u-co-pinyin-x-a".toList
    other.map Char.toLower = tag.map Char.toLower ∧
      (Derives Bcp47.langtag tag ∨ Derives Bcp47.privateuse tag) ∧ isTag other = true ∧
      isTag long = false := by
  intro tag other long
  have htag : isTag tag = true := by decide +kernel
  have hother : other.map Char.toLower = tag.map Char.toLower := by decide +kernel
  have hmem : 'ſ' ∈ long := by decide +kernel
  obtain ⟨hiff, hcase, -⟩ := isTag_iff_derives tag
  refine ⟨hother, hiff.mp htag, ?_, ?_⟩
  · rw [hcase other hother, htag]
  · rw [Bool.eq_false_iff]
    intro hlong
    exact absurd ((isTag_iff_derives long).2.2 hlong 'ſ' hmem) (by decide)

end Crosswalk.Field.Language
