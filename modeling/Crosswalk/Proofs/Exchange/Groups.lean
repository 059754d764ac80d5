import Mathlib.Data.List.Basic
import Crosswalk.Exchange.Calls
import Crosswalk.Proofs.Json.Printed
import Crosswalk.Proofs.Mapping.JsonForm
import Crosswalk.Proofs.Text.Utf8

/-!
Groups that are exchanged as bytes.

One call gives the groups of a mapping text as JSON text, another takes groups as JSON text and
writes them as a mapping text. A JSON text holds no control character, so there is no zero among its
bytes, and the second call takes all of what the first one gives. The groups that it reads there are
those of the mapping text.
-/

namespace Crosswalk.Exchange

open Mapping

/-- The bytes of a text. -/
def encode (s : String) : List UInt8 := s.toUTF8.data.toList

theorem decode?_encode (s : String) : decode? (encode s) = some s := by
  have hbytes : (⟨(encode s).toArray⟩ : ByteArray) = s.toByteArray := by
    rw [encode, Array.toArray_toList]
    rfl
  rw [decode?, hbytes, String.fromUTF8?, dif_pos s.isValidUTF8]
  rfl

theorem encode_eq_flatMap (s : String) : encode s = s.toList.flatMap String.utf8EncodeChar :=
  Text.toUTF8_eq_flatMap s

/-- Only U+0000 is encoded with a zero byte. -/
theorem zero_not_mem_utf8EncodeChar {c : Char} (h : c ≠ '\x00') : 0 ∉ String.utf8EncodeChar c := by
  intro hzero
  exact h (Char.ext (UInt32.toNat_inj.mp (Text.toNat_of_mem_utf8EncodeChar (by decide) hzero)))

theorem zero_not_mem_encode {s : String} (h : '\x00' ∉ s.toList) : 0 ∉ encode s := by
  rw [encode_eq_flatMap, List.mem_flatMap]
  rintro ⟨c, hc, hzero⟩
  refine zero_not_mem_utf8EncodeChar ?_ hzero
  rintro rfl
  exact h hc

/-- There is no zero among the bytes of the text of a document. -/
theorem zero_not_mem_encode_toText (j : Json) : 0 ∉ encode j.toText :=
  zero_not_mem_encode j.zero_not_mem_toText

/-- A text that comes with its length is read as it is, one with U+0000 included. -/
theorem readText_encode (s : String) : readText (some (encode s)) = .ok s := by
  rw [readText, Option.getD_some, decode?_encode]

/-- The bytes of a text up to its end, or to the zero byte that ends it. -/
theorem takeWhile_encode {s : String} (h : 0 ∉ encode s) {beyond : List UInt8}
    (hend : ∀ b ∈ beyond.head?, b = 0) :
    (encode s ++ beyond).takeWhile (· ≠ 0) = encode s := by
  have hrest : beyond.takeWhile (· ≠ 0) = [] := by
    cases beyond with
    | nil => rfl
    | cons b rest => exact List.takeWhile_cons_of_neg (by simp [hend b rfl])
  rw [List.takeWhile_append_of_pos, hrest, List.append_nil]
  intro b hb
  simpa using fun heq : b = 0 => h (heq ▸ hb)

/-- A request is read up to its end, or to the zero byte that ends it. -/
theorem readRequest_encode {s : String} (h : 0 ∉ encode s) {beyond : List UInt8}
    (hend : ∀ b ∈ beyond.head?, b = 0) : readRequest (some (encode s ++ beyond)) = .ok s := by
  rw [readRequest]
  simp only [takeWhile_encode h hend, decode?_encode]

/-- The JSON form of groups and their mapping text say the same. The call that parses a mapping text
takes any text, and the document that it gives has the groups of the text, in their order and with
all that is in them. The call that writes groups takes this document, ended by a zero byte or not,
and gives the text that these groups are written as. No zero is among the bytes of what the calls
give. -/
theorem exchange_groups (text : String) :
    let groups := parseGroups text
    ∃ json, parseMapping (some (encode text)) = .ok json ∧ 0 ∉ encode json ∧
      (Json.read? json).bind groupsOfJson? = some groups ∧
      ∃ answer, serializeMapping (some (encode json)) = .ok answer ∧
        (∀ beyond, serializeMapping (some (encode json ++ 0 :: beyond)) = .ok answer) ∧
        0 ∉ encode answer ∧ Json.read? answer = some (.text (groupsText groups)) := by
  intro groups
  have hplain : Json.IsPlain Json.nestingLimit (groupsJson groups) :=
    (isPlain_groupsJson groups).mono (by decide)
  have hjson : 0 ∉ encode (groupsJson groups).toText := zero_not_mem_encode_toText _
  have hgroups : (Json.read? (groupsJson groups).toText).bind groupsOfJson? = some groups := by
    rw [Json.read?_toText hplain, Option.bind_some, groupsOfJson?_groupsJson]
  have hserialize : ∀ beyond : List UInt8, (∀ b ∈ beyond.head?, b = 0) →
      serializeMapping (some (encode (groupsJson groups).toText ++ beyond)) =
        .ok (Json.text (groupsText groups)).toText := by
    intro beyond hend
    rw [serializeMapping, readRequest_encode hjson hend]
    simp only [bind, Except.bind, hgroups]
  have htext : Json.IsPlain Json.nestingLimit (.text (groupsText groups)) := .text _
  refine ⟨_, ?_, hjson, hgroups, _, ?_, fun beyond => hserialize _ (by simp),
    zero_not_mem_encode_toText _, Json.read?_toText htext⟩
  · rw [parseMapping, readText_encode]
    rfl
  · have hexact := hserialize [] (by simp)
    rw [List.append_nil] at hexact
    exact hexact

end Crosswalk.Exchange
