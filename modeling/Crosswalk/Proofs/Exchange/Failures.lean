import Crosswalk.Exchange.Calls
import Crosswalk.Proofs.Exchange.Groups

/-!
Replies and their causes.

A call for the values of a document takes its request and its document through one check after the
other, and the first that fails is named in the reply. The text of a failure carries the words of
the JSON reader, which name an unknown format as it stands; nothing else that a caller writes gets
into them. So the one cause that a reply cannot name is such a format whose name holds U+0000. What
is extracted is written without U+0000, whatever the texts hold that it is made of.
-/

namespace Crosswalk.Exchange

open Extraction Mapping

/-- What the words of a JSON reader hold of the text that it cannot read. -/
structure Wording.IsFaithful (w : Wording) : Prop where
  /-- The name of an unknown format stands in them as it is. -/
  quotes : ∀ text name, Request.read? text = none → Request.unknownFormat? text = some name →
    name.toList <:+: (w.request text).toList
  /-- No U+0000 gets into them but with that name. -/
  request : ∀ text, Request.read? text = none → '\x00' ∈ (w.request text).toList →
    ∃ name, Request.unknownFormat? text = some name ∧ '\x00' ∈ name.toList
  /-- They do not tell what stands in a document. -/
  source : ∀ text, Json.parse? text = none → '\x00' ∉ (w.source text).toList

/-- That a reply has one of its texts, which is the given one: a JSON text, or that of a failure. -/
def Reply.Gives (r : Reply) : Except String String → Prop
  | .ok json => r.json.map EndedText.text = some json ∧ r.error = none
  | .error message => r.json = none ∧ r.error.map EndedText.text = some message

namespace Request

def extractor (r : Request) : Extractor := ⟨r.registry, some r.catalog, none, false⟩

def rules (r : Request) : List Rule := parseRules r.mapping

/-- The document that a text is for a request. Every text is an XML document. -/
inductive Opens (r : Request) (text : String) : Document → Prop
  | json {j : Json} (hformat : r.format = .json) (h : Json.parse? text = some j) :
      Opens r text (.json j)
  | xml (hformat : r.format = .xml) : Opens r text (.ofXml text)

end Request

/-- The texts that a call is given: a document, and a request up to its zero byte. -/
structure Given (source request : Option (List UInt8)) (text requestText : String) : Prop where
  source : decode? (source.getD []) = some text
  request : ∃ bytes, request = some bytes ∧ decode? (bytes.takeWhile (· ≠ 0)) = some requestText

/-- The first thing wrong with a call is its request, and there it is an unknown format whose name
holds U+0000. -/
def HidesFormat (source request : Option (List UInt8)) : Prop :=
  ∃ text requestText name, Given source request text requestText ∧
    Request.read? requestText = none ∧ Request.unknownFormat? requestText = some name ∧
    '\x00' ∈ name.toList

/-- What a call for the values of a document comes to, check by check. -/
inductive Extracts (w : Wording) (source request : Option (List UInt8)) :
    Except String String → Prop
  | invalidText (h : decode? (source.getD []) = none) :
      Extracts w source request (.error "Invalid UTF-8 in input")
  | noRequest {text : String} (htext : decode? (source.getD []) = some text)
      (h : request = none) : Extracts w source request (.error "Request JSON is null")
  | invalidRequest {text : String} {bytes : List UInt8}
      (htext : decode? (source.getD []) = some text) (hrequest : request = some bytes)
      (h : decode? (bytes.takeWhile (· ≠ 0)) = none) :
      Extracts w source request (.error "Invalid UTF-8 in request JSON")
  | unreadableRequest {text requestText : String} (hgiven : Given source request text requestText)
      (h : Request.read? requestText = none)
      (hname : ∀ name ∈ Request.unknownFormat? requestText, '\x00' ∉ name.toList) :
      Extracts w source request
        (.error ("Failed to parse request JSON: " ++ w.request requestText))
  | hiddenFormat (h : HidesFormat source request) :
      Extracts w source request (.error "Unknown error")
  | unreadableSource {text requestText : String} {r : Request}
      (hgiven : Given source request text requestText) (hread : Request.read? requestText = some r)
      (hformat : r.format = .json) (h : Json.parse? text = none) :
      Extracts w source request (.error ("Failed to parse source JSON: " ++ w.source text))
  | single {text requestText : String} {r : Request} {d : Document}
      (hgiven : Given source request text requestText) (hread : Request.read? requestText = some r)
      (hdocument : r.Opens text d) (hlist : r.isList = false) :
      Extracts w source request (.ok (extract r.extractor d r.rules).toJson.toText)
  | list {text requestText : String} {r : Request} {d : Document}
      (hgiven : Given source request text requestText) (hread : Request.read? requestText = some r)
      (hdocument : r.Opens text d) (hlist : r.isList = true) :
      Extracts w source request
        (.ok (Json.array ((extractList r.extractor d r.rules).map Result.toJson)).toText)

variable {w : Wording} {source request : Option (List UInt8)} {text requestText : String}

/-! ### Texts that are handed over -/

theorem gives_failed {message : String} (h : '\x00' ∉ message.toList) :
    (Reply.failed message).Gives (.error message) := by
  simp [Reply.failed, Reply.Gives, EndedText.of?, h]

theorem Failure.zero_not_mem_message (f : Failure) : '\x00' ∉ f.message.toList := by
  cases f <;> decide

theorem gives_failed_message (f : Failure) : (Reply.failed f.message).Gives (.error f.message) :=
  gives_failed f.zero_not_mem_message

theorem gives_failed_unknown {message : String} (h : '\x00' ∈ message.toList) :
    (Reply.failed message).Gives (.error "Unknown error") := by
  simp [Reply.failed, Reply.Gives, EndedText.of?, h, EndedText.unknown, Failure.message]

theorem gives_done (j : Json) : (Reply.done j.toText).Gives (.ok j.toText) := by
  simp [Reply.done, Reply.Gives, EndedText.of?, j.zero_not_mem_toText]

/-- A reply has one text only. -/
theorem Reply.Gives.unique {r : Reply} {one two : Except String String} (hone : r.Gives one)
    (htwo : r.Gives two) : one = two := by
  cases one with
  | ok json =>
    cases two with
    | ok other => exact congrArg Except.ok (Option.some.inj (hone.1.symm.trans htwo.1))
    | error message =>
      rw [Reply.Gives, hone.2] at htwo
      cases htwo.2
  | error message =>
    cases two with
    | ok json =>
      rw [Reply.Gives, hone.1] at htwo
      cases htwo.1
    | error other => exact congrArg Except.error (Option.some.inj (hone.2.symm.trans htwo.2))

/-! ### Words of the reader -/

theorem Wording.IsFaithful.zero_mem_iff (hw : w.IsFaithful)
    (hread : Request.read? requestText = none) :
    '\x00' ∈ (w.request requestText).toList ↔
      ∃ name ∈ Request.unknownFormat? requestText, '\x00' ∈ name.toList := by
  constructor
  · exact hw.request _ hread
  · rintro ⟨name, hname, hzero⟩
    exact (hw.quotes _ _ hread hname).subset hzero

/-- A request hides its format if its words hold U+0000. -/
theorem Wording.IsFaithful.failureOf_eq (hw : w.IsFaithful)
    (hread : Request.read? requestText = none) : Request.failureOf requestText =
      if '\x00' ∈ (w.request requestText).toList then .unknown else .unreadableRequest := by
  rw [Request.failureOf]
  refine if_congr ?_ rfl rfl
  simp [Option.any_eq_true, hw.zero_mem_iff hread]

theorem gives_failed_append {front words : String} (hfront : '\x00' ∉ front.toList)
    (hwords : '\x00' ∉ words.toList) :
    (Reply.failed (front ++ words)).Gives (.error (front ++ words)) := by
  refine gives_failed ?_
  rw [String.toList_append, List.mem_append]
  exact not_or.mpr ⟨hfront, hwords⟩

theorem gives_failed_append_unknown {front words : String} (hwords : '\x00' ∈ words.toList) :
    (Reply.failed (front ++ words)).Gives (.error "Unknown error") := by
  refine gives_failed_unknown ?_
  rw [String.toList_append, List.mem_append]
  exact .inr hwords

/-! ### The checks -/

theorem readText_of_decode? (h : decode? (source.getD []) = some text) :
    readText source = .ok text := by
  rw [readText, h]

theorem Given.readText_eq (h : Given source request text requestText) :
    readText source = .ok text := readText_of_decode? h.source

theorem Given.readRequest_eq (h : Given source request text requestText) :
    readRequest request = .ok requestText := by
  obtain ⟨bytes, rfl, hdecode⟩ := h.request
  simp only [readRequest, hdecode]

theorem gives_of_readText {f : Failure} (h : readText source = .error f) :
    (extractReply w source request).Gives (.error f.message) := by
  rw [extractReply, h]
  exact gives_failed_message f

theorem gives_of_readRequest {f : Failure} (htext : readText source = .ok text)
    (h : readRequest request = .error f) :
    (extractReply w source request).Gives (.error f.message) := by
  rw [extractReply, htext, h]
  exact gives_failed_message f

/-- The reply once the texts are given. -/
theorem Given.extractReply_eq (h : Given source request text requestText) :
    extractReply w source request =
      match Request.read? requestText with
      | none => .failed ("Failed to parse request JSON: " ++ w.request requestText)
      | some r =>
        match readDocument r.format text with
        | .error f => .failed (f.message ++ w.source text)
        | .ok document => .done (answer r document).toText := by
  rw [extractReply, h.readText_eq, h.readRequest_eq]
  rfl

theorem Request.Opens.readDocument_eq {r : Request} {d : Document} (h : r.Opens text d) :
    readDocument r.format text = .ok d := by
  cases h with
  | json hformat h => simp only [readDocument, hformat, h]
  | xml hformat => simp only [readDocument, hformat]

theorem extractReply_of_opens {r : Request} {d : Document}
    (hgiven : Given source request text requestText) (hread : Request.read? requestText = some r)
    (hdocument : r.Opens text d) :
    extractReply w source request = .done (answer r d).toText := by
  rw [hgiven.extractReply_eq, hread]
  simp only [hdocument.readDocument_eq]

/-- Every reply is the one that its cause has. -/
theorem Extracts.gives (hw : w.IsFaithful) {outcome : Except String String}
    (h : Extracts w source request outcome) : (extractReply w source request).Gives outcome := by
  cases h with
  | invalidText h =>
    have htext : readText source = .error .invalidText := by rw [readText, h]
    exact gives_of_readText htext
  | noRequest htext h =>
    have hrequest : readRequest request = .error .noRequest := by rw [h, readRequest]
    exact gives_of_readRequest (readText_of_decode? htext) hrequest
  | invalidRequest htext hrequest h =>
    have hrequest : readRequest request = .error .invalidRequest := by
      simp only [readRequest, hrequest, h]
    exact gives_of_readRequest (readText_of_decode? htext) hrequest
  | unreadableRequest hgiven h hname =>
    rw [hgiven.extractReply_eq, h]
    refine gives_failed_append (by decide) ?_
    rw [hw.zero_mem_iff h]
    rintro ⟨name, hunknown, hzero⟩
    exact hname name hunknown hzero
  | hiddenFormat h =>
    obtain ⟨text, requestText, name, hgiven, h, hname, hzero⟩ := h
    rw [hgiven.extractReply_eq, h]
    exact gives_failed_append_unknown ((hw.zero_mem_iff h).mpr ⟨name, hname, hzero⟩)
  | unreadableSource hgiven hread hformat h =>
    rw [hgiven.extractReply_eq, hread]
    simp only [readDocument, hformat, h]
    exact gives_failed_append (by decide) (hw.source _ h)
  | single hgiven hread hdocument hlist =>
    rw [extractReply_of_opens hgiven hread hdocument, answer, hlist]
    exact gives_done _
  | list hgiven hread hdocument hlist =>
    rw [extractReply_of_opens hgiven hread hdocument, answer, hlist]
    exact gives_done _

/-- One check fails, or none does. -/
theorem exists_extracts (w : Wording) (source request : Option (List UInt8)) :
    ∃ outcome, Extracts w source request outcome := by
  cases htext : decode? (source.getD []) with
  | none => exact ⟨_, .invalidText htext⟩
  | some text =>
    cases request with
    | none => exact ⟨_, .noRequest htext rfl⟩
    | some bytes =>
      cases hrequest : decode? (bytes.takeWhile (· ≠ 0)) with
      | none => exact ⟨_, .invalidRequest htext rfl hrequest⟩
      | some requestText =>
        have hgiven : Given source (some bytes) text requestText := ⟨htext, bytes, rfl, hrequest⟩
        cases hread : Request.read? requestText with
        | none =>
          by_cases hhidden : ∃ name ∈ Request.unknownFormat? requestText, '\x00' ∈ name.toList
          · obtain ⟨name, hname, hzero⟩ := hhidden
            exact ⟨_, .hiddenFormat ⟨_, _, name, hgiven, hread, hname, hzero⟩⟩
          · have htold : ∀ name ∈ Request.unknownFormat? requestText, '\x00' ∉ name.toList :=
              fun name hname hzero => hhidden ⟨name, hname, hzero⟩
            exact ⟨_, .unreadableRequest hgiven hread htold⟩
        | some r =>
          have hopened : ∀ d, r.Opens text d → ∃ outcome,
              Extracts w source (some bytes) outcome := by
            intro d hdocument
            cases hlist : r.isList with
            | false => exact ⟨_, .single hgiven hread hdocument hlist⟩
            | true => exact ⟨_, .list hgiven hread hdocument hlist⟩
          cases hformat : r.format with
          | xml => exact hopened _ (.xml hformat)
          | json =>
            cases hsource : Json.parse? text with
            | none => exact ⟨_, .unreadableSource hgiven hread hformat hsource⟩
            | some j => exact hopened _ (.json hformat hsource)

theorem parse?_eq_none_of_readDocument {format : Format} {f : Failure}
    (h : readDocument format text = .error f) : Json.parse? text = none := by
  cases format with
  | xml => cases h
  | json =>
    cases hsource : Json.parse? text with
    | none => rfl
    | some j =>
      rw [readDocument, hsource] at h
      cases h

/-- Without the words of the reader: a call gives the values that are extracted, or the text of the
failure and what else is told of it. -/
theorem extractReply_gives_extractValues (hw : w.IsFaithful)
    (source request : Option (List UInt8)) :
    match extractValues source request with
    | .ok json => (extractReply w source request).Gives (.ok json)
    | .error f =>
      ∃ details, (extractReply w source request).Gives (.error (f.message ++ details)) := by
  have hplain : ∀ f : Failure,
      ∃ details, (Reply.failed f.message).Gives (.error (f.message ++ details)) :=
    fun f => ⟨"", by simpa using gives_failed_message f⟩
  rw [extractValues, extractReply]
  cases readText source with
  | error f => exact hplain f
  | ok text =>
    cases readRequest request with
    | error f => exact hplain f
    | ok requestText =>
      simp only [bind, Except.bind, Request.read]
      cases hread : Request.read? requestText with
      | none =>
        by_cases hzero : '\x00' ∈ (w.request requestText).toList
        · rw [hw.failureOf_eq hread, if_pos hzero]
          exact ⟨"", gives_failed_append_unknown hzero⟩
        · rw [hw.failureOf_eq hread, if_neg hzero]
          exact ⟨_, gives_failed_append (Failure.zero_not_mem_message _) hzero⟩
      | some r =>
        cases hdocument : readDocument r.format text with
        | error f =>
          simp only [hdocument]
          exact ⟨_, gives_failed_append f.zero_not_mem_message
            (hw.source _ (parse?_eq_none_of_readDocument hdocument))⟩
        | ok d =>
          simp only [hdocument]
          exact gives_done _

theorem Extracts.message_cases {message : String}
    (h : Extracts w source request (.error message)) :
    HidesFormat source request ∧ message = "Unknown error" ∨
      message ∈ ["Invalid UTF-8 in input", "Request JSON is null",
        "Invalid UTF-8 in request JSON"] ∨
      "Failed to parse ".toList <+: message.toList := by
  have hfront : ∀ {front : String} (rest : String), "Failed to parse ".toList <+: front.toList →
      "Failed to parse ".toList <+: (front ++ rest).toList := by
    intro front rest h
    rw [String.toList_append]
    exact h.trans (List.prefix_append _ _)
  cases h with
  | hiddenFormat h => exact .inl ⟨h, rfl⟩
  | invalidText | noRequest | invalidRequest => exact .inr (.inl (by decide))
  | unreadableRequest | unreadableSource => exact .inr (.inr (hfront _ (by decide)))

/-! ### A wording -/

theorem given_encode (text requestText : String) (h : '\x00' ∉ requestText.toList)
    (beyond : List UInt8) :
    Given (some (encode text)) (some (encode requestText ++ 0 :: beyond)) text requestText where
  source := decode?_encode text
  request := ⟨_, rfl, by rw [takeWhile_encode (zero_not_mem_encode h) (by simp), decode?_encode]⟩

/-- The words for a request with an unknown format or without a mapping, and for a document whose
first name is no text, with the places that these have in the short texts below. -/
def plainWording : Wording where
  request text :=
    match Request.unknownFormat? text with
    | some name => "unknown variant `" ++ name ++ "`, expected `json` or `xml` at line 1 column 31"
    | none => "missing field `mapping` at line 1 column 2"
  source _ := "key must be a string at line 1 column 2"

theorem isFaithful_plainWording : plainWording.IsFaithful where
  quotes text name _ hname := by
    simp only [plainWording, hname, String.toList_append]
    exact List.infix_append _ _ _
  request text _ hzero := by
    simp only [plainWording] at hzero
    split at hzero
    · rename_i name hname
      simp only [String.toList_append, List.mem_append] at hzero
      rcases hzero with (hfront | hmem) | hback
      · exact absurd hfront (by decide)
      · exact ⟨name, hname, hmem⟩
      · exact absurd hback (by decide)
    · exact absurd hzero (by decide)
  source text _ := by
    simp only [plainWording]
    decide

/-! ### Replies -/

/-- A call for the values of a document hands over one of two texts: the one that belongs to its
first check that fails, or the values if none fails. The cause is missing in one case only, when
the first thing wrong is an unknown format whose name holds U+0000. -/
theorem extractReply_gives_iff (hw : w.IsFaithful) (source request : Option (List UInt8)) :
    let reply := extractReply w source request
    (∃! outcome, reply.Gives outcome) ∧
      (∀ outcome, reply.Gives outcome ↔ Extracts w source request outcome) ∧
      (reply.Gives (.error "Unknown error") ↔ HidesFormat source request) ∧
      ¬ reply.Gives (.error "Result JSON contains null bytes") := by
  intro reply
  obtain ⟨outcome, hextracts⟩ := exists_extracts w source request
  have hgives : reply.Gives outcome := hextracts.gives hw
  have hiff : ∀ other, reply.Gives other ↔ Extracts w source request other := by
    intro other
    constructor
    · intro hother
      rwa [hother.unique hgives]
    · exact Extracts.gives hw
  refine ⟨⟨outcome, hgives, fun other hother => hother.unique hgives⟩, hiff, ?_, ?_⟩
  · rw [hiff]
    constructor
    · intro h
      rcases h.message_cases with ⟨hhides, -⟩ | hfixed | hfront
      · exact hhides
      · exact absurd hfixed (by decide)
      · exact absurd hfront (by decide)
    · exact .hiddenFormat
  · rw [hiff]
    intro h
    rcases h.message_cases with ⟨-, hunknown⟩ | hfixed | hfront
    · exact absurd hunknown (by decide)
    · exact absurd hfixed (by decide)
    · exact absurd hfront (by decide)

/-- A request for the values of a document that is not JSON is told so in the reader's words. -/
theorem extractReply_gives_iff_unreadable :
    plainWording.IsFaithful ∧
      (extractReply plainWording (some (encode "\x7bnot json"))
          (some (encode "\x7b\"mapping\":\"\"\x7d" ++ [0]))).Gives
        (.error "Failed to parse source JSON: key must be a string at line 1 column 2") := by
  refine ⟨isFaithful_plainWording, ?_⟩
  rw [(extractReply_gives_iff isFaithful_plainWording _ _).2.1]
  have hgiven := given_encode "\x7bnot json" "\x7b\"mapping\":\"\"\x7d" (by decide) []
  have hread : Request.read? "\x7b\"mapping\":\"\"\x7d" =
      some ⟨"", .json, false, Table.empty, Table.empty⟩ := by
    decide +kernel
  have hsource : (Json.parse? "\x7bnot json").isNone = true := by decide +kernel
  exact .unreadableSource hgiven hread rfl (Option.isNone_iff_eq_none.mp hsource)

/-- A request for a format whose name is U+0000 cannot be read, but this is not what its reply
tells. -/
theorem extractReply_hides_format :
    let requestText := "\x7b\"mapping\":\"\",\"format\":\"\\u0000\"\x7d"
    let reply :=
      extractReply plainWording (some (encode "\x7b\x7d")) (some (encode requestText ++ [0]))
    plainWording.IsFaithful ∧ Request.read? requestText = none ∧
      reply.Gives (.error "Unknown error") ∧
      ¬ ∃ details, reply.Gives (.error ("Failed to parse request JSON: " ++ details)) := by
  intro requestText reply
  have hread : Request.read? requestText = none := by decide +kernel
  have hname : Request.unknownFormat? requestText = some "\x00" := by decide +kernel
  have hgiven := given_encode "\x7b\x7d" requestText (by decide +kernel) []
  have hunknown : reply.Gives (.error "Unknown error") :=
    Extracts.gives isFaithful_plainWording
      (.hiddenFormat ⟨_, _, _, hgiven, hread, hname, by decide⟩)
  refine ⟨isFaithful_plainWording, hread, hunknown, ?_⟩
  rintro ⟨details, hdetails⟩
  have hsame := Except.error.inj (hunknown.unique hdetails)
  have hfront : "Failed to parse request JSON: ".toList <+: "Unknown error".toList := by
    rw [hsame, String.toList_append]
    exact List.prefix_append _ _
  exact absurd hfront (by decide)

end Crosswalk.Exchange
