import Crosswalk.Json.Reader

/-!
Reading the text of a record.

A record has its fields at the outermost level. The value of a member that is no field is passed
over: it has to be written as JSON, but it may be nested to any depth, and it does not matter what
its texts and numbers stand for. Where the text of a record cannot be read any further, what has
been read by then is still known.
-/

namespace Crosswalk.Json

/-- The token that stands for one in a value that is passed over. -/
def Token.passed : Token → Token
  | .brokenText => .text ""
  | .largeNumber => .scalar .null
  | token => token

/-- Splits tokens behind the value that is being read, which is passed over. -/
def Progress.splitValue? (limit : Nat) (p : Progress) :
    List Token → Option (List Token × List Token)
  | [] => none
  | token :: rest =>
    (p.take limit token.passed).bind fun next =>
      match next.expected with
      | .done _ => some ([token], rest)
      | _ => (next.splitValue? limit rest).map fun (value, after) => (token :: value, after)

/-- Splits tokens behind their first value. -/
def splitValue? (tokens : List Token) : Option (List Token × List Token) :=
  (⟨[], .value⟩ : Progress).splitValue? tokens.length tokens

theorem Progress.splitValue?_length {limit : Nat} {p : Progress} {tokens value after : List Token}
    (h : p.splitValue? limit tokens = some (value, after)) : after.length < tokens.length := by
  induction tokens generalizing p value with
  | nil => cases h
  | cons token rest ih =>
    obtain ⟨next, -, hnext⟩ := Option.bind_eq_some_iff.mp h
    split at hnext
    · cases hnext
      exact Nat.lt_succ_self _
    · obtain ⟨⟨more, behind⟩, hmore, heq⟩ := Option.map_eq_some_iff.mp hnext
      cases heq
      exact Nat.lt_succ_of_lt (ih hmore)

/-- The tokens of members, with null for the value of each that is no field. -/
def passMembers (fields : List String) (tokens : List Token) : List Token :=
  match tokens with
  | .text key :: .colon :: rest =>
    match h : splitValue? rest with
    | some (value, .comma :: more) =>
      have := Progress.splitValue?_length h
      .text key :: .colon :: (if fields.contains key then value else [.scalar .null]) ++
        .comma :: passMembers fields more
    | some (value, after) =>
      .text key :: .colon :: (if fields.contains key then value else [.scalar .null]) ++ after
    | none => tokens
  | _ => tokens
termination_by tokens.length
decreasing_by
  simp only [List.length_cons] at *
  omega

/-- The tokens of a record with the given fields. -/
def recordTokens (fields : List String) (s : String) : List Token :=
  match tokens s.toList with
  | .openObject :: rest => .openObject :: passMembers fields rest
  | tokens => tokens

def readRecord? (fields : List String) (s : String) : Option Json :=
  ofTokens? nestingLimit (recordTokens fields s)

/-! ### Records that cannot be read to their end -/

/-- Where reading stands when a text ends or can be read no further. -/
def Progress.advance (limit : Nat) (p : Progress) : List Token → Progress
  | [] => p
  | token :: rest =>
    match p.take limit token with
    | some next => next.advance limit rest
    | none => p

/-- An array or object that is still open, with the value that is being read in it. A name whose
value has not begun has null. -/
def Frame.close (last : Option Json) : Frame → Json
  | .array items => .array (items.reverse ++ last.toList)
  | .object members key => .object (members.reverse ++ [(key, last.getD .null)])

/-- The innermost value, as far as it has been read. -/
def innermost? : Expected → Option Json
  | .value => none
  | .firstItem => some (.array [])
  | .firstKey => some (.object [])
  | .key members => some (.object members.reverse)
  | .colon members key => some (.object (members.reverse ++ [(key, .null)]))
  | .afterItem items => some (.array items.reverse)
  | .afterMember members => some (.object members.reverse)
  | .done value => some value

/-- The document, as far as it has been read. -/
def Progress.soFar? (p : Progress) : Option Json :=
  p.frames.foldl (fun last frame => some (frame.close last)) (innermost? p.expected)

/-- The record that the readable beginning of a text begins. -/
def readRecordBeginning? (fields : List String) (s : String) : Option Json :=
  ((⟨[], .value⟩ : Progress).advance nestingLimit (recordTokens fields s)).soFar?

end Crosswalk.Json
