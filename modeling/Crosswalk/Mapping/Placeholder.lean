import Crosswalk.Text.Basic

/-!
The places of a pattern where values are put in.

An expression stands between two opening and two closing braces: the shortest text there that is
not empty and stays on its line. What is left when the expressions are taken out may hold
placeholders, each a name in single braces.
-/

namespace Crosswalk.Mapping

/-- The brace that opens an expression or a placeholder. -/
def openBrace : Char := '\x7b'

/-- The brace that closes an expression or a placeholder. -/
def closeBrace : Char := '\x7d'

def isBrace (c : Char) : Bool := c == openBrace || c == closeBrace

/-- The inside of an expression after its opening braces, and what follows its closing braces. -/
def expressionBody? : List Char → Option (List Char × List Char)
  | [] => none
  | c :: rest =>
    if c == '\n' then none
    else
      match rest with
      | '\x7d' :: '\x7d' :: after => some ([c], after)
      | _ => (expressionBody? rest).map fun (body, after) => (c :: body, after)

theorem expressionBody?_length {s body after : List Char}
    (h : expressionBody? s = some (body, after)) : after.length < s.length := by
  fun_induction expressionBody? s generalizing body with
  | case1 => simp at h
  | case2 => simp at h
  | case3 c after' _ =>
    simp only [Option.some.injEq, Prod.mk.injEq] at h
    obtain ⟨_, rfl⟩ := h
    simp only [List.length_cons]; omega
  | case4 c rest _ _ ih =>
    simp only [Option.map_eq_some_iff, Prod.mk.injEq, Prod.exists] at h
    obtain ⟨u, v, huv, _, rfl⟩ := h
    have := ih huv
    simp only [List.length_cons]; omega

/-- An expression by its inside, or a character that belongs to none. -/
inductive Piece where
  | expression (body : List Char)
  | char (c : Char)
deriving DecidableEq

/-- Splits a pattern into its expressions and the characters between them. -/
def piecesOf (s : List Char) : List Piece :=
  match s with
  | [] => []
  | '\x7b' :: '\x7b' :: rest =>
    match h : expressionBody? rest with
    | some (body, after) =>
      have := expressionBody?_length h
      .expression body :: piecesOf after
    | none => .char '\x7b' :: piecesOf ('\x7b' :: rest)
  | c :: rest => .char c :: piecesOf rest
termination_by s.length

def expressionBodies (s : List Char) : List (List Char) :=
  (piecesOf s).filterMap fun piece =>
    match piece with
    | .expression body => some body
    | .char _ => none

def withoutExpressions (s : List Char) : List Char :=
  (piecesOf s).filterMap fun piece =>
    match piece with
    | .expression _ => none
    | .char c => some c

/-- The name of a placeholder after its opening brace, and what follows its closing brace. -/
def placeholderName? (s : List Char) : Option (List Char × List Char) :=
  match s with
  | [] => none
  | c :: rest =>
    if isBrace c || Text.isBlank c then none
    else
      match rest.dropWhile fun c => !isBrace c with
      | '\x7d' :: after => some (c :: rest.takeWhile (fun c => !isBrace c), after)
      | _ => none

theorem placeholderName?_length {s name after : List Char}
    (h : placeholderName? s = some (name, after)) : after.length < s.length := by
  unfold placeholderName? at h
  split at h
  · simp at h
  · rename_i c rest
    split at h
    · simp at h
    · split at h
      · rename_i heq
        simp only [Option.some.injEq, Prod.mk.injEq] at h
        obtain ⟨_, rfl⟩ := h
        have hle := (List.dropWhile_sublist (l := rest) fun c => !isBrace c).length_le
        rw [heq] at hle
        simp only [List.length_cons] at hle ⊢
        omega
      · simp at h

/-- The names of the placeholders of a text without expressions, from left to right. -/
def placeholderNames (s : List Char) : List (List Char) :=
  match s with
  | [] => []
  | '\x7b' :: rest =>
    match h : placeholderName? rest with
    | some (name, after) =>
      have := placeholderName?_length h
      name :: placeholderNames after
    | none => placeholderNames rest
  | _ :: rest => placeholderNames rest
termination_by s.length

def placeholderText (name : List Char) : String :=
  String.ofList (openBrace :: name ++ [closeBrace])

def expressionText (body : List Char) : String :=
  String.ofList (openBrace :: openBrace :: body ++ [closeBrace, closeBrace])

end Crosswalk.Mapping
