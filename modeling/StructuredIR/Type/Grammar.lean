import StructuredIR.Number.Digits
import StructuredIR.Type.Basic

/-! # The grammar of type texts

A type text is a sequence of tokens with any blanks between them. A type is a word, an array, a
vector or a structure, followed by any number of stars. Reading a text gives the one type it
spells; function types cannot be spelled. -/

namespace StructuredIR

/-! ## Tokens -/

/-- The tokens of type texts. -/
inductive TypeToken where
  /-- A type that is written as one word. -/
  | word (type : IRType)
  /-- The size of an array or vector. -/
  | size (number : Nat)
  /-- The `x` between a size and an element type. -/
  | times
  /-- The star of a pointer. -/
  | star
  /-- A comma between fields. -/
  | comma
  /-- The opening of an array. -/
  | openArray
  /-- The end of an array. -/
  | closeArray
  /-- The opening of a vector. -/
  | openVector
  /-- The end of a vector. -/
  | closeVector
  /-- The opening of a structure. -/
  | openStruct
  /-- The end of a structure. -/
  | closeStruct
  deriving DecidableEq, Repr

namespace TypeToken

/-- Whether a character may stand between two tokens. -/
def isBlank (char : Char) : Bool :=
  char == ' ' || char == '\t' || char == '\x0c' || char == '\r' || char == '\n'

/-- The token of a single character. -/
def ofChar? : Char → Option TypeToken
  | '*' => some .star
  | ',' => some .comma
  | '[' => some .openArray
  | ']' => some .closeArray
  | '<' => some .openVector
  | '>' => some .closeVector
  | '\x7b' => some .openStruct
  | '\x7d' => some .closeStruct
  | 'x' => some .times
  | _ => none

/-- The first token of a text that does not begin with a blank, and what follows it. -/
def first? : List Char → Option (TypeToken × List Char)
  | 'v' :: 'o' :: 'i' :: 'd' :: rest => some (.word .void, rest)
  | 'h' :: 'a' :: 'l' :: 'f' :: rest => some (.word .half, rest)
  | 'f' :: 'l' :: 'o' :: 'a' :: 't' :: rest => some (.word .float, rest)
  | 'd' :: 'o' :: 'u' :: 'b' :: 'l' :: 'e' :: rest => some (.word .double, rest)
  | 'i' :: digit :: rest =>
      if digit.isDigit && digit != '0' then
        some (.word (.int (Number.ofDigits (digit :: rest.takeWhile Char.isDigit))),
          rest.dropWhile Char.isDigit)
      else none
  | char :: rest =>
      if char.isDigit then
        some (.size (Number.ofDigits (char :: rest.takeWhile Char.isDigit)),
          rest.dropWhile Char.isDigit)
      else (ofChar? char).map (·, rest)
  | [] => none

/-- What follows a token is shorter than the text. -/
theorem length_lt_of_first? {text rest : List Char} {token : TypeToken}
    (found : first? text = some (token, rest)) : rest.length < text.length := by
  have drop_le : ∀ chars : List Char, (chars.dropWhile Char.isDigit).length ≤ chars.length :=
    fun chars => (List.dropWhile_sublist Char.isDigit).length_le
  unfold first? at found
  split at found
  case h_1 | h_2 | h_3 | h_4 =>
    simp only [Option.some.injEq, Prod.mk.injEq] at found
    simp only [← found.2, List.length_cons]
    omega
  case h_5 =>
    rename_i digit tail
    split at found
    · simp only [Option.some.injEq, Prod.mk.injEq] at found
      have := drop_le tail
      simp only [← found.2, List.length_cons]
      omega
    · simp at found
  case h_6 =>
    rename_i tail _ _ _ _ _
    split at found
    · simp only [Option.some.injEq, Prod.mk.injEq] at found
      have := drop_le tail
      simp only [← found.2, List.length_cons]
      omega
    · simp only [Option.map_eq_some_iff, Prod.mk.injEq] at found
      obtain ⟨_, _, _, rfl⟩ := found
      simp
  case h_7 => simp at found

/-- The tokens of a text; none if some part of it is no token. -/
def tokenize? (text : List Char) : Option (List TypeToken) :=
  match text with
  | [] => some []
  | char :: rest =>
      if isBlank char then tokenize? rest
      else
        match _found : first? (char :: rest) with
        | none => none
        | some (token, following) => (tokenize? following).map (token :: ·)
termination_by text.length
decreasing_by
  · simp
  · exact length_lt_of_first? _found

end TypeToken

/-! ## Types -/

namespace IRType

/-- A type with a pointer around it for each star at the head of the tokens. -/
def takeStars (type : IRType) : List TypeToken → IRType × List TypeToken
  | .star :: rest => takeStars (.pointer type) rest
  | rest => (type, rest)

mutual

/-- The type at the head of the tokens; `depth` bounds the nesting. -/
def ofTokens? : (depth : Nat) → List TypeToken → Option (IRType × List TypeToken)
  | 0, _ => none
  | depth + 1, tokens =>
      match tokens with
      | .word type :: rest => some (takeStars type rest)
      | .openArray :: .size size :: .times :: rest =>
          match ofTokens? depth rest with
          | some (element, .closeArray :: rest) => some (takeStars (.array size element) rest)
          | _ => none
      | .openVector :: .size size :: .times :: rest =>
          match ofTokens? depth rest with
          | some (element, .closeVector :: rest) => some (takeStars (.vector size element) rest)
          | _ => none
      | .openStruct :: .closeStruct :: rest => some (takeStars (.struct []) rest)
      | .openStruct :: rest =>
          match fieldsOfTokens? depth rest with
          | some (fields, rest) => some (takeStars (.struct fields) rest)
          | none => none
      | _ => none

/-- The fields up to the end of a structure; `depth` bounds their number and nesting. -/
def fieldsOfTokens? : (depth : Nat) → List TypeToken → Option (List IRType × List TypeToken)
  | 0, _ => none
  | depth + 1, tokens =>
      match ofTokens? depth tokens with
      | some (field, .closeStruct :: rest) => some ([field], rest)
      | some (field, .comma :: rest) =>
          match fieldsOfTokens? depth rest with
          | some (fields, rest) => some (field :: fields, rest)
          | none => none
      | _ => none

end

/-- The type that a text spells; none if it is no sentence of the grammar. -/
def ofText? (text : String) : Option IRType :=
  match TypeToken.tokenize? text.toList with
  | none => none
  | some tokens =>
      match ofTokens? (2 * tokens.length + 2) tokens with
      | some (type, []) => some type
      | _ => none

end IRType

end StructuredIR
