import StructuredIR.Proofs.Types.Lexemes

/-! # The sentences of the type grammar

The grammar of types says what is derived, without saying how it is read.

* **`IRType.Derives`** is the grammar: it says that tokens derive a type. The type is all there is of a
  derivation: it has one constructor for each rule.
* **`IRType.IsSentence`** says that a text is a sentence, with its lexemes and with the type that is
  derived. A text is a sentence in one way at most: **`IRType.IsSentence.unique`**.
* **`IRType.ofText?_eq_some_iff`**: what is read from a text is what it derives.
* **`IRType.read_decides`**: a sentence is read as its type unless the type points to nothing or a number
  is too long, and what is no sentence is rejected. -/

namespace StructuredIR

open TypeToken (Lexeme Writes IsSpaced BeginsWithSize HasLongNumber)

namespace IRType

/-! ## The grammar -/

mutual

/-- **The grammar of types**: what some tokens derive. -/
inductive Derives : List TypeToken → IRType → Prop where
  /-- A type that is a word. -/
  | word (type : IRType) : Derives [.word type] type
  /-- A star behind a type. -/
  | pointer {tokens : List TypeToken} {target : IRType} (derives : Derives tokens target) :
      Derives (tokens ++ [.star]) (.pointer target)
  /-- A size and a type between the brackets of an array. -/
  | array {tokens : List TypeToken} {element : IRType} (size : Nat)
      (derives : Derives tokens element) :
      Derives (.openArray :: .size size :: .times :: (tokens ++ [.closeArray])) (.array size element)
  /-- A size and a type between the brackets of a vector. -/
  | vector {tokens : List TypeToken} {element : IRType} (size : Nat)
      (derives : Derives tokens element) :
      Derives (.openVector :: .size size :: .times :: (tokens ++ [.closeVector]))
        (.vector size element)
  /-- Nothing between the brackets of a structure. -/
  | emptyStruct : Derives [.openStruct, .closeStruct] (.struct [])
  /-- Fields between the brackets of a structure. -/
  | struct {tokens : List TypeToken} {fields : List IRType} (derives : DerivesFields tokens fields) :
      Derives (.openStruct :: (tokens ++ [.closeStruct])) (.struct fields)

/-- What some tokens derive as the fields of a structure. -/
inductive DerivesFields : List TypeToken → List IRType → Prop where
  /-- The only field. -/
  | single {tokens : List TypeToken} {field : IRType} (derives : Derives tokens field) :
      DerivesFields tokens [field]
  /-- A field, a comma and more fields. -/
  | more {tokens others : List TypeToken} {field : IRType} {fields : List IRType}
      (derives : Derives tokens field) (rest : DerivesFields others fields) :
      DerivesFields (tokens ++ .comma :: others) (field :: fields)

end

/-! ### Where sizes are -/

/-- A token that is no size does not begin with one. -/
theorem not_beginsWithSize {token : TypeToken} {tokens : List TypeToken}
    (other : ∀ number, token ≠ .size number) : ¬ BeginsWithSize (token :: tokens) := by
  rintro ⟨number, same⟩
  exact other number (Option.some.inj same)

/-- Tokens that are part of a sentence: they are spaced, and neither a size nor the end of a structure
comes first. -/
structure IsPart (tokens : List TypeToken) : Prop where
  /-- Sizes come up behind brackets. -/
  spaced : IsSpaced tokens
  /-- There is a first token. -/
  nonempty : tokens ≠ []
  /-- No size comes first. -/
  apart : ¬ BeginsWithSize tokens
  /-- No structure ends first. -/
  opens : tokens.head? ≠ some .closeStruct

/-- A token by itself that is neither a size nor the end of a structure. -/
theorem IsPart.single {token : TypeToken} (other : ∀ number, token ≠ .size number)
    (opens : token ≠ .closeStruct) : IsPart [token] where
  spaced := ⟨fun _ _ => by simp [BeginsWithSize], trivial⟩
  nonempty := List.cons_ne_nil token []
  apart := not_beginsWithSize other
  opens := fun same => opens (Option.some.inj same)

/-- A part of a sentence with a token behind it that is no size, and with spaced tokens behind that. -/
theorem IsPart.append {tokens others : List TypeToken} {token : TypeToken} (part : IsPart tokens)
    (other : ∀ number, token ≠ .size number) (spaced : IsSpaced (token :: others)) :
    IsPart (tokens ++ token :: others) where
  spaced := part.spaced.append spaced (not_beginsWithSize other)
  nonempty := List.append_ne_nil_of_left_ne_nil part.nonempty _
  apart := by
    rw [BeginsWithSize, List.head?_append_of_ne_nil tokens part.nonempty]
    exact part.apart
  opens := by
    rw [List.head?_append_of_ne_nil tokens part.nonempty]
    exact part.opens

/-- A part of a sentence with a single token behind it that is no size. -/
theorem IsPart.ending {tokens : List TypeToken} {token : TypeToken} (part : IsPart tokens)
    (other : ∀ number, token ≠ .size number) : IsPart (tokens ++ [token]) :=
  part.append other ⟨fun _ _ => by simp [BeginsWithSize], trivial⟩

/-- Part of a sentence behind an opening bracket and a size. -/
theorem IsPart.sized {tokens : List TypeToken} {opening : TypeToken} (part : IsPart tokens)
    (size : Nat) (isOpening : opening = .openArray ∨ opening = .openVector) :
    IsPart (opening :: .size size :: .times :: tokens) := by
  refine ⟨⟨fun array vector => ?_, ⟨fun _ _ => not_beginsWithSize (by simp), ?_⟩⟩, by simp, ?_, ?_⟩
  · exact (isOpening.elim array vector).elim
  · exact ⟨fun _ _ => part.apart, part.spaced⟩
  · rcases isOpening with rfl | rfl <;> exact not_beginsWithSize (by simp)
  · rcases isOpening with rfl | rfl <;> simp

mutual

/-- Tokens that derive a type are part of a sentence. -/
theorem Derives.isPart {tokens : List TypeToken} {type : IRType} (derives : Derives tokens type) :
    IsPart tokens := by
  cases derives with
  | word => exact .single (by simp) (by simp)
  | pointer derives => exact derives.isPart.ending (by simp)
  | array size derives => exact (derives.isPart.ending (by simp)).sized size (.inl rfl)
  | vector size derives => exact (derives.isPart.ending (by simp)).sized size (.inr rfl)
  | emptyStruct => exact (IsPart.single (by simp) (by simp)).ending (by simp)
  | @struct tokens _ derives =>
      have part : IsPart (tokens ++ [.closeStruct]) := derives.isPart.ending (by simp)
      exact ⟨⟨fun _ _ => part.apart, part.spaced⟩, by simp, not_beginsWithSize (by simp), by simp⟩

/-- Tokens that derive fields are part of a sentence. -/
theorem DerivesFields.isPart {tokens : List TypeToken} {fields : List IRType}
    (derives : DerivesFields tokens fields) : IsPart tokens := by
  cases derives with
  | single derives => exact derives.isPart
  | more derives rest =>
      exact derives.isPart.append (by simp) ⟨fun _ _ => rest.isPart.apart, rest.isPart.spaced⟩

end

/-! ## Reading tokens -/

/-- Stars behind tokens that derive a type derive pointers. -/
theorem Derives.takeStars {used tokens : List TypeToken} {type : IRType}
    (derives : Derives used type) :
    ∃ stars, used ++ tokens = stars ++ (type.takeStars tokens).2 ∧
      Derives stars (type.takeStars tokens).1 := by
  induction tokens generalizing used type with
  | nil => exact ⟨used, rfl, derives⟩
  | cons token tokens ih =>
      cases token with
      | star =>
          obtain ⟨stars, same, pointers⟩ := ih derives.pointer
          rw [List.append_assoc] at same
          exact ⟨stars, same, pointers⟩
      | _ => exact ⟨used, rfl, derives⟩

mutual

/-- **What is read from tokens** is what the tokens derive that are used up. -/
theorem derives_of_ofTokens? (depth : Nat) {tokens rest : List TypeToken} {type : IRType}
    (read : ofTokens? depth tokens = some (type, rest)) :
    ∃ used, tokens = used ++ rest ∧ Derives used type := by
  cases depth with
  | zero => cases read
  | succ depth =>
      -- Whatever has been read, stars may follow.
      have starred {used left : List TypeToken} {type' : IRType} (derives : Derives used type')
          (taken : some (takeStars type' left) = some (type, rest)) :
          ∃ stars, used ++ left = stars ++ rest ∧ Derives stars type := by
        have stars : ∃ stars, used ++ left = stars ++ (type'.takeStars left).2 ∧
            Derives stars (type'.takeStars left).1 := derives.takeStars
        rwa [Option.some.inj taken] at stars
      unfold ofTokens? at read
      split at read
      next => exact starred (.word _) read
      next size left =>
        split at read
        next element others known =>
          obtain ⟨used, rfl, derives⟩ := derives_of_ofTokens? depth known
          have read := starred (.array size derives) read
          simpa using read
        next => cases read
      next size left =>
        split at read
        next element others known =>
          obtain ⟨used, rfl, derives⟩ := derives_of_ofTokens? depth known
          have read := starred (.vector size derives) read
          simpa using read
        next => cases read
      next => exact starred .emptyStruct read
      next =>
        split at read
        next fields left known =>
          obtain ⟨used, rfl, derives⟩ := derives_of_fieldsOfTokens? depth known
          have read := starred (.struct derives) read
          simpa using read
        next => cases read
      next => cases read

/-- What is read from tokens as fields is what the tokens derive that are used up, up to the end of
the structure. -/
theorem derives_of_fieldsOfTokens? (depth : Nat) {tokens rest : List TypeToken}
    {fields : List IRType} (read : fieldsOfTokens? depth tokens = some (fields, rest)) :
    ∃ used, tokens = used ++ .closeStruct :: rest ∧ DerivesFields used fields := by
  cases depth with
  | zero => cases read
  | succ depth =>
      rw [fieldsOfTokens?] at read
      split at read
      next field others known =>
        obtain ⟨rfl, rfl⟩ := Prod.mk.inj (Option.some.inj read)
        obtain ⟨used, rfl, derives⟩ := derives_of_ofTokens? depth known
        exact ⟨used, rfl, .single derives⟩
      next field others known =>
        split at read
        next fields left more =>
          obtain ⟨rfl, rfl⟩ := Prod.mk.inj (Option.some.inj read)
          obtain ⟨used, rfl, derives⟩ := derives_of_ofTokens? depth known
          obtain ⟨usedMore, rfl, derivesMore⟩ := derives_of_fieldsOfTokens? depth more
          refine ⟨used ++ .comma :: usedMore, ?_, .more derives derivesMore⟩
          rw [List.append_assoc, List.cons_append]
        next => cases read
      next => cases read

end

mutual

/-- **What tokens derive** is what is read from them, and from stars behind them. -/
theorem Derives.ofTokens? {used : List TypeToken} {type : IRType} (derives : Derives used type)
    (rest : List TypeToken) {depth : Nat} (deep : 2 * used.length ≤ depth) :
    IRType.ofTokens? depth (used ++ rest) = some (type.takeStars rest) := by
  -- Each token takes two steps at most: one for a type and one for the fields that begin with it.
  have some_token := List.length_pos_iff.mpr derives.isPart.nonempty
  obtain ⟨depth, rfl⟩ : ∃ less, depth = less + 1 :=
    Nat.exists_eq_add_one_of_ne_zero (by omega)
  cases derives with
  | word => rfl
  | pointer derives =>
      rw [List.length_append] at deep
      rw [List.append_assoc]
      exact derives.ofTokens? _ (Nat.le_trans (by omega) deep)
  | array size derives =>
      simp only [List.length_cons, List.length_append, List.length_nil] at deep
      have inner : IRType.ofTokens? depth _ = _ :=
        derives.ofTokens? (.closeArray :: rest) (by omega)
      simp only [List.cons_append, List.append_assoc, List.nil_append, IRType.ofTokens?, inner,
        IRType.takeStars]
  | vector size derives =>
      simp only [List.length_cons, List.length_append, List.length_nil] at deep
      have inner : IRType.ofTokens? depth _ = _ :=
        derives.ofTokens? (.closeVector :: rest) (by omega)
      simp only [List.cons_append, List.append_assoc, List.nil_append, IRType.ofTokens?, inner,
        IRType.takeStars]
  | emptyStruct => rfl
  | @struct tokens _ derives =>
      simp only [List.length_cons, List.length_append, List.length_nil] at deep
      have inner : IRType.fieldsOfTokens? depth _ = _ := derives.fieldsOfTokens? rest (by omega)
      simp only [List.cons_append, List.append_assoc, List.nil_append]
      rw [IRType.ofTokens?, inner]
      -- There is a field, so the structure does not end at once.
      intro others same
      have opens := derives.isPart.opens
      rw [← List.head?_append_of_ne_nil tokens derives.isPart.nonempty, same] at opens
      exact opens rfl

/-- What tokens derive as fields is what is read from them up to the end of the structure. -/
theorem DerivesFields.fieldsOfTokens? {used : List TypeToken} {fields : List IRType}
    (derives : DerivesFields used fields) (rest : List TypeToken) {depth : Nat}
    (deep : 2 * used.length + 1 ≤ depth) :
    IRType.fieldsOfTokens? depth (used ++ .closeStruct :: rest) = some (fields, rest) := by
  obtain ⟨depth, rfl⟩ : ∃ less, depth = less + 1 :=
    Nat.exists_eq_add_one_of_ne_zero (by omega)
  cases derives with
  | single derives =>
      have inner : IRType.ofTokens? depth _ = _ :=
        derives.ofTokens? (.closeStruct :: rest) (by omega)
      simp only [IRType.fieldsOfTokens?, inner, IRType.takeStars]
  | @more tokens others _ _ derives more =>
      simp only [List.length_append, List.length_cons] at deep
      have inner : IRType.ofTokens? depth _ = _ :=
        derives.ofTokens? (.comma :: (others ++ .closeStruct :: rest)) (by omega)
      have outer : IRType.fieldsOfTokens? depth _ = _ := more.fieldsOfTokens? rest (by omega)
      simp only [List.append_assoc, List.cons_append, IRType.fieldsOfTokens?, inner, outer,
        IRType.takeStars]

end

/-! ## Texts -/

/-- **A text is a sentence** of the grammar: it is written with lexemes whose tokens derive a type. -/
structure IsSentence (text : List Char) (lexemes : List Lexeme) (type : IRType) : Prop where
  /-- The text is written with the lexemes. -/
  writes : Writes text lexemes
  /-- Their tokens derive the type. -/
  derives : Derives (lexemes.map Prod.fst) type

/-- A sentence is taken apart into its tokens. -/
theorem IsSentence.tokenize? {text : List Char} {lexemes : List Lexeme} {type : IRType}
    (sentence : IsSentence text lexemes type) :
    TypeToken.tokenize? text = some (lexemes.map Prod.fst) :=
  TypeToken.tokenize?_of_writes sentence.writes sentence.derives.isPart.spaced

/-- **What is read from a text** is what the text derives. -/
theorem ofText?_eq_some_iff {text : String} {type : IRType} :
    ofText? text = some type ↔ ∃ lexemes, IsSentence text.toList lexemes type := by
  constructor
  · intro read
    unfold ofText? at read
    split at read
    next => cases read
    next tokens tokenized =>
      split at read
      next known =>
        cases read
        obtain ⟨lexemes, writes, rfl⟩ := TypeToken.writes_of_tokenize? _ tokenized
        obtain ⟨used, same, derives⟩ := derives_of_ofTokens? _ known
        rw [List.append_nil] at same
        exact ⟨lexemes, writes, same ▸ derives⟩
      next => cases read
  · rintro ⟨lexemes, sentence⟩
    have read := sentence.derives.ofTokens? [] (Nat.le_add_right _ 2)
    rw [List.append_nil] at read
    rw [ofText?, sentence.tokenize?]
    dsimp only
    rw [read]
    rfl

/-- **The grammar is unambiguous**: a text is a sentence with one row of lexemes and for one type
only. -/
theorem IsSentence.unique {text : List Char} {lexemes others : List Lexeme} {type other : IRType}
    (sentence : IsSentence text lexemes type) (again : IsSentence text others other) :
    lexemes = others ∧ type = other := by
  obtain rfl := sentence.writes.unique sentence.derives.isPart.spaced again.writes
    again.derives.isPart.spaced
  refine ⟨rfl, ?_⟩
  have read := (sentence.derives.ofTokens? [] (Nat.le_refl _)).symm.trans
    (again.derives.ofTokens? [] (Nat.le_refl _))
  exact congrArg Prod.fst (Option.some.inj read)

/-- What is read from a sentence that cannot be built: a fault. -/
theorem IsSentence.read_eq_error {text : String} {lexemes : List Lexeme} {type : IRType}
    (sentence : IsSentence text.toList lexemes type)
    (unbuildable : type.pointsToVoid = true ∨ HasLongNumber lexemes) (quoted : String) :
    IRType.read text quoted = .error .unbuildableType := by
  have long := TypeToken.longestRun_writes sentence.writes sentence.derives.isPart.spaced
  rw [IRType.read, ofText?_eq_some_iff.mpr ⟨lexemes, sentence⟩]
  exact if_pos (unbuildable.imp_right long.mpr)

/-- What is read from a sentence that can be built: its type. -/
theorem IsSentence.read_eq_ok {text : String} {lexemes : List Lexeme} {type : IRType}
    (sentence : IsSentence text.toList lexemes type) (pointsToVoid : type.pointsToVoid = false)
    (short : ¬ HasLongNumber lexemes) (quoted : String) : IRType.read text quoted = .ok type := by
  have long := TypeToken.longestRun_writes sentence.writes sentence.derives.isPart.spaced
  rw [IRType.read, ofText?_eq_some_iff.mpr ⟨lexemes, sentence⟩]
  refine if_neg (not_or.mpr ⟨?_, fun claimed => short (long.mp claimed)⟩)
  rw [pointsToVoid]
  exact Bool.false_ne_true

/-- What is no sentence is rejected. -/
theorem read_of_no_sentence {text : String}
    (none : ∀ lexemes type, ¬ IsSentence text.toList lexemes type) (quoted : String) :
    IRType.read text quoted = .error (.rejected (.malformedType quoted)) := by
  have missing : ofText? text = Option.none := by
    rw [Option.eq_none_iff_forall_ne_some]
    intro type found
    obtain ⟨lexemes, sentence⟩ := ofText?_eq_some_iff.mp found
    exact none lexemes type sentence
  rw [IRType.read, missing]

/-- A text is a sentence that can be built, a sentence that cannot, or no sentence. -/
theorem read_cases (text quoted : String) :
    (∃ lexemes type, (IsSentence text.toList lexemes type ∧ type.pointsToVoid = false ∧
        ¬ HasLongNumber lexemes) ∧ read text quoted = .ok type) ∨
      (∃ lexemes type, (IsSentence text.toList lexemes type ∧
          (type.pointsToVoid = true ∨ HasLongNumber lexemes)) ∧
        read text quoted = .error .unbuildableType) ∨
      (∀ lexemes type, ¬ IsSentence text.toList lexemes type) ∧
        read text quoted = .error (.rejected (.malformedType quoted)) := by
  by_cases derived : ∃ lexemes type, IsSentence text.toList lexemes type
  · obtain ⟨lexemes, type, sentence⟩ := derived
    by_cases unbuildable : type.pointsToVoid = true ∨ HasLongNumber lexemes
    · exact .inr (.inl ⟨lexemes, type, ⟨sentence, unbuildable⟩,
        sentence.read_eq_error unbuildable quoted⟩)
    · obtain ⟨pointsToVoid, short⟩ := not_or.mp unbuildable
      have pointsToVoid := Bool.eq_false_iff.mpr pointsToVoid
      exact .inl ⟨lexemes, type, ⟨sentence, pointsToVoid, short⟩,
        sentence.read_eq_ok pointsToVoid short quoted⟩
  · have none (lexemes : List Lexeme) (type : IRType) : ¬ IsSentence text.toList lexemes type :=
      fun sentence => derived ⟨lexemes, type, sentence⟩
    exact .inr (.inr ⟨none, read_of_no_sentence none quoted⟩)

/-- **What is read from a text** is decided by the grammar. A sentence is read as the type that it derives
unless that points to nothing or a number is too long; what is no sentence is rejected. There is
at most one way to derive a text, and blanks between the lexemes of a sentence make no difference. -/
theorem read_decides (text quoted : String) :
    (∀ type, read text quoted = .ok type ↔
      ∃ lexemes, IsSentence text.toList lexemes type ∧ type.pointsToVoid = false ∧
        ¬ HasLongNumber lexemes) ∧
    (read text quoted = .error .unbuildableType ↔
      ∃ lexemes type, IsSentence text.toList lexemes type ∧
        (type.pointsToVoid = true ∨ HasLongNumber lexemes)) ∧
    (read text quoted = .error (.rejected (.malformedType quoted)) ↔
      ∀ lexemes type, ¬ IsSentence text.toList lexemes type) ∧
    (∀ lexemes others type other, IsSentence text.toList lexemes type →
      IsSentence text.toList others other → lexemes = others ∧ type = other) ∧
    ∀ (again : String) lexemes type, IsSentence text.toList lexemes type →
      Writes again.toList lexemes → read again quoted = read text quoted := by
  -- The three cases exclude each other, for what is read differs between them.
  have possible := read_cases text quoted
  refine ⟨fun type => ⟨fun result => ?_, ?_⟩, ⟨fun result => ?_, ?_⟩, ⟨fun result => ?_, ?_⟩, ?_, ?_⟩
  · rw [result] at possible
    rcases possible with ⟨lexemes, type, known, same⟩ | ⟨_, _, _, same⟩ | ⟨_, same⟩
    · cases same
      exact ⟨lexemes, known⟩
    · cases same
    · cases same
  · rintro ⟨lexemes, sentence, pointsToVoid, short⟩
    exact sentence.read_eq_ok pointsToVoid short quoted
  · rw [result] at possible
    rcases possible with ⟨_, _, _, same⟩ | ⟨lexemes, type, known, _⟩ | ⟨_, same⟩
    · cases same
    · exact ⟨lexemes, type, known⟩
    · cases same
  · rintro ⟨lexemes, type, sentence, unbuildable⟩
    exact sentence.read_eq_error unbuildable quoted
  · rw [result] at possible
    rcases possible with ⟨_, _, _, same⟩ | ⟨_, _, _, same⟩ | ⟨none, _⟩
    · cases same
    · cases same
    · exact none
  · exact fun none => read_of_no_sentence none quoted
  · exact fun lexemes others type other sentence again => sentence.unique again
  · intro again lexemes type sentence writes
    have another : IsSentence again.toList lexemes type := ⟨writes, sentence.derives⟩
    by_cases unbuildable : type.pointsToVoid = true ∨ HasLongNumber lexemes
    · rw [another.read_eq_error unbuildable, sentence.read_eq_error unbuildable]
    · obtain ⟨pointsToVoid, short⟩ := not_or.mp unbuildable
      have pointsToVoid := Bool.eq_false_iff.mpr pointsToVoid
      rw [another.read_eq_ok pointsToVoid short, sentence.read_eq_ok pointsToVoid short]

/-- The lexemes of an array of two integers. -/
def pair : List Lexeme :=
  [(.openArray, ['[']), (.size 2, ['2']), (.times, ['x']), (.word (.int 32), ['i', '3', '2']),
    (.closeArray, [']'])]

/-- An array of two integers is read with and without blanks. -/
theorem read_pair :
    (IsSentence "[2xi32]".toList pair (.array 2 (.int 32)) ∧ Writes "[ 2 x i32 ]".toList pair) ∧
      read "[2xi32]" "" = .ok (.array 2 (.int 32)) ∧
      read "[ 2 x i32 ]" "" = read "[2xi32]" "" := by
  have two : TypeToken.Spells (.size (Number.ofDigits ['2'])) ['2'] :=
    .size (by decide) (List.forall_mem_nil _)
  have word : TypeToken.Spells (.word (.int (Number.ofDigits ['3', '2']))) ['i', '3', '2'] :=
    .int (by decide) (by decide) (by simp)
  have dense : Writes "[2xi32]".toList pair :=
    .lexeme (.sign (by decide)) <| .lexeme two <| .lexeme (.sign (by decide)) <| .lexeme word <|
      .lexeme (.sign (by decide)) .nil
  have loose : Writes "[ 2 x i32 ]".toList pair :=
    .lexeme (.sign (by decide)) <| .blank (by decide) <| .lexeme two <| .blank (by decide) <|
      .lexeme (.sign (by decide)) <| .blank (by decide) <| .lexeme word <| .blank (by decide) <|
        .lexeme (.sign (by decide)) .nil
  have sentence : IsSentence "[2xi32]".toList pair (.array 2 (.int 32)) :=
    ⟨dense, .array 2 (.word (.int 32))⟩
  have short : ¬ HasLongNumber pair := by
    rintro ⟨lexeme, member, long⟩
    have few : ∀ lexeme ∈ pair, lexeme.2.countP Char.isDigit ≤ Number.maximalDigits := by decide
    exact Nat.not_lt.mpr (few lexeme member) long
  have decided := read_decides "[2xi32]" ""
  exact ⟨⟨sentence, loose⟩, (decided.1 _).mpr ⟨pair, sentence, rfl, short⟩,
    decided.2.2.2.2 "[ 2 x i32 ]" pair _ sentence loose⟩

/-- The digits of a number that is too long to be read. -/
def manyDigits : List Char :=
  '1' :: List.replicate Number.maximalDigits '0'

/-- **A wide integer type** is a sentence and points to nothing nowhere, but it cannot be built. -/
theorem read_manyDigits :
    IsSentence (String.ofList ('i' :: manyDigits)).toList
        [(.word (.int (Number.ofDigits manyDigits)), 'i' :: manyDigits)]
        (.int (Number.ofDigits manyDigits)) ∧
      (int (Number.ofDigits manyDigits)).pointsToVoid = false ∧
      read (String.ofList ('i' :: manyDigits)) "" = .error .unbuildableType := by
  have spells : TypeToken.Spells (.word (.int (Number.ofDigits manyDigits))) ('i' :: manyDigits) :=
    .int (by decide) (by decide) fun other member => by
      rw [List.eq_of_mem_replicate member]
      decide
  have sentence : IsSentence (String.ofList ('i' :: manyDigits)).toList
      [(.word (.int (Number.ofDigits manyDigits)), 'i' :: manyDigits)]
      (.int (Number.ofDigits manyDigits)) := by
    rw [String.toList_ofList]
    exact ⟨spells.writes, .word _⟩
  have long : HasLongNumber [(.word (.int (Number.ofDigits manyDigits)), 'i' :: manyDigits)] := by
    refine ⟨_, List.mem_singleton_self _, ?_⟩
    simp [manyDigits, List.countP_replicate]
  exact ⟨sentence, rfl, sentence.read_eq_error (.inr long) ""⟩

end IRType

end StructuredIR
