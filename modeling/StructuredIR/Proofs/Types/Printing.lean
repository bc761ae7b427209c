import StructuredIR.Proofs.Types.Sentences

/-! # The texts of types are read back

* **`IRType.isSpelled`** says that a type can be spelled: it has no functions or blocks in it, and no
  integers without bits. **`IRType.numbers`** are its widths and sizes.
* **`IRType.sentence_text`**: the text of a type that can be spelled is a sentence that derives the
  type.
* **`IRType.read_text`**: reading the text of a type gives the type back, unless it points to nothing or
  a number is too long; so what has been read from any text can be read again from its own. -/

namespace StructuredIR

open TypeToken (Lexeme Spells Writes HasLongNumber)

/-! ## Numbers -/

namespace Number

/-- The codes of decimal digits. -/
theorem toNat_of_isDigit {digit : Char} (isDigit : digit.isDigit = true) :
    '0'.toNat ≤ digit.toNat ∧ digit.toNat - '0'.toNat < 10 := by
  have bounds : 48 ≤ digit.toNat ∧ digit.toNat ≤ 57 := by
    simpa [Char.isDigit, UInt32.le_iff_toNat_le] using isDigit
  exact ⟨bounds.1, Nat.sub_lt_left_of_lt_add bounds.1 (Nat.lt_succ_of_le bounds.2)⟩

/-- Digits stand for less than the power of ten that has one more digit. -/
theorem ofDigits_lt {digits : List Char} (all : ∀ digit ∈ digits, digit.isDigit = true) :
    ofDigits digits < Nat.pow 10 digits.length := by
  induction digits using List.reverseRecOn with
  | nil => decide
  | append_singleton digits digit ih =>
      obtain ⟨before, last⟩ := List.forall_mem_append.mp all
      have below := (toNat_of_isDigit (last digit (List.mem_singleton_self digit))).2
      have less := ih before
      rw [ofDigits_append_singleton, List.length_append, List.length_singleton]
      show _ < Nat.pow 10 digits.length * 10
      omega

/-- A number whose digits do not begin with a zero is not zero. -/
theorem ofDigits_pos {digit : Char} {digits : List Char} (leading : digit.isDigit = true)
    (positive : digit ≠ '0') : 0 < ofDigits (digit :: digits) := by
  induction digits using List.reverseRecOn with
  | nil =>
      have bound := (toNat_of_isDigit leading).1
      have other : digit.toNat ≠ '0'.toNat := fun same => positive (Char.toNat_inj.mp same)
      show 0 < 0 * 10 + (digit.toNat - '0'.toNat)
      omega
  | append_singleton digits last ih =>
      rw [← List.cons_append, ofDigits_append_singleton]
      omega

/-- The decimal digits of a number stand for it. -/
theorem ofDigits_toDigits (number : Nat) : ofDigits (Nat.toDigits 10 number) = number := by
  have same := Nat.ofDigitChars_ten_toDigits (n := number)
  rw [Nat.ofDigitChars_eq_foldl] at same
  simpa only [ofDigits, Nat.mul_comm 10] using same

/-- The decimal digits of a number are digits. -/
theorem isDigit_toDigits (number : Nat) :
    ∀ digit ∈ Nat.toDigits 10 number, digit.isDigit = true :=
  fun _ member => Nat.isDigit_of_mem_toDigits (by decide) (by decide) member

/-- A number that is not zero is not written with a zero in front. -/
theorem head_toDigits {number : Nat} (positive : 0 < number) :
    ∃ digit digits, Nat.toDigits 10 number = digit :: digits ∧ digit ≠ '0' := by
  induction number using Nat.strongRecOn with
  | ind number ih =>
      rw [Nat.toDigits_eq_if (by decide)]
      split
      next small =>
        refine ⟨_, [], rfl, ?_⟩
        interval_cases number <;> decide
      next large =>
        have shorter : number / 10 < number := Nat.div_lt_self positive (by decide)
        obtain ⟨digit, digits, same, other⟩ := ih (number / 10) shorter (by omega)
        rw [same]
        exact ⟨digit, _, rfl, other⟩

/-- There are more than three digits in the longest numbers that are read. -/
theorem thousand_lt : 1000 < Nat.pow 10 maximalDigits := by
  have digits : 3 < maximalDigits := by decide
  generalize maximalDigits = limit at digits ⊢
  exact Nat.pow_lt_pow_right (a := 10) (by decide) digits

end Number

/-! ## Parts of texts -/

namespace TypeToken

/-- Some number of two rows of lexemes is too long if one of either row is. -/
theorem hasLongNumber_append (first second : List Lexeme) :
    HasLongNumber (first ++ second) ↔ HasLongNumber first ∨ HasLongNumber second := by
  simp only [HasLongNumber, List.mem_append, or_and_right, exists_or]

/-- A number is too long to be read. -/
def IsLong (number : Nat) : Prop :=
  Nat.pow 10 Number.maximalDigits ≤ number

/-- **Part of the text of a type**: what it is written with, and the numbers in it. -/
structure Prints (text : List Char) (lexemes : List Lexeme) (numbers : List Nat) : Prop where
  /-- The text is written with the lexemes. -/
  writes : Writes text lexemes
  /-- Some number is written with too many digits if it is too long. -/
  long : HasLongNumber lexemes ↔ ∃ number ∈ numbers, IsLong number

namespace Prints

variable {text rest : List Char} {lexemes others : List Lexeme} {numbers further : List Nat}

/-- One part comes behind another one. -/
theorem append (prints : Prints text lexemes numbers) (behind : Prints rest others further) :
    Prints (text ++ rest) (lexemes ++ others) (numbers ++ further) where
  writes := prints.writes.append behind.writes
  long := by
    simp only [hasLongNumber_append, prints.long, behind.long, List.mem_append, or_and_right,
      exists_or]

/-- A word without digits. -/
theorem ofLetters {token : TypeToken} {word : List Char} (spells : Spells token word)
    (letters : word.countP Char.isDigit = 0) : Prints word [(token, word)] [] where
  writes := spells.writes
  long := by simp [HasLongNumber, letters]

/-- A sign. -/
theorem ofSign {token : TypeToken} {char : Char} (known : (char, token) ∈ signs) :
    Prints [char] [(token, [char])] [] :=
  ofLetters (.sign known) (by simp [(apart_of_sign known).2])

/-- A blank in front of a part. -/
theorem behindBlank (prints : Prints text lexemes numbers) : Prints (' ' :: text) lexemes numbers :=
  ⟨.blank (by decide) prints.writes, prints.long⟩

/-- How many digits a number has. -/
theorem isLong_iff (number : Nat) :
    Number.maximalDigits < (Nat.toDigits 10 number).length ↔ IsLong number := by
  -- The power is never computed.
  have some_digit : 0 < Number.maximalDigits := by decide
  rw [IsLong]
  generalize Number.maximalDigits = limit at some_digit
  rw [← Nat.not_le, Nat.length_toDigits_le_iff (by decide) some_digit, Nat.not_lt]
  rfl

/-- A size. -/
theorem ofSize (number : Nat) :
    Prints (Nat.toDigits 10 number) [(.size number, Nat.toDigits 10 number)] [number] where
  writes := by
    have all := Number.isDigit_toDigits number
    have same := Number.ofDigits_toDigits number
    obtain ⟨digit, digits, shown⟩ : ∃ digit digits, Nat.toDigits 10 number = digit :: digits :=
      List.exists_cons_of_ne_nil Nat.toDigits_ne_nil
    rw [shown] at all same ⊢
    obtain ⟨leading, following⟩ := List.forall_mem_cons.mp all
    have spells := Spells.size leading following
    rw [same] at spells
    exact spells.writes
  long := by
    simp [HasLongNumber, List.countP_eq_length.mpr (Number.isDigit_toDigits number), isLong_iff]

/-- The word of an integer type. -/
theorem ofWidth {width : Nat} (positive : 0 < width) :
    Prints ('i' :: Nat.toDigits 10 width) [(.word (.int width), 'i' :: Nat.toDigits 10 width)]
      [width] where
  writes := by
    have all := Number.isDigit_toDigits width
    have same := Number.ofDigits_toDigits width
    obtain ⟨digit, digits, shown, other⟩ := Number.head_toDigits positive
    rw [shown] at all same ⊢
    obtain ⟨leading, following⟩ := List.forall_mem_cons.mp all
    have spells := Spells.int leading other following
    rw [same] at spells
    exact spells.writes
  long := by
    simp [HasLongNumber, List.countP_eq_length.mpr (Number.isDigit_toDigits width),
      isLong_iff]

/-- A part between brackets, behind a size. -/
theorem sized {opening closing : TypeToken} {first last : Char} (prints : Prints text lexemes numbers)
    (opens : (first, opening) ∈ signs) (closes : (last, closing) ∈ signs) (size : Nat) :
    Prints (first :: Nat.toDigits 10 size ++ ' ' :: 'x' :: ' ' :: text ++ [last])
      ((opening, [first]) :: (.size size, Nat.toDigits 10 size) :: (.times, ['x']) ::
        (lexemes ++ [(closing, [last])])) (size :: numbers) := by
  have inner := prints.behindBlank.append (ofSign closes)
  have times : Prints [' ', 'x'] [(.times, ['x'])] [] := (ofSign (by decide)).behindBlank
  have all := (ofSign opens).append ((ofSize size).append (times.append inner))
  simpa using all

end Prints

end TypeToken

namespace IRType

/-! ## Texts of types -/

mutual

/-- **Whether a type can be spelled**: there are no functions and no blocks in it, and integers have
bits. -/
def isSpelled : IRType → Bool
  | .int width => 0 < width
  | .half | .float | .double | .void => true
  | .label _ | .function .. => false
  | .pointer target => isSpelled target
  | .array _ element | .vector _ element => isSpelled element
  | .struct fields => areSpelled fields

/-- Whether some types can be spelled. -/
def areSpelled : List IRType → Bool
  | [] => true
  | type :: types => isSpelled type && areSpelled types

end

mutual

/-- The widths and sizes in a type. -/
def numbers : IRType → List Nat
  | .int width => [width]
  | .half | .float | .double | .void | .label _ => []
  | .pointer target => numbers target
  | .array size element | .vector size element => size :: numbers element
  | .struct fields => allNumbers fields
  | .function result parameters _ => numbers result ++ allNumbers parameters

/-- The widths and sizes in some types. -/
def allNumbers : List IRType → List Nat
  | [] => []
  | type :: types => numbers type ++ allNumbers types

end

open TypeToken (Prints)

mutual

/-- **The text of a type that can be spelled** is written with tokens that derive the type. -/
theorem prints_chars : ∀ type : IRType, type.isSpelled = true →
    ∃ lexemes, Prints type.chars lexemes type.numbers ∧ Derives (lexemes.map Prod.fst) type
  | .int width, spelled => by
      rw [isSpelled, decide_eq_true_eq] at spelled
      exact ⟨_, .ofWidth spelled, .word _⟩
  | .half, _ => ⟨_, .ofLetters .half (by decide), .word _⟩
  | .float, _ => ⟨_, .ofLetters .float (by decide), .word _⟩
  | .double, _ => ⟨_, .ofLetters .double (by decide), .word _⟩
  | .void, _ => ⟨_, .ofLetters .void (by decide), .word _⟩
  | .label _, spelled => by cases spelled
  | .function .., spelled => by cases spelled
  | .pointer target, spelled => by
      rw [isSpelled] at spelled
      obtain ⟨lexemes, prints, derives⟩ := prints_chars target spelled
      have star : ('*', TypeToken.star) ∈ TypeToken.signs := by decide
      have whole := prints.append (.ofSign star)
      rw [List.append_nil] at whole
      exact ⟨_, whole, by simpa using derives.pointer⟩
  | .array size element, spelled => by
      rw [isSpelled] at spelled
      obtain ⟨lexemes, prints, derives⟩ := prints_chars element spelled
      have opens : ('[', TypeToken.openArray) ∈ TypeToken.signs := by decide
      have closes : (']', TypeToken.closeArray) ∈ TypeToken.signs := by decide
      exact ⟨_, prints.sized opens closes size, by simpa using Derives.array size derives⟩
  | .vector size element, spelled => by
      rw [isSpelled] at spelled
      obtain ⟨lexemes, prints, derives⟩ := prints_chars element spelled
      have opens : ('<', TypeToken.openVector) ∈ TypeToken.signs := by decide
      have closes : ('>', TypeToken.closeVector) ∈ TypeToken.signs := by decide
      exact ⟨_, prints.sized opens closes size, by simpa using Derives.vector size derives⟩
  | .struct fields, spelled => by
      rw [isSpelled] at spelled
      have opens : ('\x7b', TypeToken.openStruct) ∈ TypeToken.signs := by decide
      have closes : ('\x7d', TypeToken.closeStruct) ∈ TypeToken.signs := by decide
      -- An empty structure has a form of its own, for fields are never none.
      by_cases empty : fields = []
      · subst empty
        exact ⟨_, (Prints.ofSign opens).append (.ofSign closes), .emptyStruct⟩
      · obtain ⟨lexemes, prints, derives⟩ := prints_commaSeparated fields spelled empty
        have whole := (Prints.ofSign opens).append (prints.append (.ofSign closes))
        rw [List.append_nil, List.nil_append] at whole
        exact ⟨_, whole, by simpa using Derives.struct derives⟩

/-- The texts of fields with commas between them are written with tokens that derive the fields. -/
theorem prints_commaSeparated : ∀ fields : List IRType, areSpelled fields = true → fields ≠ [] →
    ∃ lexemes, Prints (commaSeparated (charsAll fields)) lexemes (allNumbers fields) ∧
      DerivesFields (lexemes.map Prod.fst) fields
  | [], _, nonempty => (nonempty rfl).elim
  | [field], spelled, _ => by
      rw [areSpelled, Bool.and_eq_true] at spelled
      obtain ⟨lexemes, prints, derives⟩ := prints_chars field spelled.1
      refine ⟨lexemes, ?_, .single derives⟩
      rw [allNumbers, allNumbers, List.append_nil]
      exact prints
  | field :: other :: fields, spelled, _ => by
      rw [areSpelled, Bool.and_eq_true] at spelled
      obtain ⟨lexemes, prints, derives⟩ := prints_chars field spelled.1
      obtain ⟨others, printsRest, derivesRest⟩ :=
        prints_commaSeparated (other :: fields) spelled.2 (List.cons_ne_nil other fields)
      have comma : (',', TypeToken.comma) ∈ TypeToken.signs := by decide
      have whole := prints.append ((Prints.ofSign comma).append printsRest.behindBlank)
      refine ⟨_, whole, ?_⟩
      simpa using DerivesFields.more derives derivesRest

end

/-- The text of a type that can be spelled is a sentence that derives the type. -/
theorem sentence_text {type : IRType} (spelled : type.isSpelled = true) :
    ∃ lexemes, IsSentence type.text.toList lexemes type ∧
      (HasLongNumber lexemes ↔ ∃ number ∈ type.numbers, TypeToken.IsLong number) := by
  obtain ⟨lexemes, prints, derives⟩ := prints_chars type spelled
  rw [text, String.toList_ofList]
  exact ⟨lexemes, ⟨prints.writes, derives⟩, prints.long⟩

/-! ## What sentences derive -/

/-- A type can be spelled, and no number in it is too long. -/
def IsReadable (type : IRType) : Prop :=
  type.isSpelled = true ∧ ∀ number ∈ type.numbers, ¬ TypeToken.IsLong number

/-- Fields can be spelled, and no number in them is too long. -/
def AreReadable (fields : List IRType) : Prop :=
  areSpelled fields = true ∧ ∀ number ∈ allNumbers fields, ¬ TypeToken.IsLong number

/-- A token is no word that cannot be read, and no size that is too long. -/
def IsReadableToken : TypeToken → Prop
  | .word type => type.IsReadable
  | .size size => ¬ TypeToken.IsLong size
  | _ => True

/-- Digits that are not too many stand for a number that is not too long. -/
theorem not_isLong_ofDigits {digits : List Char} (all : ∀ digit ∈ digits, digit.isDigit = true)
    (short : ¬ Number.maximalDigits < digits.countP Char.isDigit) :
    ¬ TypeToken.IsLong (Number.ofDigits digits) := by
  rw [List.countP_eq_length.mpr all, Nat.not_lt] at short
  rw [TypeToken.IsLong, Nat.not_le]
  generalize Number.maximalDigits = limit at short ⊢
  exact Nat.lt_of_lt_of_le (Number.ofDigits_lt all) (Nat.pow_le_pow_right (by decide) short)

/-- A token with a word that is not too long can be read. -/
theorem isReadableToken {token : TypeToken} {word : List Char} (spells : Spells token word)
    (short : ¬ Number.maximalDigits < word.countP Char.isDigit) : IsReadableToken token := by
  cases spells with
  | @int digit digits leading positive following =>
      have all : ∀ other ∈ digit :: digits, other.isDigit = true :=
        List.forall_mem_cons.mpr ⟨leading, following⟩
      rw [List.countP_cons_of_neg (by decide)] at short
      have positive : (int (Number.ofDigits (digit :: digits))).isSpelled = true := by
        rw [isSpelled, decide_eq_true_eq]
        exact Number.ofDigits_pos leading positive
      exact ⟨positive, List.forall_mem_singleton.mpr (not_isLong_ofDigits all short)⟩
  | @size digit digits leading following =>
      have all : ∀ other ∈ digit :: digits, other.isDigit = true :=
        List.forall_mem_cons.mpr ⟨leading, following⟩
      exact not_isLong_ofDigits all short
  | sign known =>
      simp only [TypeToken.signs, List.mem_cons, Prod.mk.injEq, List.not_mem_nil, or_false] at known
      rcases known with ⟨-, rfl⟩ | ⟨-, rfl⟩ | ⟨-, rfl⟩ | ⟨-, rfl⟩ | ⟨-, rfl⟩ | ⟨-, rfl⟩ | ⟨-, rfl⟩ |
        ⟨-, rfl⟩ | ⟨-, rfl⟩ <;> trivial
  | _ => exact ⟨rfl, List.forall_mem_nil _⟩

mutual

/-- Tokens that can be read derive types that can be read. -/
theorem Derives.isReadable {tokens : List TypeToken} {type : IRType} (derives : Derives tokens type)
    (readable : ∀ token ∈ tokens, IsReadableToken token) : type.IsReadable := by
  cases derives with
  | word => exact readable _ (List.mem_singleton_self _)
  | pointer derives =>
      exact derives.isReadable fun token member => readable token (by simp [member])
  | array size derives =>
      obtain ⟨spelled, short⟩ := derives.isReadable fun token member => readable token (by simp [member])
      refine ⟨spelled, List.forall_mem_cons.mpr ⟨?_, short⟩⟩
      exact readable (.size size) (by simp)
  | vector size derives =>
      obtain ⟨spelled, short⟩ := derives.isReadable fun token member => readable token (by simp [member])
      refine ⟨spelled, List.forall_mem_cons.mpr ⟨?_, short⟩⟩
      exact readable (.size size) (by simp)
  | emptyStruct => exact ⟨rfl, List.forall_mem_nil _⟩
  | struct derives =>
      exact derives.areReadable fun token member => readable token (by simp [member])

/-- Tokens that can be read derive fields that can be read. -/
theorem DerivesFields.areReadable {tokens : List TypeToken} {fields : List IRType}
    (derives : DerivesFields tokens fields) (readable : ∀ token ∈ tokens, IsReadableToken token) :
    AreReadable fields := by
  cases derives with
  | single derives =>
      obtain ⟨spelled, short⟩ := derives.isReadable readable
      rw [AreReadable, areSpelled, areSpelled, allNumbers, allNumbers, spelled, List.append_nil]
      exact ⟨rfl, short⟩
  | more derives rest =>
      obtain ⟨spelled, short⟩ := derives.isReadable fun token member => readable token (by simp [member])
      obtain ⟨spelledRest, shortRest⟩ :=
        rest.areReadable fun token member => readable token (by simp [member])
      rw [AreReadable, areSpelled, allNumbers, spelled, spelledRest]
      exact ⟨rfl, List.forall_mem_append.mpr ⟨short, shortRest⟩⟩

end

/-- A sentence without a number that is too long derives a type that can be read. -/
theorem IsSentence.isReadable {text : List Char} {lexemes : List Lexeme} {type : IRType}
    (sentence : IsSentence text lexemes type) (short : ¬ HasLongNumber lexemes) :
    type.IsReadable := by
  refine sentence.derives.isReadable fun token member => ?_
  obtain ⟨lexeme, listed, rfl⟩ := List.mem_map.mp member
  exact isReadableToken (sentence.writes.spells lexeme listed) fun long =>
    short ⟨lexeme, listed, long⟩

/-! ## Reading texts of types -/

/-- **Reading the text of a type** that can be spelled gives the type back if it points to nothing
nowhere and if its numbers are not too long. Else it cannot be built. -/
theorem read_text_cases {type : IRType} (spelled : type.isSpelled = true) (quoted : String) :
    (type.pointsToVoid = false → (∀ number ∈ type.numbers, ¬ TypeToken.IsLong number) →
      read type.text quoted = .ok type) ∧
    ((∃ number ∈ type.numbers, TypeToken.IsLong number) →
      read type.text quoted = .error .unbuildableType) := by
  obtain ⟨lexemes, sentence, long⟩ := sentence_text spelled
  refine ⟨fun pointsToVoid short => ?_, fun known => ?_⟩
  · refine sentence.read_eq_ok pointsToVoid (fun claimed => ?_) quoted
    obtain ⟨number, member, isLong⟩ := long.mp claimed
    exact short number member isLong
  · exact sentence.read_eq_error (.inr (long.mpr known)) quoted

/-- **The texts of types are read back.** A type that can be spelled, points to nothing nowhere and has
no number that is too long is what is read from its text; and so is every type that has been
read from any text. -/
theorem read_text :
    (∀ (type : IRType) (quoted : String), type.isSpelled = true → type.pointsToVoid = false →
      (∀ number ∈ type.numbers, number < Nat.pow 10 Number.maximalDigits) →
        read type.text quoted = .ok type) ∧
    ∀ (text quoted again : String) (type : IRType), read text quoted = .ok type →
      read type.text again = .ok type := by
  refine ⟨fun type quoted spelled pointsToVoid short => ?_, fun text quoted again type result => ?_⟩
  · exact (read_text_cases spelled quoted).1 pointsToVoid fun number member =>
      Nat.not_le.mpr (short number member)
  · rcases read_cases text quoted with ⟨lexemes, _, known, same⟩ | ⟨_, _, _, same⟩ | ⟨_, same⟩
    · cases same.symm.trans result
      obtain ⟨sentence, pointsToVoid, short⟩ := known
      obtain ⟨spelled, shortNumbers⟩ := sentence.isReadable short
      exact (read_text_cases spelled again).1 pointsToVoid shortNumbers
    · cases same.symm.trans result
    · cases same.symm.trans result

/-- A structure of a pointer to a vector and an array of arrays. -/
def nested : IRType :=
  .struct [.pointer (.vector 4 .float), .array 0 (.array 12 (.int 129)), .struct []]

/-- The text of a nested type is read back, and so is what is read from another text of it. -/
theorem read_text_nested :
    nested.isSpelled = true ∧ nested.pointsToVoid = false ∧
      (∀ number ∈ nested.numbers, number < Nat.pow 10 Number.maximalDigits) ∧
        read nested.text "" = .ok nested := by
  have short : ∀ number ∈ nested.numbers, number < Nat.pow 10 Number.maximalDigits := by
    have below : ∀ number ∈ nested.numbers, number < 1000 := by decide
    exact fun number member => (below number member).trans Number.thousand_lt
  exact ⟨by decide, by decide, short, read_text.1 nested "" (by decide) (by decide) short⟩

/-- An array with more elements than can be read. -/
def vast : IRType :=
  .array (Nat.pow 10 Number.maximalDigits) (.int 8)

/-- **A vast array** can be spelled and points to nothing nowhere, but it is not read back from its
text. -/
theorem read_text_vast :
    vast.isSpelled = true ∧ vast.pointsToVoid = false ∧
      read vast.text "" = .error .unbuildableType := by
  have spelled : vast.isSpelled = true := by
    rw [vast, isSpelled]
    decide
  exact ⟨spelled, rfl, (read_text_cases spelled "").2 ⟨_, List.mem_cons_self, Nat.le_refl _⟩⟩

end IRType

end StructuredIR
