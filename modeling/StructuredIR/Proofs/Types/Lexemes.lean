import Mathlib
import StructuredIR.Signature

/-! # The words of type texts

A type text is made of words, with blanks anywhere between them but not inside one.

* **`TypeToken.Spells`** says how each token may be written.
* **`TypeToken.Writes`** says that a text is made of lexemes, that is of tokens with the words that
  are used for them.
* **`TypeToken.IsSpaced`** says that no size comes up except behind an opening bracket. So a size never
  runs into a number in front of it, and the text of spaced tokens can be taken apart in one way only:
  **`TypeToken.tokenize?_of_writes`** and **`TypeToken.Writes.unique`**. -/

namespace StructuredIR

namespace TypeToken

/-! ## Words -/

/-- The signs that stand for tokens. -/
def signs : List (Char × TypeToken) :=
  [('*', star), (',', comma), ('[', openArray), (']', closeArray), ('<', openVector),
    ('>', closeVector), ('\x7b', openStruct), ('\x7d', closeStruct), ('x', times)]

/-- **How a token may be written.** Numbers may be of any length; a width does not begin with a zero,
a size may. -/
inductive Spells : TypeToken → List Char → Prop where
  /-- The word of what has no value. -/
  | void : Spells (.word .void) ['v', 'o', 'i', 'd']
  /-- The word of a sixteen-bit floating-point number. -/
  | half : Spells (.word .half) ['h', 'a', 'l', 'f']
  /-- The word of a thirty-two-bit floating-point number. -/
  | float : Spells (.word .float) ['f', 'l', 'o', 'a', 't']
  /-- The word of a sixty-four-bit floating-point number. -/
  | double : Spells (.word .double) ['d', 'o', 'u', 'b', 'l', 'e']
  /-- The word of an integer. -/
  | int {digit : Char} {digits : List Char} (leading : digit.isDigit = true) (positive : digit ≠ '0')
      (following : ∀ other ∈ digits, other.isDigit = true) :
      Spells (.word (.int (Number.ofDigits (digit :: digits)))) ('i' :: digit :: digits)
  /-- A size. -/
  | size {digit : Char} {digits : List Char} (leading : digit.isDigit = true)
      (following : ∀ other ∈ digits, other.isDigit = true) :
      Spells (.size (Number.ofDigits (digit :: digits))) (digit :: digits)
  /-- A sign of its own. -/
  | sign {token : TypeToken} {char : Char} (known : (char, token) ∈ signs) : Spells token [char]

/-- Signs are neither blanks nor digits. -/
theorem apart_of_sign {char : Char} {token : TypeToken} (known : (char, token) ∈ signs) :
    isBlank char = false ∧ char.isDigit = false := by
  have all : ∀ sign ∈ signs, isBlank sign.1 = false ∧ sign.1.isDigit = false := by decide
  exact all _ known

/-- Blanks are no digits. -/
theorem isDigit_of_isBlank {char : Char} (blank : isBlank char = true) : char.isDigit = false := by
  simp only [isBlank, Bool.or_eq_true, beq_iff_eq] at blank
  rcases blank with (((rfl | rfl) | rfl) | rfl) | rfl <;> decide

/-- The first character of a word is no blank. -/
theorem Spells.begins {token : TypeToken} {word : List Char} (spells : Spells token word) :
    ∃ char rest, word = char :: rest ∧ isBlank char = false := by
  cases spells with
  | int => exact ⟨_, _, rfl, by decide⟩
  | @size digit _ leading =>
      refine ⟨_, _, rfl, Bool.eq_false_iff.mpr fun blank => ?_⟩
      rw [isDigit_of_isBlank blank] at leading
      cases leading
  | sign known => exact ⟨_, _, rfl, (apart_of_sign known).1⟩
  | _ => exact ⟨_, _, rfl, by decide⟩

/-- A token as it is written in a text. -/
abbrev Lexeme : Type :=
  TypeToken × List Char

/-- **A text is written** with some lexemes, one after the other, with blanks between them. -/
inductive Writes : List Char → List Lexeme → Prop where
  /-- Nothing is left. -/
  | nil : Writes [] []
  /-- A blank comes first. -/
  | blank {char : Char} {rest : List Char} {lexemes : List Lexeme} (isBlank : isBlank char = true)
      (writes : Writes rest lexemes) : Writes (char :: rest) lexemes
  /-- A word comes first. -/
  | lexeme {token : TypeToken} {word rest : List Char} {lexemes : List Lexeme}
      (spells : Spells token word) (writes : Writes rest lexemes) :
      Writes (word ++ rest) ((token, word) :: lexemes)

/-- One text may come behind another one. -/
theorem Writes.append {first second : List Char} {lexemes others : List Lexeme}
    (writes : Writes first lexemes) (behind : Writes second others) :
    Writes (first ++ second) (lexemes ++ others) := by
  induction writes with
  | nil => exact behind
  | blank isBlank _ ih => exact .blank isBlank ih
  | lexeme spells _ ih =>
      rw [List.append_assoc]
      exact .lexeme spells ih

/-- The words of a text spell their tokens. -/
theorem Writes.spells {text : List Char} {lexemes : List Lexeme} (writes : Writes text lexemes) :
    ∀ lexeme ∈ lexemes, Spells lexeme.1 lexeme.2 := by
  induction writes with
  | nil => exact List.forall_mem_nil _
  | blank _ _ ih => exact ih
  | lexeme spells _ ih => exact List.forall_mem_cons.mpr ⟨spells, ih⟩

/-- A text of a single word. -/
theorem Spells.writes {token : TypeToken} {word : List Char} (spells : Spells token word) :
    Writes word [(token, word)] := by
  have writes := Writes.lexeme spells .nil
  rwa [List.append_nil] at writes

/-! ## The first word -/

/-- What comes first in a text is no digit. -/
def BeginsApart (text : List Char) : Prop :=
  ∀ char ∈ text.head?, char.isDigit = false

/-- The digits in front of something else are all there are. -/
theorem takeWhile_digits {digits rest : List Char}
    (all : ∀ other ∈ digits, other.isDigit = true) (apart : BeginsApart rest) :
    (digits ++ rest).takeWhile Char.isDigit = digits ∧
      (digits ++ rest).dropWhile Char.isDigit = rest := by
  rw [List.takeWhile_append_of_pos all, List.dropWhile_append_of_pos all]
  cases rest with
  | nil => simp
  | cons char rest => simp [apart char rfl]

/-- The first token of a text that begins with the word of a token. -/
theorem first?_of_spells {token : TypeToken} {word rest : List Char} (spells : Spells token word)
    (apart : token ≠ .openArray → token ≠ .openVector → BeginsApart rest) :
    first? (word ++ rest) = some (token, rest) := by
  cases spells with
  | @int digit digits leading positive following =>
      obtain ⟨taken, left⟩ := takeWhile_digits following (apart (by simp) (by simp))
      simp [first?, leading, positive, taken, left]
  | @size digit digits leading following =>
      obtain ⟨taken, left⟩ := takeWhile_digits following (apart (by simp) (by simp))
      rw [List.cons_append, first?.eq_6]
      · rw [leading, if_pos rfl, taken, left]
      -- No word begins with a digit.
      all_goals
        intros
        subst_vars
        exact absurd leading (by decide)
  | sign known =>
      simp only [signs, List.mem_cons, Prod.mk.injEq, List.not_mem_nil, or_false] at known
      rcases known with ⟨rfl, rfl⟩ | ⟨rfl, rfl⟩ | ⟨rfl, rfl⟩ | ⟨rfl, rfl⟩ | ⟨rfl, rfl⟩ |
        ⟨rfl, rfl⟩ | ⟨rfl, rfl⟩ | ⟨rfl, rfl⟩ | ⟨rfl, rfl⟩ <;> rfl
  | _ => rfl

/-- What comes first in a text is the word of a token. -/
theorem spells_of_first? {text rest : List Char} {token : TypeToken}
    (found : first? text = some (token, rest)) :
    ∃ word, Spells token word ∧ text = word ++ rest := by
  have digits (chars : List Char) : ∀ other ∈ chars.takeWhile Char.isDigit, other.isDigit = true :=
    fun _ member => List.mem_takeWhile_imp member
  unfold first? at found
  split at found
  case h_5 digit tail =>
    split at found
    next valid =>
      obtain ⟨rfl, rfl⟩ := Prod.mk.inj (Option.some.inj found)
      rw [Bool.and_eq_true, bne_iff_ne] at valid
      refine ⟨_, .int valid.1 valid.2 (digits tail), ?_⟩
      rw [List.cons_append, List.cons_append, List.takeWhile_append_dropWhile]
    next => cases found
  case h_6 char tail _ _ _ _ _ =>
    split at found
    next isDigit =>
      obtain ⟨rfl, rfl⟩ := Prod.mk.inj (Option.some.inj found)
      refine ⟨_, .size isDigit (digits tail), ?_⟩
      rw [List.cons_append, List.takeWhile_append_dropWhile]
    next =>
      obtain ⟨sign, known, same⟩ := Option.map_eq_some_iff.mp found
      obtain ⟨rfl, rfl⟩ := Prod.mk.inj same
      refine ⟨[char], .sign ?_, rfl⟩
      unfold ofChar? at known
      split at known <;> cases known <;> decide
  case h_7 => cases found
  all_goals
    obtain ⟨rfl, rfl⟩ := Prod.mk.inj (Option.some.inj found)
    exact ⟨_, by constructor, rfl⟩

/-! ## All words -/

/-- The first token is a size. -/
def BeginsWithSize (tokens : List TypeToken) : Prop :=
  ∃ number, tokens.head? = some (.size number)

/-- **Spaced tokens**: sizes come up only behind opening brackets. -/
def IsSpaced : List TypeToken → Prop
  | [] => True
  | token :: tokens =>
      (token ≠ .openArray → token ≠ .openVector → ¬ BeginsWithSize tokens) ∧ IsSpaced tokens

/-- Spaced tokens behind spaced tokens, where no size comes first. -/
theorem IsSpaced.append {first second : List TypeToken} (spaced : IsSpaced first)
    (behind : IsSpaced second) (apart : ¬ BeginsWithSize second) : IsSpaced (first ++ second) := by
  induction first with
  | nil => exact behind
  | cons token tokens ih =>
      refine ⟨fun array vector => ?_, ih spaced.2⟩
      cases tokens with
      | nil => exact apart
      | cons other others => exact spaced.1 array vector

/-- A text begins with a digit only if its first token is a size. -/
theorem Writes.beginsApart {text : List Char} {lexemes : List Lexeme} (writes : Writes text lexemes)
    (apart : ¬ BeginsWithSize (lexemes.map Prod.fst)) : BeginsApart text := by
  cases writes with
  | nil => exact fun char member => by cases member
  | @blank char rest _ isBlank =>
      intro other member
      cases member
      exact isDigit_of_isBlank isBlank
  | @lexeme token word rest _ spells =>
      intro other member
      cases spells with
      | size => exact (apart ⟨_, rfl⟩).elim
      | sign known =>
          cases member
          exact (apart_of_sign known).2
      | _ =>
          cases member
          decide

/-- The first token of a text of spaced tokens. -/
theorem Writes.first? {token : TypeToken} {word rest : List Char} {lexemes : List Lexeme}
    (spells : Spells token word) (writes : Writes rest lexemes)
    (spaced : IsSpaced (token :: lexemes.map Prod.fst)) :
    TypeToken.first? (word ++ rest) = some (token, rest) :=
  first?_of_spells spells fun array vector => writes.beginsApart (spaced.1 array vector)

/-- **Each text that can be taken apart** is written with the tokens that are found. -/
theorem writes_of_tokenize? (text : List Char) {tokens : List TypeToken}
    (found : tokenize? text = some tokens) :
    ∃ lexemes, Writes text lexemes ∧ lexemes.map Prod.fst = tokens := by
  induction text using tokenize?.induct generalizing tokens with
  | case1 =>
      rw [tokenize?] at found
      cases found
      exact ⟨[], .nil, rfl⟩
  | case2 char rest isBlank ih =>
      rw [tokenize?, if_pos isBlank] at found
      obtain ⟨lexemes, writes, same⟩ := ih found
      exact ⟨lexemes, .blank isBlank writes, same⟩
  | case3 char rest isBlank missing =>
      rw [tokenize?, if_neg isBlank] at found
      split at found
      next => cases found
      next known => cases missing.symm.trans known
  | case4 char rest isBlank token following first ih =>
      rw [tokenize?, if_neg isBlank] at found
      split at found
      next => cases found
      next other left known =>
        obtain ⟨rfl, rfl⟩ := Prod.mk.inj (Option.some.inj (first.symm.trans known))
        obtain ⟨others, tokenized, rfl⟩ := Option.map_eq_some_iff.mp found
        obtain ⟨lexemes, writes, rfl⟩ := ih tokenized
        obtain ⟨word, spells, same⟩ := spells_of_first? first
        exact ⟨(token, word) :: lexemes, same ▸ .lexeme spells writes, rfl⟩

/-- **A text of spaced tokens** is taken apart into them. -/
theorem tokenize?_of_writes {text : List Char} {lexemes : List Lexeme} (writes : Writes text lexemes)
    (spaced : IsSpaced (lexemes.map Prod.fst)) :
    tokenize? text = some (lexemes.map Prod.fst) := by
  induction writes with
  | nil => rw [tokenize?, List.map_nil]
  | blank isBlank _ ih => rw [tokenize?, if_pos isBlank, ih spaced]
  | @lexeme token word rest lexemes spells writes ih =>
      have first := writes.first? spells spaced
      obtain ⟨char, tail, rfl, apart⟩ := spells.begins
      rw [List.cons_append] at first ⊢
      rw [tokenize?, if_neg (Bool.eq_false_iff.mp apart)]
      split
      next missing => cases missing.symm.trans first
      next other left known =>
        obtain ⟨rfl, rfl⟩ := Prod.mk.inj (Option.some.inj (known.symm.trans first))
        rw [ih spaced.2]
        rfl

/-- **The lexemes of a text** are the only ones with which it can be written. -/
theorem Writes.unique {text : List Char} {lexemes others : List Lexeme}
    (writes : Writes text lexemes) (spaced : IsSpaced (lexemes.map Prod.fst))
    (again : Writes text others) (spacedToo : IsSpaced (others.map Prod.fst)) :
    lexemes = others := by
  induction writes generalizing others with
  | nil =>
      generalize same : ([] : List Char) = text at again
      cases again with
      | nil => rfl
      | blank => cases same
      | lexeme spells =>
          obtain ⟨char, tail, rfl, -⟩ := spells.begins
          cases same
  | @blank char rest lexemes isBlank writes ih =>
      generalize same : char :: rest = text at again
      cases again with
      | nil => cases same
      | blank _ again =>
          cases same
          exact ih spaced again spacedToo
      | lexeme spells =>
          obtain ⟨first, tail, rfl, apart⟩ := spells.begins
          cases same
          rw [isBlank] at apart
          cases apart
  | @lexeme token word rest lexemes spells writes ih =>
      have first := writes.first? spells spaced
      generalize same : word ++ rest = text at again first
      cases again with
      | nil =>
          obtain ⟨char, tail, rfl, -⟩ := spells.begins
          cases same
      | blank isBlank =>
          obtain ⟨char, tail, rfl, apart⟩ := spells.begins
          cases same
          rw [isBlank] at apart
          cases apart
      | lexeme spellsToo again =>
          obtain ⟨rfl, rfl⟩ :=
            Prod.mk.inj (Option.some.inj (first.symm.trans (again.first? spellsToo spacedToo)))
          obtain rfl := List.append_cancel_right same
          rw [ih spaced.2 again spacedToo.2]

/-! ## Long numbers -/

/-- Some number is written with more digits than are read. -/
def HasLongNumber (lexemes : List Lexeme) : Prop :=
  ∃ lexeme ∈ lexemes, Number.maximalDigits < lexeme.2.countP Char.isDigit

/-- A run of digits goes on with further digits. -/
theorem longestRun_digits {digits : List Char} (all : ∀ other ∈ digits, other.isDigit = true)
    (run : Nat) (rest : List Char) :
    longestRun run (digits ++ rest) = longestRun (run + digits.length) rest := by
  induction digits generalizing run with
  | nil => rfl
  | cons digit digits ih =>
      obtain ⟨isDigit, all⟩ := List.forall_mem_cons.mp all
      rw [List.cons_append, longestRun, if_pos isDigit, ih all, List.length_cons]
      congr 1
      omega

/-- A run of digits ends where no digit follows. -/
theorem longestRun_apart {rest : List Char} (apart : BeginsApart rest) (run : Nat) :
    longestRun run rest = max run (longestRun 0 rest) := by
  cases rest with
  | nil => simp [longestRun]
  | cons char rest => simp [longestRun, apart char rfl]

/-- Letters in front of a text make no run of digits. -/
theorem longestRun_letters {letters : List Char} (all : ∀ other ∈ letters, other.isDigit = false)
    (rest : List Char) : longestRun 0 (letters ++ rest) = longestRun 0 rest := by
  induction letters with
  | nil => rfl
  | cons letter letters ih =>
      obtain ⟨apart, all⟩ := List.forall_mem_cons.mp all
      rw [List.cons_append, longestRun, if_neg (by simp [apart]), ih all, Nat.zero_max]

/-- The digits of a word are one run. -/
theorem longestRun_spells {token : TypeToken} {word rest : List Char} (spells : Spells token word)
    (apart : token ≠ .openArray → token ≠ .openVector → BeginsApart rest) :
    longestRun 0 (word ++ rest) = max (word.countP Char.isDigit) (longestRun 0 rest) := by
  have letters (all : ∀ other ∈ word, other.isDigit = false) :
      longestRun 0 (word ++ rest) = max (word.countP Char.isDigit) (longestRun 0 rest) := by
    rw [longestRun_letters all, List.countP_eq_zero.mpr (by simpa using all), Nat.zero_max]
  cases spells with
  | @int digit digits leading positive following =>
      have all : ∀ other ∈ digit :: digits, other.isDigit = true :=
        List.forall_mem_cons.mpr ⟨leading, following⟩
      have count := List.countP_eq_length.mpr all
      rw [List.cons_append, longestRun, if_neg (by decide), Nat.zero_max,
        longestRun_digits all, longestRun_apart (apart (by simp) (by simp)),
        List.countP_cons_of_neg (by decide), count, Nat.zero_add]
  | @size digit digits leading following =>
      have all : ∀ other ∈ digit :: digits, other.isDigit = true :=
        List.forall_mem_cons.mpr ⟨leading, following⟩
      have count := List.countP_eq_length.mpr all
      rw [longestRun_digits all, longestRun_apart (apart (by simp) (by simp)), count, Nat.zero_add]
  | sign known => exact letters (List.forall_mem_singleton.mpr (apart_of_sign known).2)
  | _ => exact letters (by simp)

/-- **The longest run of digits** in a text of spaced tokens is too long if a number is. -/
theorem longestRun_writes {text : List Char} {lexemes : List Lexeme} (writes : Writes text lexemes)
    (spaced : IsSpaced (lexemes.map Prod.fst)) :
    Number.maximalDigits < longestRun 0 text ↔ HasLongNumber lexemes := by
  induction writes with
  | nil => simp [longestRun, HasLongNumber]
  | blank isBlank _ ih =>
      rw [← ih spaced, longestRun, if_neg (by simp [isDigit_of_isBlank isBlank]),
        Nat.zero_max]
  | lexeme spells writes ih =>
      rw [longestRun_spells spells fun array vector => writes.beginsApart (spaced.1 array vector),
        lt_max_iff, ih spaced.2, HasLongNumber, HasLongNumber, List.exists_mem_cons_iff]

end TypeToken

end StructuredIR
