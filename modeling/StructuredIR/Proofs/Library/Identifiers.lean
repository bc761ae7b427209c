import StructuredIR.Proofs.Library.Fallbacks

/-! # Names of libraries are identifiers

The name of a library stands at the head of its module, and before the names of its definitions and of its
strings.

* **`Library.IsIdentifier`** says which rows of characters are identifiers.
* **`Library.isValidName_iff`**: a name is accepted if it is an identifier, and also if a line feed follows
  one.
* **`World.KeepsNames`**: libraries keep their names, whatever scripts do.
* **`Library.name_create`**: a library has an identifier as its name, the given one if there is one, unless
  it was given one with a line feed behind it. -/

namespace StructuredIR

open Build (Leads bind_eq_ok pure_eq_ok)

namespace Library

/-! ## Identifiers -/

/-- A letter of ASCII. -/
def IsLetter (char : Char) : Prop :=
  'a' ≤ char ∧ char ≤ 'z' ∨ 'A' ≤ char ∧ char ≤ 'Z'

/-- A digit of ASCII. -/
def IsDigit (char : Char) : Prop :=
  '0' ≤ char ∧ char ≤ '9'

/-- **A row of characters is an identifier**: letters, digits, underscores and periods, with a letter or an
underscore in front. -/
structure IsIdentifier (name : List Char) : Prop where
  /-- It begins with a letter or an underscore. -/
  begins : ∃ first rest, name = first :: rest ∧ (IsLetter first ∨ first = '_')
  /-- It has nothing but letters, digits, underscores and periods. -/
  within : ∀ char ∈ name, IsLetter char ∨ IsDigit char ∨ char = '_' ∨ char = '.'

theorem isAlpha_iff (char : Char) : char.isAlpha = true ↔ IsLetter char := by
  simp [Char.isAlpha, Char.isUpper, Char.isLower, IsLetter, Char.le_def, or_comm]

theorem isDigit_iff (char : Char) : char.isDigit = true ↔ IsDigit char := by
  simp [Char.isDigit, IsDigit, Char.le_def]

theorem isNameStart_iff (char : Char) : isNameStart char = true ↔ IsLetter char ∨ char = '_' := by
  simp [isNameStart, isAlpha_iff]

theorem isNameRest_iff (char : Char) :
    isNameRest char = true ↔ IsLetter char ∨ IsDigit char ∨ char = '_' ∨ char = '.' := by
  simp [isNameRest, Char.isAlphanum, isAlpha_iff, isDigit_iff, or_assoc]

/-- A row of characters is an identifier if each of its characters is where it may be. -/
theorem isIdentifier_cons (first : Char) (rest : List Char) :
    IsIdentifier (first :: rest) ↔ isNameStart first = true ∧ rest.all isNameRest = true := by
  rw [isNameStart_iff, List.all_eq_true]
  constructor
  · rintro ⟨⟨_, _, same, begins⟩, within⟩
    cases same
    exact ⟨begins, fun char member => (isNameRest_iff char).mpr (within char (.tail _ member))⟩
  · rintro ⟨begins, within⟩
    refine ⟨⟨first, rest, rfl, begins⟩, fun char member => ?_⟩
    rcases List.mem_cons.mp member with rfl | member
    · exact begins.imp_right fun underscore => .inr (.inl underscore)
    · exact (isNameRest_iff char).mp (within char member)

instance (name : List Char) : Decidable (IsIdentifier name) :=
  match name with
  | [] => isFalse fun ⟨⟨_, _, impossible, _⟩, _⟩ => nomatch impossible
  | first :: rest => decidable_of_iff _ (isIdentifier_cons first rest).symm

/-- No identifier is empty. -/
theorem IsIdentifier.ne_nil {name : List Char} (identifier : IsIdentifier name) : name ≠ [] := by
  obtain ⟨first, rest, rfl, -⟩ := identifier.begins
  exact List.cons_ne_nil first rest

/-- There is no line feed in an identifier. -/
theorem IsIdentifier.lineFeed_notMem {name : List Char} (identifier : IsIdentifier name) :
    '\n' ∉ name := by
  intro member
  have impossible := (isNameRest_iff '\n').mpr (identifier.within '\n' member)
  exact absurd impossible (by decide)

/-- A name is accepted if what stands before a final line feed is an identifier. -/
theorem isValidName_eq (name : String) :
    isValidName name = true ↔ IsIdentifier (Text.withoutFinalLineFeed name.toList) := by
  unfold isValidName
  cases Text.withoutFinalLineFeed name.toList with
  | nil => exact iff_of_false Bool.false_ne_true fun identifier => identifier.ne_nil rfl
  | cons first rest => rw [isIdentifier_cons, Bool.and_eq_true]

/-- **A name is accepted** exactly if it is an identifier, or one with a line feed behind it. -/
theorem isValidName_iff (name : String) :
    isValidName name = true ↔ IsIdentifier name.toList ∨
      ∃ stem : String, IsIdentifier stem.toList ∧ name = stem ++ "\n" := by
  rw [isValidName_eq, Text.withoutFinalLineFeed]
  split
  next ends =>
    -- The line feed is cut off before the rest is looked at.
    have split : name.toList = name.toList.dropLast ++ ['\n'] :=
      (List.dropLast_append_getLast? '\n' ends).symm
    constructor
    · intro identifier
      refine .inr ⟨String.ofList name.toList.dropLast, by rwa [String.toList_ofList], ?_⟩
      apply String.toList_inj.mp
      rw [String.toList_append, String.toList_ofList]
      exact split
    · rintro (identifier | ⟨stem, identifier, rfl⟩)
      · exact absurd (List.mem_of_getLast? ends) identifier.lineFeed_notMem
      · rw [String.toList_append]
        simpa using identifier
  next other =>
    refine ⟨.inl, ?_⟩
    rintro (identifier | ⟨stem, -, rfl⟩)
    · exact identifier
    · exact absurd (by simp) other

/-- Made-up names are identifiers. -/
theorem isIdentifier_madeUp (number : Nat) :
    IsIdentifier ("library" ++ toString number).toList := by
  have shown : ("library" ++ toString number).toList =
      'l' :: (['i', 'b', 'r', 'a', 'r', 'y'] ++ Nat.toDigits 10 number) := by
    rw [String.toList_append, Nat.toString_eq_repr, Nat.toList_repr]
    rfl
  rw [shown, isIdentifier_cons, List.all_append, Bool.and_eq_true]
  refine ⟨rfl, rfl, List.all_eq_true.mpr fun digit member => ?_⟩
  have isDigit : digit.isDigit = true := Nat.isDigit_of_mem_toDigits (by decide) (by decide) member
  exact (isNameRest_iff digit).mpr (.inr (.inl ((isDigit_iff digit).mp isDigit)))

/-- The words that are equal to identifiers are written as identifiers. -/
theorem IsIdentifier.plain {phrase : Phrase} (identifier : IsIdentifier phrase.content.toList) :
    IsIdentifier phrase.plain.toList := by
  cases phrase with
  | text content => exact identifier
  | visibility known => cases known <;> decide +kernel
  | policy known => cases known <;> decide +kernel

/-! ## The name of a new library -/

/-- A value is a valid name if it is a phrase whose text is accepted. -/
theorem validName?_eq_some {name : Value} {phrase : Phrase} :
    validName? name = some phrase ↔
      name.phrase? = some phrase ∧ isValidName phrase.content = true := by
  rw [validName?, Option.filter_eq_some_iff]

/-- A name that is chosen is the given one or a made-up one. -/
theorem chooseName_ok {report after : Report} {echo name : Value} {chosen : Phrase}
    {world final : World} (run : chooseName report echo name world = .ok (chosen, after) final) :
    chosen = givenName world name := by
  unfold chooseName at run
  unfold givenName
  cases valid : validName? name with
  | some phrase =>
      rw [valid] at run
      cases run
      rfl
  | none =>
      rw [valid] at run
      obtain ⟨madeUp, _, made, run⟩ := bind_eq_ok.mp run
      cases made
      split at run
      · cases run
        rfl
      · obtain ⟨_, _, _, run⟩ := bind_eq_ok.mp run
        obtain ⟨_, _, _, run⟩ := bind_eq_ok.mp run
        cases run
        rfl

/-- A library that has come up is the last one. -/
theorem found_ok {library : Library} {world after : World} {place : LibraryId}
    (run : found library world = .ok place after) :
    place < after.libraries.length ∧ after.library place = library := by
  by_cases taken : library.IsTaken world
  · rw [found_refused taken] at run
    cases run
  · rw [found_run taken] at run
    cases run
    have libraries : (world.founding library).libraries = world.libraries ++ [library] := by
      unfold World.founding
      cases library.registry <;> rfl
    rw [World.library, libraries]
    simp

/-- **A library without a body has the given name or a made-up one**, and so have its module and its
pool. -/
theorem create_ok {name visibility policy given echo : Value} {world after : World} {place : LibraryId}
    (run : create name visibility policy given echo none world = .ok place after) :
    place < after.libraries.length ∧ ∃ visibility policy registry report,
      after.library place = .empty (givenName world name) visibility policy registry report echo := by
  rw [create_eq] at run
  obtain ⟨⟨chosen, report⟩, named, naming, run⟩ := bind_eq_ok.mp run
  obtain ⟨⟨visibility, noted⟩, seen, seeing, run⟩ := bind_eq_ok.mp run
  obtain ⟨⟨policy, settled⟩, ruled, ruling, run⟩ := bind_eq_ok.mp run
  obtain ⟨registry, _, looking, run⟩ := bind_eq_ok.mp run
  obtain rfl := chooseName_ok naming
  obtain ⟨inside, same⟩ := found_ok run
  exact ⟨inside, visibility, policy, registry, settled, same⟩

/-- A body is called once its library has come up. -/
theorem create_some (name visibility policy given echo : Value) (body : Callback) :
    create name visibility policy given echo (some body) = (do
      let place ← create name visibility policy given echo none
      let _ ← body.run [.library place]
      return place) := by
  unfold create
  -- The body stands behind each way through the registry, so these are taken apart first.
  simp only [bind_assoc]
  refine bind_congr fun named => bind_congr fun seen => bind_congr fun ruled =>
    bind_congr fun registry => ?_
  cases registry <;> simp only [bind_assoc, pure_bind]

/-- A library with a body comes up first, and then scripts go on. -/
theorem create_attains {name visibility policy given echo : Value} {body : Option Callback}
    {world after : World} {place : LibraryId}
    (scripts : ∀ callback ∈ body, callback.LeadsTo Script.Attains)
    (run : create name visibility policy given echo body world = .ok place after) :
    ∃ founded, create name visibility policy given echo none world = .ok place founded ∧
      Script.Attains founded after := by
  cases body with
  | none => exact ⟨after, run, IsEffect.refl after⟩
  | some body =>
      rw [create_some] at run
      obtain ⟨founded, between, founding, run⟩ := bind_eq_ok.mp run
      obtain ⟨_, _, calling, run⟩ := bind_eq_ok.mp run
      obtain ⟨rfl, rfl⟩ := pure_eq_ok.mp run
      exact ⟨between, founding, (scripts body rfl _).of_ok calling⟩

/-! ## Names stay -/

/-- All that a library is called by: its own name, and what its module and its pool have of it. -/
def names (library : Library) : Phrase × Phrase × String :=
  (library.name, library.module.name, library.pool.stem)

end Library

/-- **Libraries keep their names.** -/
structure World.KeepsNames (before after : World) : Prop where
  /-- There are no fewer libraries. -/
  length : before.libraries.length ≤ after.libraries.length
  /-- Each library is called as it was. -/
  names (place : LibraryId) : place < before.libraries.length →
    (after.library place).names = (before.library place).names

namespace World.KeepsNames

instance : IsEffect World.KeepsNames where
  refl _ := ⟨le_rfl, fun _ _ => rfl⟩
  trans first second := ⟨first.length.trans second.length, fun place inside =>
    (second.names place (inside.trans_le first.length)).trans (first.names place inside)⟩

/-- Names are kept where no library changes. -/
theorem of_libraries {before after : World} (same : after.libraries = before.libraries) :
    before.KeepsNames after := by
  refine ⟨same ▸ le_rfl, fun place _ => ?_⟩
  rw [World.library, World.library, same]

/-- Names are kept when a library changes that is called the same. -/
theorem of_changeLibrary (world : World) (place : LibraryId) {update : Library → Library}
    (names : (update (world.library place)).names = (world.library place).names) :
    world.KeepsNames (world.changeLibrary place update) := by
  refine ⟨(world.length_changeLibrary place update).ge, fun other _ => ?_⟩
  rw [library_changeLibrary]
  split
  next same => rwa [same.1]
  next => rfl

/-- Names are kept when a symbol is declared. -/
theorem leads_declareSymbol (place : LibraryId) (name : Name) (content : Content) :
    Leads World.KeepsNames (Build.declareSymbol place name content) := by
  intro world
  cases run : Build.declareSymbol place name content world with
  | ok symbol after =>
      rw [Build.after_of_ok run, (Build.declareSymbol_ok run).2]
      exact of_changeLibrary world place rfl
  | error fault after =>
      rw [Build.after_of_error run, Build.declareSymbol_error run]
      exact IsEffect.refl world

end World.KeepsNames

instance : AllowsTexts World.KeepsNames where
  held _ _ _ := .of_libraries rfl
  block world place _ := .of_changeLibrary world place.routine.owner rfl
  global world symbol _ := .of_changeLibrary world symbol.owner rfl

instance : AllowsDeclarations World.KeepsNames where
  intern place text world := by
    refine .of_changeLibrary world place ?_
    dsimp only [Library.names, StringPool.intern]
    split <;> rfl
  routine place name _ _ _ := World.KeepsNames.leads_declareSymbol place name _
  aside libraries _ := .of_libraries libraries
  changeRoutine world symbol _ := .of_changeLibrary world symbol.owner rfl
  changeFunction world reference _ _ := .of_changeLibrary world reference.owner rfl
  changeReport world place _ := .of_changeLibrary world place rfl
  addLibrary world library _ _ _ := by
    refine ⟨by simp, fun place inside => ?_⟩
    rw [World.library_append, if_neg inside.ne]
  changeDefault world place _ := .of_changeLibrary world place rfl
  global' place name _ := World.KeepsNames.leads_declareSymbol place name _
  changeGlobal world symbol _ := .of_changeLibrary world symbol.owner rfl
  addFragment _ _ := .of_libraries rfl
  changeFragment _ _ _ := .of_libraries rfl
  enterFunction world place _ _ _ := .of_changeLibrary world place rfl
  enterFragment world place _ _ _ := .of_changeLibrary world place rfl
  enterGlobal world place _ _ _ := .of_changeLibrary world place rfl
  changeEntry world place _ _ := .of_changeLibrary world place rfl

namespace Library

/-! ## Names are identifiers -/

/-- **A value is an identifier with a line feed behind it.** -/
def EndsLine (name : Value) : Prop :=
  ∃ (phrase : Phrase) (stem : String), name.phrase? = some phrase ∧ IsIdentifier stem.toList ∧
    phrase.content = stem ++ "\n"

/-- An identifier that is given is the name. -/
theorem givenName_of_isIdentifier {name : Value} {phrase : Phrase} (known : name.phrase? = some phrase)
    (identifier : IsIdentifier phrase.content.toList) (world : World) :
    givenName world name = phrase := by
  have valid : validName? name = some phrase :=
    validName?_eq_some.mpr ⟨known, (isValidName_iff _).mpr (.inl identifier)⟩
  rw [givenName, valid]
  rfl

/-- **The name that a library is given is an identifier** unless the value is one with a line feed behind
it. -/
theorem isIdentifier_givenName_iff (name : Value) (world : World) :
    IsIdentifier (givenName world name).content.toList ↔ ¬ EndsLine name := by
  unfold givenName
  cases valid : validName? name with
  | none =>
      refine iff_of_true (isIdentifier_madeUp _) ?_
      rintro ⟨phrase, stem, known, identifier, fed⟩
      have accepted : isValidName phrase.content = true :=
        (isValidName_iff _).mpr (.inr ⟨stem, identifier, fed⟩)
      rw [validName?_eq_some.mpr ⟨known, accepted⟩] at valid
      cases valid
  | some phrase =>
      obtain ⟨known, accepted⟩ := validName?_eq_some.mp valid
      rcases (isValidName_iff _).mp accepted with identifier | ⟨stem, identifier, fed⟩
      · refine iff_of_true identifier ?_
        rintro ⟨other, stem, same, -, fed⟩
        cases known.symm.trans same
        refine identifier.lineFeed_notMem ?_
        rw [fed, String.toList_append]
        exact List.mem_append_right _ (.head _)
      · refine iff_of_false (fun whole => whole.lineFeed_notMem ?_) fun apart =>
          apart ⟨phrase, stem, known, identifier, fed⟩
        show '\n' ∈ phrase.content.toList
        rw [fed, String.toList_append]
        exact List.mem_append_right _ (.head _)

/-- **A library is called by an identifier**, whatever value it is given as its name and whatever its body
and scripts do then: the name, the module and the pool of strings keep one name. It is the given one if
that is an identifier. It is an identifier, also as it is written, exactly if the value is not one with a
line feed behind it. -/
theorem name_create {name visibility policy given echo : Value} {body : Option Callback}
    {world founded later : World} {place : LibraryId}
    (scripts : ∀ callback ∈ body, callback.LeadsTo Script.Attains)
    (run : create name visibility policy given echo body world = .ok place founded)
    (attains : Script.Attains founded later) :
    ∃ chosen : Phrase, (later.library place).names = (chosen, chosen, chosen.plain) ∧
      (∀ phrase, name.phrase? = some phrase → IsIdentifier phrase.content.toList →
        chosen = phrase) ∧
      (IsIdentifier chosen.content.toList ∧ IsIdentifier chosen.plain.toList ↔ ¬ EndsLine name) := by
  obtain ⟨between, founding, onwards⟩ := create_attains scripts run
  obtain ⟨inside, visibility, policy, registry, report, made⟩ := create_ok founding
  have keeps : between.KeepsNames later := IsEffect.trans onwards attains World.KeepsNames
  have called : (between.library place).names =
      (givenName world name, givenName world name, (givenName world name).plain) := by
    rw [made]
    rfl
  refine ⟨givenName world name, (keeps.names place inside).trans called,
    fun phrase known identifier => givenName_of_isIdentifier known identifier world, ?_⟩
  rw [← isIdentifier_givenName_iff name world]
  exact and_iff_left_of_imp IsIdentifier.plain

/-- A library is named by a text that is an identifier. -/
theorem name_create_dotted :
    (∀ callback ∈ (none : Option Callback), callback.LeadsTo Script.Attains) ∧
      ∃ founded, create (.text "lib.v2") (.text "public") (.text "smart") .none .none none
          Script.initialWorld = .ok 0 founded ∧
        Script.Attains founded founded ∧
        (founded.library 0).names = (.text "lib.v2", .text "lib.v2", "lib.v2") := by
  have scripts : ∀ callback ∈ (none : Option Callback), callback.LeadsTo Script.Attains := nofun
  obtain ⟨founded, run⟩ : ∃ founded, create (.text "lib.v2") (.text "public") (.text "smart") .none
      .none none Script.initialWorld = .ok 0 founded := ⟨_, rfl⟩
  have attains : Script.Attains founded founded := IsEffect.refl founded
  obtain ⟨chosen, called, kept, -⟩ := name_create scripts run attains
  obtain rfl := kept (.text "lib.v2") rfl (by decide +kernel)
  exact ⟨scripts, founded, run, attains, called⟩

/-- **A line feed behind an identifier stays in the name**, and stands in the head of the module and in the
names of definitions. -/
theorem name_create_lineFeed :
    ∃ founded, create (.text "lib\n") (.text "public") (.text "smart") .none .none none
        Script.initialWorld = .ok 0 founded ∧
      (founded.library 0).name = .text "lib\n" ∧ ¬ IsIdentifier "lib\n".toList ∧
      (Wording.moduleHeader (founded.library 0).module).head? = some "; ModuleID = \"lib\n\"" ∧
      symbolName (founded.library 0) (.text "f") founded = .ok (.text "lib\n_f") founded :=
  ⟨_, rfl, rfl, by decide +kernel, rfl, rfl⟩

end Library

end StructuredIR
