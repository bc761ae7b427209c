import StructuredIR.Library.Declaration
import StructuredIR.Proofs.Rows

/-! # Symbols of modules

What a symbol is, and how symbols come up.

* **`World.symbol?`** is what a symbol is called and what it is; the globals and the routines of a
  world are views of it.
* **`Build.declareSymbol_ok`**, **`Build.ensureRoutine_ok`** and **`Build.ensureGlobal_ok`** tell
  what is there once a symbol has been declared. -/

namespace StructuredIR

open Build (bind_eq_ok get_eq_ok pure_eq_ok modify_eq_ok lift_eq_ok throw_ne_ok)

namespace Dictionary

variable {Key Entry : Type} [DecidableEq Key]

/-- A key is at its place. -/
theorem placeOf?_eq_some {dictionary : Dictionary Key Entry} {key : Key} {place : Nat}
    (found : dictionary.placeOf? key = some place) :
    (dictionary[place]?).map Prod.fst = some key := by
  obtain ⟨inside, same, -⟩ := List.findIdx?_eq_some_iff_getElem.mp found
  rw [List.getElem?_eq_getElem inside, Option.map_some, eq_of_beq same]

end Dictionary

namespace Module

variable (module : Module)

/-- The global of a symbol. -/
theorem global?_eq (place : Nat) :
    module.global? place =
      (module.symbol? place).bind fun symbol =>
        match symbol.content with
        | .global global => some global
        | .routine _ => none := by
  unfold global?
  rcases module.symbol? place with _ | ⟨name, content⟩
  · rfl
  · cases content <;> rfl

/-- Changing a routine changes no global. -/
theorem global?_changeRoutine (place other : Nat) (update : Routine → Routine) :
    (module.changeRoutine place update).global? other = module.global? other := by
  simp only [global?_eq, changeRoutine, symbol?_change]
  split
  next same =>
    subst same
    rcases module.symbol? other with _ | ⟨name, content⟩
    · rfl
    · cases content <;> rfl
  next => rfl

/-- Changing a global changes that global and no other one. -/
theorem global?_changeGlobal (place other : Nat) (update : Global → Global) :
    (module.changeGlobal place update).global? other =
      if other = place then (module.global? place).map update else module.global? other := by
  simp only [global?_eq, changeGlobal, symbol?_change]
  split
  · rcases module.symbol? place with _ | ⟨name, content⟩
    · rfl
    · cases content <;> rfl
  · rfl

/-- The routine of a name is there, under that name. -/
theorem routineNamed?_eq_some {module : Module} {key : Key} {place : Nat}
    (found : module.routineNamed? key = some place) :
    (module.routine? place).isSome ∧ (module.symbols[place]?).map Prod.fst = some key := by
  unfold routineNamed? at found
  split at found
  next at_place =>
    split at found
    next there =>
      cases found
      exact ⟨there, Dictionary.placeOf?_eq_some at_place⟩
    next => cases found
  next => cases found

/-- The global of a name is there, under that name. -/
theorem globalNamed?_eq_some {module : Module} {key : Key} {place : Nat}
    (found : module.globalNamed? key = some place) :
    (module.global? place).isSome ∧ (module.symbols[place]?).map Prod.fst = some key := by
  unfold globalNamed? at found
  split at found
  next at_place =>
    split at found
    next there =>
      cases found
      exact ⟨there, Dictionary.placeOf?_eq_some at_place⟩
    next => cases found
  next => cases found

/-- The module with one more symbol. -/
def append (key : Key) (symbol : Symbol) : Module :=
  { module with symbols := module.symbols ++ [(key, symbol)] }

/-- A symbol of a module with one more. -/
theorem symbol?_append (key : Key) (symbol : Symbol) (place : Nat) :
    (module.append key symbol).symbol? place =
      if place = module.symbols.length then some symbol else module.symbol? place := by
  simp only [append, symbol?, List.getElem?_append]
  split
  next inside => rw [if_neg (Nat.ne_of_lt inside)]
  next beyond =>
    split
    next same => simp [same]
    next different =>
      have further : module.symbols.length < place :=
        Nat.lt_of_le_of_ne (Nat.le_of_not_lt beyond) fun equal => different equal.symm
      have shift : place - module.symbols.length ≠ 0 := Nat.sub_ne_zero_of_lt further
      simp [List.getElem?_eq_none (Nat.le_of_lt further), shift]

/-- A symbol that is declared comes up behind the others. -/
theorem declare_eq_ok {module declared : Module} {key : Key} {symbol : Symbol}
    (done : module.declare key symbol = .ok declared) : declared = module.append key symbol := by
  unfold declare at done
  split at done
  · cases done
  · cases done
    rfl

end Module

namespace World

variable (world : World)

/-- What a symbol is called and what it is, if it is there. -/
def symbol? (symbol : SymbolRef) : Option Symbol :=
  (world.library symbol.owner).module.symbol? symbol.place

theorem global?_eq (symbol : SymbolRef) :
    world.global? symbol =
      (world.symbol? symbol).bind fun known =>
        match known.content with
        | .global global => some global
        | .routine _ => none :=
  Module.global?_eq _ _

theorem routine?_eq (symbol : SymbolRef) :
    world.routine? symbol =
      (world.symbol? symbol).bind fun known =>
        match known.content with
        | .routine routine => some routine
        | .global _ => none :=
  Module.routine?_eq _ _

/-- A library after another one has come up. -/
theorem library_append (library : Library) (other : LibraryId) :
    ({ world with libraries := world.libraries ++ [library] } : World).library other =
      if other = world.libraries.length then library else world.library other := by
  simp only [World.library, List.getElem?_append]
  split
  next inside => rw [if_neg (Nat.ne_of_lt inside)]
  next beyond =>
    split
    next same => simp [same]
    next different =>
      have further : world.libraries.length < other :=
        Nat.lt_of_le_of_ne (Nat.le_of_not_lt beyond) fun equal => different equal.symm
      have shift : other - world.libraries.length ≠ 0 := Nat.sub_ne_zero_of_lt further
      simp [List.getElem?_eq_none (Nat.le_of_lt further), shift]

/-- Changing a library that is not there changes nothing. -/
theorem changeLibrary_of_length_le {place : LibraryId}
    (beyond : world.libraries.length ≤ place) (update : Library → Library) :
    world.changeLibrary place update = world := by
  rw [changeLibrary, List.modify_eq_self beyond]

/-- Changing a library keeps how many there are. -/
@[simp]
theorem length_changeLibrary (place : LibraryId) (update : Library → Library) :
    (world.changeLibrary place update).libraries.length = world.libraries.length :=
  List.length_modify ..

/-- Changing a module changes its globals, if the library is there. -/
theorem global?_changeModule (place : LibraryId) (update : Module → Module) (other : SymbolRef) :
    (world.changeModule place update).global? other =
      if other.owner = place ∧ place < world.libraries.length then
        (update (world.library place).module).global? other.place
      else world.global? other := by
  simp only [global?, changeModule, library_changeLibrary]
  split <;> rfl

/-- Changing a routine changes no global. -/
@[simp, grind =]
theorem global?_changeRoutine (symbol other : SymbolRef) (update : Routine → Routine) :
    (world.changeRoutine symbol update).global? other = world.global? other := by
  rw [changeRoutine, global?_changeModule]
  split
  next same => rw [Module.global?_changeRoutine, global?, same.1]
  next => rfl

/-- Changing a global changes that global, if it is there, and no other one. -/
theorem global?_changeGlobal (symbol other : SymbolRef) (update : Global → Global) :
    (world.changeGlobal symbol update).global? other =
      if other = symbol then (world.global? symbol).map update else world.global? other := by
  obtain ⟨owner, place⟩ := symbol
  obtain ⟨otherOwner, otherPlace⟩ := other
  simp only [changeGlobal, global?_changeModule, Module.global?_changeGlobal, SymbolRef.mk.injEq]
  by_cases inside : owner < world.libraries.length
  · by_cases same : otherOwner = owner
    · subst same
      simp only [inside, and_self, true_and, if_true]
      rfl
    · simp [same]
  · have missing : world.global? ⟨owner, place⟩ = none := by
      rw [global?, library_of_length_le _ (Nat.le_of_not_lt inside)]
      rfl
    simp only [inside, and_false, if_false, missing, Option.map_none]
    split
    next same => rw [same.1, same.2, missing]
    next => rfl

end World

namespace Build

/-- A symbol that has been declared stands behind the others. -/
theorem declareSymbol_ok {place : LibraryId} {name : Name} {content : Content}
    {world after : World} {symbol : SymbolRef}
    (run : declareSymbol place name content world = .ok symbol after) :
    symbol = ⟨place, (world.library place).module.symbols.length⟩ ∧
      after = world.changeModule place fun _ =>
        (world.library place).module.append name.key ⟨name.shown, content⟩ := by
  obtain ⟨seen, _, looked, run⟩ := bind_eq_ok.mp run
  obtain ⟨rfl, rfl⟩ := get_eq_ok.mp looked
  obtain ⟨_, _, looked, run⟩ := bind_eq_ok.mp run
  obtain ⟨rfl, rfl⟩ := get_eq_ok.mp looked
  obtain ⟨declared, _, declaring, run⟩ := bind_eq_ok.mp run
  obtain ⟨done, rfl⟩ := lift_eq_ok.mp declaring
  obtain ⟨_, _, changing, run⟩ := bind_eq_ok.mp run
  obtain rfl := modify_eq_ok.mp changing
  obtain ⟨rfl, rfl⟩ := pure_eq_ok.mp run
  exact ⟨rfl, by rw [Module.declare_eq_ok done]⟩

/-- A symbol that cannot be declared changes nothing. -/
theorem declareSymbol_error {place : LibraryId} {name : Name} {content : Content}
    {world after : World} {fault : Fault}
    (run : declareSymbol place name content world = .error fault after) : after = world := by
  unfold declareSymbol at run
  cases declaring : (world.library place).module.declare name.key ⟨name.shown, content⟩ with
  | ok declared =>
      simp only [bind, EStateM.bind, get, getThe, MonadStateOf.get, EStateM.get, declaring] at run
      cases run
  | error known =>
      simp only [bind, EStateM.bind, get, getThe, MonadStateOf.get, EStateM.get, declaring] at run
      cases run
      rfl

/-- The routine of a name is there already, or is declared. -/
theorem ensureRoutine_ok {place : LibraryId} {name : Name} {declared : Routine}
    {world after : World} {symbol : SymbolRef}
    (run : ensureRoutine place name declared world = .ok symbol after) :
    (world.library place).module.routineNamed? name.key = some symbol.place ∧
        symbol.owner = place ∧ after = world ∨
      symbol = ⟨place, (world.library place).module.symbols.length⟩ ∧
        after = world.changeModule place fun _ =>
          (world.library place).module.append name.key ⟨name.shown, .routine declared⟩ := by
  obtain ⟨seen, _, looked, run⟩ := bind_eq_ok.mp run
  obtain ⟨rfl, rfl⟩ := get_eq_ok.mp looked
  cases found : (world.library place).module.routineNamed? name.key with
  | some known =>
      rw [found] at run
      obtain ⟨rfl, rfl⟩ := pure_eq_ok.mp run
      exact .inl ⟨rfl, rfl, rfl⟩
  | none =>
      rw [found] at run
      exact .inr (declareSymbol_ok run)

/-- The global of a name is there already, or is declared. -/
theorem ensureGlobal_ok {place : LibraryId} {name : Name} {valueType : IRType}
    {world after : World} {symbol : SymbolRef}
    (run : ensureGlobal place name valueType world = .ok symbol after) :
    (world.library place).module.globalNamed? name.key = some symbol.place ∧
        symbol.owner = place ∧ after = world ∨
      symbol = ⟨place, (world.library place).module.symbols.length⟩ ∧
        after = world.changeModule place fun _ =>
          (world.library place).module.append name.key
            ⟨name.shown, .global (.external valueType)⟩ := by
  obtain ⟨seen, _, looked, run⟩ := bind_eq_ok.mp run
  obtain ⟨rfl, rfl⟩ := get_eq_ok.mp looked
  cases found : (world.library place).module.globalNamed? name.key with
  | some known =>
      rw [found] at run
      obtain ⟨rfl, rfl⟩ := pure_eq_ok.mp run
      exact .inl ⟨rfl, rfl, rfl⟩
  | none =>
      rw [found] at run
      dsimp only at run
      split at run
      · exact (throw_ne_ok (bind_eq_ok.mp run).choose_spec.choose_spec.1).elim
      · exact .inr (declareSymbol_ok run)

end Build

end StructuredIR
