import StructuredIR.Proofs.Scripts

/-! # What libraries list is there

A library lists functions, fragments and globals by references. `World.Grounded` says that all that
is listed is there: the routine of each function and each global in the module of the library, and
each fragment among those of the world. **`Script.Reachable.grounded`**: so it is in every world that
can be reached, whatever values scripts make up. -/

namespace StructuredIR

open Build (Leads)

/-- A module that has all routines and globals of another one. -/
structure Module.Keeps (before after : Module) : Prop where
  /-- Routines are still there. -/
  routine (place : Nat) : (before.routine? place).isSome → (after.routine? place).isSome
  /-- Globals are still there. -/
  global (place : Nat) : (before.global? place).isSome → (after.global? place).isSome

namespace Module

variable (module : Module)

theorem Keeps.refl : module.Keeps module :=
  ⟨fun _ => id, fun _ => id⟩

/-- A symbol behind the others takes none away. -/
theorem keeps_append (key : Key) (symbol : Symbol) : module.Keeps (module.append key symbol) := by
  have missing : module.symbol? module.symbols.length = none := by simp [symbol?]
  constructor <;> intro place there
  · rw [routine?_eq, symbol?_append]
    split
    next same => simp [routine?_eq, same, missing] at there
    next => rwa [← routine?_eq]
  · rw [global?_eq, symbol?_append]
    split
    next same => simp [global?_eq, same, missing] at there
    next => rwa [← global?_eq]

theorem keeps_changeRoutine (place : Nat) (update : Routine → Routine) :
    module.Keeps (module.changeRoutine place update) := by
  constructor <;> intro other there
  · rw [routine?_changeRoutine]
    split
    next same => rwa [Option.isSome_map, ← same]
    next => exact there
  · rwa [global?_changeRoutine]

theorem keeps_changeGlobal (place : Nat) (update : Global → Global) :
    module.Keeps (module.changeGlobal place update) := by
  constructor <;> intro other there
  · rwa [routine?_changeGlobal]
  · rw [global?_changeGlobal]
    split
    next same => rwa [Option.isSome_map, ← same]
    next => exact there

end Module

/-- **What a library lists is there**, in its module and among a number of fragments. -/
structure Library.Grounded (library : Library) (fragmentCount : Nat) : Prop where
  /-- The routines of the functions are there. -/
  functions : ∀ entry ∈ library.functions, (library.module.routine? entry.2.symbol).isSome
  /-- The fragments are there. -/
  fragments : ∀ entry ∈ library.fragments, entry.2 < fragmentCount
  /-- The globals are there. -/
  globals : ∀ entry ∈ library.globals, (library.module.global? entry.2.symbol).isSome

/-- **What libraries list is there.** -/
def World.Grounded (world : World) : Prop :=
  ∀ place, (world.library place).Grounded world.fragments.length

namespace Library

variable {library : Library} {count : Nat}

/-- A library that lists nothing lists nothing that is missing. -/
theorem grounded_of_nil (functions : library.functions = []) (fragments : library.fragments = [])
    (globals : library.globals = []) : library.Grounded count :=
  ⟨by simp [functions], by simp [fragments], by simp [globals]⟩

namespace Grounded

/-- More fragments take nothing away. -/
theorem mono {more : Nat} (grounded : library.Grounded count) (le : count ≤ more) :
    library.Grounded more :=
  ⟨grounded.functions, fun entry member => (grounded.fragments entry member).trans_le le,
    grounded.globals⟩

/-- A library that lists the same, with a module that keeps what was there. -/
theorem keep {other : Library} (grounded : library.Grounded count)
    (module : library.module.Keeps other.module) (functions : other.functions = library.functions)
    (fragments : other.fragments = library.fragments) (globals : other.globals = library.globals) :
    other.Grounded count where
  functions entry member := module.routine _ (grounded.functions entry (functions ▸ member))
  fragments entry member := grounded.fragments entry (fragments ▸ member)
  globals entry member := module.global _ (grounded.globals entry (globals ▸ member))

end Grounded

end Library

/-- An entry of a dictionary is entered, or was there under a key. -/
theorem Dictionary.mem_enter {Key Entry : Type} [DecidableEq Key]
    {dictionary : Dictionary Key Entry} {key : Key} {value : Entry} {entry : Key × Entry}
    (member : entry ∈ dictionary.enter key value) : entry.2 = value ∨ entry ∈ dictionary := by
  unfold enter at member
  split at member
  · obtain ⟨old, found, rfl⟩ := List.mem_map.mp member
    dsimp only
    split
    · exact .inl rfl
    · exact .inr found
  · rcases List.mem_append.mp member with found | found
    · exact .inr found
    · exact .inl (congrArg Prod.snd (List.mem_singleton.mp found))

namespace World.Grounded

variable {world : World}

/-- A changed library has to list what is there. -/
theorem changeLibrary (grounded : world.Grounded) (place : LibraryId) {update : Library → Library}
    (changed : (world.library place).Grounded world.fragments.length →
      (update (world.library place)).Grounded world.fragments.length) :
    (world.changeLibrary place update).Grounded := by
  intro other
  rw [library_changeLibrary]
  split
  · exact changed (grounded place)
  · exact grounded other

/-- A module may change as long as it keeps what is there. -/
theorem changeModule (grounded : world.Grounded) (place : LibraryId) {update : Module → Module}
    (keeps : (world.library place).module.Keeps (update (world.library place).module)) :
    (world.changeModule place update).Grounded :=
  grounded.changeLibrary place fun known => known.keep keeps rfl rfl rfl

/-- What is declared in a module takes nothing away. -/
theorem declareSymbol (grounded : world.Grounded) (place : LibraryId) (name : Name)
    (content : Content) : ((Build.declareSymbol place name content).after world).Grounded := by
  cases run : Build.declareSymbol place name content world with
  | ok symbol after =>
      rw [Build.after_of_ok run, (Build.declareSymbol_ok run).2]
      exact grounded.changeModule place (Module.keeps_append _ _ _)
  | error fault after =>
      rw [Build.after_of_error run, Build.declareSymbol_error run]
      exact grounded

/-- A string that is pooled takes nothing away. -/
theorem intern (grounded : world.Grounded) (place : LibraryId) (text : Phrase) :
    ((Build.internString place text).after world).Grounded := by
  refine grounded.changeLibrary place fun known => ?_
  dsimp only
  split
  · exact known
  · exact known.keep (Module.keeps_append _ _ _) rfl rfl rfl

end World.Grounded

instance : AllowsTexts (Preserves World.Grounded) where
  held _ _ _ grounded := grounded
  block _ _ _ grounded := grounded.changeModule _ (Module.keeps_changeRoutine _ _ _)
  global _ _ _ grounded := grounded.changeModule _ (Module.keeps_changeGlobal _ _ _)

instance : AllowsDeclarations (Preserves World.Grounded) where
  intern place text _ grounded := grounded.intern place text
  routine place name _ _ _ _ grounded := grounded.declareSymbol place name _
  aside libraries fragments grounded := by
    intro place
    rw [World.library, libraries, fragments]
    exact grounded place
  changeRoutine _ _ _ grounded := grounded.changeModule _ (Module.keeps_changeRoutine _ _ _)
  changeFunction world reference update symbol grounded := by
    refine grounded.changeLibrary _ fun known => ⟨fun entry member => ?_, known.fragments,
      known.globals⟩
    obtain ⟨old, found, same⟩ : ∃ old ∈ (world.library reference.owner).functions,
        old.2.symbol = entry.2.symbol := by
      obtain ⟨place, inside, rfl⟩ := List.getElem_of_mem member
      simp only [List.length_modify] at inside
      refine ⟨_, List.getElem_mem inside, ?_⟩
      simp only [List.getElem_modify]
      split
      · exact (symbol _).symm
      · rfl
    exact same ▸ known.functions old found
  changeReport _ place _ grounded :=
    grounded.changeLibrary place fun known => known.keep (Module.Keeps.refl _) rfl rfl rfl
  addLibrary world library functions fragments globals grounded := by
    intro place
    rw [World.library_append]
    split
    · exact Library.grounded_of_nil functions fragments globals
    · exact grounded place
  changeDefault _ place _ grounded :=
    grounded.changeLibrary place fun known => known.keep (Module.Keeps.refl _) rfl rfl rfl
  global' place name _ _ grounded := grounded.declareSymbol place name _
  changeGlobal _ _ _ grounded := grounded.changeModule _ (Module.keeps_changeGlobal _ _ _)
  addFragment _ _ grounded := fun place => (grounded place).mono (by simp)
  changeFragment world place update grounded := fun other => by
    rw [World.changeFragment, List.length_modify]
    exact grounded other
  enterFunction _ place _ _ there grounded := by
    refine grounded.changeLibrary place fun known => ⟨fun entry member => ?_, known.fragments,
      known.globals⟩
    rcases List.mem_append.mp member with found | found
    · exact known.functions entry found
    · rw [List.mem_singleton.mp found]
      exact there
  enterFragment _ place _ _ there grounded := by
    refine grounded.changeLibrary place fun known => ⟨known.functions, fun entry member => ?_,
      known.globals⟩
    rcases Dictionary.mem_enter member with same | found
    · exact same ▸ there
    · exact known.fragments entry found
  enterGlobal _ place _ _ there grounded := by
    refine grounded.changeLibrary place fun known => ⟨known.functions, known.fragments,
      fun entry member => ?_⟩
    rcases Dictionary.mem_enter member with same | found
    · exact same ▸ there
    · exact known.globals entry found
  changeEntry _ place _ _ grounded := by
    refine grounded.changeLibrary place fun known => ⟨known.functions, known.fragments,
      fun entry member => ?_⟩
    obtain ⟨old, found, rfl⟩ := List.mem_map.mp member
    dsimp only
    split <;> exact known.globals old found

/-- **In every world that can be reached**, what libraries list is there. -/
theorem Script.Reachable.grounded {world : World} (reachable : Script.Reachable world) :
    world.Grounded :=
  reachable.holds fun place => by
    have missing : Script.initialWorld.library place = default := rfl
    rw [missing]
    exact Library.grounded_of_nil rfl rfl rfl

end StructuredIR
