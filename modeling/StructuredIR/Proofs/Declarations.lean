import StructuredIR.Proofs.Operations
import StructuredIR.Proofs.Symbols

/-! # Effects of declarations

Libraries and fragments come up, declarations are entered in libraries, and their visibility
changes.

* **`AllowsLibrary place`** says that an effect permits a library to do all this: what it lists is
  entered together with the symbol that it stands for, and shows whom the symbol's linkage shows.
  Every operation of the library then leads only where the effect permits, imports included:
  **`Library.leads_importFrom`**.
* **`AllowsScripts`** says this of all libraries, and that libraries and fragments may come up.
* **`AllowsDeclarations`** is a coarser way to say so: what is declared may change at will, but what a
  library lists has to be there when it is entered. **`Function.create_there`** and its companions
  say that it is, once it has been declared. -/

namespace StructuredIR

open Build (Leads bind_eq_ok get_eq_ok pure_eq_ok modify_eq_ok throw_ne_ok)

/-! ## Entering what has just been declared -/

namespace Library

/-- A function is created and entered. -/
def addFunction (place : LibraryId) (key : Key) (name : Value) (signature : Signature)
    (result : IRType) (symbolName : Name) (visibility : Visibility) (isDeclaration : Bool) :
    Build FunctionRef := do
  enterFunction place key
    (← Function.create place name signature result symbolName visibility isDeclaration)

/-- A fragment comes up and is entered. -/
def addEntry (place : LibraryId) (key : Key) (fragment : Fragment) : Build FragmentId := do
  let known ← addFragment fragment
  enterFragment place key known
  return known

/-- The global of a symbol is asked for, changed and entered. -/
def addGlobal (place : LibraryId) (key : Key) (symbolName : Name) (valueType : IRType)
    (update : Global → Global) (name : Value) (visibility : Visibility) : Build GlobalEntry := do
  let symbol ← Build.ensureGlobal place symbolName valueType
  modify (·.changeGlobal symbol update)
  enterGlobal place key ⟨name, symbol.place, visibility⟩
  return ⟨name, symbol.place, visibility⟩

end Library

/-! ## Effects -/

/-- An effect that permits a library to record warnings. -/
class AllowsReport (place : LibraryId) (Effect : World → World → Prop) : Prop
    extends AllowsAside Effect where
  /-- Warnings may be recorded. -/
  changeReport (world : World) (report : Report) :
    Effect world (world.changeLibrary place fun library => { library with report })

/-- **An effect that permits a library to declare things**, and to change who sees them. -/
class AllowsLibrary (place : LibraryId) (Effect : World → World → Prop) : Prop
    extends AllowsCodeIn place Effect, AllowsReport place Effect where
  /-- It may change who sees what is declared from then on. -/
  changeDefault (world : World) (visibility : Visibility) :
    Effect world (world.changeLibrary place fun library => { library with visibility })
  /-- A generator may come up at the entry of a function. -/
  atEntry (reference : FunctionRef) :
    reference.owner = place → Leads Effect (Generator.atEntry reference)
  /-- A function may be created and entered. -/
  addFunction (key : Key) (name : Value) (signature : Signature) (result : IRType)
    (symbolName : Name) (visibility : Visibility) (isDeclaration : Bool) :
    Leads Effect (Library.addFunction place key name signature result symbolName visibility
      isDeclaration)
  /-- A function may be given another visibility, as its routine is. -/
  relinkFunction (world : World) (reference : FunctionRef) (key : Key) (function : Function)
    (visibility : Value) : reference.owner = place →
      (world.library place).functions[reference.place]? = some (key, function) →
        Effect world ((world.changeFunction reference fun function =>
          { function with visibility }).changeRoutine ⟨place, function.symbol⟩ fun routine =>
            { routine with isPrivate := visibility.isPrivate })
  /-- A fragment may come up and be entered. -/
  addEntry (key : Key) (fragment : Fragment) : Leads Effect (Library.addEntry place key fragment)
  /-- A fragment of the library may be given another visibility. -/
  relinkFragment (world : World) (key : Key) (fragment : FragmentId) (visibility : Visibility) :
    (world.library place).fragments.get? key = some fragment →
      Effect world (world.changeFragment fragment fun fragment =>
        { fragment with visibility := .visibility visibility })
  /-- A global may be entered under a free key, if it is as private as its entry says or was private
  before. -/
  addGlobal (world : World) (key : Key) (symbolName : Name) (valueType : IRType)
    (update : Global → Global) (name : Value) (visibility : Visibility) :
    key ∉ (world.library place).globals.keys →
      (∀ global, (update global).valueType = global.valueType) →
      (∀ global, (update global).isPrivate = (global.isPrivate || visibility == .isPrivate)) →
        Effect world
          ((Library.addGlobal place key symbolName valueType update name visibility).after world)
  /-- A global may become one whose value never changes. -/
  fixGlobal (world : World) (symbol : SymbolRef) : symbol.owner = place →
    Effect world (world.changeGlobal symbol fun global => { global with isConstant := true })
  /-- A global may be given another visibility. -/
  relinkGlobal (world : World) (key : Key) (entry : GlobalEntry) (visibility : Visibility) :
    (world.library place).globals.get? key = some entry →
      Effect world
        ((world.changeGlobal ⟨place, entry.symbol⟩ fun global =>
          { global with isPrivate := visibility == .isPrivate }).changeLibrary place fun library =>
            { library with
              globals := library.globals.change key fun entry => { entry with visibility } })

/-- **An effect that permits everything that scripts do**, as they do it. -/
class AllowsScripts (Effect : World → World → Prop) : Prop extends AllowsCode Effect where
  /-- Every library may declare things. -/
  library (place : LibraryId) : AllowsLibrary place Effect
  /-- A library without declarations may come up. -/
  addLibrary (world : World) (name : Phrase) (visibility : Visibility) (policy : NamePolicy)
    (registry : Option RegistryId) (report : Report) (echo : Value) :
    Effect world { world with
      libraries := world.libraries ++ [.empty name visibility policy registry report echo] }
  /-- A fragment may come up. -/
  addFragment (world : World) (fragment : Fragment) :
    Effect world { world with fragments := world.fragments ++ [fragment] }
  /-- A fragment may change. -/
  changeFragment (world : World) (place : FragmentId) (update : Fragment → Fragment) :
    Effect world (world.changeFragment place update)

instance {Effect : World → World → Prop} [AllowsScripts Effect] {place : LibraryId} :
    AllowsLibrary place Effect :=
  AllowsScripts.library place

/-- An effect that permits everything that scripts do. What a library lists has to be there. -/
class AllowsDeclarations (Effect : World → World → Prop) : Prop
    extends AllowsBuilding Effect where
  /-- A library without declarations may come up. -/
  addLibrary (world : World) (library : Library) (functions : library.functions = [])
    (fragments : library.fragments = []) (globals : library.globals = []) :
    Effect world { world with libraries := world.libraries ++ [library] }
  /-- It may change who sees what a library declares from then on. -/
  changeDefault (world : World) (place : LibraryId) (visibility : Visibility) :
    Effect world (world.changeLibrary place fun library => { library with visibility })
  /-- A global may be declared. -/
  global' (place : LibraryId) (name : Name) (valueType : IRType) :
    Leads Effect (Build.declareSymbol place name (.global (.external valueType)))
  /-- A global may change. -/
  changeGlobal (world : World) (symbol : SymbolRef) (update : Global → Global) :
    Effect world (world.changeGlobal symbol update)
  /-- A fragment may come up. -/
  addFragment (world : World) (fragment : Fragment) :
    Effect world { world with fragments := world.fragments ++ [fragment] }
  /-- A fragment may change. -/
  changeFragment (world : World) (place : FragmentId) (update : Fragment → Fragment) :
    Effect world (world.changeFragment place update)
  /-- A function may be entered whose routine is there. -/
  enterFunction (world : World) (place : LibraryId) (key : Key) (function : Function)
    (there : (world.routine? ⟨place, function.symbol⟩).isSome) :
    Effect world (world.changeLibrary place fun library =>
      { library with functions := library.functions ++ [(key, function)] })
  /-- A fragment may be entered that is there. -/
  enterFragment (world : World) (place : LibraryId) (key : Key) (fragment : FragmentId)
    (there : fragment < world.fragments.length) :
    Effect world (world.changeLibrary place fun library =>
      { library with fragments := library.fragments.enter key fragment })
  /-- A global may be entered that is there. -/
  enterGlobal (world : World) (place : LibraryId) (key : Key) (entry : GlobalEntry)
    (there : (world.global? ⟨place, entry.symbol⟩).isSome) :
    Effect world (world.changeLibrary place fun library =>
      { library with globals := library.globals.enter key entry })
  /-- It may change who sees a global. -/
  changeEntry (world : World) (place : LibraryId) (key : Key) (visibility : Visibility) :
    Effect world (world.changeLibrary place fun library =>
      { library with
        globals := library.globals.change key fun entry => { entry with visibility } })

/-! ### What is there once it has been declared -/

/-- A routine is there, unless its library is not. -/
def World.HasRoutine (world : World) (place : LibraryId) (symbol : Nat) : Prop :=
  world.libraries.length ≤ place ∨ (world.routine? ⟨place, symbol⟩).isSome

/-- A global is there, unless its library is not. -/
def World.HasGlobal (world : World) (place : LibraryId) (symbol : Nat) : Prop :=
  world.libraries.length ≤ place ∨ (world.global? ⟨place, symbol⟩).isSome

/-- Changing a routine takes none away. -/
theorem World.HasRoutine.changeRoutine {world : World} {place : LibraryId} {symbol : Nat}
    (there : world.HasRoutine place symbol) (other : SymbolRef) (update : Routine → Routine) :
    (world.changeRoutine other update).HasRoutine place symbol := by
  rcases there with missing | there
  · exact .inl (by rwa [World.changeRoutine, World.changeModule, World.length_changeLibrary])
  · right
    rw [World.routine?_changeRoutine]
    split
    next same => rwa [Option.isSome_map, ← same]
    next => exact there

/-- Changing a global takes none away. -/
theorem World.HasGlobal.changeGlobal {world : World} {place : LibraryId} {symbol : Nat}
    (there : world.HasGlobal place symbol) (other : SymbolRef) (update : Global → Global) :
    (world.changeGlobal other update).HasGlobal place symbol := by
  rcases there with missing | there
  · exact .inl (by rwa [World.changeGlobal, World.changeModule, World.length_changeLibrary])
  · right
    rw [World.global?_changeGlobal]
    split
    next same => rwa [Option.isSome_map, ← same]
    next => exact there

/-- A routine that was asked for is there. -/
theorem Build.ensureRoutine_there {place : LibraryId} {name : Name} {declared : Routine}
    {world after : World} {symbol : SymbolRef}
    (run : ensureRoutine place name declared world = .ok symbol after) :
    symbol.owner = place ∧ after.HasRoutine place symbol.place := by
  rcases ensureRoutine_ok run with ⟨found, rfl, rfl⟩ | ⟨rfl, rfl⟩
  · exact ⟨rfl, .inr (Module.routineNamed?_eq_some found).1⟩
  · refine ⟨rfl, ?_⟩
    rcases Nat.lt_or_ge place world.libraries.length with inside | beyond
    · right
      simp [World.routine?_changeModule, inside, Module.routine?_eq, Module.symbol?_append]
    · exact .inl (by rwa [World.changeModule, World.length_changeLibrary])

/-- A global that was asked for is there. -/
theorem Build.ensureGlobal_there {place : LibraryId} {name : Name} {valueType : IRType}
    {world after : World} {symbol : SymbolRef}
    (run : ensureGlobal place name valueType world = .ok symbol after) :
    symbol.owner = place ∧ after.HasGlobal place symbol.place := by
  rcases ensureGlobal_ok run with ⟨found, rfl, rfl⟩ | ⟨rfl, rfl⟩
  · exact ⟨rfl, .inr (Module.globalNamed?_eq_some found).1⟩
  · refine ⟨rfl, ?_⟩
    rcases Nat.lt_or_ge place world.libraries.length with inside | beyond
    · right
      simp [World.global?_changeModule, inside, Module.global?_eq, Module.symbol?_append]
    · exact .inl (by rwa [World.changeModule, World.length_changeLibrary])

/-- The routine of a function that has been created is there. -/
theorem Function.create_there {place : LibraryId} {name : Value} {signature : Signature}
    {result : IRType} {symbolName : Name} {visibility : Visibility} {isDeclaration : Bool}
    {world after : World} {function : Function}
    (run : create place name signature result symbolName visibility isDeclaration world =
      .ok function after) : after.HasRoutine place function.symbol := by
  obtain ⟨symbol, between, asking, rest⟩ := bind_eq_ok.mp run
  have there := (Build.ensureRoutine_there asking).2
  split at rest
  · obtain ⟨_, _, linking, rest⟩ := bind_eq_ok.mp rest
    obtain rfl := modify_eq_ok.mp linking
    obtain ⟨rfl, rfl⟩ := pure_eq_ok.mp rest
    exact there.changeRoutine _ _
  · obtain ⟨entry, _, adding, rest⟩ := bind_eq_ok.mp rest
    obtain ⟨_, _, looked, adding⟩ := bind_eq_ok.mp adding
    obtain ⟨rfl, rfl⟩ := get_eq_ok.mp looked
    obtain ⟨_, _, changing, adding⟩ := bind_eq_ok.mp adding
    obtain rfl := modify_eq_ok.mp changing
    obtain ⟨rfl, rfl⟩ := pure_eq_ok.mp adding
    obtain ⟨_, _, linking, rest⟩ := bind_eq_ok.mp rest
    obtain rfl := modify_eq_ok.mp linking
    obtain ⟨rfl, rfl⟩ := pure_eq_ok.mp rest
    exact (there.changeRoutine _ _).changeRoutine _ _

/-! ### Declarations at will -/

section

variable {Effect : World → World → Prop} [AllowsDeclarations Effect]

namespace Function

/-- The linkage of a routine may be set. -/
theorem leads_link (symbol : SymbolRef) (visibility : Value) :
    Leads Effect (link symbol visibility) :=
  Leads.modify fun world => AllowsBuilding.changeRoutine world symbol _

/-- A function may be created. -/
theorem leads_create (place : LibraryId) (name : Value) (signature : Signature)
    (result : IRType) (symbolName : Name) (visibility : Visibility) (isDeclaration : Bool) :
    Leads Effect (create place name signature result symbolName visibility isDeclaration) := by
  have linked (symbol : SymbolRef) (visibility : Value) : Leads Effect (link symbol visibility) :=
    leads_link symbol visibility
  grind -linarith [create]

end Function

namespace Library

/-- A function whose routine is there is entered. -/
theorem enterFunction_permitted {world : World} {place : LibraryId} {function : Function}
    (there : world.HasRoutine place function.symbol) (key : Key) :
    Effect world ((enterFunction place key function).after world) := by
  change Effect world (world.changeLibrary place _)
  rcases there with missing | there
  · rw [World.changeLibrary_of_length_le world missing]
    exact IsEffect.refl world
  · exact AllowsDeclarations.enterFunction world place key function there

/-- A global that is there is entered. -/
theorem enterGlobal_permitted {world : World} {place : LibraryId} {entry : GlobalEntry}
    (there : world.HasGlobal place entry.symbol) (key : Key) :
    Effect world ((enterGlobal place key entry).after world) := by
  change Effect world (world.changeLibrary place _)
  rcases there with missing | there
  · rw [World.changeLibrary_of_length_le world missing]
    exact IsEffect.refl world
  · exact AllowsDeclarations.enterGlobal world place key entry there

/-- A fragment that has just come up is there. -/
theorem addFragment_ok {fragment : Fragment} {world after : World} {place : FragmentId}
    (run : addFragment fragment world = .ok place after) :
    place = world.fragments.length ∧
      after = { world with fragments := world.fragments ++ [fragment] } := by
  obtain ⟨_, _, looked, run⟩ := bind_eq_ok.mp run
  obtain ⟨rfl, rfl⟩ := get_eq_ok.mp looked
  obtain ⟨_, _, changing, run⟩ := bind_eq_ok.mp run
  obtain rfl := modify_eq_ok.mp changing
  obtain ⟨rfl, rfl⟩ := pure_eq_ok.mp run
  exact ⟨rfl, rfl⟩

/-- A fragment that has just come up is entered. -/
theorem leads_addEntry (place : LibraryId) (key : Key) (fragment : Fragment) :
    Leads Effect (addEntry place key fragment) := by
  have added : Leads Effect (addFragment fragment) :=
    Leads.get.bind fun _ => Leads.bind (Leads.modify fun world =>
      AllowsDeclarations.addFragment world fragment) fun _ => Leads.pure _
  refine added.bindFrom fun _ known between run => ?_
  obtain ⟨rfl, rfl⟩ := addFragment_ok run
  exact AllowsDeclarations.enterFragment _ place key _ (by simp)

/-- A global that was asked for is entered. -/
theorem leads_addGlobal (place : LibraryId) (key : Key) (symbolName : Name) (valueType : IRType)
    (update : Global → Global) (name : Value) (visibility : Visibility) :
    Leads Effect (addGlobal place key symbolName valueType update name visibility) := by
  have declared : Leads Effect (Build.declareSymbol place symbolName
      (.global (.external valueType))) := AllowsDeclarations.global' place symbolName valueType
  have asked : Leads Effect (Build.ensureGlobal place symbolName valueType) := by
    grind -linarith [Build.ensureGlobal]
  refine asked.bindFrom fun _ symbol between run => ?_
  refine IsEffect.trans (AllowsDeclarations.changeGlobal between symbol update) ?_
  exact enterGlobal_permitted ((Build.ensureGlobal_there run).2.changeGlobal _ _) key

end Library

instance : AllowsScripts Effect where
  library place :=
    { changeReport := fun world report => AllowsBuilding.changeReport world place report
      changeDefault := fun world visibility =>
        AllowsDeclarations.changeDefault world place visibility
      atEntry := fun reference _ => Generator.leads_atEntry reference
      addFunction := fun key name signature result symbolName visibility isDeclaration =>
        (Function.leads_create place name signature result symbolName visibility
          isDeclaration).bindFrom fun _ _ _ run =>
            Library.enterFunction_permitted (Function.create_there run) key
      relinkFunction := fun world reference _ _ visibility _ _ =>
        IsEffect.trans
          (AllowsBuilding.changeFunction world reference (fun function =>
            { function with visibility }) fun _ => rfl)
          (AllowsBuilding.changeRoutine _ _ _)
      addEntry := Library.leads_addEntry place
      relinkFragment := fun world _ fragment _ _ =>
        AllowsDeclarations.changeFragment world fragment _
      addGlobal := fun world key symbolName valueType update name visibility _ _ _ =>
        Library.leads_addGlobal place key symbolName valueType update name visibility world
      fixGlobal := fun world symbol _ => AllowsDeclarations.changeGlobal world symbol _
      relinkGlobal := fun world key entry visibility _ =>
        IsEffect.trans (AllowsDeclarations.changeGlobal world ⟨place, entry.symbol⟩ _)
          (AllowsDeclarations.changeEntry _ place key visibility) }
  addLibrary world _ _ _ _ _ _ := AllowsDeclarations.addLibrary world _ rfl rfl rfl
  addFragment := AllowsDeclarations.addFragment
  changeFragment := AllowsDeclarations.changeFragment

end

end StructuredIR
