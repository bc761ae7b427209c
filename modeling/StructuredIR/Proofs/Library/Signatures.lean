import StructuredIR.Proofs.Library.Clashes

/-! # Types of functions

A function has the type of its routine. Whoever declares a function asks for a type, but a routine
that has the function's name in the module already is taken over as it is.

* **`Module.typeFor`** is the type that a function gets under a key: that of the routine which has the
  key already, and else the one that is asked for.
* **`World.KeepsTypes`** says that routines keep their keys and their types, and functions their
  routines. Scripts do nothing else.
* **`Gathers`** says that a library has no routines besides those that it had and copies of those of
  another library. So it is through all of an import.
* **`Script.Attainable.typesFunctions`**: functions that are defined, declared and imported get the
  types that `typeFor` tells. **`Script.foreign_retypes`**: these can be others than were asked for. -/

namespace StructuredIR

open Build (Leads bind_eq_ok get_eq_ok pure_eq_ok modify_eq_ok lift_eq_ok)

/-! ## Types in modules -/

/-- The type of a routine; a global has none. -/
def Content.signature? : Content → Option IRType
  | .routine known => some known.signature
  | .global _ => none

namespace Module

variable (module : Module)

/-- The symbols of a module by their keys: routines with their types, and globals without. -/
def types (module : Module) : Dictionary Key (Option IRType) :=
  module.symbols.map fun entry => (entry.1, entry.2.content.signature?)

/-- **The type of a function under a key** of which a type is asked for: that of the routine that has
the key already, if there is one. -/
def typeFor (module : Module) (key : Key) (asked : IRType) : IRType :=
  ((module.types.get? key).bind id).getD asked

/-- The types are under the keys of the symbols. -/
@[simp]
theorem keys_types : module.types.keys = module.symbols.keys := by
  simp [types, Dictionary.keys, Function.comp_def]

/-- A further symbol. -/
theorem types_append (key : Key) (symbol : Symbol) :
    (module.append key symbol).types = module.types ++ [(key, symbol.content.signature?)] := by
  simp [types, append]

/-- Pooling a text adds at most a global. -/
theorem types_intern (pool : StringPool) (text : Phrase) :
    ∃ added : List Key,
      (pool.intern module text).2.2.types = module.types ++ added.map (·, none) := by
  unfold StringPool.intern
  split
  next => exact ⟨[], (List.append_nil _).symm⟩
  next => exact ⟨[_], module.types_append _ _⟩

/-- A symbol may change that keeps its type. -/
theorem types_change (place : Nat) {update : Content → Content}
    (same : ∀ symbol, module.symbol? place = some symbol →
      (update symbol.content).signature? = symbol.content.signature?) :
    (module.change place update).types = module.types := by
  refine List.ext_getElem? fun index => ?_
  simp only [types, change, List.getElem?_map, List.getElem?_modify]
  by_cases here : place = index
  · subst here
    cases known : module.symbols[place]? with
    | none => simp
    | some entry =>
        have there : module.symbol? place = some entry.2 := by simp [symbol?, known]
        simp [same entry.2 there]
  · simp [here]

/-- A routine may change that keeps its heading. -/
theorem types_changeRoutine (place : Nat) {update : Routine → Routine}
    (heading : ∀ routine, module.routine? place = some routine →
      (update routine).signature = routine.signature) :
    (module.changeRoutine place update).types = module.types := by
  refine module.types_change place fun symbol there => ?_
  obtain ⟨name, content⟩ := symbol
  cases content with
  | global => rfl
  | routine routine =>
      have known : module.routine? place = some routine := by simp [routine?_eq, there]
      exact congrArg some (heading routine known)

/-- A global may change. -/
theorem types_changeGlobal (place : Nat) (update : Global → Global) :
    (module.changeGlobal place update).types = module.types :=
  module.types_change place fun symbol _ => by
    obtain ⟨name, content⟩ := symbol
    cases content <;> rfl

/-- Kept texts say nothing of types. -/
@[simp]
theorem types_bare : module.bare.types = module.types := by
  rw [types, types, bare, List.map_map]
  refine List.map_congr_left fun entry _ => ?_
  obtain ⟨key, name, content⟩ := entry
  cases content <;> rfl

variable {module}

/-- A routine that is there has its type among the types. -/
theorem mem_types_of_routine? {place : Nat} {key : Key} {routine : Routine}
    (named : module.key? place = some key) (there : module.routine? place = some routine) :
    module.types[place]? = some (key, some routine.signature) := by
  obtain ⟨⟨known, symbol⟩, listed, rfl⟩ := Option.map_eq_some_iff.mp named
  obtain ⟨name, content⟩ := symbol
  cases content with
  | global => simp [routine?, symbol?, listed] at there
  | routine found =>
      have same : found = routine := by simpa [routine?, symbol?, listed] using there
      simp [types, listed, same, Content.signature?]

/-- A type among the types is that of a routine. -/
theorem routine?_of_types {place : Nat} {key : Key} {type : IRType}
    (found : module.types[place]? = some (key, some type)) :
    module.key? place = some key ∧
      ∃ routine, module.routine? place = some routine ∧ routine.signature = type := by
  rw [types, List.getElem?_map] at found
  obtain ⟨⟨known, name, content⟩, listed, same⟩ := Option.map_eq_some_iff.mp found
  cases content with
  | global => cases same
  | routine routine =>
      cases same
      exact ⟨by rw [key?, listed, Option.map_some], routine, by simp [routine?, symbol?, listed], rfl⟩

/-- A routine that has the key keeps its type. -/
theorem typeFor_of_mem (nodup : module.symbols.keys.Nodup) {key : Key} {known : IRType}
    (member : (key, some known) ∈ module.types) (asked : IRType) :
    module.typeFor key asked = known := by
  cases found : module.types.get? key with
  | none =>
      have missing := Dictionary.get?_eq_none.mp found
      exact (missing (List.mem_map_of_mem member)).elim
  | some type =>
      have same := Dictionary.eq_of_mem (module.keys_types ▸ nodup)
        (Dictionary.mem_of_get?_eq_some found) member
      simp [typeFor, found, same]

/-- If no routine has the key, it is as is asked for. -/
theorem typeFor_of_not_mem {key : Key} (missing : ∀ known, (key, some known) ∉ module.types)
    (asked : IRType) : module.typeFor key asked = asked := by
  cases found : module.types.get? key with
  | none => simp [typeFor, found]
  | some type =>
      cases type with
      | none => simp [typeFor, found]
      | some known => exact (missing known (Dictionary.mem_of_get?_eq_some found)).elim

end Module

/-- A declared routine has the type that is declared. -/
theorem Routine.signature_declare (result : IRType) (parameters : List IRType) (isVariadic : Bool) :
    (declare result parameters isVariadic).signature = .function result parameters isVariadic := by
  have types (names : Names) :
      (nameParameters names parameters).1.map Prod.snd = parameters := by
    induction parameters generalizing names with
    | nil => rfl
    | cons type types ih => exact congrArg (type :: ·) (ih _)
  exact congrArg (IRType.function result · isVariadic) (types .initial)

/-! ## Scripts keep types -/

/-- **A library keeps types**: routines stay with their keys and their types, and functions stand for
the same routines. -/
structure Library.KeepsTypes (before after : Library) : Prop where
  /-- Functions stand for the same routines. -/
  functions : before.functions.map (fun entry => entry.2.symbol) <+:
    after.functions.map fun entry => entry.2.symbol
  /-- Routines have the same keys and types. -/
  types : before.module.types <+: after.module.types

/-- **All libraries keep types.** -/
def World.KeepsTypes (before after : World) : Prop :=
  ∀ place, (before.library place).KeepsTypes (after.library place)

namespace Library.KeepsTypes

theorem refl (library : Library) : library.KeepsTypes library :=
  ⟨List.prefix_rfl, List.prefix_rfl⟩

section

variable {before after : Library}

theorem of_eq (functions : after.functions = before.functions)
    (types : after.module.types = before.module.types) : before.KeepsTypes after :=
  ⟨functions ▸ List.prefix_rfl, types ▸ List.prefix_rfl⟩

/-- A routine keeps its key and its type. -/
theorem type (keeps : before.KeepsTypes after) {place : Nat} {entry : Key × Option IRType}
    (found : before.module.types[place]? = some entry) :
    after.module.types[place]? = some entry := by
  obtain ⟨more, same⟩ := keeps.types
  obtain ⟨inside, -⟩ := List.getElem?_eq_some_iff.mp found
  rwa [← same, List.getElem?_append_left inside]

/-- A function keeps its routine. -/
theorem symbol (keeps : before.KeepsTypes after) {index : Nat} {entry : Key × Function}
    (listed : before.functions[index]? = some entry) :
    ∃ later, after.functions[index]? = some later ∧ later.2.symbol = entry.2.symbol := by
  obtain ⟨more, same⟩ := keeps.functions
  have stands : (before.functions.map fun entry => entry.2.symbol)[index]? =
      some entry.2.symbol := by
    rw [List.getElem?_map, listed, Option.map_some]
  obtain ⟨inside, -⟩ := List.getElem?_eq_some_iff.mp stands
  rw [← List.getElem?_append_left inside, same, List.getElem?_map] at stands
  exact Option.map_eq_some_iff.mp stands

end

end Library.KeepsTypes

instance : IsEffect World.KeepsTypes where
  refl _ _ := .refl _
  trans first second := fun place =>
    ⟨(first place).functions.trans (second place).functions,
      (first place).types.trans (second place).types⟩

namespace World.KeepsTypes

/-- Libraries that stay keep types. -/
theorem of_libraries {before after : World} (same : after.libraries = before.libraries) :
    before.KeepsTypes after := by
  intro place
  have kept : after.library place = before.library place := by
    rw [World.library, same, ← World.library]
  exact kept ▸ .refl _

/-- A library may change that keeps types. -/
theorem of_changeLibrary (world : World) (place : LibraryId) {update : Library → Library}
    (keeps : (world.library place).KeepsTypes (update (world.library place))) :
    world.KeepsTypes (world.changeLibrary place update) := by
  intro other
  rw [library_changeLibrary]
  split
  next same => rwa [same.1]
  next => exact .refl _

/-- A routine that is there stays there with its type. -/
theorem routine? {before after : World} (keeps : before.KeepsTypes after) {symbol : SymbolRef}
    {routine : Routine} (there : before.routine? symbol = some routine) :
    ∃ later, after.routine? symbol = some later ∧ later.signature = routine.signature := by
  have listed : ∃ entry, (before.library symbol.owner).module.symbols[symbol.place]? = some entry := by
    refine Option.isSome_iff_exists.mp ?_
    rw [World.routine?, Module.routine?_eq, Module.symbol?] at there
    cases found : (before.library symbol.owner).module.symbols[symbol.place]? with
    | none => simp [found] at there
    | some entry => rfl
  obtain ⟨entry, found⟩ := listed
  have named : (before.library symbol.owner).module.key? symbol.place = some entry.1 := by
    rw [Module.key?, found, Option.map_some]
  have typed := (keeps symbol.owner).type (Module.mem_types_of_routine? named there)
  exact (Module.routine?_of_types typed).2

/-- A routine may change that keeps its type. -/
theorem of_changeRoutine (world : World) (symbol : SymbolRef) {update : Routine → Routine}
    (same : ∀ routine, world.routine? symbol = some routine →
      (update routine).signature = routine.signature) :
    world.KeepsTypes (world.changeRoutine symbol update) :=
  of_changeLibrary world symbol.owner (.of_eq rfl (Module.types_changeRoutine _ _ same))

/-- A global may change. -/
theorem of_changeGlobal (world : World) (symbol : SymbolRef) (update : Global → Global) :
    world.KeepsTypes (world.changeGlobal symbol update) :=
  of_changeLibrary world symbol.owner (.of_eq rfl (Module.types_changeGlobal _ _ _))

/-- What is recorded of a function may change, apart from its routine. -/
theorem of_changeFunction (world : World) (reference : FunctionRef) {update : Function → Function}
    (symbol : ∀ function, (update function).symbol = function.symbol) :
    world.KeepsTypes (world.changeFunction reference update) := by
  refine of_changeLibrary world reference.owner ⟨?_, List.prefix_rfl⟩
  have same : ((world.library reference.owner).functions.modify reference.place fun entry =>
      (entry.1, update entry.2)).map (fun entry => entry.2.symbol) =
        (world.library reference.owner).functions.map fun entry => entry.2.symbol := by
    refine List.ext_getElem? fun index => ?_
    simp only [List.getElem?_map, List.getElem?_modify]
    cases (world.library reference.owner).functions[index]? <;> by_cases here : reference.place = index <;>
      simp [here, symbol]
  exact same ▸ List.prefix_rfl

/-- A symbol may be declared. -/
theorem leads_declareSymbol (place : LibraryId) (name : Name) (content : Content) :
    Leads World.KeepsTypes (Build.declareSymbol place name content) := by
  intro world
  cases run : Build.declareSymbol place name content world with
  | ok symbol after =>
      rw [Build.after_of_ok run, (Build.declareSymbol_ok run).2]
      refine of_changeLibrary world place ⟨List.prefix_rfl, ?_⟩
      dsimp only
      rw [Module.types_append]
      exact List.prefix_append ..
  | error fault after =>
      rw [Build.after_of_error run, Build.declareSymbol_error run]
      exact IsEffect.refl world

/-- Entries may be listed. -/
theorem enterFunction (world : World) (place : LibraryId) (key : Key) (function : Function) :
    world.KeepsTypes (world.changeLibrary place fun library =>
      { library with functions := library.functions ++ [(key, function)] }) :=
  of_changeLibrary world place ⟨by
    rw [List.map_append]
    exact List.prefix_append .., List.prefix_rfl⟩

end World.KeepsTypes

open World.KeepsTypes (of_libraries of_changeLibrary of_changeRoutine of_changeGlobal
  of_changeFunction)

instance : AllowsTexts World.KeepsTypes where
  held _ _ _ := of_libraries rfl
  block world place _ := of_changeRoutine world place.routine fun _ _ => rfl
  global world symbol _ := of_changeGlobal world symbol _

instance {place : LibraryId} : AllowsRoutinesIn place World.KeepsTypes where
  changeRoutine world symbol _ _ heading _ :=
    of_changeRoutine world symbol fun routine known =>
      (congrArg Routine.signature (heading routine known) :)

instance : AllowsCode World.KeepsTypes where
  aside libraries _ := of_libraries libraries
  code place :=
    { intern := fun _ text _ world => by
        obtain ⟨added, same⟩ := Module.types_intern _ (world.library _).pool text
        exact of_changeLibrary world _ ⟨List.prefix_rfl, _, same.symm⟩
      routine := fun name _ _ _ => World.KeepsTypes.leads_declareSymbol place name _
      emitFirst := fun world _ entry base operation _ _ =>
        Build.leads_emitFirst entry base operation world
      changeFunction := fun world reference _ _ heading _ =>
        of_changeFunction world reference fun function =>
          (congrArg Function.symbol (heading function) :) }

/-- The linkage of a routine may be set. -/
theorem Function.keepsTypes_link (symbol : SymbolRef) (visibility : Value) :
    Leads World.KeepsTypes (link symbol visibility) :=
  Leads.modify fun world => of_changeRoutine world symbol fun _ _ => rfl

/-- A function may be created. -/
theorem Function.keepsTypes_create (place : LibraryId) (name : Value) (signature : Signature)
    (result : IRType) (symbolName : Name) (visibility : Visibility) (isDeclaration : Bool) :
    Leads World.KeepsTypes (create place name signature result symbolName visibility
      isDeclaration) := by
  refine (Build.leads_ensureRoutine place _ _ _ _).bind fun symbol => ?_
  cases isDeclaration with
  | true => exact (keepsTypes_link symbol _).bind fun _ => .pure _
  | false =>
      exact (Build.leads_appendNamed symbol "entry").bind fun _ =>
        (keepsTypes_link symbol _).bind fun _ => .pure _

instance : AllowsScripts World.KeepsTypes where
  addLibrary world name visibility policy registry report echo := by
    intro place
    rw [World.library_append]
    split
    next new =>
      rw [new, World.library_of_length_le world (Nat.le_refl _)]
      exact .of_eq rfl rfl
    next => exact .refl _
  addFragment _ _ := of_libraries rfl
  changeFragment _ _ _ := of_libraries rfl
  library place :=
    { changeReport := fun world _ => of_changeLibrary world place (.of_eq rfl rfl)
      changeDefault := fun world _ => of_changeLibrary world place (.of_eq rfl rfl)
      atEntry := fun reference _ => Generator.leads_atEntry reference
      addFunction := fun key name signature result symbolName visibility isDeclaration =>
        (Function.keepsTypes_create place name signature result symbolName visibility
          isDeclaration).bind fun function => Leads.get.bind fun _ =>
            Leads.bind (Leads.modify fun world => .enterFunction world place key function) fun _ =>
              .pure _
      relinkFunction := fun world reference _ function visibility _ _ => by
        have recorded : world.KeepsTypes (world.changeFunction reference fun function =>
            { function with visibility }) := of_changeFunction world reference fun _ => rfl
        exact IsEffect.trans recorded (of_changeRoutine _ _ fun _ _ => rfl)
      addEntry := fun key fragment =>
        Leads.bind (Leads.get.bind fun _ => Leads.bind (Leads.modify fun _ => of_libraries rfl) fun _ =>
          Leads.pure _) fun _ => Leads.bind (Leads.modify fun world =>
            of_changeLibrary world place (.of_eq rfl rfl)) fun _ => Leads.pure _
      relinkFragment := fun _ _ _ _ _ => of_libraries rfl
      addGlobal := fun world key symbolName valueType update name visibility _ _ _ => by
        have asked : Leads World.KeepsTypes (Build.ensureGlobal place symbolName valueType) := by
          unfold Build.ensureGlobal
          refine Leads.get.bind fun seen => ?_
          split
          · exact .pure _
          · dsimp only
            split
            · exact (Leads.throw _).bind fun _ => World.KeepsTypes.leads_declareSymbol _ _ _
            · exact World.KeepsTypes.leads_declareSymbol _ _ _
        exact asked.bind (fun symbol => Leads.bind (Leads.modify fun world =>
          of_changeGlobal world symbol _) fun _ => Leads.bind (Leads.modify fun world =>
            of_changeLibrary world place (.of_eq rfl rfl)) fun _ => Leads.pure _) world
      fixGlobal := fun world symbol _ => of_changeGlobal world symbol _
      relinkGlobal := fun world key entry visibility _ =>
        IsEffect.trans (of_changeGlobal world _ _) (of_changeLibrary _ place (.of_eq rfl rfl)) }

/-! ## What is asked for -/

namespace World

variable (world : World)

/-- A routine without kept texts is what a routine of the bare world is. -/
theorem routine_bare (symbol : SymbolRef) :
    world.bare.routine symbol = (world.routine symbol).bare := by
  rw [routine, routine?, library_bare, routine, routine?]
  change ((world.library symbol.owner).module.bare.routine? symbol.place).getD _ = _
  rw [Module.routine?_bare]
  cases (world.library symbol.owner).module.routine? symbol.place <;> rfl

/-- Symbols are the same operands without kept texts. -/
theorem symbolOperand_bare (symbol : SymbolRef) :
    world.bare.symbolOperand symbol = world.symbolOperand symbol := by
  have global : world.bare.global? symbol = (world.global? symbol).map Global.bare := by
    rw [global?, library_bare]
    exact Module.global?_bare _ _
  rw [symbolOperand, symbolOperand, global, routineOperand, routineOperand, routine_bare]
  cases world.global? symbol <;> rfl

/-- Rows have the same items without kept texts. -/
theorem row?_bare (value : Value) : world.bare.row? value = world.row? value := by
  cases value with
  | liveRow row =>
      refine congrArg some ?_
      cases row with
      | blocks symbol =>
          rw [rowItems, rowItems, blocks, blocks, routine_bare]
          rfl
      | instructions place =>
          have same : (world.bare.block place).instructions = (world.block place).instructions := by
            rw [block, block, routine_bare]
            change (((world.routine place.routine).blocks.map Block.bare)[place.place]?.getD
              default).instructions = _
            rw [List.getElem?_map]
            cases (world.routine place.routine).blocks[place.place]? <;> rfl
          rw [rowItems, rowItems, same]
      | diagnostics place =>
          rw [rowItems, rowItems, library_bare]
          rfl
  | _ => rfl

/-- Values have the same items without kept texts. -/
theorem items?_bare (value : Value) : world.bare.items? value = world.items? value := by
  have symbols (place : LibraryId) : world.bare.moduleSymbols place = world.moduleSymbols place := by
    rw [moduleSymbols, moduleSymbols, library_bare]
    refine List.ext_getElem? fun index => ?_
    simp only [Library.bare, Module.bare, List.getElem?_map, List.getElem?_zipIdx,
      symbolOperand_bare]
    cases (world.library place).module.symbols[index]? <;> rfl
  unfold items?
  split <;> try rfl
  next index =>
    cases index with
    | symbols place => rfl
    | globals place => rw [indexEntries, symbols, indexEntries]
  next => split <;> [rfl; exact world.row?_bare _]

/-- The same values count as true without kept texts. -/
theorem isTruthy_bare (value : Value) : world.bare.isTruthy value = world.isTruthy value := by
  have length (value : Value) : world.bare.length? value = world.length? value := by
    unfold length?
    split
    next => rfl
    next => rfl
    next => rfl
    next => rw [items?_bare]
  unfold isTruthy
  split <;> [rfl; rfl; rfl; rfl; rw [length]]

end World

/-- A value spells the same signature where only texts differ. -/
theorem SameBare.signature {before after : World} (same : SameBare before after) (value : Value) :
    Signature.ofValue after value = Signature.ofValue before value := by
  have bare (world : World) : Signature.ofValue world.bare value = Signature.ofValue world value := by
    rw [Signature.ofValue, Signature.ofValue, World.isTruthy_bare, World.items?_bare]
  rw [← bare after, same, bare]

/-! ## Functions that are declared -/

/-- No two symbols have the same key in a module that scripts attain. -/
theorem Script.Attainable.nodup_keys {world : World} (attainable : Attainable world)
    (place : LibraryId) : (world.library place).module.symbols.keys.Nodup := by
  have keys := (attainable.outline Outline.isKept_orderly place).keys
  simpa [Library.outline, Module.kinds, Dictionary.keys, Function.comp_def] using keys

namespace Build

variable {place : LibraryId} {world after : World} {symbol : SymbolRef}

/-- **A routine that is asked for** has the type that its key tells. -/
theorem ensureRoutine_types {name : Name} {result : IRType} {parameters : List IRType}
    {isVariadic : Bool} (inside : place < world.libraries.length)
    (nodup : (world.library place).module.symbols.keys.Nodup)
    (run : ensureRoutine place name (.declare result parameters isVariadic) world =
      .ok symbol after) :
    symbol.owner = place ∧ (after.library place).module.types[symbol.place]? =
      some (name.key, some ((world.library place).module.typeFor name.key
        (.function result parameters isVariadic))) := by
  obtain ⟨_, _, looked, run⟩ := bind_eq_ok.mp run
  obtain ⟨rfl, rfl⟩ := get_eq_ok.mp looked
  cases found : (world.library place).module.routineNamed? name.key with
  | some known =>
      rw [found] at run
      obtain ⟨rfl, rfl⟩ := pure_eq_ok.mp run
      obtain ⟨there, named⟩ := Module.routineNamed?_eq_some found
      obtain ⟨routine, there⟩ := Option.isSome_iff_exists.mp there
      have typed := Module.mem_types_of_routine? named there
      rw [Module.typeFor_of_mem nodup (List.mem_of_getElem? typed)]
      exact ⟨rfl, typed⟩
  | none =>
      rw [found] at run
      have free := (declareSymbol_free run).2
      obtain ⟨rfl, rfl⟩ := declareSymbol_ok run
      have missing (known : IRType) :
          (name.key, some known) ∉ (world.library place).module.types := fun member =>
        free (Module.keys_types (world.library place).module ▸ List.mem_map_of_mem member)
      rw [Module.typeFor_of_not_mem missing, World.changeModule, World.library_changeLibrary,
        if_pos ⟨rfl, inside⟩]
      refine ⟨rfl, ?_⟩
      dsimp only
      rw [Module.types_append, List.getElem?_append_right (by simp [Module.types])]
      simp [Module.types, Content.signature?, Routine.signature_declare]

end Build

/-- **A function that is created** stands for a routine of the type that its key tells. -/
theorem Function.create_types {place : LibraryId} {world after : World} {name : Value}
    {signature : Signature} {result : IRType} {symbolName : Name} {visibility : Visibility}
    {isDeclaration : Bool} {function : Function} (inside : place < world.libraries.length)
    (nodup : (world.library place).module.symbols.keys.Nodup)
    (run : create place name signature result symbolName visibility isDeclaration world =
      .ok function after) :
    (after.library place).module.types[function.symbol]? =
      some (symbolName.key, some ((world.library place).module.typeFor symbolName.key
        (.function result signature.parameters signature.isVariadic))) := by
  obtain ⟨symbol, between, asking, rest⟩ := bind_eq_ok.mp run
  obtain ⟨-, typed⟩ := Build.ensureRoutine_types inside nodup asking
  -- Neither an entry block nor the linkage changes the type.
  have kept {later : World} (keeps : between.KeepsTypes later) :
      (later.library place).module.types[symbol.place]? =
        (between.library place).module.types[symbol.place]? := by
    rw [typed]
    exact (keeps place).type typed
  split at rest
  · obtain ⟨_, _, linking, rest⟩ := bind_eq_ok.mp rest
    obtain ⟨rfl, rfl⟩ := pure_eq_ok.mp rest
    exact (kept ((keepsTypes_link symbol _).of_ok linking)).trans typed
  · obtain ⟨entry, opened, adding, rest⟩ := bind_eq_ok.mp rest
    obtain ⟨_, _, linking, rest⟩ := bind_eq_ok.mp rest
    obtain ⟨rfl, rfl⟩ := pure_eq_ok.mp rest
    have adding : between.KeepsTypes opened := (Build.leads_appendNamed symbol "entry").of_ok adding
    exact (kept (IsEffect.trans adding ((keepsTypes_link symbol _).of_ok linking))).trans typed

namespace Library

/-- **A function of a library stands for a routine** with a key and a type. -/
def Stands (library : Library) (index : Nat) (key : Key) (type : IRType) : Prop :=
  ∃ entry, library.functions[index]? = some entry ∧
    library.module.types[entry.2.symbol]? = some (key, some type)

/-- It does so for as long as types are kept. -/
theorem Stands.keeps {before after : Library} {index : Nat} {key : Key} {type : IRType}
    (stands : before.Stands index key type) (keeps : before.KeepsTypes after) :
    after.Stands index key type := by
  obtain ⟨entry, listed, typed⟩ := stands
  obtain ⟨later, listedLater, same⟩ := keeps.symbol listed
  exact ⟨later, listedLater, same ▸ keeps.type typed⟩

/-- **A new function of a library is typed**: its routine has the type that the routine's key told
before. -/
structure Typed (place : LibraryId) (asked : IRType) (before after : World)
    (reference : FunctionRef) : Prop where
  /-- The function is in the library. -/
  owner : reference.owner = place
  /-- It was not there. -/
  isNew : (before.library place).functions.length ≤ reference.place
  /-- It is there now. -/
  listed : reference.place < (after.library place).functions.length
  /-- So is its routine. -/
  routine : (after.routine? (after.functionSymbol reference)).isSome
  /-- The routine has the type. -/
  type : (after.routineOf reference).signature = (before.library place).module.typeFor
    (symbolKey after (after.functionSymbol reference)) asked

/-- A type is asked for by the values of parameters and of a result. -/
def Asks (world : World) (parameters result : Value) (asked : IRType) : Prop :=
  ∃ signature type, Signature.ofValue world parameters = .ok signature ∧
    result.asType Signature.operationName = .ok type ∧
      asked = .function type signature.parameters signature.isVariadic

section

variable {place : LibraryId} {asked : IRType} {start before after : World}

/-- What a function stands for is the type of its routine. -/
theorem Stands.typeOf {index : Nat} {key : Key} {type : IRType}
    (stands : (after.library place).Stands index key type) :
    index < (after.library place).functions.length ∧
      symbolKey after (after.functionSymbol ⟨place, index⟩) = key ∧
        (after.routine? (after.functionSymbol ⟨place, index⟩)).isSome ∧
          (after.routineOf ⟨place, index⟩).signature = type := by
  obtain ⟨entry, listed, typed⟩ := stands
  obtain ⟨named, routine, there, same⟩ := Module.routine?_of_types typed
  have symbol : after.functionSymbol ⟨place, index⟩ = ⟨place, entry.2.symbol⟩ := by
    simp [World.functionSymbol, World.function, listed]
  have known : after.routine? ⟨place, entry.2.symbol⟩ = some routine := there
  refine ⟨(List.getElem?_eq_some_iff.mp listed).1, ?_, ?_, ?_⟩
  · rw [symbol, symbolKey_eq named]
  · rw [symbol, known]
    rfl
  · rw [World.routineOf, symbol, World.routine, known]
    exact same

/-- A new function that stands for a routine of the type that the key tells is typed. -/
theorem Typed.of_stands {index : Nat} {key : Key}
    (isNew : (start.library place).functions.length ≤ index)
    (stands : (after.library place).Stands index key
      ((start.library place).module.typeFor key asked)) :
    Typed place asked start after ⟨place, index⟩ := by
  obtain ⟨listed, named, there, type⟩ := stands.typeOf
  exact ⟨rfl, isNew, listed, there, by rw [named, type]⟩

/-- **Declaring a function**: a type is asked for, and the function stands for a routine of the type
that the routine's key tells. -/
theorem declareFunction_stands {name : Name} {parameters result : Value} {symbolName : Build Value}
    {visibility : Visibility} {isDeclaration : Bool} {reference : FunctionRef}
    (inside : place < start.libraries.length)
    (nodup : (start.library place).module.symbols.keys.Nodup) (same : SameBare start before)
    (naming : Leads SameBare symbolName)
    (run : declareFunction place name parameters result symbolName visibility isDeclaration before =
      .ok reference after) :
    ∃ asked key, Asks start parameters result asked ∧ reference.owner = place ∧
      (start.library place).functions.length ≤ reference.place ∧
        (after.library place).Stands reference.place key
          ((start.library place).module.typeFor key asked) := by
  obtain ⟨_, _, looked, run⟩ := bind_eq_ok.mp run
  obtain ⟨rfl, rfl⟩ := get_eq_ok.mp looked
  obtain ⟨_, first, checking, run⟩ := bind_eq_ok.mp run
  have same : SameBare start first :=
    IsEffect.trans same ((leads_requireFree place _ name _).of_ok checking)
  obtain ⟨_, _, looked, run⟩ := bind_eq_ok.mp run
  obtain ⟨rfl, rfl⟩ := get_eq_ok.mp looked
  obtain ⟨signature, _, spelling, run⟩ := bind_eq_ok.mp run
  obtain ⟨spells, rfl⟩ := lift_eq_ok.mp spelling
  obtain ⟨type, _, spelling, run⟩ := bind_eq_ok.mp run
  obtain ⟨gives, rfl⟩ := lift_eq_ok.mp spelling
  have spells : Signature.ofValue start parameters = .ok signature := by rwa [← same.signature]
  obtain ⟨shown, second, namingRun, run⟩ := bind_eq_ok.mp run
  obtain ⟨symbol, third, keying, run⟩ := bind_eq_ok.mp run
  have same : SameBare start third :=
    IsEffect.trans same
      (IsEffect.trans (naming.of_ok namingRun) ((Build.leads_nameOf shown).of_ok keying))
  obtain ⟨function, fourth, creating, entering⟩ := bind_eq_ok.mp run
  -- Up to here only texts were kept.
  have length : third.libraries.length = start.libraries.length := (same.noted place).length
  have library : (third.library place).bare = (start.library place).bare := by
    rw [← World.library_bare, ← World.library_bare, same]
  have types : (third.library place).module.types = (start.library place).module.types := by
    have bare := congrArg (fun library => library.module.types) library
    simpa [Library.bare] using bare
  have keys : (third.library place).module.symbols.keys.Nodup := by
    rwa [← Module.keys_types, types, Module.keys_types]
  have typed := Function.create_types (length ▸ inside) keys creating
  have tells (key : Key) (asked : IRType) : (third.library place).module.typeFor key asked =
      (start.library place).module.typeFor key asked := by
    rw [Module.typeFor, types, Module.typeFor]
  rw [tells] at typed
  obtain ⟨_, _, looked, entering⟩ := bind_eq_ok.mp entering
  obtain ⟨rfl, rfl⟩ := get_eq_ok.mp looked
  obtain ⟨_, _, changing, entering⟩ := bind_eq_ok.mp entering
  obtain rfl := modify_eq_ok.mp changing
  obtain ⟨rfl, rfl⟩ := pure_eq_ok.mp entering
  have created : third.KeepsTypes fourth :=
    (Function.keepsTypes_create _ _ _ _ _ _ _).of_ok creating
  have isNew : (start.library place).functions.length ≤
      (fourth.library place).functions.length := by
    have held : (third.library place).functions = (start.library place).functions :=
      (congrArg Library.functions library :)
    simpa [held] using (created place).functions.length_le
  have there : place < fourth.libraries.length := by
    by_contra beyond
    rw [World.library_of_length_le fourth (Nat.le_of_not_lt beyond)] at typed
    cases typed
  refine ⟨_, symbol.key, ⟨signature, type, spells, gives, rfl⟩, rfl, isNew,
    (name.key, function), ?_, ?_⟩
  · rw [World.library_changeLibrary, if_pos ⟨rfl, there⟩]
    simp
  · rw [World.library_changeLibrary, if_pos ⟨rfl, there⟩]
    exact typed

/-- **Defining a function** types it, whatever its body does. -/
theorem define_typed {name parameters result : Value} {body : Option Callback}
    {reference : FunctionRef} (inside : place < before.libraries.length)
    (nodup : (before.library place).module.symbols.keys.Nodup)
    (callback : ∀ known ∈ body, known.LeadsTo World.KeepsTypes)
    (run : define place name parameters result body before = .ok reference after) :
    ∃ asked, Asks before parameters result asked ∧ Typed place asked before after reference := by
  obtain ⟨name, named, naming, run⟩ := bind_eq_ok.mp run
  obtain ⟨_, _, looked, run⟩ := bind_eq_ok.mp run
  obtain ⟨rfl, rfl⟩ := get_eq_ok.mp looked
  obtain ⟨⟨owner, index⟩, declared, declaring, finishing⟩ := bind_eq_ok.mp run
  obtain ⟨asked, key, asks, rfl, isNew, stands⟩ := declareFunction_stands inside nodup
    ((Build.leads_nameOf _).of_ok naming) (leads_symbolName _ _) declaring
  refine ⟨asked, asks, ?_⟩
  cases body with
  | none =>
      obtain ⟨rfl, rfl⟩ := pure_eq_ok.mp finishing
      exact .of_stands isNew stands
  | some body =>
      obtain ⟨generator, opened, opening, finishing⟩ := bind_eq_ok.mp finishing
      obtain ⟨_, built, building, finishing⟩ := bind_eq_ok.mp finishing
      obtain ⟨rfl, rfl⟩ := pure_eq_ok.mp finishing
      have keeps : declared.KeepsTypes built :=
        IsEffect.trans ((Generator.leads_atEntry _).of_ok opening)
          ((callback body rfl _).of_ok building)
      exact .of_stands isNew (stands.keeps (keeps owner))

/-- **Declaring an external function** types it. -/
theorem declareExternal_typed {name parameters result : Value} {reference : FunctionRef}
    (inside : place < before.libraries.length)
    (nodup : (before.library place).module.symbols.keys.Nodup)
    (run : declareExternal place name parameters result before = .ok reference after) :
    ∃ asked, Asks before parameters result asked ∧ Typed place asked before after reference := by
  obtain ⟨name, named, naming, run⟩ := bind_eq_ok.mp run
  obtain ⟨owner, index⟩ := reference
  obtain ⟨asked, key, asks, rfl, isNew, stands⟩ := declareFunction_stands inside nodup
    ((Build.leads_nameOf _).of_ok naming) (.pure _) run
  exact ⟨asked, asks, .of_stands isNew stands⟩

end

/-! ## Functions that are imported -/

/-- **A library gathers routines**: other libraries stay as they are, texts aside, and each routine of
this one was there or is known. -/
structure Gathers (place : LibraryId) (known : Dictionary Key (Option IRType))
    (before after : World) : Prop where
  /-- Other libraries are the same. -/
  others (other : LibraryId) : other ≠ place →
    (after.library other).bare = (before.library other).bare
  /-- No routine is from elsewhere. -/
  routines {key : Key} {type : IRType} :
    (key, some type) ∈ (after.library place).module.types →
      (key, some type) ∈ (before.library place).module.types ∨ (key, some type) ∈ known

section

variable {place : LibraryId} {known : Dictionary Key (Option IRType)}

instance : IsEffect (Gathers place known) where
  refl _ := ⟨fun _ _ => rfl, .inl⟩
  trans first second :=
    ⟨fun other elsewhere => (second.others other elsewhere).trans (first.others other elsewhere),
      fun member => (second.routines member).elim first.routines .inr⟩

namespace Gathers

/-- Where only texts differ, no routine is new. -/
theorem of_sameBare {before after : World} (same : SameBare before after) :
    Gathers place known before after := by
  have library (other : LibraryId) : (after.library other).bare = (before.library other).bare := by
    rw [← World.library_bare, ← World.library_bare, same]
  refine ⟨fun other _ => library other, fun member => .inl ?_⟩
  have types := congrArg (fun library => library.module.types) (library place)
  simp only [Library.bare, Module.types_bare] at types
  rwa [← types]

/-- Libraries that stay gather nothing. -/
theorem of_libraries {before after : World} (same : after.libraries = before.libraries) :
    Gathers place known before after := by
  have library (other : LibraryId) : after.library other = before.library other := by
    rw [World.library, same, ← World.library]
  exact ⟨fun other _ => by rw [library], fun member => .inl (library place ▸ member)⟩

/-- The library may change that gathers no other routines. -/
theorem of_changeLibrary (world : World) {update : Library → Library}
    (routines : ∀ key type, (key, some type) ∈ (update (world.library place)).module.types →
      (key, some type) ∈ (world.library place).module.types ∨ (key, some type) ∈ known) :
    Gathers place known world (world.changeLibrary place update) where
  others other elsewhere := by
    rw [World.library_changeLibrary, if_neg fun claimed => elsewhere claimed.1]
  routines member := by
    rw [World.library_changeLibrary] at member
    split at member
    next => exact routines _ _ member
    next => exact .inl member

/-- The library may change in what its module does not have. -/
theorem of_module (world : World) {update : Library → Library}
    (same : (update (world.library place)).module = (world.library place).module) :
    Gathers place known world (world.changeLibrary place update) :=
  of_changeLibrary world fun _ _ member => .inl (same ▸ member)

/-- A symbol is declared that is no routine, or is known. -/
theorem append (world : World) (key : Key) (symbol : Symbol)
    (routine : ∀ type, symbol.content.signature? = some type → (key, some type) ∈ known) :
    Gathers place known world (world.changeModule place fun _ =>
      (world.library place).module.append key symbol) := by
  refine of_changeLibrary world fun other type member => ?_
  rw [Module.types_append] at member
  rcases List.mem_append.mp member with there | new
  · exact .inl there
  · obtain ⟨rfl, same⟩ := Prod.mk.inj (List.mem_singleton.mp new)
    exact .inr (routine type same.symm)

/-- The linkage of a routine of the library may be set. -/
theorem linkRoutine (world : World) (symbol : Nat) (isPrivate : Bool) :
    Gathers place known world (world.changeRoutine ⟨place, symbol⟩ fun routine =>
      { routine with isPrivate }) := by
  have same : ((world.library place).module.changeRoutine symbol fun routine =>
      { routine with isPrivate }).types = (world.library place).module.types :=
    Module.types_changeRoutine _ _ fun _ _ => rfl
  exact of_changeLibrary world fun key type member => .inl (same ▸ member)

end Gathers

instance : AllowsTexts (Gathers place known) where
  held world kept text := .of_sameBare (AllowsTexts.held world kept text)
  block world kept text := .of_sameBare (AllowsTexts.block world kept text)
  global world kept text := .of_sameBare (AllowsTexts.global world kept text)

instance : AllowsReport place (Gathers place known) where
  aside libraries _ _ _ := .of_libraries libraries
  changeReport world _ := .of_module world rfl

end

/-- What holds is kept through all of some items. -/
theorem forM_keeps {Item : Type} {each : Item → Build PUnit} {Property : World → Prop}
    {items : List Item}
    (step : ∀ item ∈ items, ∀ {world next : World}, Property world →
      each item world = .ok () next → Property next)
    {before after : World} (holds : Property before) (run : items.forM each before = .ok () after) :
    Property after := by
  induction items generalizing before with
  | nil =>
      obtain ⟨-, rfl⟩ := pure_eq_ok.mp run
      exact holds
  | cons item items ih =>
      obtain ⟨_, between, first, rest⟩ := bind_eq_ok.mp run
      exact ih (fun item member => step item (List.mem_cons_of_mem _ member))
        (step item (List.mem_cons_self ..) holds first) rest

section

variable {place source : LibraryId} {taken : List Key} {start world after : World}

/-- **The routine of a function that is shown** has its key and its type among the types. -/
theorem types_of_mem_shownReferences {entry : Key × FunctionRef} {includePrivate : Bool}
    (grounded : (world.library source).Grounded world.fragments.length)
    (member : entry ∈ shownReferences world source includePrivate) :
    (symbolKey world (world.functionSymbol entry.2),
      some (world.routineOf entry.2).signature) ∈ (world.library source).module.types := by
  obtain ⟨⟨⟨key, function⟩, index⟩, shown, rfl⟩ := List.mem_map.mp member
  have listed : (world.library source).functions[index]? = some (key, function) :=
    List.mk_mem_zipIdx_iff_getElem?.mp (List.mem_of_mem_filter shown)
  have symbol : world.functionSymbol ⟨source, index⟩ = ⟨source, function.symbol⟩ := by
    simp [World.functionSymbol, World.function, listed]
  obtain ⟨routine, found⟩ := Option.isSome_iff_exists.mp
    (grounded.functions _ (List.mem_of_getElem? listed))
  obtain ⟨name, among⟩ := Module.kinds_of_routine? _ found
  have named := Module.key?_of_kinds among
  have known : world.routine? ⟨source, function.symbol⟩ = some routine := found
  rw [World.routineOf, symbol, symbolKey_eq named, World.routine, known]
  exact List.mem_of_getElem? (Module.mem_types_of_routine? named found)

/-- A function of another library keeps its routine's key and type. -/
theorem Gathers.routineOf {known : Dictionary Key (Option IRType)} {reference : FunctionRef}
    (gathers : Gathers place known start world) (elsewhere : reference.owner ≠ place) :
    symbolKey world (world.functionSymbol reference) =
        symbolKey start (start.functionSymbol reference) ∧
      (world.routineOf reference).signature = (start.routineOf reference).signature := by
  have same := gathers.others reference.owner elsewhere
  have functions : (world.library reference.owner).functions =
      (start.library reference.owner).functions := (congrArg Library.functions same :)
  have symbol : world.functionSymbol reference = start.functionSymbol reference := by
    rw [World.functionSymbol, World.function, functions, World.functionSymbol, World.function]
  have keys : (world.library reference.owner).module.symbols.keys =
      (start.library reference.owner).module.symbols.keys := by
    have bare := congrArg (fun library => library.module.symbols.keys) same
    simpa only [Library.bare, Module.keys_bare] using bare
  have routine : (world.routine? (start.functionSymbol reference)).map Routine.bare =
      (start.routine? (start.functionSymbol reference)).map Routine.bare := by
    have bare := congrArg (fun library =>
      library.module.routine? (start.function reference).symbol) same
    simpa only [Library.bare, Module.routine?_bare, World.routine?, World.functionSymbol] using bare
  have signature (found : Option Routine) :
      (found.getD default).signature = ((found.map Routine.bare).getD default).signature := by
    cases found <;> rfl
  constructor
  · have found := congrArg (fun keys => (keys[(start.function reference).symbol]?).getD .none) keys
    rw [symbol]
    simpa [symbolKey, Dictionary.keys, World.functionSymbol] using found
  · rw [World.routineOf, symbol, World.routine, signature, routine, ← signature]
    rfl

/-- Importing a function gathers a routine of the source. -/
theorem importFunction_gathers {entry : Key × FunctionRef}
    (gathers : Gathers place (start.library source).module.types start world)
    (distinct : source ≠ place)
    (grounded : (start.library source).Grounded start.fragments.length)
    (member : entry ∈ shownReferences start source false)
    (run : importFunction place taken entry world = .ok () after) :
    Gathers place (start.library source).module.types start after := by
  have owner : entry.2.owner ≠ place := owner_of_mem_shownReferences member ▸ distinct
  obtain ⟨_, _, looked, run⟩ := bind_eq_ok.mp run
  obtain ⟨rfl, rfl⟩ := get_eq_ok.mp looked
  obtain ⟨choice, middle, choosing, run⟩ := bind_eq_ok.mp run
  have gathers : Gathers place (start.library source).module.types start middle :=
    IsEffect.trans gathers ((leads_importName place _ _ _ _ _).of_ok choosing)
  cases choice with
  | none =>
      obtain ⟨-, rfl⟩ := pure_eq_ok.mp run
      exact gathers
  | some imported =>
      obtain ⟨_, _, looked, run⟩ := bind_eq_ok.mp run
      obtain ⟨rfl, rfl⟩ := get_eq_ok.mp looked
      obtain ⟨function, between, creating, run⟩ := bind_eq_ok.mp run
      obtain ⟨_, _, entering, run⟩ := bind_eq_ok.mp run
      obtain ⟨-, rfl⟩ := pure_eq_ok.mp run
      -- What is asked for has the key and the type of the original's routine.
      obtain ⟨key, signature⟩ := gathers.routineOf owner
      have original := types_of_mem_shownReferences grounded member
      rw [← key, ← signature] at original
      obtain ⟨symbol, asked, asking, creating⟩ := bind_eq_ok.mp creating
      have gathers : Gathers place (start.library source).module.types start asked := by
        refine IsEffect.trans gathers ?_
        rcases Build.ensureRoutine_ok asking with ⟨-, -, rfl⟩ | ⟨-, rfl⟩
        · exact IsEffect.refl _
        · refine .append middle _ _ fun type same => ?_
          rw [Content.signature?, Routine.signature_declare] at same
          exact Option.some.inj same ▸ original
      obtain ⟨_, _, linking, creating⟩ := bind_eq_ok.mp creating
      obtain rfl := modify_eq_ok.mp linking
      obtain ⟨rfl, rfl⟩ := pure_eq_ok.mp creating
      obtain ⟨_, _, looked, entering⟩ := bind_eq_ok.mp entering
      obtain ⟨rfl, rfl⟩ := get_eq_ok.mp looked
      obtain ⟨_, _, changing, entering⟩ := bind_eq_ok.mp entering
      obtain rfl := modify_eq_ok.mp changing
      obtain ⟨rfl, rfl⟩ := pure_eq_ok.mp entering
      obtain ⟨holder, index⟩ := symbol
      obtain rfl : place = holder := (Build.ensureRoutine_there asking).1.symm
      exact IsEffect.trans gathers
        (IsEffect.trans (.linkRoutine asked index _) (.of_module _ rfl))

/-- Importing a fragment gathers nothing. -/
theorem leads_importFragment_gathers {known : Dictionary Key (Option IRType)}
    (entry : Key × FragmentId) :
    Leads (Gathers place known) (importFragment place source taken entry) := by
  refine Leads.get.bind fun world => (leads_importName place _ _ _ _ _).bind fun choice => ?_
  cases choice with
  | none => exact .pure _
  | some imported =>
      refine Leads.bind (Leads.get.bind fun _ => Leads.bind (Leads.modify fun _ => .of_libraries rfl)
        fun _ => .pure _) fun fragment => ?_
      exact Leads.modify fun world => .of_module world rfl

/-- Importing a global gathers no routine. -/
theorem importGlobal_gathers {known : Dictionary Key (Option IRType)} {entry : Key × GlobalEntry}
    (run : importGlobal place source taken entry world = .ok () after) :
    Gathers place known world after := by
  obtain ⟨_, _, looked, run⟩ := bind_eq_ok.mp run
  obtain ⟨rfl, rfl⟩ := get_eq_ok.mp looked
  obtain ⟨choice, middle, choosing, run⟩ := bind_eq_ok.mp run
  have chosen : Gathers place known world middle :=
    (leads_importName place _ _ _ _ _).of_ok choosing
  cases choice with
  | none =>
      obtain ⟨-, rfl⟩ := pure_eq_ok.mp run
      exact chosen
  | some imported =>
      obtain ⟨_, _, looked, run⟩ := bind_eq_ok.mp run
      obtain ⟨rfl, rfl⟩ := get_eq_ok.mp looked
      obtain ⟨⟨owner, symbol⟩, between, asking, run⟩ := bind_eq_ok.mp run
      obtain rfl : place = owner := (Build.ensureGlobal_there asking).1.symm
      have asked : Gathers place known middle between := by
        rcases Build.ensureGlobal_ok asking with ⟨-, -, rfl⟩ | ⟨-, rfl⟩
        · exact IsEffect.refl _
        · exact .append middle _ _ nofun
      obtain ⟨_, _, marking, entering⟩ := bind_eq_ok.mp run
      obtain rfl := modify_eq_ok.mp marking
      obtain rfl := modify_eq_ok.mp entering
      refine IsEffect.trans (IsEffect.trans chosen asked) (IsEffect.trans ?_ (.of_module _ rfl))
      refine .of_changeLibrary between fun key type member => .inl ?_
      rwa [Module.types_changeGlobal] at member

/-- Pooling a text gathers nothing. -/
theorem leads_internString_gathers {known : Dictionary Key (Option IRType)} (text : Phrase) :
    Leads (Gathers place known) (Build.internString place text) := by
  intro world
  refine .of_changeLibrary world fun key type member => .inl ?_
  obtain ⟨added, same⟩ := (world.library place).module.types_intern (world.library place).pool text
  have member : (key, some type) ∈
      ((world.library place).pool.intern (world.library place).module text).2.2.types := member
  rw [same] at member
  rcases List.mem_append.mp member with there | new
  · exact there
  · simp at new

/-- **An import gathers** no routines but those of the source. -/
theorem importFrom_gathers {value : Value} (distinct : source ≠ place)
    (grounded : (start.library source).Grounded start.fragments.length)
    (found : importSource place value start = .ok source start)
    (run : importFrom place value start = .ok () after) :
    Gathers place (start.library source).module.types start after := by
  obtain ⟨_, _, finding, run⟩ := bind_eq_ok.mp run
  rw [found] at finding
  cases finding
  obtain ⟨_, _, looked, run⟩ := bind_eq_ok.mp run
  obtain ⟨rfl, rfl⟩ := get_eq_ok.mp looked
  rw [if_neg distinct] at run
  obtain ⟨_, first, functions, run⟩ := bind_eq_ok.mp run
  have gathers := forM_keeps (fun entry member _ _ gathers run =>
    importFunction_gathers gathers distinct grounded member run) (IsEffect.refl start) functions
  obtain ⟨_, _, looked, run⟩ := bind_eq_ok.mp run
  obtain ⟨rfl, rfl⟩ := get_eq_ok.mp looked
  obtain ⟨_, second, fragments, run⟩ := bind_eq_ok.mp run
  have gathers := IsEffect.trans gathers
    ((Leads.forM (fun entry => leads_importFragment_gathers entry) _).of_ok fragments)
  obtain ⟨_, _, looked, run⟩ := bind_eq_ok.mp run
  obtain ⟨rfl, rfl⟩ := get_eq_ok.mp looked
  obtain ⟨_, third, globals, run⟩ := bind_eq_ok.mp run
  have gathers := forM_keeps (fun entry _ _ _ gathers run =>
    IsEffect.trans gathers (importGlobal_gathers run)) gathers globals
  obtain ⟨_, _, looked, pooling⟩ := bind_eq_ok.mp run
  obtain ⟨rfl, rfl⟩ := get_eq_ok.mp looked
  have each (pooled : PooledText) : Leads (Gathers place (start.library source).module.types) (do
      let _ ← Build.internString place pooled.shown : Build PUnit) :=
    (leads_internString_gathers pooled.shown).bind fun _ => .pure _
  exact IsEffect.trans gathers ((Leads.forM each _).of_ok pooling)

/-- A routine that was gathered has the type that its key told, if the type of the source's routine is
asked for. -/
theorem Gathers.typeFor {known : Dictionary Key (Option IRType)} {key : Key} {type asked : IRType}
    (gathers : Gathers place known start after) (keeps : start.KeepsTypes after)
    (nodup : (after.library place).module.symbols.keys.Nodup) (nodupKnown : known.keys.Nodup)
    (there : (key, some type) ∈ (after.library place).module.types)
    (original : (key, some asked) ∈ known) :
    type = (start.library place).module.typeFor key asked := by
  rw [← Module.keys_types] at nodup
  have nodupBefore : (start.library place).module.symbols.keys.Nodup := by
    rw [← Module.keys_types]
    exact nodup.sublist ((keeps place).types.sublist.map _)
  by_cases held : ∃ earlier, (key, some earlier) ∈ (start.library place).module.types
  · obtain ⟨earlier, held⟩ := held
    rw [Module.typeFor_of_mem nodupBefore held]
    have same := Dictionary.eq_of_mem nodup there ((keeps place).types.subset held)
    exact Option.some.inj same
  · rw [Module.typeFor_of_not_mem (not_exists.mp held)]
    rcases gathers.routines there with before | gathered
    · exact (held ⟨type, before⟩).elim
    · exact Option.some.inj (Dictionary.eq_of_mem nodupKnown gathered original)

/-- **Importing functions** types them: each has a function of the source whose routine has its routine's
key, and whose type is asked for. -/
theorem importFrom_typed {value : Value} (attainable : Script.Attainable start)
    (inside : place < start.libraries.length)
    (run : importFrom place value start = .ok () after) :
    ∃ source, importSource place value start = .ok source start ∧
      ∀ index, (start.library place).functions.length ≤ index →
        index < (after.library place).functions.length →
          ∃ original ∈ (shownReferences start source false).entries,
            symbolKey after (after.functionSymbol ⟨place, index⟩) =
                symbolKey start (start.functionSymbol original) ∧
              Typed place (start.routineOf original).signature start after ⟨place, index⟩ := by
  have grounded := attainable.reachable.grounded
  obtain ⟨source, added, functionCauses, _, _, found, account⟩ := importFrom_ok run grounded inside
  refine ⟨source, found, fun index isNew listed => ?_⟩
  have distinct := account.distinct
  -- Routines come from either library, and keep their keys and types.
  have gathers := importFrom_gathers distinct (grounded source) found run
  have keeps : start.KeepsTypes after := (leads_importFrom place value).of_ok run
  have attained : Script.Attainable after := by
    rw [← Build.after_of_ok run]
    exact attainable.after fun _ _ => leads_importFrom place value
  -- The function is a copy of one that the source shows.
  obtain ⟨kept, sublist, pairs⟩ := account.functions.corresponds
  obtain ⟨length, pairs⟩ := List.forall₂_iff_get.mp pairs
  have functions : (after.library place).functions =
      (start.library place).functions ++ added.functions :=
    congrArg Tables.functions account.tables
  have entered : index - (start.library place).functions.length < added.functions.length := by
    rw [functions, List.length_append] at listed
    omega
  obtain ⟨-, copy⟩ := pairs _ (length ▸ entered) entered
  have shown := sublist.subset (List.get_mem kept ⟨_, length ▸ entered⟩)
  generalize kept.get _ = original at copy shown
  obtain ⟨function, copied⟩ : ∃ function, added.functions.get ⟨_, entered⟩ = function := ⟨_, rfl⟩
  rw [copied] at copy
  have listed : (after.library place).functions[index]? = some function := by
    rw [functions, List.getElem?_append_right isNew, List.getElem?_eq_getElem entered]
    exact congrArg some copied
  -- It has a routine, whose type is among those of the module.
  obtain ⟨routine, there⟩ := Option.isSome_iff_exists.mp
    ((attained.reachable.grounded place).functions _ (List.mem_of_getElem? listed))
  have owner : original.2.owner ≠ place := owner_of_mem_shownReferences shown ▸ distinct
  have named := copy.key
  rw [(gathers.routineOf owner).1] at named
  have types := Module.mem_types_of_routine? named there
  have same := gathers.typeFor keeps (attained.nodup_keys place)
    (Module.keys_types _ ▸ attainable.nodup_keys source) (List.mem_of_getElem? types)
    (types_of_mem_shownReferences (grounded source) shown)
  rw [same] at types
  have stands : (after.library place).Stands index _ _ := ⟨function, listed, types⟩
  exact ⟨original.2, List.mem_map_of_mem shown, stands.typeOf.2.1, .of_stands isNew stands⟩

end

end Library

/-- **In every library that scripts attain, functions have the types that they are declared with**, as
far as the module tells no other type for the keys of their routines: those that are defined, whatever
their bodies do, those that are declared to be external, and those that are imported. -/
theorem Script.Attainable.typesFunctions {world : World} (attainable : Attainable world)
    {place : LibraryId} (inside : place < world.libraries.length) :
    (∀ name parameters result body,
      (∀ known ∈ body, ∀ (Effect : World → World → Prop) [AllowsScripts Effect],
        Callback.LeadsTo Effect known) →
      ∀ reference after, Library.define place name parameters result body world =
          .ok reference after →
        ∃ asked, Library.Asks world parameters result asked ∧
          Library.Typed place asked world after reference) ∧
    (∀ name parameters result reference after,
      Library.declareExternal place name parameters result world = .ok reference after →
        ∃ asked, Library.Asks world parameters result asked ∧
          Library.Typed place asked world after reference) ∧
    ∀ value after, Library.importFrom place value world = .ok () after →
      ∃ source, Library.importSource place value world = .ok source world ∧
        ∀ index, (world.library place).functions.length ≤ index →
          index < (after.library place).functions.length →
            ∃ original ∈ (Library.shownReferences world source false).entries,
              Library.symbolKey after (after.functionSymbol ⟨place, index⟩) =
                  Library.symbolKey world (world.functionSymbol original) ∧
                Library.Typed place (world.routineOf original).signature world after
                  ⟨place, index⟩ := by
  have nodup := attainable.nodup_keys place
  refine ⟨fun _ _ _ _ callback _ _ run => ?_, fun _ _ _ _ _ run => ?_, fun _ _ run => ?_⟩
  · exact Library.define_typed inside nodup (fun known given => callback known given _) run
  · exact Library.declareExternal_typed inside nodup run
  · exact Library.importFrom_typed attainable inside run

/-! ## A function whose name in the module is taken -/

namespace Script

/-- Two libraries, the first of which has an external function of the name that the module will have
for `f`. -/
def declareForeign : Build Unit := do
  let place ← Library.create (.text "a") (.visibility .isPublic) (.policy .smart) .none .none none
  let _ ← Library.declareExternal place (.text "a_f") (.tuple [.text "i64"]) (.text "double")
  let other ← Library.create (.text "b") (.visibility .isPublic) (.policy .smart) .none .none none
  let _ ← Library.declareExternal other (.text "g") (.tuple [.text "i8"]) (.text "void")

/-- The world with the two libraries. -/
def foreign : World :=
  declareForeign.after initialWorld

theorem attainable_foreign : Attainable foreign :=
  attainable_initialWorld.after fun _ _ =>
    (Library.leads_create _ _ _ _ _ nofun).bind fun place =>
      (Library.leads_declareExternal place _ _ _).bind fun _ =>
        (Library.leads_create _ _ _ _ _ nofun).bind fun other =>
          (Library.leads_declareExternal other _ _ _).bind fun _ => .pure _

/-- What is defined, declared and imported in the first library is typed. -/
theorem Attainable.typesFunctions_foreign :
    Attainable foreign ∧ 0 < foreign.libraries.length ∧
      (∃ reference after, Library.define 0 (.text "f") (.tuple []) (.text "i32") none foreign =
          .ok reference after ∧ ∃ asked, Library.Asks foreign (.tuple []) (.text "i32") asked ∧
        Library.Typed 0 asked foreign after reference) ∧
      (∃ reference after, Library.declareExternal 0 (.text "h") (.tuple []) (.text "i1") foreign =
          .ok reference after ∧ ∃ asked, Library.Asks foreign (.tuple []) (.text "i1") asked ∧
        Library.Typed 0 asked foreign after reference) ∧
      ∃ after, Library.importFrom 0 (.library 1) foreign = .ok () after ∧
        ∃ original ∈ (Library.shownReferences foreign 1 false).entries,
          Library.Typed 0 (foreign.routineOf original).signature foreign after ⟨0, 1⟩ := by
  have inside : 0 < foreign.libraries.length := by decide +kernel
  obtain ⟨defines, declares, imports⟩ := attainable_foreign.typesFunctions inside
  have defining : (Library.define 0 (.text "f") (.tuple []) (.text "i32") none).succeeds foreign :=
    by decide +kernel
  have declaring : (Library.declareExternal 0 (.text "h") (.tuple []) (.text "i1")).succeeds foreign :=
    by decide +kernel
  obtain ⟨_, defined⟩ := Build.ok_of_succeeds defining
  obtain ⟨_, declared⟩ := Build.ok_of_succeeds declaring
  have imported : Library.importFrom 0 (.library 1) foreign = .ok () _ :=
    Build.ok_after (by decide +kernel)
  refine ⟨attainable_foreign, inside, ⟨_, _, defined, ?_⟩, ⟨_, _, declared, ?_⟩, _, imported, ?_⟩
  · exact defines _ _ _ none (fun _ given => (Option.not_mem_none _ given).elim) _ _ defined
  · exact declares _ _ _ _ _ declared
  · obtain ⟨source, found, typed⟩ := imports _ _ imported
    cases found
    obtain ⟨original, shown, -, typed⟩ := typed 1 (by decide +kernel) (by decide +kernel)
    exact ⟨original, shown, typed⟩

/-- **A function can have another type than it is defined with**: `f` is asked for without parameters
and with an `i32` as its result, and has the type of the external function. -/
theorem foreign_retypes :
    Attainable foreign ∧ ∃ reference after,
      Library.define 0 (.text "f") (.tuple []) (.text "i32") none foreign = .ok reference after ∧
        Library.Asks foreign (.tuple []) (.text "i32") (.function (.int 32) [] false) ∧
          (after.routineOf reference).signature = .function .double [.int 64] false := by
  have defining : (Library.define 0 (.text "f") (.tuple []) (.text "i32") none).succeeds foreign :=
    by decide +kernel
  have asks : Library.Asks foreign (.tuple []) (.text "i32") (.function (.int 32) [] false) :=
    ⟨⟨[], false⟩, .int 32, rfl, by decide +kernel, rfl⟩
  obtain ⟨⟨owner, index⟩, run⟩ := Build.ok_of_succeeds defining
  obtain ⟨-, -, rfl, isNew, listed, -⟩ := Library.define_typed (by decide +kernel)
    (attainable_foreign.nodup_keys 0) (fun _ given => (Option.not_mem_none _ given).elim) run
  -- The external function was the only one.
  have before : (foreign.library 0).functions.length = 1 := by decide +kernel
  have after : (((Library.define 0 (.text "f") (.tuple []) (.text "i32") none).after
      foreign).library 0).functions.length = 2 := by decide +kernel
  obtain rfl : index = 1 := by
    dsimp only at isNew listed
    omega
  exact ⟨attainable_foreign, _, _, run, asks, by decide +kernel⟩

end Script

end StructuredIR
