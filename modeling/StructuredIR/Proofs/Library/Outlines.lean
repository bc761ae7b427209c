import StructuredIR.Proofs.Scripts
import StructuredIR.Proofs.Library.Growth

/-! # Outlines of libraries

What a library has in its module and what it lists, without texts and code, is its outline:
`Library.outline`. All that scripts do to an outline is one of seven kinds of steps.

* **`Outline.Becomes`** has one constructor for each kind: something is declared, a text is pooled, a
  function or a global is entered, or one of them is given another visibility.
* **`Outlined`** is the effect under which the outline of every library changes by such steps. It permits
  everything that scripts do, as they do it.
* **`Script.Attainable.outline`**: what every step keeps holds of all outlines that scripts attain. -/

namespace StructuredIR

open Build (Leads bind_eq_ok get_eq_ok pure_eq_ok modify_eq_ok)

/-! ## Free names -/

/-- The number that is tried is free if one of those that are tried is. -/
theorem freeNumber_free {taken : List Key} {base : String} {last attempts : Nat}
    (free : ∃ offset ≤ attempts, .text (numbered base (last + 1 + offset)) ∉ taken) :
    .text (numbered base (freeNumber taken base last attempts)) ∉ taken := by
  induction attempts generalizing last with
  | zero =>
      obtain ⟨offset, within, missing⟩ := free
      obtain rfl : offset = 0 := Nat.le_zero.mp within
      exact missing
  | succ attempts ih =>
      unfold freeNumber
      split
      next known =>
        refine ih ?_
        obtain ⟨offset, within, missing⟩ := free
        -- The first number is taken, so it is not the free one.
        cases offset with
        | zero => exact (missing (List.contains_iff_mem.mp known)).elim
        | succ offset =>
            refine ⟨offset, Nat.le_of_succ_le_succ within, ?_⟩
            rwa [show last + 1 + 1 + offset = last + 1 + (offset + 1) by omega]
      next unknown => rwa [List.contains_iff_mem] at unknown

/-- Different numbers give different names. -/
theorem numbered_injective (base : String) : Function.Injective (numbered base) := by
  intro first second same
  unfold numbered at same
  exact Nat.repr_inj.mp ((String.append_right_inj _).mp same)

/-- **The least free number makes a name free**: there are more numbers than names that are taken. -/
theorem leastFree_free (taken : List Key) (base : String) (last : Nat) :
    .text (numbered base (leastFree taken base last)) ∉ taken := by
  refine freeNumber_free ?_
  by_contra none
  push Not at none
  let names := (List.range (taken.length + 1)).map fun offset =>
    Key.text (numbered base (last + 1 + offset))
  have distinct : names.Nodup := by
    refine List.Nodup.map (fun first second same => ?_) List.nodup_range
    have numbers := numbered_injective base (Key.text.inj same)
    omega
  have among : names ⊆ taken := by
    intro name member
    obtain ⟨offset, within, rfl⟩ := List.mem_map.mp member
    exact none offset (Nat.le_of_lt_succ (List.mem_range.mp within))
  have fewer := (distinct.subperm among).length_le
  simp [names] at fewer

/-- The name of the next pooled text is free, and it is not empty. -/
theorem StringPool.nextName_free (pool : StringPool) (taken : List Key) :
    Key.text (pool.nextName taken) ∉ taken ∧ pool.nextName taken ≠ "" := by
  unfold nextName
  dsimp only
  split
  next =>
    refine ⟨leastFree_free taken _ 0, fun empty => ?_⟩
    have lengths := congrArg String.length empty
    simp [numbered] at lengths
  next unknown =>
    refine ⟨by rwa [List.contains_iff_mem] at unknown, fun empty => ?_⟩
    have lengths := congrArg String.length empty
    simp at lengths

/-- A symbol is declared under a name that is free and not empty. -/
theorem Build.declareSymbol_free {place : LibraryId} {name : Name} {content : Content}
    {world after : World} {symbol : SymbolRef}
    (run : declareSymbol place name content world = .ok symbol after) :
    name.key ≠ .text "" ∧ name.key ∉ (world.library place).module.symbols.keys := by
  obtain ⟨_, _, looked, run⟩ := bind_eq_ok.mp run
  obtain ⟨rfl, rfl⟩ := get_eq_ok.mp looked
  obtain ⟨_, _, looked, run⟩ := bind_eq_ok.mp run
  obtain ⟨rfl, rfl⟩ := get_eq_ok.mp looked
  obtain ⟨_, _, declaring, -⟩ := bind_eq_ok.mp run
  have declared := (Build.lift_eq_ok.mp declaring).1
  unfold Module.declare at declared
  split at declared
  next => cases declared
  next free => rwa [not_or, Dictionary.holds_iff] at free

/-! ## Outlines -/

/-- What a symbol of a module is, without its text and code. -/
inductive Kind where
  /-- A routine that may be hidden from other modules. -/
  | routine (isPrivate : Bool)
  /-- A global that may be hidden from other modules. -/
  | global (valueType : IRType) (isPrivate : Bool)
  deriving DecidableEq, Repr

/-- What a content is. -/
def Content.kind : Content → Kind
  | .routine known => .routine known.isPrivate
  | .global known => .global known.valueType known.isPrivate

namespace Kind

/-- A routine with another linkage. -/
def linkRoutine (isPrivate : Bool) : Kind → Kind
  | .routine _ => .routine isPrivate
  | .global valueType known => .global valueType known

/-- A global with another linkage, found from the one it has. -/
def linkGlobal (link : Bool → Bool) : Kind → Kind
  | .routine known => .routine known
  | .global valueType isPrivate => .global valueType (link isPrivate)

end Kind

/-- What a library has in its module and what it lists. -/
structure Outline where
  /-- What the symbols of the module are. -/
  symbols : Dictionary Key Kind
  /-- The symbol of each function, and whether the function is private. -/
  functions : List (Nat × Bool)
  /-- The symbol of each global, and whether its entry is private. -/
  globals : Dictionary Key (Nat × Bool)
  /-- The symbols of the pooled texts. -/
  pooled : List Nat

/-- What the symbols of a module are. -/
def Module.kinds (module : Module) : Dictionary Key Kind :=
  module.symbols.map fun entry => (entry.1, entry.2.content.kind)

/-- **The outline of a library.** -/
def Library.outline (library : Library) : Outline where
  symbols := library.module.kinds
  functions := library.functions.map fun entry => (entry.2.symbol, entry.2.visibility.isPrivate)
  globals := library.globals.map fun entry =>
    (entry.1, entry.2.symbol, entry.2.visibility == .isPrivate)
  pooled := library.pool.entries.map fun entry => entry.2.place

/-- The keys of the symbols. -/
@[simp]
theorem Library.keys_outline (library : Library) :
    library.outline.symbols.keys = library.module.symbols.keys := by
  simp [outline, Module.kinds, Dictionary.keys]

/-- The outline has as many symbols as the module. -/
@[simp]
theorem Library.length_outline (library : Library) :
    library.outline.symbols.length = library.module.symbols.length :=
  List.length_map ..

namespace Outline

/-- The outline of a library without declarations. -/
def empty : Outline :=
  ⟨[], [], [], []⟩

/-- The outline with the kind of a symbol changed. -/
def changeKind (outline : Outline) (place : Nat) (update : Kind → Kind) : Outline :=
  { outline with
    symbols := outline.symbols.modify place fun entry => (entry.1, update entry.2) }

/-- **What scripts do to an outline**, step by step. -/
inductive Becomes (outline : Outline) : Outline → Prop
  /-- A public symbol is declared under a free name. -/
  | declare {key : Key} {kind : Kind} (named : key ≠ .text "") (free : key ∉ outline.symbols.keys)
      (isPublic : kind = .routine false ∨ ∃ type, type ≠ .void ∧ kind = .global type false) :
      Becomes outline { outline with symbols := outline.symbols ++ [(key, kind)] }
  /-- A text is pooled in a private global under a free name. -/
  | pool {key : Key} {type : IRType} (named : key ≠ .text "") (free : key ∉ outline.symbols.keys)
      (holds : type ≠ .void) :
      Becomes outline { outline with
        symbols := outline.symbols ++ [(key, .global type true)]
        pooled := outline.pooled ++ [outline.symbols.length] }
  /-- A function is entered, and its routine linked as it says. -/
  | enterFunction {place : Nat} {key : Key} {known isPrivate : Bool}
      (there : outline.symbols[place]? = some (key, .routine known)) :
      Becomes outline { outline.changeKind place (Kind.linkRoutine isPrivate) with
        functions := outline.functions ++ [(place, isPrivate)] }
  /-- A function is given another visibility, and so is its routine. -/
  | relinkFunction {index place : Nat} {known isPrivate : Bool}
      (listed : outline.functions[index]? = some (place, known)) :
      Becomes outline { outline.changeKind place (Kind.linkRoutine isPrivate) with
        functions := outline.functions.set index (place, isPrivate) }
  /-- A global is entered under a free key; it is hidden if its entry says so, or stays hidden. -/
  | enterGlobal {key name : Key} {place : Nat} {type : IRType} {known isPrivate : Bool}
      (there : outline.symbols[place]? = some (name, .global type known))
      (free : key ∉ outline.globals.keys) :
      Becomes outline { outline.changeKind place (Kind.linkGlobal (· || isPrivate)) with
        globals := outline.globals ++ [(key, place, isPrivate)] }
  /-- An entry of a global is given another visibility, and so is the global. -/
  | relinkGlobal {key : Key} {place : Nat} {known isPrivate : Bool}
      (listed : (key, place, known) ∈ outline.globals) :
      Becomes outline { outline.changeKind place (Kind.linkGlobal fun _ => isPrivate) with
        globals := outline.globals.change key fun entry => (entry.1, isPrivate) }

/-- An outline becomes another one in several steps. -/
abbrev Comes : Outline → Outline → Prop :=
  Relation.ReflTransGen Becomes

end Outline

open Outline (Becomes Comes)

/-! ## Modules -/

namespace Module

variable (module : Module)

/-- A change of a symbol changes its kind. -/
theorem kinds_change (place : Nat) {update : Content → Content} {updateKind : Kind → Kind}
    (same : ∀ symbol, module.symbol? place = some symbol →
      (update symbol.content).kind = updateKind symbol.content.kind) :
    (module.change place update).kinds =
      module.kinds.modify place fun entry => (entry.1, updateKind entry.2) := by
  refine List.ext_getElem? fun index => ?_
  simp only [kinds, change, List.getElem?_map, List.getElem?_modify]
  by_cases here : place = index
  · subst here
    cases known : module.symbols[place]? with
    | none => simp
    | some entry =>
        have there : module.symbol? place = some entry.2 := by simp [symbol?, known]
        simp [same entry.2 there]
  · simp [here]

/-- A change of a routine that keeps its linkage keeps the kinds. -/
theorem kinds_changeRoutine (place : Nat) {update : Routine → Routine}
    (same : ∀ routine, module.routine? place = some routine →
      (update routine).isPrivate = routine.isPrivate) :
    (module.changeRoutine place update).kinds = module.kinds := by
  have kept : module.kinds.modify place (fun entry => (entry.1, id entry.2)) = module.kinds :=
    List.modify_id ..
  refine (module.kinds_change place fun symbol there => ?_).trans kept
  obtain ⟨name, content⟩ := symbol
  cases content with
  | global => rfl
  | routine routine =>
      have known : module.routine? place = some routine := by simp [routine?_eq, there]
      exact congrArg Kind.routine (same routine known)

/-- A routine is given a linkage. -/
theorem kinds_linkRoutine (place : Nat) (isPrivate : Bool) :
    (module.changeRoutine place fun routine => { routine with isPrivate }).kinds =
      module.kinds.modify place fun entry => (entry.1, entry.2.linkRoutine isPrivate) := by
  refine module.kinds_change place fun symbol _ => ?_
  obtain ⟨name, content⟩ := symbol
  cases content <;> rfl

/-- A global changes that keeps its type and is given a linkage. -/
theorem kinds_linkGlobal (place : Nat) {update : Global → Global} (link : Bool → Bool)
    (valueType : ∀ global, (update global).valueType = global.valueType)
    (isPrivate : ∀ global, (update global).isPrivate = link global.isPrivate) :
    (module.changeGlobal place update).kinds =
      module.kinds.modify place fun entry => (entry.1, entry.2.linkGlobal link) := by
  refine module.kinds_change place fun symbol _ => ?_
  obtain ⟨name, content⟩ := symbol
  cases content with
  | routine => rfl
  | global global => exact congrArg₂ Kind.global (valueType global) (isPrivate global)

/-- A change of a global that keeps its type and its linkage keeps the kinds. -/
theorem kinds_changeGlobal (place : Nat) {update : Global → Global}
    (valueType : ∀ global, (update global).valueType = global.valueType)
    (isPrivate : ∀ global, (update global).isPrivate = global.isPrivate) :
    (module.changeGlobal place update).kinds = module.kinds := by
  have same (kind : Kind) : kind.linkGlobal id = kind := by cases kind <;> rfl
  have changed : (module.changeGlobal place update).kinds =
      module.kinds.modify place fun entry => (entry.1, entry.2.linkGlobal id) :=
    module.kinds_linkGlobal place id valueType isPrivate
  rw [changed]
  simp only [same]
  exact List.modify_id ..

/-- A further symbol. -/
theorem kinds_append (key : Key) (symbol : Symbol) :
    (module.append key symbol).kinds = module.kinds ++ [(key, symbol.content.kind)] := by
  simp [kinds, append]

/-- A routine is one among the kinds. -/
theorem kinds_of_routine? {place : Nat} {routine : Routine}
    (there : module.routine? place = some routine) :
    ∃ key, module.kinds[place]? = some (key, .routine routine.isPrivate) := by
  rw [routine?_eq] at there
  obtain ⟨⟨name, content⟩, found, same⟩ := Option.bind_eq_some_iff.mp there
  cases content with
  | global => cases same
  | routine known =>
      cases same
      obtain ⟨⟨key, symbol⟩, among, rfl⟩ := Option.map_eq_some_iff.mp found
      exact ⟨key, by simp [kinds, among, Content.kind]⟩

/-- A global is one among the kinds. -/
theorem kinds_of_global? {place : Nat} {global : Global}
    (there : module.global? place = some global) :
    ∃ key, module.kinds[place]? = some (key, .global global.valueType global.isPrivate) := by
  rw [global?_eq] at there
  obtain ⟨⟨name, content⟩, found, same⟩ := Option.bind_eq_some_iff.mp there
  cases content with
  | routine => cases same
  | global known =>
      cases same
      obtain ⟨⟨key, symbol⟩, among, rfl⟩ := Option.map_eq_some_iff.mp found
      exact ⟨key, by simp [kinds, among, Content.kind]⟩

end Module

/-! ## The effect -/

/-- **Outlines change by what scripts do to them.** -/
def Outlined (before after : World) : Prop :=
  ∀ place, Comes (before.library place).outline (after.library place).outline

namespace Outlined

variable {world before after : World} {place : LibraryId}

/-- Outlines stay where libraries do. -/
theorem of_libraries (same : after.libraries = before.libraries) : Outlined before after := by
  intro place
  have kept : after.library place = before.library place := by
    rw [World.library, same, ← World.library]
  rw [kept]

/-- One outline changes. -/
theorem changeLibrary (world : World) (place : LibraryId) {update : Library → Library}
    (comes : Comes (world.library place).outline (update (world.library place)).outline) :
    Outlined world (world.changeLibrary place update) := by
  intro other
  rw [World.library_changeLibrary]
  split
  next here => rwa [here.1]
  next => exact .refl

/-- The outline stays that a change does not touch. -/
theorem of_outline (world : World) (place : LibraryId) {update : Library → Library}
    (same : (update (world.library place)).outline = (world.library place).outline) :
    Outlined world (world.changeLibrary place update) :=
  changeLibrary world place (by rw [same])

/-- The outline stays of a library whose module has the same kinds of symbols. -/
theorem of_kinds (world : World) (place : LibraryId) {update : Module → Module}
    (same : (update (world.library place).module).kinds = (world.library place).module.kinds) :
    Outlined world (world.changeModule place update) :=
  of_outline world place (congrArg (fun symbols =>
    { (world.library place).outline with symbols }) same)

/-- Declaring a public symbol. -/
theorem declareSymbol (world : World) (place : LibraryId) (name : Name) {content : Content}
    (isPublic : content.kind = .routine false ∨
      ∃ type, type ≠ .void ∧ content.kind = .global type false) :
    Outlined world ((Build.declareSymbol place name content).after world) := by
  cases run : Build.declareSymbol place name content world with
  | error fault final =>
      rw [Build.after_of_error run, Build.declareSymbol_error run]
      exact of_libraries rfl
  | ok symbol final =>
      have free := Build.declareSymbol_free run
      rw [Build.after_of_ok run, (Build.declareSymbol_ok run).2]
      refine changeLibrary world place ?_
      change Comes _ { (world.library place).outline with
        symbols := ((world.library place).module.append name.key ⟨name.shown, content⟩).kinds }
      rw [Module.kinds_append]
      exact .single (.declare free.1 (by rw [Library.keys_outline]; exact free.2) isPublic)

/-- Pooling a text. -/
theorem intern (world : World) (place : LibraryId) (text : Phrase) :
    Outlined world ((Build.internString place text).after world) := by
  refine changeLibrary world place ?_
  generalize world.library place = library
  dsimp only
  split
  next => exact .refl
  next =>
    obtain ⟨free, named⟩ := library.pool.nextName_free library.module.symbols.keys
    let key := Key.text (library.pool.nextName library.module.symbols.keys)
    let symbol : Symbol := ⟨.text (library.pool.nextName library.module.symbols.keys),
      .global (StringPool.constant text.content)⟩
    have places : (library.pool.entries ++
        [(text.content, ({ shown := text, place := library.module.symbols.length } : PooledText))]).map
          (fun entry => entry.2.place) = library.outline.pooled ++ [library.outline.symbols.length] := by
      rw [List.map_append, Library.length_outline]
      rfl
    change Comes _ { library.outline with
      symbols := (library.module.append key symbol).kinds
      pooled := List.map _ _ }
    rw [Module.kinds_append, places]
    have bytes : (StringPool.constant text.content).valueType ≠ .void := IRType.noConfusion
    exact .single (.pool (fun empty => named (Key.text.inj empty))
      (by rwa [Library.keys_outline]) bytes)

/-- A function whose routine is there is entered, and its routine linked as it says. -/
theorem enterFunction {world : World} {place : LibraryId} {function : Function}
    (there : world.HasRoutine place function.symbol) (key : Key) :
    Outlined world ((world.changeRoutine ⟨place, function.symbol⟩ fun routine =>
      { routine with isPrivate := function.visibility.isPrivate }).changeLibrary place fun library =>
        { library with functions := library.functions ++ [(key, function)] }) := by
  rw [World.changeRoutine, World.changeModule, World.changeLibrary_changeLibrary]
  rcases there with missing | there
  · rw [World.changeLibrary_of_length_le world missing]
    exact of_libraries rfl
  · refine changeLibrary world place ?_
    obtain ⟨routine, known⟩ := Option.isSome_iff_exists.mp there
    obtain ⟨name, found⟩ := Module.kinds_of_routine? _ known
    generalize world.library place = library at found
    change Comes _ { library.outline with
      symbols := (library.module.changeRoutine function.symbol fun routine =>
        { routine with isPrivate := function.visibility.isPrivate }).kinds
      functions := (library.functions ++ [(key, function)]).map fun entry =>
        (entry.2.symbol, entry.2.visibility.isPrivate) }
    rw [Module.kinds_linkRoutine, List.map_append]
    exact .single (.enterFunction found)

/-- A function that is listed is given another visibility, and so is its routine. -/
theorem relinkFunction {world : World} {reference : FunctionRef} {key : Key} {function : Function}
    (listed : (world.library reference.owner).functions[reference.place]? = some (key, function))
    (visibility : Value) :
    Outlined world ((world.changeFunction reference fun function =>
      { function with visibility }).changeRoutine ⟨reference.owner, function.symbol⟩ fun routine =>
        { routine with isPrivate := visibility.isPrivate }) := by
  rw [World.changeRoutine, World.changeModule, World.changeFunction,
    World.changeLibrary_changeLibrary]
  refine changeLibrary world reference.owner ?_
  generalize world.library reference.owner = library at listed
  change Comes _ { library.outline with
    symbols := (library.module.changeRoutine function.symbol fun routine =>
      { routine with isPrivate := visibility.isPrivate }).kinds
    functions := (library.functions.modify reference.place fun entry =>
      (entry.1, { entry.2 with visibility })).map fun entry =>
        (entry.2.symbol, entry.2.visibility.isPrivate) }
  have set : (library.functions.modify reference.place fun entry =>
      (entry.1, { entry.2 with visibility })).map (fun entry =>
        (entry.2.symbol, entry.2.visibility.isPrivate)) =
      library.outline.functions.set reference.place (function.symbol, visibility.isPrivate) := by
    refine List.ext_getElem? fun index => ?_
    simp only [Library.outline, List.getElem?_map, List.getElem?_modify, List.getElem?_set]
    by_cases here : reference.place = index
    · subst here
      obtain ⟨inside, found⟩ := List.getElem?_eq_some_iff.mp listed
      simp [inside, found]
    · simp [here]
  rw [Module.kinds_linkRoutine, set]
  have found : library.outline.functions[reference.place]? =
      some (function.symbol, function.visibility.isPrivate) := by
    simp [Library.outline, listed]
  exact .single (.relinkFunction found)

/-- A global that is there is entered under a free key. It is as private as the entry says, or was
private before. -/
theorem enterGlobal {world : World} {place : LibraryId} {entry : GlobalEntry} {key : Key}
    (there : world.HasGlobal place entry.symbol)
    (free : key ∉ (world.library place).globals.keys) {update : Global → Global}
    (valueType : ∀ global, (update global).valueType = global.valueType)
    (isPrivate : ∀ global, (update global).isPrivate =
      (global.isPrivate || entry.visibility == .isPrivate)) :
    Outlined world ((world.changeGlobal ⟨place, entry.symbol⟩ update).changeLibrary place
      fun library => { library with globals := library.globals.enter key entry }) := by
  rw [World.changeGlobal, World.changeModule, World.changeLibrary_changeLibrary]
  rcases there with missing | there
  · rw [World.changeLibrary_of_length_le world missing]
    exact of_libraries rfl
  · refine changeLibrary world place ?_
    obtain ⟨global, known⟩ := Option.isSome_iff_exists.mp there
    obtain ⟨name, found⟩ := Module.kinds_of_global? _ known
    generalize world.library place = library at found free
    change Comes _ { library.outline with
      symbols := (library.module.changeGlobal entry.symbol update).kinds
      globals := (library.globals.enter key entry).map fun entry =>
        (entry.1, entry.2.symbol, entry.2.visibility == .isPrivate) }
    rw [Module.kinds_linkGlobal _ _ (· || entry.visibility == .isPrivate) valueType isPrivate,
      Dictionary.enter_of_free free, List.map_append]
    refine .single (.enterGlobal found ?_)
    simpa [Library.outline, Dictionary.keys] using free

/-- A global that is listed is given another visibility, and so is its entry. -/
theorem relinkGlobal {world : World} {place : LibraryId} {entry : GlobalEntry} {key : Key}
    (listed : (world.library place).globals.get? key = some entry) (visibility : Visibility) :
    Outlined world ((world.changeGlobal ⟨place, entry.symbol⟩ fun global =>
      { global with isPrivate := visibility == .isPrivate }).changeLibrary place fun library =>
        { library with
          globals := library.globals.change key fun entry => { entry with visibility } }) := by
  rw [World.changeGlobal, World.changeModule, World.changeLibrary_changeLibrary]
  refine changeLibrary world place ?_
  have member := Dictionary.mem_of_get?_eq_some listed
  generalize world.library place = library at member
  change Comes _ { library.outline with
    symbols := (library.module.changeGlobal entry.symbol fun global =>
      { global with isPrivate := visibility == .isPrivate }).kinds
    globals := (library.globals.change key fun entry => { entry with visibility }).map fun entry =>
      (entry.1, entry.2.symbol, entry.2.visibility == .isPrivate) }
  have changed : (library.globals.change key fun entry => { entry with visibility }).map
      (fun entry => (entry.1, entry.2.symbol, entry.2.visibility == .isPrivate)) =
      library.outline.globals.change key fun entry => (entry.1, visibility == .isPrivate) := by
    simp only [Library.outline, Dictionary.change, List.map_map]
    refine List.map_congr_left fun known _ => ?_
    simp only [Function.comp_apply]
    split <;> rfl
  have linked : (library.module.changeGlobal entry.symbol fun global =>
      { global with isPrivate := visibility == .isPrivate }).kinds =
      library.module.kinds.modify entry.symbol fun entry =>
        (entry.1, entry.2.linkGlobal fun _ => visibility == .isPrivate) :=
    library.module.kinds_linkGlobal entry.symbol _ (fun _ => rfl) fun _ => rfl
  rw [linked, changed]
  exact .single (.relinkGlobal (List.mem_map_of_mem member))

end Outlined

instance : IsEffect Outlined where
  refl _ := Outlined.of_libraries rfl
  trans first second := fun place => (first place).trans (second place)

instance : AllowsTexts Outlined where
  held _ _ _ := .of_libraries rfl
  block world _ _ := .of_kinds world _ (Module.kinds_changeRoutine _ _ fun _ _ => rfl)
  global world _ _ := .of_kinds world _ (Module.kinds_changeGlobal _ _ (fun _ => rfl) fun _ => rfl)

instance {place : LibraryId} : AllowsRoutinesIn place Outlined where
  changeRoutine world _ _ _ heading _ :=
    .of_kinds world _ (Module.kinds_changeRoutine _ _ fun routine known =>
      (congrArg Routine.isPrivate (heading routine known) :))

instance : AllowsCode Outlined where
  aside libraries _ := .of_libraries libraries
  code place :=
    { intern := fun _ text _ world => .intern world _ text
      routine := fun name result parameters isVariadic world =>
        .declareSymbol world place name (.inl rfl)
      emitFirst := fun world _ entry base operation _ _ =>
        Build.leads_emitFirst entry base operation world
      changeFunction := fun world reference update _ heading _ => by
        refine .of_outline world reference.owner (congrArg (fun functions =>
          { (world.library reference.owner).outline with functions }) ?_)
        refine List.ext_getElem? fun index => ?_
        simp only [List.getElem?_map, List.getElem?_modify]
        by_cases here : reference.place = index
        · subst here
          cases (world.library reference.owner).functions[reference.place]? with
          | none => simp
          | some entry =>
              have symbol : (update entry.2).symbol = entry.2.symbol :=
                (congrArg Function.symbol (heading entry.2) :)
              have visibility : (update entry.2).visibility = entry.2.visibility :=
                (congrArg Function.visibility (heading entry.2) :)
              simp [symbol, visibility]
        · simp [here] }

namespace Library

/-- A function is created and entered. -/
theorem outlined_addFunction (place : LibraryId) (key : Key) (name : Value) (signature : Signature)
    (result : IRType) (symbolName : Name) (visibility : Visibility) (isDeclaration : Bool) :
    Leads Outlined (addFunction place key name signature result symbolName visibility
      isDeclaration) := by
  unfold addFunction Function.create
  rw [bind_assoc]
  refine (Build.leads_ensureRoutine place _ _ _ _).bindFrom fun _ symbol between run => ?_
  obtain ⟨owner, there⟩ := Build.ensureRoutine_there run
  obtain ⟨owner', symbol⟩ := symbol
  obtain rfl : place = owner' := owner.symm
  cases isDeclaration with
  | true => exact Outlined.enterFunction there key
  | false =>
      have opened : Outlined between _ := Build.leads_appendNamed ⟨place, symbol⟩ "entry" between
      exact IsEffect.trans opened (Outlined.enterFunction (there.changeRoutine _ _) key)

/-- A global is asked for, changed and entered. -/
theorem outlined_addGlobal {place : LibraryId} {key : Key} {world : World}
    (free : key ∉ (world.library place).globals.keys) (symbolName : Name) (valueType : IRType)
    {update : Global → Global} (name : Value) {visibility : Visibility}
    (keepsType : ∀ global, (update global).valueType = global.valueType)
    (isPrivate : ∀ global, (update global).isPrivate =
      (global.isPrivate || visibility == .isPrivate)) :
    Outlined world
      ((addGlobal place key symbolName valueType update name visibility).after world) := by
  have asked : Outlined world ((Build.ensureGlobal place symbolName valueType).after world) := by
    rw [Build.ensureGlobal, Build.after_get_bind]
    split
    next => exact IsEffect.refl world
    next =>
      dsimp only
      split
      next => exact IsEffect.refl world
      next holds => exact .declareSymbol world place symbolName (.inr ⟨valueType, holds, rfl⟩)
  refine Build.permitted_bind asked fun symbol between run => ?_
  obtain ⟨owner, there⟩ := Build.ensureGlobal_there run
  obtain ⟨owner', symbol⟩ := symbol
  obtain rfl : place = owner' := owner.symm
  have same : SameGlobals place world between := by
    rcases Build.ensureGlobal_ok run with ⟨-, -, rfl⟩ | ⟨-, rfl⟩
    · rfl
    · exact .changeLibrary world place fun _ => rfl
  exact Outlined.enterGlobal there (by rwa [same]) keepsType isPrivate

end Library

instance : AllowsScripts Outlined where
  addLibrary world name visibility policy registry report echo := by
    intro place
    rw [World.library_append]
    split
    next new =>
      rw [new, World.library_of_length_le world (Nat.le_refl _)]
      exact .refl
    next => exact .refl
  addFragment _ _ := .of_libraries rfl
  changeFragment _ _ _ := .of_libraries rfl
  library place :=
    { changeReport := fun world _ => .of_outline world place rfl
      changeDefault := fun world _ => .of_outline world place rfl
      atEntry := fun reference _ => Generator.leads_atEntry reference
      addFunction := Library.outlined_addFunction place
      relinkFunction := fun world reference key function visibility owner listed => by
        subst owner
        exact .relinkFunction listed visibility
      addEntry := fun key fragment =>
        Leads.bind (Leads.get.bind fun _ => Leads.bind (Leads.modify fun _ => .of_libraries rfl) fun _ =>
          Leads.pure _) fun _ => Leads.bind (Leads.modify fun world => .of_outline world place rfl) fun _ =>
            Leads.pure _
      relinkFragment := fun _ _ _ _ _ => .of_libraries rfl
      addGlobal := fun world key symbolName valueType update name visibility free =>
        Library.outlined_addGlobal free symbolName valueType name
      fixGlobal := fun world symbol _ =>
        .of_kinds world _ (Module.kinds_changeGlobal _ _ (fun _ => rfl) fun _ => rfl)
      relinkGlobal := fun world key entry visibility listed => .relinkGlobal listed visibility }

/-! ## Attainable outlines -/

/-- A property of outlines that scripts never take away. -/
structure Outline.IsKept (Property : Outline → Prop) : Prop where
  /-- It holds without declarations. -/
  empty : Property .empty
  /-- Each step keeps it. -/
  step {before after : Outline} : Becomes before after → Property before → Property after

/-- What is kept through several steps. -/
theorem Outline.IsKept.comes {Property : Outline → Prop} (kept : IsKept Property)
    {before after : Outline} (comes : Comes before after) (holds : Property before) :
    Property after := by
  induction comes with
  | refl => exact holds
  | tail _ step ih => exact kept.step step ih

/-- **What every step keeps holds of all outlines that scripts attain.** -/
theorem Script.Attainable.outline {world : World} (attainable : Attainable world)
    {Property : Outline → Prop} (kept : Outline.IsKept Property) (place : LibraryId) :
    Property (world.library place).outline :=
  kept.comes (attainable Outlined place) kept.empty

end StructuredIR
