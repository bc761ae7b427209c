import StructuredIR.Proofs.Library.Growth

/-! # What a library gains

* **`Tables`** are the three tables of a library, **`Table`** is one of them.
* **`World.Gains place taken tables causes`** says that a library has gained the entries of some
  tables, under free keys, and warnings with some causes, and that it has grown besides.
* The steps that declare and enter things say what a library gains by them:
  **`Build.ensureRoutine_gains`**, **`Build.ensureGlobal_gains`**, **`Function.create_gains`** and
  **`Library.addFragment_gains`**. -/

namespace StructuredIR

open Build (bind_eq_ok get_eq_ok pure_eq_ok modify_eq_ok)

/-! ## Tables -/

/-- What a library lists. -/
structure Tables where
  /-- The functions. -/
  functions : Dictionary Key Function
  /-- The fragments. -/
  fragments : Dictionary Key FragmentId
  /-- The globals. -/
  globals : Dictionary Key GlobalEntry

namespace Tables

/-- Tables without entries. -/
def empty : Tables :=
  ⟨[], [], []⟩

instance : Append Tables where
  append first second :=
    ⟨first.functions ++ second.functions, first.fragments ++ second.fragments,
      first.globals ++ second.globals⟩

@[simp]
theorem functions_append (first second : Tables) :
    (first ++ second).functions = first.functions ++ second.functions :=
  rfl

@[simp]
theorem fragments_append (first second : Tables) :
    (first ++ second).fragments = first.fragments ++ second.fragments :=
  rfl

@[simp]
theorem globals_append (first second : Tables) :
    (first ++ second).globals = first.globals ++ second.globals :=
  rfl

@[ext]
theorem ext {first second : Tables} (functions : first.functions = second.functions)
    (fragments : first.fragments = second.fragments) (globals : first.globals = second.globals) :
    first = second := by
  cases first
  cases second
  simp_all

@[simp]
theorem append_empty (tables : Tables) : tables ++ empty = tables := by
  ext1 <;> simp [empty]

@[simp]
theorem empty_append (tables : Tables) : empty ++ tables = tables := by
  ext1 <;> simp [empty]

theorem append_assoc (first second third : Tables) :
    first ++ second ++ third = first ++ (second ++ third) := by
  ext1 <;> simp

/-- The keys of all entries. -/
def keys (tables : Tables) : List Key :=
  tables.functions.keys ++ tables.fragments.keys ++ tables.globals.keys

end Tables

/-- The tables of a library. -/
def Library.tables (library : Library) : Tables :=
  ⟨library.functions, library.fragments, library.globals⟩

/-- **One of the tables of a library**, with the word for what it lists. -/
structure Table (Entry : Type) where
  /-- What messages call what is listed. -/
  kind : String
  /-- The entries of the table. -/
  entries : Tables → Dictionary Key Entry
  /-- The tables with some entries in this one. -/
  only : Dictionary Key Entry → Tables
  /-- What was put in the table is in there. -/
  entries_only (added : Dictionary Key Entry) : entries (only added) = added
  /-- Entries come behind entries. -/
  entries_append (first second : Tables) :
    entries (first ++ second) = entries first ++ entries second
  /-- There are no other keys then. -/
  keys_only (added : Dictionary Key Entry) : (only added).keys = added.keys
  /-- Nothing is put in the table. -/
  only_nil : only [] = .empty
  /-- Some entries are put in the table after others. -/
  only_append (first second : Dictionary Key Entry) :
    only (first ++ second) = only first ++ only second

namespace Table

/-- The functions of a library. -/
def functions : Table Function where
  kind := "function"
  entries := Tables.functions
  only added := ⟨added, [], []⟩
  entries_only _ := rfl
  entries_append _ _ := rfl
  keys_only _ := by simp [Tables.keys, Dictionary.keys]
  only_nil := rfl
  only_append _ _ := rfl

/-- The fragments of a library. -/
def fragments : Table FragmentId where
  kind := "macro"
  entries := Tables.fragments
  only added := ⟨[], added, []⟩
  entries_only _ := rfl
  entries_append _ _ := rfl
  keys_only _ := by simp [Tables.keys, Dictionary.keys]
  only_nil := rfl
  only_append _ _ := rfl

/-- The globals of a library. -/
def globals : Table GlobalEntry where
  kind := "global"
  entries := Tables.globals
  only added := ⟨[], [], added⟩
  entries_only _ := rfl
  entries_append _ _ := rfl
  keys_only _ := by simp [Tables.keys, Dictionary.keys]
  only_nil := rfl
  only_append _ _ := rfl

end Table

/-! ## Gains -/

/-- **What a library gains**: entries under free keys, and warnings with some causes. It grows
besides, but keeps its pool. -/
structure World.Gains (place : LibraryId) (taken : List Key) (added : Tables)
    (causes : List Cause) (before after : World) : Prop where
  /-- Entries were added. -/
  tables : (after.library place).tables = (before.library place).tables ++ added
  /-- Warnings were recorded. -/
  report : (after.library place).report = (before.library place).report.noted causes
  /-- The pool is the same. -/
  pool : (after.library place).pool = (before.library place).pool
  /-- The library has grown. -/
  grows : World.Grows place taken before after

namespace World.Gains

variable {place : LibraryId} {taken : List Key} {added moreAdded : Tables}
variable {causes more : List Cause} {before middle after : World}

theorem refl (world : World) : World.Gains place taken .empty [] world world :=
  ⟨(Tables.append_empty _).symm, (Report.noted_nil _).symm, rfl, IsEffect.refl _⟩

theorem trans (first : World.Gains place taken added causes before middle)
    (second : World.Gains place taken moreAdded more middle after) :
    World.Gains place taken (added ++ moreAdded) (causes ++ more) before after where
  tables := by rw [second.tables, first.tables, Tables.append_assoc]
  report := by rw [second.report, first.report, Report.noted_noted]
  pool := second.pool.trans first.pool
  grows := IsEffect.trans first.grows second.grows

/-- Nothing is gained in a table. -/
theorem entries_of_empty {Entry : Type} (table : Table Entry)
    (gains : World.Gains place taken .empty causes before after) :
    table.entries (after.library place).tables = table.entries (before.library place).tables := by
  rw [gains.tables, Tables.append_empty]

/-- What is gained after nothing has been gained. -/
theorem andThen (first : World.Gains place taken .empty [] before middle)
    (second : World.Gains place taken added causes middle after) :
    World.Gains place taken added causes before after := by
  simpa only [Tables.empty_append, List.nil_append] using first.trans second

/-- Recording warnings adds nothing. -/
theorem of_noted (noted : Noted place causes before after)
    (inside : place < before.libraries.length) :
    World.Gains place taken .empty causes before after where
  tables := by
    rw [Tables.append_empty]
    exact Tables.ext (noted.functions place) (noted.fragments place) (noted.globals place)
  report := noted.report inside
  pool := by
    obtain ⟨report, same⟩ := noted.library place
    exact (congrArg Library.pool same :)
  grows := .of_noted noted

/-- Changing a library that gains entries under free keys. -/
theorem of_changeLibrary {world : World} {update : Library → Library}
    (inside : place < world.libraries.length)
    (tables : (update (world.library place)).tables = (world.library place).tables ++ added)
    (fresh : ∀ key ∈ added.keys, key ∉ taken)
    (report : (update (world.library place)).report = (world.library place).report)
    (pool : (update (world.library place)).pool = (world.library place).pool)
    (module : (world.library place).module.Grows (update (world.library place)).module) :
    World.Gains place taken added [] world (world.changeLibrary place update) := by
  have changed : (world.changeLibrary place update).library place =
      update (world.library place) := by
    rw [library_changeLibrary, if_pos ⟨rfl, inside⟩]
  have free {key : Key} (member : key ∈ added.functions.keys ∨ key ∈ added.fragments.keys ∨
      key ∈ added.globals.keys) : key ∉ taken :=
    fresh key (by simpa [Tables.keys, or_assoc] using member)
  refine ⟨by rw [changed, tables], by rw [changed, report, Report.noted_nil], by rw [changed, pool],
    .of_changeLibrary world ⟨?_, ?_, ?_, by rw [pool], module⟩⟩
  · exact ⟨added.functions, congrArg Tables.functions tables, fun entry member =>
      free (.inl (List.mem_map_of_mem member))⟩
  · exact ⟨added.fragments, congrArg Tables.fragments tables, fun entry member =>
      free (.inr (.inl (List.mem_map_of_mem member)))⟩
  · exact ⟨added.globals, congrArg Tables.globals tables, fun entry member =>
      free (.inr (.inr (List.mem_map_of_mem member)))⟩

/-- A module may change as long as its symbols mean the same. -/
theorem of_changeModule {world : World} {update : Module → Module}
    (inside : place < world.libraries.length)
    (grows : (world.library place).module.Grows (update (world.library place).module)) :
    World.Gains place taken .empty [] world (world.changeModule place update) :=
  of_changeLibrary inside (Tables.append_empty _).symm nofun rfl rfl grows

/-- A global is marked as constant or not. -/
theorem of_mark {world : World} {symbol : SymbolRef} (owner : symbol.owner = place)
    (inside : place < world.libraries.length) (isConstant : Bool) :
    World.Gains place taken .empty [] world
      (world.changeGlobal symbol fun global => { global with isConstant }) := by
  subst owner
  refine .of_changeModule inside (.change _ _ fun content => ?_)
  cases content with
  | global known => exact ⟨rfl, rfl⟩
  | routine known => exact .refl _

/-- A function is entered under a free key. -/
theorem of_enterFunction {world : World} {key : Key} (inside : place < world.libraries.length)
    (free : key ∉ taken) (function : Function) :
    World.Gains place taken (Table.functions.only [(key, function)]) [] world
      (world.changeLibrary place fun library =>
        { library with functions := library.functions ++ [(key, function)] }) := by
  refine .of_changeLibrary inside ?_ ?_ rfl rfl (.refl _)
  · ext1 <;> simp [Library.tables, Table.functions]
  · rw [Table.keys_only]
    simpa [Dictionary.keys] using free

/-- A fragment is entered under a free key. -/
theorem of_enterFragment {world : World} {key : Key} (inside : place < world.libraries.length)
    (free : key ∉ taken) (unheld : key ∉ (world.library place).fragments.keys)
    (fragment : FragmentId) :
    World.Gains place taken (Table.fragments.only [(key, fragment)]) [] world
      (world.changeLibrary place fun library =>
        { library with fragments := library.fragments.enter key fragment }) := by
  refine .of_changeLibrary inside ?_ ?_ rfl rfl (.refl _)
  · ext1 <;> simp [Library.tables, Dictionary.enter_of_free unheld, Table.fragments]
  · rw [Table.keys_only]
    simpa [Dictionary.keys] using free

/-- A global is entered under a free key. -/
theorem of_enterGlobal {world : World} {key : Key} (inside : place < world.libraries.length)
    (free : key ∉ taken) (unheld : key ∉ (world.library place).globals.keys)
    (entry : GlobalEntry) :
    World.Gains place taken (Table.globals.only [(key, entry)]) [] world
      (world.changeLibrary place fun library =>
        { library with globals := library.globals.enter key entry }) := by
  refine .of_changeLibrary inside ?_ ?_ rfl rfl (.refl _)
  · ext1 <;> simp [Library.tables, Dictionary.enter_of_free unheld, Table.globals]
  · rw [Table.keys_only]
    simpa [Dictionary.keys] using free

end World.Gains

/-! ## Keys of symbols -/

/-- The key of a symbol in a module, if it is there. -/
def Module.key? (module : Module) (place : Nat) : Option Key :=
  (module.symbols[place]?).map Prod.fst

/-- A symbol that was there keeps its key. -/
theorem Module.Grows.key? {before after : Module} (grows : before.Grows after) {place : Nat}
    {key : Key} (found : before.key? place = some key) : after.key? place = some key := by
  obtain ⟨⟨_, symbol⟩, listed, rfl⟩ := Option.map_eq_some_iff.mp found
  obtain ⟨later, listedLater, -⟩ := grows place _ _ listed
  rw [Module.key?, listedLater, Option.map_some]

/-- The key of a symbol that is there. -/
theorem Library.symbolKey_eq {world : World} {symbol : SymbolRef} {key : Key}
    (found : (world.library symbol.owner).module.key? symbol.place = some key) :
    symbolKey world symbol = key := by
  rw [Module.key?] at found
  rw [symbolKey, found, Option.getD_some]

namespace World.Grows

variable {place : LibraryId} {taken : List Key} {before after : World}

/-- Functions of other libraries are the same. -/
theorem function (grows : World.Grows place taken before after) {reference : FunctionRef}
    (elsewhere : reference.owner ≠ place) :
    after.function reference = before.function reference := by
  have same : (after.library reference.owner).functions =
      (before.library reference.owner).functions :=
    (congrArg Library.functions (grows.others _ elsewhere) :)
  rw [World.function, World.function, same]

/-- Symbols of other libraries have the same keys. -/
theorem symbolKey (grows : World.Grows place taken before after) {symbol : SymbolRef}
    (elsewhere : symbol.owner ≠ place) :
    Library.symbolKey after symbol = Library.symbolKey before symbol := by
  have same : (after.library symbol.owner).module.symbols.keys =
      (before.library symbol.owner).module.symbols.keys := by
    have bare := congrArg (fun library => library.module.symbols.keys) (grows.others _ elsewhere)
    simpa only [Library.bare, Module.keys_bare] using bare
  have found := congrArg (fun keys => (keys[symbol.place]?).getD .none) same
  simpa [Library.symbolKey, Dictionary.keys] using found

/-- Routines of functions of other libraries have the same keys. -/
theorem functionKey (grows : World.Grows place taken before after) {reference : FunctionRef}
    (elsewhere : reference.owner ≠ place) :
    Library.symbolKey after (after.functionSymbol reference) =
      Library.symbolKey before (before.functionSymbol reference) := by
  have same : after.functionSymbol reference = before.functionSymbol reference := by
    rw [World.functionSymbol, World.functionSymbol, grows.function elsewhere]
  rw [same]
  exact grows.symbolKey elsewhere

end World.Grows

/-! ## Steps -/

section

variable {place : LibraryId} (taken : List Key) {world after : World}

/-- What a library gains by asking for a routine: nothing but the routine. -/
theorem Build.ensureRoutine_gains {name : Name} {declared : Routine} {symbol : SymbolRef}
    (run : ensureRoutine place name declared world = .ok symbol after)
    (inside : place < world.libraries.length) :
    symbol.owner = place ∧ (after.library place).module.key? symbol.place = some name.key ∧
      World.Gains place taken .empty [] world after := by
  rcases ensureRoutine_ok run with ⟨found, owner, rfl⟩ | ⟨rfl, rfl⟩
  · exact ⟨owner, (Module.routineNamed?_eq_some found).2, .refl _⟩
  · refine ⟨rfl, ?_, .of_changeModule inside (.append _ _ _)⟩
    simp [World.changeModule, World.library_changeLibrary, inside, Module.key?, Module.append]

/-- What a library gains by asking for a global: nothing but the global. -/
theorem Build.ensureGlobal_gains {name : Name} {valueType : IRType} {symbol : SymbolRef}
    (run : ensureGlobal place name valueType world = .ok symbol after)
    (inside : place < world.libraries.length) :
    symbol.owner = place ∧ (after.library place).module.key? symbol.place = some name.key ∧
      World.Gains place taken .empty [] world after := by
  rcases ensureGlobal_ok run with ⟨found, owner, rfl⟩ | ⟨rfl, rfl⟩
  · exact ⟨owner, (Module.globalNamed?_eq_some found).2, .refl _⟩
  · refine ⟨rfl, ?_, .of_changeModule inside (.append _ _ _)⟩
    simp [World.changeModule, World.library_changeLibrary, inside, Module.key?, Module.append]

/-- **What a library gains by an external declaration**, before it is entered: nothing but a public
routine. -/
theorem Function.create_gains {name : Value} {signature : Signature} {result : IRType}
    {symbolName : Name} {visibility : Visibility} {function : Function}
    (run : create place name signature result symbolName visibility true world =
      .ok function after)
    (inside : place < world.libraries.length) :
    function.isDeclaration ∧ function.visibility.isPublic ∧
      (after.library place).module.key? function.symbol = some symbolName.key ∧
      World.Gains place taken .empty [] world after := by
  obtain ⟨symbol, between, asking, rest⟩ := bind_eq_ok.mp run
  obtain ⟨rfl, key, gains⟩ := Build.ensureRoutine_gains taken asking inside
  obtain ⟨_, _, linking, rest⟩ := bind_eq_ok.mp rest
  obtain rfl := modify_eq_ok.mp linking
  obtain ⟨rfl, rfl⟩ := pure_eq_ok.mp rest
  have linked : World.Gains symbol.owner taken .empty [] between
      (between.changeRoutine symbol fun routine =>
        { routine with isPrivate := (Value.visibility .isPublic).isPrivate }) := by
    refine .of_changeModule (by rwa [gains.grows.length]) (.change _ _ fun content => ?_)
    cases content with
    | global known => exact .refl _
    | routine known => exact ⟨rfl, rfl, rfl, rfl, rfl⟩
  exact ⟨rfl, rfl, linked.grows.library.module.key? key, gains.trans linked⟩

/-- A fragment that comes up is listed nowhere yet. -/
theorem Library.addFragment_gains (place : LibraryId) {fragment : Fragment} {known : FragmentId}
    (run : addFragment fragment world = .ok known after) :
    known < after.fragments.length ∧ after.fragment known = fragment ∧
      World.Gains place taken .empty [] world after := by
  obtain ⟨rfl, rfl⟩ := addFragment_ok run
  refine ⟨by simp, by simp [World.fragment], ?_⟩
  exact ⟨(Tables.append_empty _).symm, (Report.noted_nil _).symm, rfl, .of_addFragment fragment⟩

end

end StructuredIR
