import StructuredIR.Program
import StructuredIR.Proofs.Library.Preservation

/-! # What a program shows of its libraries

A library exports its public functions and globals by the names of their symbols. Several exports
of a library can go by one name, since an import or an external declaration may stand for a symbol
that the library has already.

* **`Library.exportsOf`** are the exports of a library that go by a name, and **`Library.describes`**
  is the last of them: it is what the symbol table of the library tells about the name.
* **`Program.told_symbols`**: a program shows under a name what the first library tells that
  describes it as defined, and if none does, what the first library tells that describes it at all.
* **`Program.symbols_showsExports`**: so a definition is shown if the library that defines the name does
  not declare it once more behind the definition.
* **`Program.symbols_hides_definition`**: if it does, the definition is not shown. -/

namespace StructuredIR

/-! ## Dictionaries -/

namespace Dictionary

variable {Key Entry : Type} [DecidableEq Key]

/-- What is found under a key behind a first entry. -/
theorem get?_cons (known key : Key) (value : Entry) (dictionary : Dictionary Key Entry) :
    get? ((known, value) :: dictionary) key =
      if key = known then some value else get? dictionary key := by
  by_cases same : key = known
  · simp [get?, same]
  · have apart : (key == known) = false := by simpa using same
    simp [get?, List.lookup_cons, same, apart]

/-- What is found under a key once an entry has changed. -/
theorem get?_change (dictionary : Dictionary Key Entry) (key other : Key)
    (update : Entry → Entry) :
    (dictionary.change key update).get? other =
      if other = key then (dictionary.get? key).map update else dictionary.get? other := by
  induction dictionary with
  | nil => simp [change, get?]
  | cons entry entries ih =>
      obtain ⟨known, value⟩ := entry
      have changed : change ((known, value) :: entries) key update =
          (known, if known = key then update value else value) :: change entries key update := by
        simp only [change, List.map_cons]
        split <;> rfl
      rw [changed, get?_cons, get?_cons, get?_cons, ih]
      by_cases here : other = known
      · subst here
        by_cases same : other = key <;> simp [same]
      · by_cases same : other = key
        · subst same
          simp [here]
        · simp [here, same]

/-- What is found under a key once something has been entered. -/
theorem get?_enter (dictionary : Dictionary Key Entry) (key other : Key) (value : Entry) :
    (dictionary.enter key value).get? other =
      if other = key then some value else dictionary.get? other := by
  by_cases known : key ∈ dictionary.keys
  · have found : dictionary.get? key ≠ none := fun missing => get?_eq_none.mp missing known
    obtain ⟨old, there⟩ := Option.ne_none_iff_exists'.mp found
    rw [enter, if_pos (by rwa [holds_iff]), get?_change, there, Option.map_some]
  · rw [enter_of_free known, get?, List.lookup_append, get?]
    by_cases same : other = key
    · subst same
      have missing : dictionary.lookup other = none := get?_eq_none.mpr known
      simp [missing]
    · have apart : (other == key) = false := by simpa using same
      simp [same, List.lookup_cons, apart]

/-- No key is there twice once something has been entered. -/
theorem nodup_keys_enter {dictionary : Dictionary Key Entry} (nodup : dictionary.keys.Nodup)
    (key : Key) (value : Entry) : (dictionary.enter key value).keys.Nodup := by
  by_cases known : key ∈ dictionary.keys
  · rwa [enter, if_pos (by rwa [holds_iff]), keys_change]
  · rw [enter_of_free known]
    simp only [keys, List.map_append, List.map_cons, List.map_nil]
    exact List.nodup_append.mpr ⟨nodup, List.nodup_singleton _, fun first member second found => by
      rw [List.mem_singleton.mp found]
      rintro rfl
      exact known member⟩

end Dictionary

/-! ## The exports of a library -/

/-- Whether a symbol is described as defined. -/
def SymbolInfoOver.isDefined (info : SymbolInfo) : Bool :=
  match info.isDeclaration with
  | .truth declared => !declared
  | _ => false

/-- A symbol that is described by a truth value as declared or not. -/
theorem SymbolInfoOver.isDefined_eq {info : SymbolInfo} {declared : Bool}
    (known : info.isDeclaration = .truth declared) : info.isDefined = !declared := by
  rw [isDefined, known]

namespace Library

variable (world : World) (place : LibraryId) (key : Key)

/-- **What a library exports**: its public functions and then its public globals, with the keys of
their symbols. -/
def exports : List (Key × SymbolInfo) :=
  (shownReferences world place false).entries.map (fun reference =>
      (symbolKey world (world.functionSymbol reference), functionInfo world reference)) ++
    ((world.library place).shownGlobals false).entries.map fun entry =>
      (symbolKey world ⟨place, entry.symbol⟩, globalInfo world place entry)

/-- The exports of a library that go by a name. -/
def exportsOf : List SymbolInfo :=
  ((exports world place).filter fun entry => entry.1 = key).map Prod.snd

/-- **What a library tells about a name**: what it exports last under it. -/
def describes : Option SymbolInfo :=
  (exportsOf world place key).getLast?

/-- **A library defines a name publicly**, as a function with a body or as a global that starts with
a value. -/
inductive Defines : Prop
  /-- A public function has a body. -/
  | function (entry : Key × FunctionRef) (shown : entry ∈ shownReferences world place false)
      (named : symbolKey world (world.functionSymbol entry.2) = key)
      (body : (world.function entry.2).isDeclaration = false)
  /-- A public global has an initial value. -/
  | global (entry : Key × GlobalEntry) (shown : entry ∈ (world.library place).shownGlobals false)
      (named : symbolKey world ⟨place, entry.2.symbol⟩ = key)
      (initial : ((world.global? ⟨place, entry.2.symbol⟩).getD default).initial.isSome)

variable {world place key}

/-- Exports go by a name as they are listed. -/
theorem mem_exportsOf {info : SymbolInfo} :
    info ∈ exportsOf world place key ↔ (key, info) ∈ exports world place := by
  simp [exportsOf]

/-- What is told about a name is exported under it. -/
theorem mem_exportsOf_of_describes {info : SymbolInfo} (told : describes world place key = some info) :
    info ∈ exportsOf world place key :=
  List.mem_of_getLast? told

/-- Something is told about a name exactly if something is exported under it. -/
theorem isSome_describes : (describes world place key).isSome ↔ exportsOf world place key ≠ [] := by
  rw [describes, List.getLast?_isSome]

/-- Exports are described by truth values as defined or not. -/
theorem exists_isDeclaration {info : SymbolInfo} (member : info ∈ exportsOf world place key) :
    ∃ declared, info.isDeclaration = .truth declared := by
  rcases List.mem_append.mp (mem_exportsOf.mp member) with found | found
  · obtain ⟨reference, -, same⟩ := List.mem_map.mp found
    cases same
    exact ⟨_, rfl⟩
  · obtain ⟨entry, -, same⟩ := List.mem_map.mp found
    cases same
    exact ⟨_, rfl⟩

/-- Functions are described as defined that have a body. -/
theorem isDefined_functionInfo (world : World) (reference : FunctionRef) :
    (functionInfo world reference).isDefined = !(world.function reference).isDeclaration :=
  rfl

/-- Globals are described as defined that start with a value. -/
theorem isDefined_globalInfo (world : World) (place : LibraryId) (entry : GlobalEntry) :
    (globalInfo world place entry).isDefined =
      ((world.global? ⟨place, entry.symbol⟩).getD default).initial.isSome :=
  Option.not_isNone _

/-- **A library defines a name publicly exactly if an export of the name is described as defined.** -/
theorem defines_iff :
    Defines world place key ↔ ∃ info ∈ exportsOf world place key, info.isDefined := by
  constructor
  · intro defines
    cases defines with
    | function entry shown named body =>
        refine ⟨functionInfo world entry.2, mem_exportsOf.mpr (List.mem_append_left _ ?_), ?_⟩
        · exact List.mem_map.mpr ⟨entry.2, List.mem_map_of_mem shown, by rw [named]⟩
        · rw [isDefined_functionInfo, body]
          rfl
    | global entry shown named initial =>
        refine ⟨globalInfo world place entry.2, mem_exportsOf.mpr (List.mem_append_right _ ?_), ?_⟩
        · exact List.mem_map.mpr ⟨entry.2, List.mem_map_of_mem shown, by rw [named]⟩
        · rw [isDefined_globalInfo, initial]
  · rintro ⟨info, member, isDefined⟩
    rcases List.mem_append.mp (mem_exportsOf.mp member) with found | found
    · obtain ⟨reference, among, same⟩ := List.mem_map.mp found
      obtain ⟨entry, shown, rfl⟩ := List.mem_map.mp among
      cases same
      exact .function entry shown rfl (by simpa [isDefined_functionInfo] using isDefined)
    · obtain ⟨global, among, same⟩ := List.mem_map.mp found
      obtain ⟨entry, shown, rfl⟩ := List.mem_map.mp among
      cases same
      exact .global entry shown rfl (by rwa [isDefined_globalInfo] at isDefined)

/-! ### Symbol tables -/

/-- What a table tells about a name. -/
def told (symbols : Dictionary Key SymbolEntry) (key : Key) : Option SymbolInfo :=
  (symbols.get? key).map SymbolEntry.info

/-- What a table tells once a symbol has been entered. -/
theorem told_enter (symbols : Dictionary Key SymbolEntry) (known : Key) (entry : SymbolEntry)
    (key : Key) :
    told (symbols.enter known entry) key = if key = known then some entry.info else told symbols key := by
  rw [told, Dictionary.get?_enter]
  split <;> rfl

/-- A table into which symbols are entered one after the other tells what came last. -/
theorem told_foldl_enterSymbol (entries : List (Key × SymbolInfo)) (table : SymbolTable) :
    told (entries.foldl (fun table entry => enterSymbol table entry.1 entry.2) table).symbols key =
      (((entries.filter fun entry => entry.1 = key).map Prod.snd).getLast?).or
        (told table.symbols key) := by
  induction entries generalizing table with
  | nil => simp
  | cons entry entries ih =>
      rw [List.foldl_cons, ih]
      simp only [enterSymbol, told_enter, List.filter_cons]
      by_cases same : entry.1 = key
      · subst same
        simp only [decide_true, if_true, List.map_cons, List.getLast?_cons, Option.some_or]
        cases ((entries.filter fun other => other.1 = entry.1).map Prod.snd).getLast? <;> rfl
      · simp [same, Ne.symm same]

/-- **The symbol table of a library tells about a name what the library exports last under it.** -/
theorem told_symbolTable : told (symbolTable world place).symbols key = describes world place key := by
  rw [describes, exportsOf, ← Option.or_none (o := List.getLast? _)]
  exact told_foldl_enterSymbol (exports world place) ⟨(world.library place).name.value, []⟩

/-- A symbol table has no name twice. -/
theorem nodup_symbolTable : (symbolTable world place).symbols.keys.Nodup := by
  suffices kept : ∀ (entries : List (Key × SymbolInfo)) (table : SymbolTable),
      table.symbols.keys.Nodup →
        (entries.foldl (fun table entry => enterSymbol table entry.1 entry.2) table).symbols.keys.Nodup
    from kept (exports world place) ⟨_, []⟩ List.nodup_nil
  intro entries
  induction entries with
  | nil => exact fun table nodup => nodup
  | cons entry entries ih => exact fun table nodup => ih _ (Dictionary.nodup_keys_enter nodup _ _)

end Library

/-! ## The symbols of a program -/

namespace Program

open Library (told describes exportsOf Defines)

variable {world : World} {key : Key}

/-- What is shown of two descriptions: the first one, unless only the other one is of a
definition. -/
def preferred (world : World) : Option SymbolInfo → Option SymbolInfo → Option SymbolInfo
  | none, later => later
  | some current, none => some current
  | some current, some later =>
      if world.isTruthy current.isDeclaration && !world.isTruthy later.isDeclaration then some later
      else some current

/-- What is shown under a name once a symbol has been merged. -/
theorem told_mergeSymbol (merged : Dictionary Key SymbolEntry) (known : Key) (entry : SymbolEntry) :
    told (mergeSymbol world merged known entry) key =
      if key = known then preferred world (told merged key) (some entry.info) else told merged key := by
  unfold mergeSymbol
  split
  next missing =>
    rw [Library.told_enter]
    split
    next same => subst same; simp [told, missing, preferred]
    next => rfl
  next current found =>
    split
    next replaces =>
      rw [Library.told_enter]
      split
      next same => subst same; simp [told, found, preferred, replaces]
      next => rfl
    next keeps =>
      split
      next same => subst same; simp [told, found, preferred, keeps]
      next => rfl

/-- What is shown under a name once the symbols of a table have been merged. -/
theorem told_foldl_mergeSymbol {symbols : Dictionary Key SymbolEntry} (nodup : symbols.keys.Nodup)
    (merged : Dictionary Key SymbolEntry) :
    told (symbols.foldl (fun merged entry => mergeSymbol world merged entry.1 entry.2) merged) key =
      preferred world (told merged key) (told symbols key) := by
  induction symbols generalizing merged with
  | nil =>
      have nothing : told ([] : Dictionary Key SymbolEntry) key = none := rfl
      rw [List.foldl_nil, nothing]
      cases told merged key <;> rfl
  | cons entry symbols ih =>
      obtain ⟨known, entry⟩ := entry
      obtain ⟨missing, nodup⟩ := List.nodup_cons.mp nodup
      rw [List.foldl_cons, ih nodup, told_mergeSymbol]
      by_cases same : key = known
      · subst same
        -- No further symbol goes by the name.
        have nothing : told symbols key = none := by
          rw [told, Dictionary.get?_eq_none.mpr missing]
          rfl
        have here : told ((key, entry) :: symbols) key = some entry.info := by
          simp [told, Dictionary.get?]
        rw [if_pos rfl, nothing, here]
        cases preferred world (told merged key) (some entry.info) <;> rfl
      · have apart : (key == known) = false := by simpa using same
        have further : told ((known, entry) :: symbols) key = told symbols key := by
          simp [told, Dictionary.get?, List.lookup_cons, apart]
        rw [if_neg same, further]

/-- What the libraries of a registry tell about a name, in the order of the registry. -/
def descriptions (world : World) (registry : RegistryId) (key : Key) : List SymbolInfo :=
  (libraries world registry).filterMap fun place => describes world place key

/-- Of some descriptions one after the other, the first one of a definition is preferred, and if
there is none, the first one. -/
theorem foldl_preferred {infos : List SymbolInfo}
    (truths : ∀ info ∈ infos, ∃ declared, info.isDeclaration = .truth declared) :
    infos.foldl (fun shown info => preferred world shown (some info)) none =
      (infos.find? SymbolInfoOver.isDefined).or infos.head? := by
  -- From a first description on, only a definition replaces a declaration.
  have onwards (infos : List SymbolInfo) (current : SymbolInfo)
      (truths : ∀ info ∈ current :: infos, ∃ declared, info.isDeclaration = .truth declared) :
      infos.foldl (fun shown info => preferred world shown (some info)) (some current) =
        ((current :: infos).find? SymbolInfoOver.isDefined).or (some current) := by
    induction infos generalizing current with
    | nil => cases known : current.isDefined <;> simp [known]
    | cons info infos ih =>
        obtain ⟨declared, known⟩ := truths current (by simp)
        obtain ⟨later, knownLater⟩ := truths info (by simp)
        have shown : preferred world (some current) (some info) =
            some (if declared && !later then info else current) := by
          simp only [preferred, known, knownLater, World.isTruthy]
          split <;> rfl
        have isDefined := SymbolInfoOver.isDefined_eq known
        have isDefinedLater := SymbolInfoOver.isDefined_eq knownLater
        rw [List.foldl_cons, shown, ih]
        · cases declared <;> cases later <;> simp_all
        · intro other member
          rcases List.mem_cons.mp member with rfl | found
          · split <;> exact ⟨_, by assumption⟩
          · exact truths other (by simp [found])
  cases infos with
  | nil => rfl
  | cons info infos =>
      change infos.foldl _ (some info) = _
      rw [onwards infos info truths, List.head?_cons]

/-- **A program shows under a name what the first library tells that describes it as defined**, and if
none does, what the first library tells that describes it at all. -/
theorem told_symbols (registry : RegistryId) :
    told (symbols world registry) key =
      ((descriptions world registry key).find? SymbolInfoOver.isDefined).or
        (descriptions world registry key).head? := by
  have merged (places : List LibraryId) (shown : Dictionary Key SymbolEntry) :
      told (places.foldl (mergeLibrary world) shown) key =
        (places.filterMap fun place => describes world place key).foldl
          (fun shown info => preferred world shown (some info)) (told shown key) := by
    induction places generalizing shown with
    | nil => rfl
    | cons place places ih =>
        rw [List.foldl_cons, ih, mergeLibrary, told_foldl_mergeSymbol Library.nodup_symbolTable,
          Library.told_symbolTable, List.filterMap_cons]
        cases describes world place key with
        | none => cases told shown key <;> rfl
        | some info => rfl
  rw [symbols, merged]
  refine foldl_preferred fun info member => ?_
  obtain ⟨place, -, told⟩ := List.mem_filterMap.mp member
  exact Library.exists_isDeclaration (Library.mem_exportsOf_of_describes told)

/-- **What a program exports**: every name of a public function or global of its libraries is shown,
and the definition of the first library that defines a name publicly is shown if that library
declares nothing under the name behind it. If all libraries that define the name do, no definition is
shown. -/
structure ShowsExports (world : World) (registry : RegistryId) (key : Key) : Prop where
  /-- The names of exports are shown, and no others. -/
  names : key ∈ (symbols world registry).keys ↔
    ∃ place ∈ libraries world registry, exportsOf world place key ≠ []
  /-- The definition of the first library that defines the name is shown, if the library tells it. -/
  definition (earlier later : List LibraryId) (place : LibraryId) (info : SymbolInfo) :
    libraries world registry = earlier ++ place :: later →
      (∀ other ∈ earlier, ¬ Defines world other key) →
        describes world place key = some info → info.isDefined →
          told (symbols world registry) key = some info
  /-- No definition is shown that no library tells. -/
  declaration : (∀ place ∈ libraries world registry, ∀ info, describes world place key = some info →
      info.isDefined = false) →
    ∀ info, told (symbols world registry) key = some info → info.isDefined = false

/-- **Every program shows the exports of its libraries**, whatever was declared and imported. -/
theorem symbols_showsExports (world : World) (registry : RegistryId) (key : Key) :
    ShowsExports world registry key where
  names := by
    have shown : key ∈ (symbols world registry).keys ↔ told (symbols world registry) key ≠ none := by
      rw [told, ne_eq, Option.map_eq_none_iff, Dictionary.get?_eq_none, not_not]
    have some' : told (symbols world registry) key ≠ none ↔ descriptions world registry key ≠ [] := by
      rw [told_symbols]
      cases descriptions world registry key <;> simp
    rw [shown, some', ne_eq, descriptions, List.filterMap_eq_nil_iff]
    simp only [← ne_eq, not_forall, ← Library.isSome_describes, exists_prop, Option.isSome_iff_ne_none]
  definition earlier later place info order first told isDefined := by
    have none' : (earlier.filterMap fun other => describes world other key).find?
        SymbolInfoOver.isDefined = none := by
      rw [List.find?_eq_none]
      intro other member claimed
      obtain ⟨library, among, told⟩ := List.mem_filterMap.mp member
      exact first library among
        (Library.defines_iff.mpr ⟨other, Library.mem_exportsOf_of_describes told, claimed⟩)
    rw [told_symbols, descriptions, order, List.filterMap_append, List.find?_append, none',
      Option.none_or, List.filterMap_cons, told]
    simp [isDefined]
  declaration undefined info shown := by
    rw [told_symbols] at shown
    have member : info ∈ descriptions world registry key := by
      rcases Option.or_eq_some_iff.mp shown with found | ⟨-, found⟩
      · exact List.mem_of_find?_eq_some found
      · exact List.mem_of_head? found
    obtain ⟨place, among, told⟩ := List.mem_filterMap.mp member
    exact undefined place among info told

/-! ## A definition that is declared once more -/

/-- A library of a program that defines a function, and then declares a function of the same
symbol. -/
def declareAgain : Build Unit := do
  let place ← Library.create (.text "a") (.visibility .isPublic) (.policy .smart)
    (.registry Script.firstRegistry) .none none
  let _ ← Library.define place (.text "f") (.tuple []) (.type (.int 32)) none
  let _ ← Library.declareExternal place (.text "a_f") (.tuple []) (.type (.int 32))

/-- The world with that library. -/
def declaredAgain : World :=
  declareAgain.after Script.initialWorld

/-- **A definition can be hidden**: the only library of a program defines a name publicly, but the
program shows a declaration under the name. -/
theorem symbols_hides_definition :
    Script.Reachable declaredAgain ∧ libraries declaredAgain Script.firstRegistry = [0] ∧
      Defines declaredAgain 0 (.text "a_f") ∧
      (told (symbols declaredAgain Script.firstRegistry) (.text "a_f")).map
        SymbolInfoOver.isDefined = some false := by
  have reachable : Script.Reachable declaredAgain :=
    Script.reachable_initialWorld.after fun Effect _ =>
      (Library.leads_create _ _ _ _ _ nofun).bind fun place =>
        (Library.leads_define place _ _ _ nofun).bind fun _ =>
          (Library.leads_declareExternal place _ _ _).bind fun _ => .pure _
  have shown : (Key.text "f", (⟨0, 0⟩ : FunctionRef)) ∈ Library.shownReferences declaredAgain 0 false := by
    decide +kernel
  have defines : Defines declaredAgain 0 (.text "a_f") :=
    .function (.text "f", ⟨0, 0⟩) shown (by decide +kernel) (by decide +kernel)
  exact ⟨reachable, by decide +kernel, defines, by decide +kernel⟩

end Program

end StructuredIR
