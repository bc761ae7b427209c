import StructuredIR.Proofs.Library.Outlines

/-! # Contents of pooled texts

A pooled text is kept in a global of its own. Declarations reuse a global that has the name they ask
for, so a library may come to list the global of a text, and then change it.

* **`Global.HoldsText`** says that a global is a private constant with the bytes of a text and a zero
  byte.
* **`Library.PoolsTexts`** says that different texts have different globals, each an array of the size
  of its text, and that each holds its text unless the library lists the global.
* **`Library.Spares`** is what all steps do to a library that pool no text: the globals stay that hold
  texts and are not listed.
* **`Script.Attainable.poolsTexts`**: so scripts attain only libraries that pool texts in this sense.
  **`Script.overwritten_text`**: a text can be lost whose global is listed. -/

namespace StructuredIR

open Build (Leads bind_eq_ok get_eq_ok pure_eq_ok modify_eq_ok)

/-! ## Globals that hold texts -/

/-- **A global holds a text**: it is a private constant, an array of the bytes of the text and a zero
byte. -/
structure Global.HoldsText (global : Global) (text : String) : Prop where
  /-- The global is hidden from other modules. -/
  isPrivate : global.isPrivate = true
  /-- The global never changes. -/
  isConstant : global.isConstant = true
  /-- The global is an array with a byte for each byte of the text, and one more. -/
  valueType : global.valueType = .array (text.toUTF8.toList.length + 1) (.int 8)
  /-- The global starts with the bytes of the text and a zero byte. -/
  initial : global.initial = some (.bytes global.valueType (text.toUTF8.toList ++ [0]))

/-- The constant that is made for a text holds it. -/
theorem StringPool.holdsText_constant (text : String) : (constant text).HoldsText text where
  isPrivate := rfl
  isConstant := rfl
  valueType := congrArg (IRType.array · (.int 8)) (List.length_append ..)
  initial := rfl

/-! ## Libraries that spare texts -/

/-- A library lists a global. -/
def Library.Lists (library : Library) (place : Nat) : Prop :=
  ∃ entry ∈ library.globals, entry.2.symbol = place

/-- Globals that are given another visibility stay listed. -/
theorem Library.lists_change {globals : Dictionary Key GlobalEntry} {entry : Key × GlobalEntry}
    (key : Key) (visibility : Visibility) (member : entry ∈ globals) :
    ∃ later ∈ globals.change key fun known => { known with visibility },
      later.2.symbol = entry.2.symbol := by
  refine ⟨_, List.mem_map_of_mem member, ?_⟩
  dsimp only
  split <;> rfl

/-- **A library spares texts**: it pools the same texts, lists what it has listed, and its globals keep
their types; those that it does not list go on holding the texts that they hold. -/
structure Library.Spares (before after : Library) : Prop where
  /-- The same texts are pooled. -/
  pool : after.pool = before.pool
  /-- What was listed is listed. -/
  lists (place : Nat) : before.Lists place → after.Lists place
  /-- There are no fewer symbols. -/
  length : before.module.symbols.length ≤ after.module.symbols.length
  /-- A global that is there stays there, and keeps its type and a text that it holds, unless it is
  listed. -/
  global {place : Nat} {global : Global} : before.module.global? place = some global →
    ∃ later, after.module.global? place = some later ∧ later.valueType = global.valueType ∧
      (¬after.Lists place → ∀ text, global.HoldsText text → later.HoldsText text)

namespace Library.Spares

variable {library before middle after : Library}

theorem refl (library : Library) : library.Spares library :=
  ⟨rfl, fun _ => id, le_rfl, fun found => ⟨_, found, rfl, fun _ _ => id⟩⟩

theorem trans (first : before.Spares middle) (second : middle.Spares after) :
    before.Spares after where
  pool := second.pool.trans first.pool
  lists place listed := second.lists place (first.lists place listed)
  length := first.length.trans second.length
  global found := by
    obtain ⟨between, found, sameType, kept⟩ := first.global found
    obtain ⟨later, found, again, keptToo⟩ := second.global found
    refine ⟨later, found, again.trans sameType, fun unlisted text holds => ?_⟩
    exact keptToo unlisted text (kept (fun listed => unlisted (second.lists _ listed)) text holds)

/-- A library spares texts if it pools and lists the same and has the same globals. -/
theorem of_globals (pool : after.pool = before.pool) (globals : after.globals = before.globals)
    (length : before.module.symbols.length ≤ after.module.symbols.length)
    (same : ∀ {place global}, before.module.global? place = some global →
      after.module.global? place = some global) : before.Spares after where
  pool := pool
  lists place := by simp only [Lists, globals, imp_self]
  length := length
  global found := ⟨_, same found, rfl, fun _ _ => id⟩

/-- A library spares texts that changes neither its module nor its pool, and lists the same globals. -/
theorem of_module (pool : after.pool = before.pool) (globals : after.globals = before.globals)
    (module : after.module = before.module) : before.Spares after :=
  of_globals pool globals (module ▸ le_rfl) (module ▸ id)

/-- A further symbol spares texts. -/
theorem append (library : Library) (key : Key) (symbol : Symbol) :
    library.Spares { library with module := library.module.append key symbol } := by
  refine of_globals rfl rfl (by simp [Module.append]) fun {place global} found => ?_
  have inside : place ≠ library.module.symbols.length := by
    rintro rfl
    simp [Module.global?_eq, Module.symbol?] at found
  simpa [Module.global?_eq, Module.symbol?_append, inside] using found

/-- A routine may change. -/
theorem changeRoutine (library : Library) (place : Nat) (update : Routine → Routine) :
    library.Spares { library with module := library.module.changeRoutine place update } :=
  of_globals rfl rfl (List.length_modify ..).ge fun found => by
    rwa [Module.global?_changeRoutine]

/-- A global may change that keeps its type, and its text unless it is listed; the library may list
more. -/
theorem changeGlobal (library : Library) (place : Nat) {update : Global → Global}
    {globals : Dictionary Key GlobalEntry}
    (valueType : ∀ global, (update global).valueType = global.valueType)
    (lists : ∀ entry ∈ library.globals, ∃ later ∈ globals, later.2.symbol = entry.2.symbol)
    (spares : (∃ entry ∈ globals, entry.2.symbol = place) ∨
      ∀ global text, global.HoldsText text → (update global).HoldsText text) :
    library.Spares { library with
      module := library.module.changeGlobal place update
      globals } where
  pool := rfl
  lists other listed := by
    obtain ⟨entry, member, rfl⟩ := listed
    exact lists entry member
  length := (List.length_modify ..).ge
  global {other global} found := by
    rw [Module.global?_changeGlobal]
    split
    next here =>
      subst here
      refine ⟨update global, by rw [found]; rfl, valueType global, fun unlisted text holds => ?_⟩
      exact (spares.resolve_left unlisted) global text holds
    next => exact ⟨global, found, rfl, fun _ _ => id⟩

end Library.Spares

/-- **All libraries spare texts.** -/
def World.Spares (before after : World) : Prop :=
  ∀ place, (before.library place).Spares (after.library place)

instance : IsEffect World.Spares where
  refl _ _ := .refl _
  trans first second := fun place => (first place).trans (second place)

namespace World.Spares

variable {world : World} {place : LibraryId}

/-- Libraries that stay spare texts. -/
theorem of_libraries {before after : World} (same : after.libraries = before.libraries) :
    before.Spares after := by
  intro place
  have kept : after.library place = before.library place := by
    rw [World.library, same, ← World.library]
  exact kept ▸ .refl _

/-- A change of a library that spares texts. -/
theorem of_changeLibrary (world : World) (place : LibraryId) {update : Library → Library}
    (spares : (world.library place).Spares (update (world.library place))) :
    world.Spares (world.changeLibrary place update) := by
  intro other
  rw [library_changeLibrary]
  split
  next same => rwa [same.1]
  next => exact .refl _

/-- A routine may change. -/
theorem of_changeRoutine (world : World) (symbol : SymbolRef) (update : Routine → Routine) :
    world.Spares (world.changeRoutine symbol update) :=
  of_changeLibrary world symbol.owner (.changeRoutine _ symbol.place update)

/-- A global may change that goes on holding a text. -/
theorem of_changeGlobal (world : World) (symbol : SymbolRef) {update : Global → Global}
    (valueType : ∀ global, (update global).valueType = global.valueType)
    (spares : ∀ global text, global.HoldsText text → (update global).HoldsText text) :
    world.Spares (world.changeGlobal symbol update) :=
  of_changeLibrary world symbol.owner
    (.changeGlobal _ symbol.place valueType (fun entry member => ⟨entry, member, rfl⟩)
      (.inr spares))

/-- A symbol may be declared. -/
theorem leads_declareSymbol (place : LibraryId) (name : Name) (content : Content) :
    Leads World.Spares (Build.declareSymbol place name content) := by
  intro world
  cases run : Build.declareSymbol place name content world with
  | ok symbol after =>
      rw [Build.after_of_ok run, (Build.declareSymbol_ok run).2]
      exact of_changeLibrary world place (.append _ _ _)
  | error fault after =>
      rw [Build.after_of_error run, Build.declareSymbol_error run]
      exact IsEffect.refl world

end World.Spares

/-! ## Libraries that pool texts -/

/-- **A library pools texts**: different texts have different globals, and each of those holds its text
unless the library lists the global as well. Even then it keeps its type. -/
structure Library.PoolsTexts (library : Library) : Prop where
  /-- Each text is pooled once. -/
  keys : library.pool.entries.keys.Nodup
  /-- Two texts do not share a global. -/
  distinct {first second : String × PooledText} : first ∈ library.pool.entries →
    second ∈ library.pool.entries → first.2.place = second.2.place → first = second
  /-- The global of a text is there, and holds the text unless it is listed. -/
  holds {entry : String × PooledText} : entry ∈ library.pool.entries →
    ∃ global, library.module.global? entry.2.place = some global ∧
      global.valueType = .array (entry.1.toUTF8.toList.length + 1) (.int 8) ∧
      (¬library.Lists entry.2.place → global.HoldsText entry.1)

/-- All libraries pool texts. -/
def World.PoolsTexts (world : World) : Prop :=
  ∀ place, (world.library place).PoolsTexts

namespace Library.PoolsTexts

variable {library before after : Library}

/-- A library without texts pools them. -/
theorem of_nil (pool : library.pool.entries = []) : library.PoolsTexts := by
  constructor <;> simp [pool, Dictionary.keys]

/-- What spares texts keeps them pooled. -/
theorem spared (pools : before.PoolsTexts) (spares : before.Spares after) : after.PoolsTexts where
  keys := by
    rw [spares.pool]
    exact pools.keys
  distinct := by
    rw [spares.pool]
    exact pools.distinct
  holds {entry} member := by
    obtain ⟨global, found, valueType, holds⟩ := pools.holds (spares.pool ▸ member)
    obtain ⟨later, found, sameType, kept⟩ := spares.global found
    refine ⟨later, found, sameType.trans valueType, fun unlisted => ?_⟩
    exact kept unlisted entry.1 (holds fun listed => unlisted (spares.lists _ listed))

/-- The global of a text is one of the symbols. -/
theorem inside (pools : library.PoolsTexts) {entry : String × PooledText}
    (member : entry ∈ library.pool.entries) : entry.2.place < library.module.symbols.length := by
  obtain ⟨global, found, -⟩ := pools.holds member
  by_contra beyond
  simp [Module.global?_eq, Module.symbol?, List.getElem?_eq_none (Nat.le_of_not_lt beyond)] at found

/-- A further text is pooled. -/
theorem intern (pools : library.PoolsTexts) (text : Phrase) :
    PoolsTexts { library with
      pool := (library.pool.intern library.module text).2.1
      module := (library.pool.intern library.module text).2.2 } := by
  unfold StringPool.intern
  split
  next => exact ⟨pools.keys, pools.distinct, pools.holds⟩
  next unknown =>
    let name := library.pool.nextName library.module.symbols.keys
    let symbol : Symbol := ⟨.text name, .global (StringPool.constant text.content)⟩
    have spares := Spares.append library (.text name) symbol
    have free : text.content ∉ library.pool.entries.keys := by
      rwa [← Dictionary.get?_eq_none]
    have kept := pools.spared spares
    constructor
    · exact Dictionary.nodup_keys_append pools.keys free _
    · -- The new global stands behind all that were there.
      intro first second member memberToo same
      rcases List.mem_append.mp member with known | new <;>
        rcases List.mem_append.mp memberToo with knownToo | newToo
      · exact pools.distinct known knownToo same
      · rw [List.mem_singleton.mp newToo] at same
        exact absurd same (Nat.ne_of_lt (pools.inside known))
      · rw [List.mem_singleton.mp new] at same
        exact absurd same.symm (Nat.ne_of_lt (pools.inside knownToo))
      · rw [List.mem_singleton.mp new, List.mem_singleton.mp newToo]
    · intro entry member
      rcases List.mem_append.mp member with known | new
      · exact kept.holds known
      · rw [List.mem_singleton.mp new]
        have holds := StringPool.holdsText_constant text.content
        refine ⟨StringPool.constant text.content, ?_, holds.valueType, fun _ => holds⟩
        change (library.module.append (.text name) symbol).global? _ = _
        simp [Module.global?_eq, Module.symbol?_append, symbol]

end Library.PoolsTexts

namespace World.PoolsTexts

variable {world after : World}

/-- What spares texts keeps them pooled. -/
theorem spared (spares : world.Spares after) : Preserves World.PoolsTexts world after :=
  fun pools place => (pools place).spared (spares place)

/-- What spares texts from every world keeps them pooled. -/
theorem leads_of_spares {Result : Type} {step : Build Result} (leads : Leads World.Spares step) :
    Leads (Preserves World.PoolsTexts) step :=
  leads.weaken fun _ _ => spared

end World.PoolsTexts

/-! ## What scripts do to texts -/

open World.PoolsTexts (spared leads_of_spares)

/-- A kept text of a global is not part of what it holds. -/
theorem Global.HoldsText.printed {global : Global} {text : String} (holds : global.HoldsText text)
    (printed : Option String) : ({ global with printed } : Global).HoldsText text :=
  ⟨holds.isPrivate, holds.isConstant, holds.valueType, holds.initial⟩

instance : AllowsTexts World.Spares where
  held _ _ _ := .of_libraries rfl
  block world place _ := .of_changeRoutine world place.routine _
  global world symbol printed :=
    .of_changeGlobal world symbol (fun _ => rfl) fun _ _ holds => holds.printed (some printed)

instance {place : LibraryId} : AllowsRoutinesIn place World.Spares where
  changeRoutine world symbol update _ _ _ := .of_changeRoutine world symbol update

instance : AllowsTexts (Preserves World.PoolsTexts) where
  held world place text := spared (AllowsTexts.held world place text)
  block world place text := spared (AllowsTexts.block world place text)
  global world symbol text := spared (AllowsTexts.global world symbol text)

instance : AllowsCode (Preserves World.PoolsTexts) where
  aside libraries _ := spared (.of_libraries libraries)
  code place :=
    { intern := fun owner content _ world pools other => by
        change (World.library (world.changeLibrary owner _) other).PoolsTexts
        rw [World.library_changeLibrary]
        split
        next same => exact (pools owner).intern content
        next => exact pools other
      routine := fun name _ _ _ => leads_of_spares (World.Spares.leads_declareSymbol place name _)
      changeRoutine := fun world symbol update _ _ _ =>
        spared (.of_changeRoutine world symbol update)
      emitFirst := fun world _ entry base operation _ _ =>
        leads_of_spares (Build.leads_emitFirst entry base operation) world
      changeFunction := fun world reference update _ _ _ =>
        spared (.of_changeLibrary world _ (.of_module rfl rfl rfl)) }

namespace Library

/-- A function is created and entered. -/
theorem keepsTexts_addFunction (place : LibraryId) (key : Key) (name : Value)
    (signature : Signature) (result : IRType) (symbolName : Name) (visibility : Visibility)
    (isDeclaration : Bool) :
    Leads (Preserves World.PoolsTexts) (addFunction place key name signature result symbolName
      visibility isDeclaration) := by
  have linked (symbol : SymbolRef) (visibility : Value) :
      Leads (Preserves World.PoolsTexts) (Function.link symbol visibility) :=
    Leads.modify fun world => spared (.of_changeRoutine world symbol _)
  have entered (function : Function) :
      Leads (Preserves World.PoolsTexts) (enterFunction place key function) :=
    Leads.get.bind fun _ => Leads.bind (Leads.modify fun world =>
      spared (.of_changeLibrary world place (.of_module rfl rfl rfl))) fun _ => .pure _
  have created : Leads (Preserves World.PoolsTexts) (Function.create place name signature result
      symbolName visibility isDeclaration) := by
    grind -linarith [Function.create]
  exact created.bind entered

/-- A global is asked for, changed and entered: from then on it is listed. -/
theorem keepsTexts_addGlobal {place : LibraryId} {key : Key} {world : World}
    (free : key ∉ (world.library place).globals.keys) (symbolName : Name) (valueType : IRType)
    {update : Global → Global} (name : Value) {visibility : Visibility}
    (keepsType : ∀ global, (update global).valueType = global.valueType) :
    Preserves World.PoolsTexts world
      ((addGlobal place key symbolName valueType update name visibility).after world) := by
  refine spared ?_
  have declared : Leads World.Spares (Build.declareSymbol place symbolName
      (.global (.external valueType))) := World.Spares.leads_declareSymbol place symbolName _
  have asked : Leads World.Spares (Build.ensureGlobal place symbolName valueType) := by
    grind -linarith [Build.ensureGlobal]
  refine Build.permitted_bind (asked world) fun symbol between run => ?_
  obtain ⟨owner, -⟩ := Build.ensureGlobal_there run
  obtain ⟨owner', symbol⟩ := symbol
  obtain rfl : place = owner' := owner.symm
  have same : SameGlobals place world between := by
    rcases Build.ensureGlobal_ok run with ⟨-, -, rfl⟩ | ⟨-, rfl⟩
    · rfl
    · exact .changeLibrary world place fun _ => rfl
  change between.Spares ((between.changeGlobal ⟨place, symbol⟩ update).changeLibrary place _)
  rw [World.changeGlobal, World.changeModule, World.changeLibrary_changeLibrary]
  refine .of_changeLibrary between place ?_
  have freeToo : key ∉ (between.library place).globals.keys := by rwa [same]
  let entered : Key × GlobalEntry := (key, ⟨name, symbol, visibility⟩)
  change Spares _ { between.library place with
    module := (between.library place).module.changeGlobal symbol update
    globals := (between.library place).globals.enter key _ }
  rw [Dictionary.enter_of_free freeToo]
  refine .changeGlobal _ symbol keepsType (fun entry member => ?_) (.inl ⟨entered, ?_, rfl⟩)
  · exact ⟨entry, List.mem_append_left _ member, rfl⟩
  · exact List.mem_append_right _ (List.mem_singleton_self entered)

end Library

instance : AllowsScripts (Preserves World.PoolsTexts) where
  addLibrary world name visibility policy registry report echo pools place := by
    rw [World.library_append]
    split
    next => exact .of_nil rfl
    next => exact pools place
  addFragment _ _ := spared (.of_libraries rfl)
  changeFragment _ _ _ := spared (.of_libraries rfl)
  library place :=
    { changeReport := fun world _ => spared (.of_changeLibrary world place (.of_module rfl rfl rfl))
      changeDefault := fun world _ => spared (.of_changeLibrary world place (.of_module rfl rfl rfl))
      atEntry := fun reference _ => Generator.leads_atEntry reference
      addFunction := Library.keepsTexts_addFunction place
      relinkFunction := fun world reference _ _ _ _ _ =>
        spared (IsEffect.trans
          (World.Spares.of_changeLibrary world reference.owner (.of_module rfl rfl rfl))
          (World.Spares.of_changeRoutine _ _ _))
      addEntry := fun key fragment =>
        Leads.bind (Leads.get.bind fun _ => Leads.bind (Leads.modify fun _ =>
          spared (.of_libraries rfl)) fun _ => .pure _) fun _ =>
            Leads.bind (Leads.modify fun world =>
              spared (.of_changeLibrary world place (.of_module rfl rfl rfl))) fun _ => .pure _
      relinkFragment := fun _ _ _ _ _ => spared (.of_libraries rfl)
      addGlobal := fun world key symbolName valueType update name visibility free keepsType _ =>
        Library.keepsTexts_addGlobal free symbolName valueType name keepsType
      fixGlobal := fun world symbol _ => spared (.of_changeGlobal world symbol (fun _ => rfl)
        fun _ _ holds => ⟨holds.isPrivate, rfl, holds.valueType, holds.initial⟩)
      relinkGlobal := fun world key entry visibility listed => by
        refine spared ?_
        rw [World.changeGlobal, World.changeModule, World.changeLibrary_changeLibrary]
        refine .of_changeLibrary world place ?_
        have member := Dictionary.mem_of_get?_eq_some listed
        exact .changeGlobal _ entry.symbol (fun _ => rfl) (fun _ => Library.lists_change key visibility)
          (.inl (Library.lists_change key visibility member)) }

/-- **In every library that scripts attain, texts are pooled**: different texts have different globals,
and a global that the library does not list holds its text, whatever was declared, relinked and
imported. -/
theorem Script.Attainable.poolsTexts {world : World} (attainable : Script.Attainable world)
    (place : LibraryId) : (world.library place).PoolsTexts :=
  attainable (Preserves World.PoolsTexts) (fun _ => .of_nil rfl) place

/-! ## A text whose global is declared once more -/

namespace Script

/-- A library that leaves names as they are pools two texts, and then defines a global of the name that
the global of the first text has. -/
def overwriteText : Build Unit := do
  let place ← Library.create (.text "lib") (.visibility .isPublic) (.policy .plain) .none .none none
  let _ ← Build.internString place (.text "a")
  let _ ← Build.internString place (.text "b")
  let _ ← Library.declareGlobal place (.text "lib.str.0") (.integer 5)

/-- The world with that library. -/
def overwritten : World :=
  overwriteText.after initialWorld

theorem attainable_overwritten : Attainable overwritten :=
  attainable_initialWorld.after fun _ _ =>
    (Library.leads_create _ _ _ _ _ nofun).bind fun place =>
      (Build.leads_internString place _).bind fun _ =>
        (Build.leads_internString place _).bind fun _ =>
          (Library.leads_declareGlobal place _ _).bind fun _ => .pure _

/-- The global of the second text is not listed, so it holds the text. -/
theorem Attainable.poolsTexts_overwritten :
    Attainable overwritten ∧ (overwritten.library 0).PoolsTexts ∧
      ∃ entry ∈ (overwritten.library 0).pool.entries,
        entry.1 = "b" ∧ ∀ listed ∈ (overwritten.library 0).globals,
          listed.2.symbol ≠ entry.2.place :=
  ⟨attainable_overwritten, attainable_overwritten.poolsTexts 0, by decide +kernel⟩

/-- **A pooled text can be lost**: the global of the first text starts with a number. -/
theorem overwritten_text :
    Attainable overwritten ∧ ∃ entry ∈ (overwritten.library 0).pool.entries, ∃ global,
      (overwritten.library 0).module.global? entry.2.place = some global ∧
        ¬global.HoldsText entry.1 := by
  refine ⟨attainable_overwritten, ("a", ⟨.text "a", 0⟩), by decide +kernel, ?_⟩
  have start : (((overwritten.library 0).module.global? 0).bind Global.initial).map Operand.type =
      some (.int 32) := by decide +kernel
  rcases found : (overwritten.library 0).module.global? 0 with _ | global
  · rw [found] at start
    cases start
  · refine ⟨global, rfl, fun holds => ?_⟩
    rw [found, Option.bind_some, holds.initial, Option.map_some, Operand.type,
      holds.valueType] at start
    cases start

end Script

end StructuredIR
