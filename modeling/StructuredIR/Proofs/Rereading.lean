import StructuredIR.Proofs.Steady

/-! # Reading texts again

The text of a module is written anew each time that it is asked for, but the texts of globals and of
constants made from values are kept once they have been written.

* **`World.Retains`** says that nothing but reports and texts differs, and that texts that were kept
  are still the same. Writing texts leads nowhere else.
* **`World.Upholds`** says less: some libraries are the same but for texts, and what their modules may
  mention in others has kept its name.
* **`Build.Repeats`** says that a step that has succeeded gives the same again, and does nothing, as
  long as what it looked at is upheld.
* **`World.Upholds.printModule`**: so does reading the text of a module whose symbols and blocks have
  steady names. -/

namespace StructuredIR

open Build (Leads bind_eq_ok get_eq_ok pure_eq_ok modify_eq_ok throw_ne_ok)

/-- What is in a module is a routine or a global. -/
theorem Module.isSome_of_lt {module : Module} {place : Nat}
    (inside : place < module.symbols.length) :
    (module.routine? place).isSome ∨ (module.global? place).isSome := by
  obtain ⟨⟨name, content⟩, found⟩ : ∃ symbol, module.symbol? place = some symbol :=
    ⟨(module.symbols[place]).2, by simp [symbol?, inside]⟩
  rw [routine?_eq, global?_eq, found]
  cases content <;> simp

/-! ## Modules that differ in texts only -/

namespace World

variable {before after : World}

section

variable {symbol : SymbolRef}
  (same : (after.library symbol.owner).module.bare = (before.library symbol.owner).module.bare)

include same

/-- Symbols have the same names. -/
theorem symbolName_of_bare : after.symbolName symbol = before.symbolName symbol := by
  have look (module : Module) : (module.symbol? symbol.place).map Symbol.name =
      (module.bare.symbol? symbol.place).map Symbol.name := by
    rw [Module.symbol?_bare, Option.map_map]
    rfl
  rw [symbolName, symbolName, look (after.library symbol.owner).module, same, ← look]

/-- The same symbols stand for routines, which are the same but for texts. -/
theorem routine?_of_bare :
    (after.routine? symbol).map Routine.bare = (before.routine? symbol).map Routine.bare := by
  rw [routine?, routine?, ← Module.routine?_bare, ← Module.routine?_bare, same]

/-- The same symbols stand for globals, which are the same but for texts. -/
theorem global?_of_bare :
    (after.global? symbol).map Global.bare = (before.global? symbol).map Global.bare := by
  rw [global?, global?, ← Module.global?_bare, ← Module.global?_bare, same]

/-- Routines are the same but for texts. -/
theorem routine_of_bare : (after.routine symbol).bare = (before.routine symbol).bare := by
  have look (known : Option Routine) : (known.getD default).bare =
      (known.map Routine.bare).getD (default : Routine).bare := by
    cases known <;> rfl
  rw [routine, routine, look, look, routine?_of_bare same]

/-- Routines have the same blocks in the same order. -/
theorem blocks_of_bare : after.blocks symbol = before.blocks symbol := by
  have order : (after.routine symbol).order = (before.routine symbol).order :=
    (congrArg Routine.order (routine_of_bare same) :)
  rw [blocks, blocks, order]

end

/-- Blocks are the same but for texts. -/
theorem block_of_bare {place : BlockRef} (same : (after.library place.routine.owner).module.bare =
      (before.library place.routine.owner).module.bare) :
    (after.block place).bare = (before.block place).bare := by
  have look (routine : Routine) : ((routine.blocks[place.place]?).getD default).bare =
      ((routine.bare.blocks[place.place]?).getD (default : Block).bare) := by
    simp only [Routine.bare, List.getElem?_map]
    cases routine.blocks[place.place]? <;> rfl
  rw [block, block, look, look, routine_of_bare same]

end World

/-! ## Retained texts -/

/-- **Nothing but reports and texts differs**, and texts that were kept are kept. -/
structure World.Retains (before after : World) : Prop where
  /-- Nothing but reports and texts differs. -/
  same : after.bare.unreported = before.bare.unreported
  /-- The texts of held values are kept. -/
  held (place : HeldId) {text : String} :
    ((before.held[place]?).getD default).text = some text →
      ((after.held[place]?).getD default).text = some text
  /-- The texts of globals are kept. -/
  global (symbol : SymbolRef) {text : String} :
    ((before.global? symbol).getD default).printed = some text →
      ((after.global? symbol).getD default).printed = some text

namespace World.Retains

variable {before after : World}

instance : IsEffect World.Retains where
  refl _ := ⟨rfl, fun _ _ => id, fun _ _ => id⟩
  trans first second :=
    ⟨second.same.trans first.same, fun place _ => second.held place ∘ first.held place,
      fun symbol _ => second.global symbol ∘ first.global symbol⟩

/-- The modules are the same but for texts. -/
theorem module (retains : before.Retains after) (place : LibraryId) :
    (after.library place).module.bare = (before.library place).module.bare := by
  have look (world : World) : (world.bare.unreported.library place).module =
      (world.library place).module.bare := by
    rw [World.library_unreported, World.library_bare]
    rfl
  rw [← look, ← look, retains.same]

/-- Symbols have the same names. -/
@[grind =>]
theorem symbolName (retains : before.Retains after) (symbol : SymbolRef) :
    after.symbolName symbol = before.symbolName symbol :=
  symbolName_of_bare (retains.module symbol.owner)

/-- Blocks are the same but for texts. -/
theorem block (retains : before.Retains after) (place : BlockRef) :
    (after.block place).bare = (before.block place).bare :=
  block_of_bare (retains.module place.routine.owner)

/-- There are as many held values. -/
theorem length_held (retains : before.Retains after) :
    after.held.length = before.held.length := by
  have look (world : World) : world.held.length = world.bare.unreported.held.length := by
    simp [World.unreported, World.bare]
  rw [look after, retains.same, ← look]

/-- Where nothing but reports differs, texts are retained. -/
theorem of_unreported (same : SameUnreported before after) : before.Retains after where
  same := by
    have commutes (world : World) : world.bare.unreported = world.unreported.bare := by
      simp [World.bare, World.unreported, Library.bare]
    rw [commutes, commutes, same]
  held place text known := by rwa [same.held]
  global symbol text known := by
    rwa [World.global?, same.module]

instance : AllowsNewTexts World.Retains where
  held {before world} place text soFar new := by
    have bare : SameBare world (world.keepText place text) := AllowsTexts.held world place text
    refine ⟨(congrArg World.unreported bare).trans soFar.same, fun other known kept => ?_,
      fun symbol known kept => soFar.global symbol kept⟩
    have different : place ≠ other := by
      rintro rfl
      simp [new] at kept
    simpa [World.keepText, different] using soFar.held other kept
  block {before world} place text soFar new := by
    have bare : SameBare world (world.changeBlock place fun block =>
        { block with printed := some text }) := AllowsTexts.block world place text
    refine ⟨(congrArg World.unreported bare).trans soFar.same,
      fun other known kept => soFar.held other kept, fun symbol known kept => ?_⟩
    rw [World.changeBlock, World.global?_changeRoutine]
    exact soFar.global symbol kept
  global {before world} symbol text soFar new := by
    have bare : SameBare world (world.changeGlobal symbol fun global =>
        { global with printed := some text }) := AllowsTexts.global world symbol text
    refine ⟨(congrArg World.unreported bare).trans soFar.same,
      fun other known kept => soFar.held other kept, fun other known kept => ?_⟩
    have different : other ≠ symbol := by
      rintro rfl
      simp [new] at kept
    rw [World.global?_changeGlobal, if_neg different]
    exact soFar.global other kept

end World.Retains

/-! ## Upheld texts -/

namespace World

/-- The name of a symbol that is there. -/
def name? (world : World) (symbol : SymbolRef) : Option Value :=
  (world.symbol? symbol).map Symbol.name

/-- The text that is kept of a held value. -/
def heldText? (world : World) (place : HeldId) : Option String :=
  (world.held[place]?).bind Held.text

/-- The text that is kept of a global. -/
def globalText? (world : World) (symbol : SymbolRef) : Option String :=
  (world.global? symbol).bind Global.printed

/-- **What is written of some libraries is upheld**: their modules differ in texts only, names that they
may mention stay, and so do texts that were kept. -/
structure Upholds (kept : LibraryId → Prop) (before after : World) : Prop where
  /-- The modules differ in texts only. -/
  module (place : LibraryId) : kept place →
    (after.library place).module.bare = (before.library place).module.bare
  /-- Symbols keep their names. -/
  name (symbol : SymbolRef) {name : Value} :
    before.name? symbol = some name → after.name? symbol = some name
  /-- Blocks keep their labels. -/
  label (place : BlockRef) {label : Value} :
    before.label? place = some label → after.label? place = some label
  /-- The texts of held values are kept. -/
  held (place : HeldId) {text : String} :
    before.heldText? place = some text → after.heldText? place = some text
  /-- The texts of globals are kept. -/
  global (symbol : SymbolRef) {text : String} : kept symbol.owner →
    before.globalText? symbol = some text → after.globalText? symbol = some text

variable {kept : LibraryId → Prop} {before after : World}

instance : IsEffect (Upholds kept) where
  refl _ := ⟨fun _ _ => rfl, fun _ _ => id, fun _ _ => id, fun _ _ => id, fun _ _ _ => id⟩
  trans first second :=
    { module := fun place here => (second.module place here).trans (first.module place here)
      name := fun symbol _ => second.name symbol ∘ first.name symbol
      label := fun place _ => second.label place ∘ first.label place
      held := fun place _ => second.held place ∘ first.held place
      global := fun symbol _ here => second.global symbol here ∘ first.global symbol here }

/-- The name of a symbol is that of the symbol that is there. -/
theorem symbolName_eq (world : World) (symbol : SymbolRef) :
    world.symbolName symbol = (world.name? symbol).getD .none :=
  rfl

/-- Symbols are called the same in modules that differ in texts only. -/
theorem name?_of_bare {symbol : SymbolRef} (same : (after.library symbol.owner).module.bare =
      (before.library symbol.owner).module.bare) : after.name? symbol = before.name? symbol := by
  have look (module : Module) : (module.symbol? symbol.place).map Symbol.name =
      (module.bare.symbol? symbol.place).map Symbol.name := by
    rw [Module.symbol?_bare, Option.map_map]
    rfl
  rw [name?, name?, symbol?, symbol?, look, same, ← look]

/-- Blocks have the same labels in modules that differ in texts only. -/
theorem label?_of_bare {place : BlockRef} (same : (after.library place.routine.owner).module.bare =
      (before.library place.routine.owner).module.bare) : after.label? place = before.label? place := by
  have labels (routine : Routine) : routine.bare.labels = routine.labels := by
    simp [Routine.labels, Routine.bare, Block.bare]
  rw [label?, label?, ← labels, routine_of_bare same, labels]

/-- What is retained is upheld. -/
theorem Retains.upholds (retains : before.Retains after) : before.Upholds kept after where
  module place _ := retains.module place
  name symbol known there := by
    rw [name?_of_bare (retains.module _)]
    exact there
  label place known there := by
    rw [label?_of_bare (retains.module _)]
    exact there
  held place known := by
    have look (world : World) :
        world.heldText? place = ((world.held[place]?).getD default).text := by
      rw [heldText?]
      cases world.held[place]? <;> rfl
    rw [look, look]
    exact retains.held place
  global symbol known _ := by
    have look (world : World) :
        world.globalText? symbol = ((world.global? symbol).getD default).printed := by
      rw [globalText?]
      cases world.global? symbol <;> rfl
    rw [look, look]
    exact retains.global symbol

/-- Where only texts differ from what is upheld, and none that was kept, it is upheld, too. -/
theorem Upholds.of_sameBare {world : World} (upheld : before.Upholds kept world)
    (same : SameBare world after)
    (held : ∀ place text, before.heldText? place = some text → after.heldText? place = some text)
    (global : ∀ symbol text, kept symbol.owner → before.globalText? symbol = some text →
      after.globalText? symbol = some text) : before.Upholds kept after := by
  have module (place : LibraryId) :
      (after.library place).module.bare = (world.library place).module.bare := by
    have library : (after.library place).bare = (world.library place).bare := by
      rw [← library_bare, ← library_bare, same]
    exact (congrArg Library.module library :)
  refine ⟨fun place here => (module place).trans (upheld.module place here),
    fun symbol name known => ?_, fun place label known => ?_, fun place text => held place text,
    fun symbol text => global symbol text⟩
  · rw [name?_of_bare (module _)]
    exact upheld.name symbol known
  · rw [label?_of_bare (module _)]
    exact upheld.label place known

instance : AllowsNewTexts (Upholds kept) where
  held {before world} place text soFar new := by
    refine soFar.of_sameBare (AllowsTexts.held world place text) (fun other known there => ?_)
      fun symbol known here => soFar.global symbol here
    have different : place ≠ other := by
      rintro rfl
      obtain ⟨held, found, texts⟩ := Option.bind_eq_some_iff.mp there
      simp [found, texts] at new
    simpa [heldText?, keepText, different] using soFar.held other there
  block {before world} place text soFar _ := by
    refine soFar.of_sameBare (AllowsTexts.block world place text)
      (fun other known => soFar.held other) fun symbol known here there => ?_
    rw [globalText?, changeBlock, global?_changeRoutine]
    exact soFar.global symbol here there
  global {before world} symbol text soFar new := by
    refine soFar.of_sameBare (AllowsTexts.global world symbol text)
      (fun other known => soFar.held other) fun other known here there => ?_
    have different : other ≠ symbol := by
      rintro rfl
      obtain ⟨global, found, texts⟩ := Option.bind_eq_some_iff.mp there
      simp [found, texts] at new
    rw [globalText?, global?_changeGlobal, if_neg different]
    exact soFar.global other here there

end World

/-! ## Steps that repeat themselves -/

/-- **A step that gives the same again**, and does nothing then, as long as what it looked at is upheld.
This is said of worlds that have retained what there was in a first one. -/
structure Build.Repeats {Result : Type} (kept : LibraryId → Prop) (base : World)
    (step : Build Result) : Prop where
  /-- The step retains texts. -/
  retains {world : World} : base.Retains world → world.Retains (step.after world)
  /-- It gives the same again. -/
  again {world final later : World} {value : Result} : base.Retains world →
    step world = .ok value final → final.Upholds kept later → step later = .ok value later

namespace Build.Repeats

variable {Result Next : Type} {kept : LibraryId → Prop} {base : World} {step : Build Result}

/-- A fixed step gives the same again. -/
theorem of_isFixed (fixed : step.IsFixed) : step.Repeats kept base where
  retains _ := fixed.leads _
  again _ run _ := fixed.again run _

@[grind .]
theorem pure (value : Result) : (pure value : Build Result).Repeats kept base :=
  .of_isFixed (.pure value)

@[grind .]
theorem throw (fault : Fault) : (throw fault : Build Result).Repeats kept base :=
  .of_isFixed (.throw fault)

@[grind .]
theorem lift (check : Except Fault Result) : (liftM check : Build Result).Repeats kept base :=
  .of_isFixed ⟨check, rfl⟩

/-- Two steps one after the other give the same again if both do. -/
theorem bind {next : Result → Build Next} (first : step.Repeats kept base)
    (second : ∀ value, (next value).Repeats kept base) : (step >>= next).Repeats kept base where
  retains {world} soFar := by
    cases run : step world with
    | ok value between =>
        have whole : (step >>= next).after world = (next value).after between := by
          simp only [after, Bind.bind, EStateM.bind, run]
        have retained : world.Retains between := after_of_ok run ▸ first.retains soFar
        rw [whole]
        exact IsEffect.trans retained ((second value).retains (IsEffect.trans soFar retained))
    | error fault between =>
        have whole : (step >>= next).after world = between := by
          simp only [after, Bind.bind, EStateM.bind, run]
        rw [whole, ← after_of_error run]
        exact first.retains soFar
  again {world final later value} soFar run upheld := by
    obtain ⟨given, between, runFirst, runSecond⟩ := bind_eq_ok.mp run
    have retained : base.Retains between :=
      IsEffect.trans soFar (after_of_ok runFirst ▸ first.retains soFar)
    have further : between.Retains final :=
      after_of_ok runSecond ▸ (second given).retains retained
    refine bind_eq_ok.mpr ⟨given, later, ?_, (second given).again retained runSecond upheld⟩
    exact first.again soFar runFirst (IsEffect.trans further.upholds upheld)

grind_pattern bind => (step >>= next).Repeats kept base

/-- A step that looks at the world gives the same again if it does the same where what made it succeed
is upheld. -/
theorem get_bind_ok {next : World → Build Next}
    (each : ∀ world, base.Retains world → (next world).Repeats kept base)
    (same : ∀ world later value final, next world world = .ok value final →
      world.Upholds kept later → next later = next world) :
    (get >>= next).Repeats kept base where
  retains {world} soFar := (each world soFar).retains soFar
  again {world final later value} soFar run upheld := by
    have retained : world.Retains final :=
      after_of_ok run ▸ (each world soFar).retains soFar
    have again : next world later = .ok value later := (each world soFar).again soFar run upheld
    change next later later = .ok value later
    rw [same world later value final run (IsEffect.trans retained.upholds upheld), again]

/-- A step that looks at the world gives the same again if it does the same where texts are upheld. -/
theorem get_bind {next : World → Build Next}
    (each : ∀ world, base.Retains world → (next world).Repeats kept base)
    (same : ∀ world later, world.Upholds kept later → next later = next world) :
    (get >>= next).Repeats kept base :=
  get_bind_ok each fun world later _ _ _ => same world later

grind_pattern get_bind => (get >>= next).Repeats kept base

end Build.Repeats

/-! ## Names -/

/-- **Symbols and blocks have steady names.** -/
structure Wording.NamesSteadily (wording : Wording) (world : World) : Prop where
  /-- The names of symbols are steady. -/
  symbols (symbol : SymbolRef) : (wording.nameText (world.symbolName symbol)).IsFixed
  /-- The labels of blocks are steady. -/
  labels (place : BlockRef) : (wording.nameText (world.block place).label).IsFixed

namespace Wording

variable {wording : Wording} {kept : LibraryId → Prop} {base : World}

/-- What has no name cannot be written. -/
theorem name_of_ok {name : Option Value} {world final : World} {Next : Type}
    {next : String → Build Next} {value : Next}
    (run : (wording.nameText (name.getD .none) >>= next) world = .ok value final) :
    ∃ given, name = some given := by
  cases name with
  | some given => exact ⟨given, rfl⟩
  | none => cases run

section

variable (names : wording.NamesSteadily base)

include names

/-- The name of a symbol is written the same again: it can only be written if it is there. -/
theorem repeats_symbolText (symbol : SymbolRef) :
    (wording.symbolText symbol).Repeats kept base := by
  unfold symbolText
  refine .get_bind_ok (fun world soFar => ?_) fun world later text final run upheld => ?_
  · rw [soFar.symbolName]
    exact (Build.Repeats.of_isFixed (names.symbols symbol)).bind fun _ => .pure _
  · rw [World.symbolName_eq] at run
    obtain ⟨name, there⟩ := name_of_ok run
    simp only [World.symbolName_eq, there, upheld.name symbol there]

/-- So is the label of a block. -/
theorem repeats_blockText (place : BlockRef) : (wording.blockText place).Repeats kept base := by
  unfold blockText
  refine .get_bind_ok (fun world soFar => ?_) fun world later text final run upheld => ?_
  · have label : (world.block place).label = (base.block place).label :=
      (congrArg Block.label (soFar.block place) :)
    rw [label]
    exact (Build.Repeats.of_isFixed (names.labels place)).bind fun _ => .pure _
  · rw [World.label_block] at run
    obtain ⟨label, there⟩ := name_of_ok run
    simp only [World.label_block, there, upheld.label place there]

end

/-! ## Operands -/

/-- The text of a constant made from a value is the one that is kept, or is written and then kept. -/
theorem reference_held_ok {type : IRType} {place : HeldId} {className : String}
    {world final : World} {text : String}
    (run : wording.reference (.held type place className) world = .ok text final) :
    world.heldText? place = some text ∧ world = final ∨
      ∃ held between, world.held[place]? = some held ∧
        wording.heldText type held.content world = .ok text between ∧
          between.keepText place text = final := by
  unfold reference at run
  rw [Build.run_get_bind] at run
  cases there : world.held[place]? with
  | none =>
      rw [there] at run
      cases run
  | some held =>
      rw [there, Build.present, pure_bind] at run
      cases kept : held.text with
      | some known =>
          rw [kept] at run
          obtain ⟨rfl, rfl⟩ := pure_eq_ok.mp run
          exact .inl ⟨by rw [World.heldText?, there]; exact kept, rfl⟩
      | none =>
          rw [kept] at run
          obtain ⟨_, between, written, run⟩ := bind_eq_ok.mp run
          obtain ⟨_, _, keeping, run⟩ := bind_eq_ok.mp run
          obtain rfl := modify_eq_ok.mp keeping
          obtain ⟨rfl, rfl⟩ := pure_eq_ok.mp run
          exact .inr ⟨held, between, rfl, written, rfl⟩

/-- A constant whose text is kept is written as that. -/
theorem reference_of_heldText? {type : IRType} {place : HeldId} {className : String}
    {world : World} {text : String} (kept : world.heldText? place = some text) :
    wording.reference (.held type place className) world = .ok text world := by
  obtain ⟨held, there, known⟩ := Option.bind_eq_some_iff.mp kept
  unfold reference
  rw [Build.run_get_bind, there, Build.present, pure_bind, known]
  rfl

/-- A constant made from a value is written the same again. -/
theorem repeats_held (leads : wording.LeadsTo World.Retains) (type : IRType) (place : HeldId)
    (className : String) : (wording.reference (.held type place className)).Repeats kept base where
  retains {world} _ := leads_reference leads _ world
  again {world final later text} _ run upheld := by
    refine reference_of_heldText? (upheld.held place ?_)
    rcases reference_held_ok run with ⟨kept, rfl⟩ | ⟨held, between, there, written, rfl⟩
    · exact kept
    · -- The text has been kept, since there is a value to keep it with.
      have retained : world.Retains between := (leads_heldText leads type held.content).of_ok written
      have inside : place < between.held.length := by
        rw [retained.length_held]
        exact (List.getElem?_eq_some_iff.mp there).1
      simp [World.heldText?, World.keepText, inside]

mutual

/-- **Operands** are written the same again. -/
@[grind .]
theorem repeats_reference (leads : wording.LeadsTo World.Retains)
    (names : wording.NamesSteadily base) (operand : Operand) :
    (wording.reference operand).Repeats kept base := by
  have symbols (symbol : SymbolRef) : (wording.symbolText symbol).Repeats kept base :=
    repeats_symbolText names symbol
  have blocks (place : BlockRef) : (wording.blockText place).Repeats kept base :=
    repeats_blockText names place
  cases operand with
  | aggregate type elements =>
      have inner := repeats_describeAll leads names elements
      unfold reference
      grind
  | repeated size element item =>
      have inner := repeats_reference leads names item
      unfold reference
      grind
  | held type place className => exact repeats_held leads type place className
  | _ =>
      unfold reference
      grind

@[grind .]
theorem repeats_describeAll (leads : wording.LeadsTo World.Retains)
    (names : wording.NamesSteadily base) (operands : List Operand) :
    (wording.describeAll operands).Repeats kept base := by
  cases operands with
  | nil => grind [describeAll]
  | cons operand operands =>
      have first := repeats_reference leads names operand
      have rest := repeats_describeAll leads names operands
      unfold describeAll
      grind

end

section

variable (leads : wording.LeadsTo World.Retains) (names : wording.NamesSteadily base)

include leads names

@[grind .]
theorem repeats_describe (operand : Operand) : (wording.describe operand).Repeats kept base := by
  grind [describe]

/-! ## Instructions, routines and modules -/

@[grind .]
theorem repeats_listed (operands : List Operand) : (wording.listed operands).Repeats kept base := by
  grind [listed]

@[grind .]
theorem repeats_targetText (target : Value) : (wording.targetText target).Repeats kept base := by
  unfold targetText
  split <;> grind

@[grind .]
theorem repeats_pairText (mnemonic : String) (left right : Operand) :
    (wording.pairText mnemonic left right).Repeats kept base := by
  grind [pairText]

@[grind .]
theorem repeats_operationText (operation : Operation) :
    (wording.operationText operation).Repeats kept base := by
  unfold operationText
  split <;> grind

@[grind .]
theorem repeats_instructionText (instruction : Instruction) :
    (wording.instructionText instruction).Repeats kept base := by
  grind [instructionText]

@[grind .]
theorem repeats_instructionLines (instructions : List Instruction) :
    (wording.instructionLines instructions).Repeats kept base := by
  induction instructions with
  | nil => grind [instructionLines]
  | cons instruction instructions ih => grind [instructionLines]

@[grind .]
theorem repeats_blockLines (block : Block) : (wording.blockLines block).Repeats kept base := by
  grind [blockLines]

/-- Blocks are written the same again: their texts are not written with the text of a routine. -/
theorem repeats_bodyLines {places : List BlockRef}
    (here : ∀ place ∈ places, kept place.routine.owner) :
    (wording.bodyLines places).Repeats kept base := by
  induction places with
  | nil => grind [bodyLines]
  | cons place places ih =>
      obtain ⟨first, rest⟩ := List.forall_mem_cons.mp here
      have inner := ih rest
      have bare (block : Block) : wording.blockLines block = wording.blockLines block.bare := rfl
      unfold bodyLines
      refine .get_bind (fun world soFar => by grind) fun world later upheld => ?_
      rw [bare (later.block place), World.block_of_bare (upheld.module _ first), ← bare]

variable {symbol : SymbolRef} (here : kept symbol.owner)

include here

omit leads in
theorem repeats_prototype : (wording.prototype symbol).Repeats kept base := by
  have text : (wording.symbolText symbol).Repeats kept base := repeats_symbolText names symbol
  unfold prototype
  refine .get_bind (fun world soFar => by grind) fun world later upheld => ?_
  have same := World.routine_of_bare (upheld.module _ here)
  have order : (later.routine symbol).order = (world.routine symbol).order :=
    (congrArg Routine.order same :)
  have hidden : (later.routine symbol).isPrivate = (world.routine symbol).isPrivate :=
    (congrArg Routine.isPrivate same :)
  have result : (later.routine symbol).result = (world.routine symbol).result :=
    (congrArg Routine.result same :)
  have parameters : parameterText (later.routine symbol) = parameterText (world.routine symbol) :=
    (congrArg parameterText same :)
  simp only [order, hidden, result, parameters]

theorem repeats_routineText : (wording.routineText symbol).Repeats kept base := by
  unfold routineText
  refine (repeats_prototype names here).bind fun head => ?_
  refine .get_bind (fun world soFar => ?_) fun world later upheld => ?_
  · have lines : (wording.bodyLines (world.blocks symbol)).Repeats kept base :=
      repeats_bodyLines leads names fun place member => by
        obtain ⟨_, -, rfl⟩ := List.mem_map.mp member
        exact here
    grind
  · simp only [World.blocks_of_bare (upheld.module _ here)]

omit names in
/-- **Globals** are written the same again, if they are there. -/
theorem repeats_globalText (there : (base.global? symbol).isSome) :
    (wording.globalText symbol).Repeats kept base where
  retains {world} _ := leads_globalText leads symbol world
  again {world final later text} soFar run upheld := by
    -- A text that is kept is given.
    have given (known : later.globalText? symbol = some text) :
        wording.globalText symbol later = .ok text later := by
      obtain ⟨global, found, printed⟩ := Option.bind_eq_some_iff.mp known
      unfold globalText
      rw [Build.run_get_bind, found]
      dsimp only [Option.getD_some]
      rw [printed]
      rfl
    refine given (upheld.global symbol here ?_)
    have look (world : World) : world.globalText? symbol =
        ((world.global? symbol).getD default).printed := by
      rw [World.globalText?]
      cases world.global? symbol <;> rfl
    unfold globalText at run
    rw [Build.run_get_bind] at run
    dsimp only at run
    cases kept : ((world.global? symbol).getD default).printed with
    | some known =>
        rw [kept] at run
        obtain ⟨rfl, rfl⟩ := pure_eq_ok.mp run
        rw [look, kept]
    | none =>
        rw [kept] at run
        obtain ⟨name, first, naming, run⟩ := bind_eq_ok.mp run
        obtain ⟨initial, second, starting, run⟩ := bind_eq_ok.mp run
        obtain ⟨_, third, keeping, run⟩ := bind_eq_ok.mp run
        obtain ⟨rfl, rfl⟩ := pure_eq_ok.mp run
        obtain rfl := modify_eq_ok.mp keeping
        -- The text has been kept, since there is a global to keep it.
        have since : base.Retains second :=
          IsEffect.trans soFar (IsEffect.trans ((leads_symbolText leads symbol).of_ok naming)
            ((leads_initialText leads _).of_ok starting))
        obtain ⟨global, found⟩ : ∃ global, second.global? symbol = some global := by
          rw [← Option.isSome_iff_exists, ← Option.isSome_map,
            World.global?_of_bare (since.module _), Option.isSome_map]
          exact there
        rw [World.globalText?, World.global?_changeGlobal, if_pos rfl, found]
        rfl

/-- **Symbols of a module** are written the same again, if they are there. -/
theorem repeats_declarationText
    (there : (base.routine? symbol).isSome ∨ (base.global? symbol).isSome) :
    (wording.declarationText symbol).Repeats kept base := by
  unfold declarationText
  refine .get_bind (fun world soFar => ?_) fun world later upheld => ?_
  · have same := World.routine?_of_bare (soFar.module symbol.owner)
    cases known : world.routine? symbol with
    | some routine => exact repeats_routineText leads names here
    | none =>
        rw [known, Option.map_none, eq_comm, Option.map_eq_none_iff] at same
        exact repeats_globalText leads here (there.resolve_left (by simp [same]))
  · have same := World.routine?_of_bare (upheld.module _ here)
    cases known : world.routine? symbol <;> cases knownLater : later.routine? symbol <;>
      simp [known, knownLater] at same ⊢

omit here in
theorem repeats_declarationTexts {symbols : List SymbolRef}
    (here : ∀ symbol ∈ symbols, kept symbol.owner)
    (there : ∀ symbol ∈ symbols, (base.routine? symbol).isSome ∨ (base.global? symbol).isSome) :
    (wording.declarationTexts symbols).Repeats kept base := by
  induction symbols with
  | nil => exact .pure _
  | cons symbol symbols ih =>
      obtain ⟨first, rest⟩ := List.forall_mem_cons.mp there
      obtain ⟨firstHere, restHere⟩ := List.forall_mem_cons.mp here
      exact (repeats_declarationText leads names firstHere first).bind fun text =>
        (ih restHere rest).bind fun texts => .pure _

omit here in
/-- **Modules** are written the same again, if they are upheld. -/
theorem repeats_moduleText {place : LibraryId} (here : kept place) :
    (wording.moduleText place).Repeats kept base := by
  have header (module : Module) : moduleHeader module = moduleHeader module.bare := rfl
  have count (module : Module) : module.symbols.length = module.bare.symbols.length := by simp
  unfold moduleText
  refine .get_bind (fun world soFar => ?_) fun world later upheld => ?_
  · refine (repeats_declarationTexts leads names (fun symbol member => ?_)
      fun symbol member => ?_).bind fun texts => .pure _
    · obtain ⟨index, -, rfl⟩ := List.mem_map.mp member
      exact here
    -- What is in a module is a routine or a global.
    · obtain ⟨index, inside, rfl⟩ := List.mem_map.mp member
      rw [List.mem_range, count, soFar.module, ← count] at inside
      exact Module.isSome_of_lt inside
  · dsimp only
    rw [header, count, upheld.module place here, ← header, ← count]

end

end Wording

/-! ## The wording of all modules -/

/-- **Symbols and blocks of a world have steady names.** -/
structure World.NamesSteadily (world : World) : Prop where
  /-- The names of symbols are steady. -/
  symbols (symbol : SymbolRef) : (world.symbolName symbol).IsSteady
  /-- The labels of blocks are steady. -/
  labels (place : BlockRef) : (world.block place).label.IsSteady

/-- Whether the names of a symbol and of its blocks are phrases. -/
def Symbol.hasPhrases (symbol : Symbol) : Bool :=
  symbol.name.phrase?.isSome &&
    match symbol.content with
    | .global _ => true
    | .routine routine => routine.blocks.all fun block => block.label.phrase?.isSome

/-- Whether the names of all symbols and blocks are phrases. -/
def World.hasPhrases (world : World) : Bool :=
  world.libraries.all fun library => library.module.symbols.all fun entry => entry.2.hasPhrases

/-- Names are steady if they are phrases. -/
theorem World.NamesSteadily.of_hasPhrases {world : World} (phrases : world.hasPhrases) :
    world.NamesSteadily := by
  have listed {symbol : SymbolRef} {known : Symbol} (found : world.symbol? symbol = some known) :
      known.hasPhrases := by
    rw [World.symbol?, World.library] at found
    cases there : world.libraries[symbol.owner]? with
    | none =>
        rw [there] at found
        cases found
    | some library =>
        rw [there, Option.getD_some] at found
        obtain ⟨⟨key, _⟩, entered, rfl⟩ := Option.map_eq_some_iff.mp found
        exact List.all_eq_true.mp (List.all_eq_true.mp phrases library
          (List.mem_of_getElem? there)) _ (List.mem_of_getElem? entered)
  constructor
  · intro symbol
    change Value.IsSteady (((world.symbol? symbol).map Symbol.name).getD .none)
    cases found : world.symbol? symbol with
    | none => exact .pure _
    | some known =>
        have both := listed found
        rw [Symbol.hasPhrases, Bool.and_eq_true] at both
        exact Value.isSteady_of_phrase? both.1
  · intro place
    rw [World.block]
    cases entered : (world.routine place.routine).blocks[place.place]? with
    | none => exact .pure _
    | some block =>
        cases routined : world.routine? place.routine with
        | none =>
            rw [World.routine, routined] at entered
            have nothing : ([] : List Block)[place.place]? = some block := entered
            simp at nothing
        | some routine =>
            rw [World.routine, routined, Option.getD_some] at entered
            rw [World.routine?_eq] at routined
            obtain ⟨⟨name, content⟩, found, same⟩ := Option.bind_eq_some_iff.mp routined
            cases content with
            | global => cases same
            | routine =>
                cases same
                have both := listed found
                rw [Symbol.hasPhrases, Bool.and_eq_true] at both
                exact Value.isSteady_of_phrase? (List.all_eq_true.mp both.2 block
                  (List.mem_of_getElem? entered))

/-- Names that are steady where texts have been retained were steady before. -/
theorem World.NamesSteadily.of_retains {before after : World} (names : after.NamesSteadily)
    (retains : before.Retains after) : before.NamesSteadily where
  symbols symbol := by
    rw [← retains.symbolName]
    exact names.symbols symbol
  labels place := by
    have label : (after.block place).label = (before.block place).label :=
      (congrArg Block.label (retains.block place) :)
    rw [← label]
    exact names.labels place

/-- A steady value is a steady name. -/
theorem Value.IsSteady.isFixed_nameText {name : Value} (steady : name.IsSteady) :
    (Wording.standard.nameText name).IsFixed := by
  have quoted : (do return "\"" ++ (← Build.plain name) ++ "\"" : Build String).IsFixed :=
    Build.IsFixed.bind steady fun _ => .pure _
  unfold Wording.nameText
  split
  · exact .pure _
  all_goals first | exact quoted | exact .throw _

/-- **A module whose symbols and blocks have steady names is written the same again** as long as it is
upheld. -/
theorem Build.repeats_printModule {kept : LibraryId → Prop} {base : World}
    (names : base.NamesSteadily) {place : LibraryId} (here : kept place) :
    (printModule place).Repeats kept base :=
  Wording.repeats_moduleText Wording.leadsTo_standard
    ⟨fun symbol => (names.symbols symbol).isFixed_nameText,
      fun place => (names.labels place).isFixed_nameText⟩ here

/-- **The text of a module, read before things happen that uphold it, is what is read after them.** -/
theorem World.Upholds.printModule {kept : LibraryId → Prop} {world before after : World}
    (upheld : before.Upholds kept after) (names : before.NamesSteadily) {place : LibraryId}
    (here : kept place) {text : String} (read : Build.printModule place world = .ok text before) :
    Build.printModule place after = .ok text after := by
  -- Reading the text has kept what is needed to read it again.
  have retained : world.Retains before := (Build.leads_printModule place).of_ok read
  exact (Build.repeats_printModule (names.of_retains retained) here).again (IsEffect.refl world)
    read upheld

end StructuredIR
