import StructuredIR.Proofs.Straight
import StructuredIR.Script.Session

/-! # Effects of operations

What the operations of functions and generators may change, by kinds of change.

* **`AllowsCodeIn place`** says that an effect permits code to be added in a library: routines keep
  their headings, and so do the functions that stand for them.
* **`AllowsCode`** says this of all libraries; it also permits everything that is neither a library
  nor a fragment to change. All operations of generators then lead only where the effect permits,
  **`Generator.leads_loop`** among them, provided that the callbacks do.
* **`AllowsBuilding`** is a coarser way to say so: routines may change at will. -/

namespace StructuredIR

open Build (Leads)

/-! ## Headings -/

/-- A routine without its code: what it is known by. -/
def Routine.heading (routine : Routine) : Routine :=
  { routine with blocks := [], order := [], names := .initial }

/-- A function without what its body records. -/
def Function.heading (function : Function) : Function :=
  { function with exit := none, slot := none }

/-! ## Code -/

/-- An effect that permits the code of routines in a library to change. -/
class AllowsRoutinesIn (place : LibraryId) (Effect : World → World → Prop) : Prop
    extends AllowsNewTexts Effect where
  /-- A routine may change that keeps its heading and the labels of its blocks. -/
  changeRoutine (world : World) (symbol : SymbolRef) (update : Routine → Routine) :
    symbol.owner = place →
      (∀ routine, world.routine? symbol = some routine →
        (update routine).heading = routine.heading) →
      (∀ routine, world.routine? symbol = some routine →
        routine.labels <+: (update routine).labels) →
        Effect world (world.changeRoutine symbol update)

namespace Build

/-- What comes after a rejection is never done. -/
theorem leads_rejectThen {Effect : World → World → Prop} [IsEffect Effect] {Result Next : Type}
    (cause : Cause) (next : Result → Build Next) :
    Leads Effect ((reject cause : Build Result) >>= next) :=
  fun world => IsEffect.refl world

section

variable {Effect : World → World → Prop}

/-- A routine may change that keeps its heading and the labels of its blocks. -/
theorem leads_changeRoutine (symbol : SymbolRef) [AllowsRoutinesIn symbol.owner Effect]
    {update : Routine → Routine}
    (labels : ∀ routine, routine.labels <+: (update routine).labels)
    (heading : ∀ routine, (update routine).heading = routine.heading := by intro; rfl) :
    Leads Effect (modify (·.changeRoutine symbol update) : Build PUnit) :=
  Leads.modify fun world =>
    AllowsRoutinesIn.changeRoutine world symbol update rfl (fun routine _ => heading routine)
      fun routine _ => labels routine

/-- A block may change that keeps its label. -/
theorem leads_changeBlock (place : BlockRef) [AllowsRoutinesIn place.routine.owner Effect]
    {update : Block → Block}
    (label : ∀ block, (update block).label = block.label := by intro; rfl) :
    Leads Effect (modify (·.changeBlock place update) : Build PUnit) :=
  leads_changeRoutine place.routine fun routine =>
    (routine.labels_changeBlock place.place label).symm ▸ List.prefix_rfl

@[grind .]
theorem leads_nameFresh (symbol : SymbolRef) [AllowsRoutinesIn symbol.owner Effect]
    (base : String) : Leads Effect (freshName symbol base) :=
  Leads.get.bind fun _ =>
    Leads.bind (leads_changeRoutine symbol fun _ => List.prefix_rfl) fun _ => Leads.pure _

@[grind .]
theorem leads_appendBlock (symbol : SymbolRef) [AllowsRoutinesIn symbol.owner Effect]
    (base : Name) (text : String) : Leads Effect (appendBlock symbol base text) :=
  Leads.get.bind fun _ => Leads.bind (leads_changeRoutine symbol fun routine =>
    routine.labels_appendBlock base.shown base.key text) fun _ => Leads.pure _

@[grind .]
theorem leads_appendNamed (symbol : SymbolRef) [AllowsRoutinesIn symbol.owner Effect]
    (base : String) : Leads Effect (appendNamed symbol base) :=
  leads_appendBlock symbol _ base

variable (place : BlockRef) [AllowsRoutinesIn place.routine.owner Effect]

@[grind .]
theorem leads_makeInstruction (base : String) (operation : Operation) :
    Leads Effect (instruction place base operation) := by
  grind -linarith [instruction]

@[grind .]
theorem leads_emit (operation : Operation) : Leads Effect (emit place operation) :=
  (leads_makeInstruction place "" operation).bind fun _ =>
    (leads_changeBlock place).bind fun _ => Leads.pure _

@[grind .]
theorem leads_emitFirst (base : String) (operation : Operation) :
    Leads Effect (emitFirst place base operation) :=
  (leads_makeInstruction place base operation).bind fun _ =>
    (leads_changeBlock place).bind fun _ => Leads.pure _

end

/-- A step followed by another one is permitted if both are, each where it is done. -/
theorem permitted_bind {Effect : World → World → Prop} [IsEffect Effect] {Result Next : Type}
    {step : Build Result} {next : Result → Build Next} {world : World}
    (first : Effect world (step.after world))
    (second : ∀ value between, step world = .ok value between →
      Effect between ((next value).after between)) :
    Effect world ((step >>= next).after world) := by
  cases run : step world with
  | ok value between =>
      have whole : (step >>= next).after world = (next value).after between := by
        simp only [after, Bind.bind, EStateM.bind, run]
      rw [whole]
      exact IsEffect.trans (after_of_ok run ▸ first) (second value between run)
  | error fault between =>
      have whole : (step >>= next).after world = step.after world := by
        simp only [after, Bind.bind, EStateM.bind, run]
      rwa [whole]

/-- A new block belongs to the routine that it was added to. -/
theorem appendNamed_ok {symbol : SymbolRef} {base : String} {world after : World}
    {block : BlockRef} (run : appendNamed symbol base world = .ok block after) :
    block.routine = symbol := by
  obtain ⟨_, _, looked, run⟩ := bind_eq_ok.mp run
  obtain ⟨_, _, changing, run⟩ := bind_eq_ok.mp run
  obtain ⟨rfl, -⟩ := pure_eq_ok.mp run
  rfl

end Build

/-! ## Changes aside -/

/-- An effect that permits everything to change but libraries, fragments and generators; values that
are held stay. -/
class AllowsAside (Effect : World → World → Prop) : Prop extends AllowsNewTexts Effect where
  /-- All that is neither a library nor a fragment nor a generator may change. -/
  aside {before after : World} (libraries : after.libraries = before.libraries)
    (fragments : after.fragments = before.fragments)
    (generators : after.generators = before.generators) (held : before.held <+: after.held) :
    Effect before after

namespace Build

section

variable {Effect : World → World → Prop} [AllowsAside Effect]

/-- A change of what is neither a library nor a fragment nor a generator, nor is held. -/
theorem leads_aside {update : World → World}
    (libraries : ∀ world, (update world).libraries = world.libraries := by intro; rfl)
    (fragments : ∀ world, (update world).fragments = world.fragments := by intro; rfl)
    (generators : ∀ world, (update world).generators = world.generators := by intro; rfl)
    (held : ∀ world, (update world).held = world.held := by intro; rfl) :
    Leads Effect (modify update : Build PUnit) :=
  Leads.modify fun world =>
    AllowsAside.aside (libraries world) (fragments world) (generators world)
      (held world ▸ List.prefix_rfl)

@[grind .]
theorem leads_identity : Leads Effect identity :=
  Leads.get.bind fun _ => Leads.bind leads_aside fun _ => Leads.pure _

@[grind .]
theorem leads_hold (type : IRType) (content : Value) : Leads Effect (hold type content) :=
  Leads.get.bind fun _ => Leads.bind (Leads.modify fun _ =>
    AllowsAside.aside rfl rfl rfl (List.prefix_append ..)) fun _ => Leads.pure _

@[grind .]
theorem leads_note (report : Report) (echo : Value) (code message : String) :
    Leads Effect (note report echo code message) := by
  have written (text : String) : Leads Effect (modify (·.write text) : Build PUnit) :=
    leads_aside
  unfold note
  refine Leads.get.bind fun world => ?_
  split
  · exact (written _).bind fun _ => Leads.pure _
  · exact Leads.pure _

end

end Build

/-! ## Functions -/

/-- An effect that permits code to be added in a library. -/
class AllowsCodeIn (place : LibraryId) (Effect : World → World → Prop) : Prop
    extends AllowsSymbolsIn place Effect, AllowsRoutinesIn place Effect where
  /-- An instruction may be added at the entry of a function. -/
  emitFirst (world : World) (reference : FunctionRef) (entry : BlockRef) (base : String)
    (operation : Operation) : reference.owner = place →
      (world.function reference).entry = some entry →
        Effect world ((Build.emitFirst entry base operation).after world)
  /-- What the body of a function records may change; an exit is in the same library. -/
  changeFunction (world : World) (reference : FunctionRef) (update : Function → Function) :
    reference.owner = place → (∀ function, (update function).heading = function.heading) →
      (∀ function exit, (update function).exit = some exit →
        function.exit = some exit ∨ exit.routine.owner = place) →
        Effect world (world.changeFunction reference update)

namespace Function

variable {Effect : World → World → Prop} (reference : FunctionRef)

variable [AllowsCodeIn reference.owner Effect]

/-- The routine of a function is in the library of the function. -/
theorem allowsRoutinesIn (world : World) :
    AllowsRoutinesIn (world.functionSymbol reference).owner Effect :=
  inferInstanceAs (AllowsRoutinesIn reference.owner Effect)

@[grind .]
theorem leads_appendNamed (base : String) : Leads Effect (appendNamed reference base) := by
  refine Leads.get.bind fun world => ?_
  have here : AllowsRoutinesIn (world.functionSymbol reference).owner Effect :=
    allowsRoutinesIn reference world
  exact Build.leads_appendNamed (world.functionSymbol reference) base

/-- A new block of a function is in the library of the function. -/
theorem appendNamed_ok {base : String} {world after : World} {block : BlockRef}
    (run : appendNamed reference base world = .ok block after) :
    block.routine.owner = reference.owner := by
  obtain ⟨_, _, looked, run⟩ := Build.bind_eq_ok.mp run
  rw [Build.appendNamed_ok run]
  rfl

@[grind .]
theorem leads_appendBlock (base : Value) : Leads Effect (appendBlock reference base) := by
  have append (world : World) (name : Name) (text : String) :
      Leads Effect (Build.appendBlock (world.functionSymbol reference) name text) := by
    have here : AllowsRoutinesIn (world.functionSymbol reference).owner Effect :=
      allowsRoutinesIn reference world
    exact Build.leads_appendBlock (world.functionSymbol reference) name text
  unfold appendBlock
  grind -linarith

omit [AllowsCodeIn reference.owner Effect] in
@[grind .]
theorem leads_compare [AllowsNewTexts Effect] (left right : Value) :
    Leads Effect (isSame left right) := by
  unfold isSame
  split <;> grind -linarith

@[grind .]
theorem leads_moveAfter (moved anchor : Value) :
    Leads Effect (moveAfter reference moved anchor) := by
  unfold moveAfter
  refine (leads_compare moved anchor).bind fun same => ?_
  split
  · exact Leads.pure _
  -- The new order is made from the one that is there.
  intro world
  have here : AllowsRoutinesIn (world.functionSymbol reference).owner Effect :=
    allowsRoutinesIn reference world
  rw [Build.after_get_bind, Build.after_get_bind]
  dsimp only
  generalize same : world.routine (world.functionSymbol reference) = routine
  split
  · exact IsEffect.refl world
  next place _ =>
    have taken : Effect world (world.changeRoutine (world.functionSymbol reference) fun _ =>
        { routine with order := routine.order.erase place }) := by
      have kept (known : Routine) (found : world.routine? (world.functionSymbol reference) =
          some known) : routine = known := by
        rw [← same, World.routine, found, Option.getD_some]
      refine AllowsRoutinesIn.changeRoutine world _ _ rfl (fun known found => ?_)
        fun known found => ?_
      · rw [kept known found]
        rfl
      · rw [kept known found]
        exact List.prefix_rfl
    rw [Build.after_modify_bind]
    refine IsEffect.trans taken ?_
    split
    · refine AllowsRoutinesIn.changeRoutine _ _ _ rfl (fun _ _ => rfl) fun _ _ => ?_
      exact List.prefix_rfl
    · exact ((Build.leads_quoted anchor).bind fun _ => Leads.throw _) _

/-- What the body of a function records may change, apart from its exit. -/
theorem leads_record {update : Function → Function}
    (heading : ∀ function, (update function).heading = function.heading := by intro; rfl)
    (exit : ∀ function, (update function).exit = function.exit := by intro; rfl) :
    Leads Effect (modify (·.changeFunction reference update) : Build PUnit) :=
  Leads.modify fun world => AllowsCodeIn.changeFunction world reference update rfl heading
    fun function _ known => .inl (exit function ▸ known)

/-- The slot for the value to return comes up at the entry of the function. -/
@[grind .]
theorem leads_createSlot (result : IRType) : Leads Effect (createSlot reference result) := by
  intro world
  unfold createSlot
  rw [Build.after_get_bind]
  split
  · exact IsEffect.refl world
  next entry known =>
    refine Build.permitted_bind ?_ fun slot between _ => ?_
    · exact AllowsCodeIn.emitFirst world reference entry _ _ rfl known
    · exact Leads.bind (leads_record reference) (fun _ => Leads.pure _) between

/-- An exit in the library of the function may be recorded. -/
theorem leads_recordExit {exit : BlockRef} (owner : exit.routine.owner = reference.owner) :
    Leads Effect (modify (·.changeFunction reference fun function =>
      { function with exit := some exit }) : Build PUnit) :=
  Leads.modify fun world => AllowsCodeIn.changeFunction world reference _ rfl (fun _ => rfl)
    fun _ _ known => .inr (Option.some.inj known ▸ owner)

@[grind .]
theorem leads_setUpReturn : Leads Effect (setUpReturn reference) := by
  unfold setUpReturn
  refine Leads.get.bind fun world => ?_
  split
  · exact Leads.pure _
  refine Leads.get.bind fun seen => ?_
  have slot : Leads Effect (createSlot reference (seen.routineOf reference).result) :=
    leads_createSlot reference _
  dsimp only
  split
  all_goals
    refine Leads.bind (by grind -linarith) fun slot => ?_
    refine (leads_appendNamed reference "return").bindFrom fun _ exit between run => ?_
    have owner := appendNamed_ok reference run
    have here : AllowsRoutinesIn exit.routine.owner Effect := owner ▸ inferInstance
    refine Leads.bind (leads_recordExit reference owner) (fun _ => ?_) between
    split <;> grind -linarith

end Function

/-! ## Adding code -/

/-- An effect that permits code to be added. -/
class AllowsCode (Effect : World → World → Prop) : Prop extends AllowsNewTexts Effect where
  /-- Code may be added in every library. -/
  code (place : LibraryId) : AllowsCodeIn place Effect
  /-- All that is neither a library nor a fragment may change. -/
  aside {before after : World} (libraries : after.libraries = before.libraries)
    (fragments : after.fragments = before.fragments) : Effect before after

/-- An effect that permits everything that is done where things are declared already. -/
class AllowsBuilding (Effect : World → World → Prop) : Prop extends AllowsSymbols Effect where
  /-- All that is neither a library nor a fragment may change. -/
  aside {before after : World} (libraries : after.libraries = before.libraries)
    (fragments : after.fragments = before.fragments) : Effect before after
  /-- A routine may change. -/
  changeRoutine (world : World) (symbol : SymbolRef) (update : Routine → Routine) :
    Effect world (world.changeRoutine symbol update)
  /-- What is recorded of a function may change, apart from the routine that it stands for. -/
  changeFunction (world : World) (reference : FunctionRef) (update : Function → Function)
    (symbol : ∀ function, (update function).symbol = function.symbol) :
    Effect world (world.changeFunction reference update)
  /-- Warnings may be recorded. -/
  changeReport (world : World) (place : LibraryId) (report : Report) :
    Effect world (world.changeLibrary place fun library => { library with report })

/-- A callback that leads only where an effect permits, whatever it is called with. -/
@[grind]
def Callback.LeadsTo (Effect : World → World → Prop) (callback : Callback) : Prop :=
  ∀ arguments, Leads Effect (callback.run arguments)

section

variable {Effect : World → World → Prop}

instance [AllowsCode Effect] {place : LibraryId} : AllowsCodeIn place Effect :=
  AllowsCode.code place

instance [AllowsCode Effect] : AllowsAside Effect where
  aside libraries fragments _ _ := AllowsCode.aside libraries fragments

instance [AllowsCode Effect] : AllowsSymbols Effect where
  intern place text := Build.leads_internString place text
  routine _ name result parameters isVariadic :=
    AllowsSymbolsIn.routine name result parameters isVariadic

instance [AllowsCode Effect] {place : GeneratorId} : AllowsAt place Effect where
  emit world block operation _ _ := Build.leads_emit block operation world

instance [AllowsBuilding Effect] {place : LibraryId} : AllowsRoutinesIn place Effect where
  changeRoutine world symbol update _ _ _ := AllowsBuilding.changeRoutine world symbol update

instance [AllowsBuilding Effect] : AllowsCode Effect where
  aside := AllowsBuilding.aside
  code _ :=
    { emitFirst := fun world _ entry base operation _ _ =>
        Build.leads_emitFirst entry base operation world
      changeFunction := fun world reference update _ heading _ =>
        AllowsBuilding.changeFunction world reference update fun function =>
          (congrArg Function.symbol (heading function) :) }

end

namespace Build

/-- A generator may change. -/
theorem leads_changeGenerator {Effect : World → World → Prop} [AllowsCode Effect]
    (place : GeneratorId) (update : Generator → Generator) :
    Leads Effect (modify (·.changeGenerator place update) : Build PUnit) :=
  Leads.modify fun _ => AllowsCode.aside rfl rfl

end Build

section

variable {Effect : World → World → Prop} [AllowsCode Effect]

/-! ## Generators -/

namespace Generator

@[grind .]
theorem leads_add (generator : Generator) : Leads Effect (add generator) :=
  Leads.get.bind fun _ =>
    Leads.bind (Leads.modify fun _ => AllowsCode.aside rfl rfl) fun _ => Leads.pure _

@[grind .]
theorem leads_atEntry (function : FunctionRef) : Leads Effect (atEntry function) := by
  grind -linarith [atEntry]

@[grind .]
theorem leads_child (place : GeneratorId) (block : Value) : Leads Effect (child place block) := by
  unfold child
  grind -linarith

@[grind .]
theorem leads_childAt (place : GeneratorId) (block : BlockRef) :
    Leads Effect (childAt place block) :=
  leads_child place _

@[grind .]
theorem leads_finish (place : GeneratorId) : Leads Effect (finish place) :=
  Build.leads_changeGenerator place _

@[grind .]
theorem leads_moveTo (place : GeneratorId) (block : Value) : Leads Effect (moveTo place block) :=
  Build.leads_changeGenerator place _

@[grind .]
theorem leads_emit (place : GeneratorId) (operation : Operation) :
    Leads Effect (emit place operation) := by
  grind -linarith [emit]

variable (place : GeneratorId)

/-! ### Branches -/

@[grind .]
theorem leads_branchTo (target : Value) : Leads Effect (branchTo place target) := by
  grind -linarith [branchTo]

@[grind .]
theorem leads_leadTo (target : Value) : Leads Effect (leadTo place target) := by
  grind -linarith [leadTo]

@[grind .]
theorem leads_branch (target : Value) : Leads Effect (branch place target) := by
  grind -linarith [branch]

@[grind .]
theorem leads_openBlock (name : Value) (body : Option Callback)
    (callback : ∀ known ∈ body, known.LeadsTo Effect) :
    Leads Effect (openBlock place name body) := by
  unfold openBlock
  refine leads_unlessFinished (Leads.get.bind fun world => ?_)
  refine (Function.leads_appendBlock _ name).bind fun block => ?_
  refine (leads_childAt place block).bind fun opened => ?_
  cases body with
  | none => grind -linarith
  | some body => exact (callback body rfl _).bind fun _ => Leads.pure _

@[grind .]
theorem leads_leaveLoop : Leads Effect (leaveLoop place) := by
  unfold leaveLoop
  refine leads_actUnlessFinished (Leads.get.bind fun world => ?_)
  split <;> grind -linarith

@[grind .]
theorem leads_nextTurn : Leads Effect (nextTurn place) := by
  unfold nextTurn
  refine leads_actUnlessFinished (Leads.get.bind fun world => ?_)
  split <;> grind -linarith

/-! ### Conditionals -/

@[grind .]
theorem leads_meetingPlace (function : FunctionRef) (given : Value) :
    Leads Effect (meetingPlace place function given) := by
  unfold meetingPlace
  refine Leads.get.bind fun world => ?_
  dsimp only
  split
  all_goals
    refine Leads.bind (by grind -linarith) fun own => ?_
    split <;> grind -linarith

@[grind .]
theorem leads_buildArm (function : FunctionRef) (name : String) {body : Callback}
    (callback : body.LeadsTo Effect) : Leads Effect (buildArm place function name body) := by
  unfold buildArm
  refine (Function.leads_appendNamed function name).bind fun block => ?_
  exact (leads_childAt place block).bind fun arm => (callback _).bind fun _ => Leads.pure _

theorem leads_buildElse (function : FunctionRef) (arm : GeneratorId) {body : Option Callback}
    (exit : Value) (callback : ∀ known ∈ body, known.LeadsTo Effect) :
    Leads Effect (buildElse place function arm body exit) := by
  cases body with
  | none => exact Leads.pure _
  | some body =>
      have built := leads_buildArm place function "else" (callback body rfl)
      unfold buildElse
      grind -linarith

theorem leads_conditional (condition : Value) {thenBody elseBody : Option Callback}
    (given : Value) (whenTrue : ∀ known ∈ thenBody, known.LeadsTo Effect)
    (whenFalse : ∀ known ∈ elseBody, known.LeadsTo Effect) :
    Leads Effect (conditional place condition thenBody elseBody given) := by
  unfold conditional
  refine leads_actUnlessFinished ?_
  cases thenBody with
  | none => exact Leads.reject _
  | some thenBody =>
      refine Leads.get.bind fun world => ?_
      refine (leads_coerce place condition _).bind fun condition => ?_
      refine (leads_buildArm place _ "then" (whenTrue thenBody rfl)).bind fun arm => ?_
      refine (leads_meetingPlace arm _ given).bind fun exit => ?_
      refine (leads_finish arm).bind fun _ => Leads.get.bind fun seen => ?_
      refine (leads_buildElse place _ arm exit whenFalse).bind fun built => ?_
      dsimp only
      grind -linarith

/-! ### Loops -/

/-- Parts of a loop that lead only where an effect permits. -/
structure LoopParts.LeadTo (Effect : World → World → Prop) (parts : LoopParts) : Prop where
  /-- The condition does. -/
  compare : ∀ known ∈ parts.compare, known.LeadsTo Effect
  /-- The increment does. -/
  increment : ∀ known ∈ parts.increment, known.LeadsTo Effect
  /-- The body does. -/
  body : ∀ known ∈ parts.body, known.LeadsTo Effect

@[grind .]
theorem leads_loopHeader (function : FunctionRef) : Leads Effect (loopHeader place function) := by
  unfold loopHeader
  refine (leads_position place).bind fun current => ?_
  refine Leads.get.bind fun world => Leads.get.bind fun seen => ?_
  split <;> grind -linarith

@[grind .]
theorem leads_bodyBlock (function : FunctionRef) (header : BlockRef) (parts : LoopParts) :
    Leads Effect (bodyBlock function header parts) := by
  unfold bodyBlock
  split <;> grind -linarith

@[grind .]
theorem leads_incrementBlock (function : FunctionRef) (header : BlockRef) (parts : LoopParts) :
    Leads Effect (incrementBlock function header parts) := by
  unfold incrementBlock
  split <;> grind -linarith

@[grind .]
theorem leads_loopEnd (function : FunctionRef) (given : Value) :
    Leads Effect (loopEnd function given) := by
  grind -linarith [loopEnd]

@[grind .]
theorem leads_loopBlocks (function : FunctionRef) (header : BlockRef) (parts : LoopParts)
    (given : Value) : Leads Effect (loopBlocks function header parts given) := by
  grind -linarith [loopBlocks]

@[grind .]
theorem leads_loopPart (block : BlockRef) (blocks : LoopBlocks) :
    Leads Effect (loopPart place block blocks) :=
  (leads_childAt place block).bind fun part =>
    (Build.leads_changeGenerator part _).bind fun _ => Leads.pure _

@[grind .]
theorem leads_branchOn (blocks : LoopBlocks) (result : Value) :
    Leads Effect (branchOn place blocks result) := by
  grind -linarith [branchOn]

theorem leads_buildBody (blocks : LoopBlocks) (slots : List Operand) {body : Option Callback}
    (block : Option BlockRef) (callback : ∀ known ∈ body, known.LeadsTo Effect) :
    Leads Effect (buildBody place blocks slots body block) := by
  unfold buildBody
  split
  next body block =>
    have run := callback body rfl
    grind -linarith
  next => exact Leads.pure _

theorem leads_buildCompare (blocks : LoopBlocks) (slots : List Operand)
    {compare : Option Callback} (callback : ∀ known ∈ compare, known.LeadsTo Effect) :
    Leads Effect (buildCompare place blocks slots compare) := by
  cases compare with
  | none => exact Leads.pure _
  | some compare =>
      have run := callback compare rfl
      unfold buildCompare
      grind -linarith

theorem leads_buildIncrement (blocks : LoopBlocks) (slots : List Operand)
    {increment : Option Callback} (block : Option BlockRef)
    (callback : ∀ known ∈ increment, known.LeadsTo Effect) :
    Leads Effect (buildIncrement place blocks slots increment block) := by
  unfold buildIncrement
  split
  next increment block =>
    have run := callback increment rfl
    grind -linarith
  next => exact Leads.pure _

theorem leads_buildParts {parts : LoopParts} (blocks : LoopBlocks) (slots : List Operand)
    (callbacks : parts.LeadTo Effect) : Leads Effect (buildParts place parts blocks slots) :=
  (leads_buildBody place blocks slots blocks.body callbacks.body).bind fun _ =>
    (leads_buildCompare place blocks slots callbacks.compare).bind fun _ =>
      leads_buildIncrement place blocks slots blocks.increment callbacks.increment

omit place in
@[grind .]
theorem leads_moveToEnd (function : FunctionRef) (exit : Value) :
    Leads Effect (moveToEnd function exit) := by
  unfold moveToEnd
  refine Leads.get.bind fun world => ?_
  split <;> grind -linarith

theorem leads_loop (initial : Value) {parts : LoopParts} (given : Value)
    (callbacks : parts.LeadTo Effect) : Leads Effect (loop place initial parts given) := by
  unfold loop
  refine leads_unlessFinished ?_
  by_cases empty : parts.isEmpty = true
  · simp only [if_pos empty]
    exact Build.leads_rejectThen _ _
  · simp only [if_neg empty]
    refine Leads.get.bind fun world => Leads.get.bind fun seen => ?_
    refine (leads_createSlots place _).bind fun slots => ?_
    refine (leads_loopHeader place _).bind fun header => ?_
    refine (leads_loopBlocks _ header parts given).bind fun blocks => ?_
    refine (leads_buildParts place blocks slots callbacks).bind fun _ => ?_
    grind -linarith

/-! ### Calls -/

variable {interpret : Value → Callback}

@[grind .]
theorem leads_expand (callbacks : ∀ value, (interpret value).LeadsTo Effect)
    (fragment : FragmentId) (target : Value) (arguments : List Value) :
    Leads Effect (expand interpret fragment target arguments) := by
  unfold expand
  refine Leads.get.bind fun world => ?_
  dsimp only
  split
  · exact callbacks _ _
  · split
    · exact callbacks _ _
    · exact (Build.leads_plain _).bind fun name => Leads.reject _

@[grind .]
theorem leads_callName (callbacks : ∀ value, (interpret value).LeadsTo Effect) (name : Phrase)
    (arguments : List Value) : Leads Effect (callName interpret place name arguments) := by
  unfold callName
  refine (leads_library place).bind fun library => Leads.get.bind fun world => ?_
  split
  · exact leads_expand callbacks _ _ arguments
  · grind -linarith
  · grind -linarith
  · grind -linarith

@[grind .]
theorem leads_call (callbacks : ∀ value, (interpret value).LeadsTo Effect) (callee : Value)
    (arguments : List Value) : Leads Effect (call interpret place callee arguments) := by
  unfold call
  refine leads_unlessFinished ?_
  split
  · grind -linarith
  · grind -linarith
  · exact leads_callName place callbacks _ arguments
  · exact Leads.reject _

/-! ### Returns -/

@[grind .]
theorem leads_returnShared (value : Value) : Leads Effect (returnShared place value) := by
  grind -linarith [returnShared]

@[grind .]
theorem leads_returnIf (condition value continuation : Value) :
    Leads Effect (returnIf place condition value continuation) := by
  unfold returnIf
  refine leads_actUnlessFinished (Leads.get.bind fun world => ?_)
  refine (Function.leads_setUpReturn _).bind fun exit => ?_
  refine (leads_coerce place condition _).bind fun condition => ?_
  refine (leads_storeResult place value).bind fun _ => ?_
  grind -linarith

@[grind .]
theorem leads_returnDirectly (value : Value) : Leads Effect (returnDirectly place value) := by
  unfold returnDirectly
  refine leads_actUnlessFinished ((leads_isVoid place).bind fun isVoid => ?_)
  split
  · grind -linarith
  · split
    · exact Build.leads_rejectThen _ _
    · grind -linarith

@[grind .]
theorem leads_presetReturn (value : Value) : Leads Effect (presetReturn place value) := by
  unfold presetReturn
  refine leads_actUnlessFinished ((leads_isVoid place).bind fun isVoid => ?_)
  split
  · grind -linarith
  · split
    · exact Build.leads_rejectThen _ _
    · grind -linarith

end Generator

end

end StructuredIR
