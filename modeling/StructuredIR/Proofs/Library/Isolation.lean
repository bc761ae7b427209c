import StructuredIR.Proofs.Library.Closure
import StructuredIR.Proofs.Library.Homes
import StructuredIR.Proofs.Rereading

/-! # Libraries on their own

What is done for a library leaves all others as they are.

* **`World.LeavesOthers place`** says that no library but one has changed: what the others declare, their
  warnings and what is written of their modules are the same.
* **`Enclosure.Settled`** says that libraries share nothing that changes, and that the generators of a
  library are for its functions and at its blocks. **`Enclosure.Keeps`** is the course of worlds that
  stay so and spare all other libraries; the library may declare things on it.
* **`Enclosure.residence`** is the discipline of generators that stay at the blocks of a library. They may
  use values of any library. -/

namespace StructuredIR

open Build (Leads bind_eq_ok)

/-! ## Modules that keep their names -/

/-- **Symbols of a module keep their names**, and the blocks of its routines their labels. -/
structure Module.KeepsNames (before after : Module) : Prop where
  /-- Symbols keep their names. -/
  name (place : Nat) {name : Value} : (before.symbol? place).map Symbol.name = some name →
    (after.symbol? place).map Symbol.name = some name
  /-- Blocks keep their labels. -/
  labels (place : Nat) : ((before.routine? place).getD default).labels <+:
    ((after.routine? place).getD default).labels

namespace Module.KeepsNames

variable (module : Module)

/-- A module that is the same keeps its names. -/
theorem refl : module.KeepsNames module :=
  ⟨fun _ _ => id, fun _ => List.prefix_rfl⟩

/-- A module with one more symbol keeps its names. -/
theorem append (key : Key) (symbol : Symbol) : module.KeepsNames (module.append key symbol) := by
  have before {place : Nat} {known : Symbol} (found : module.symbol? place = some known) :
      (module.append key symbol).symbol? place = some known := by
    have inside : place ≠ module.symbols.length := by
      rintro rfl
      simp [symbol?] at found
    rw [symbol?_append, if_neg inside, found]
  refine ⟨fun place name known => ?_, fun place => ?_⟩
  · obtain ⟨symbol, found, named⟩ := Option.map_eq_some_iff.mp known
    rw [before found, Option.map_some, named]
  · rcases found : module.symbol? place with _ | known
    · rw [routine?_eq, found]
      exact List.nil_prefix
    · rw [routine?_eq, routine?_eq, found, before found]

/-- A module with a routine changed keeps its names if the routine keeps its labels. -/
theorem changeRoutine (place : Nat) {update : Routine → Routine}
    (labels : ∀ routine, module.routine? place = some routine →
      routine.labels <+: (update routine).labels) :
    module.KeepsNames (module.changeRoutine place update) := by
  refine ⟨fun other name known => ?_, fun other => ?_⟩
  · rw [Module.changeRoutine, symbol?_change]
    split
    next same =>
      rw [Option.map_map]
      exact same ▸ known
    next => exact known
  · rw [routine?_changeRoutine]
    split
    next same =>
      subst same
      rcases found : module.routine? other with _ | routine
      · exact List.prefix_rfl
      · exact labels routine found
    next => exact List.prefix_rfl

/-- A module with a global changed keeps its names. -/
theorem changeGlobal (place : Nat) (update : Global → Global) :
    module.KeepsNames (module.changeGlobal place update) := by
  have symbols (other : Nat) : ((module.changeGlobal place update).symbol? other).map Symbol.name =
      (module.symbol? other).map Symbol.name := by
    rw [Module.changeGlobal, symbol?_change]
    split
    next same => rw [Option.map_map, same]; rfl
    next => rfl
  refine ⟨fun other name known => symbols other ▸ known, fun other => ?_⟩
  have routines : (module.changeGlobal place update).routine? other = module.routine? other := by
    rw [routine?_eq, routine?_eq, Module.changeGlobal, symbol?_change]
    split
    next same =>
      rw [same]
      rcases module.symbol? place with _ | ⟨name, content⟩
      · rfl
      · cases content <;> rfl
    next => rfl
  rw [routines]

end Module.KeepsNames

/-! ## Libraries that are spared -/

/-- **No library but one has changed**: what the others declare, who sees it and their warnings are the
same, and what is written of their modules is upheld. -/
structure World.LeavesOthers (place : LibraryId) (before after : World) : Prop where
  /-- Other libraries are the same but for texts. -/
  library (other : LibraryId) : other ≠ place → (after.library other).bare = (before.library other).bare
  /-- Fragments are still there. -/
  length : before.fragments.length ≤ after.fragments.length
  /-- The fragments that other libraries list are the same. -/
  fragment (other : LibraryId) : other ≠ place → ∀ listed ∈ (before.library other).fragments,
    listed.2 < before.fragments.length → after.fragment listed.2 = before.fragment listed.2
  /-- What is written of other modules is upheld. -/
  upheld : before.Upholds (· ≠ place) after

namespace World.LeavesOthers

variable {place : LibraryId} {before world after : World}

instance : IsEffect (World.LeavesOthers place) where
  refl world := ⟨fun _ _ => rfl, Nat.le_refl _, fun _ _ _ _ _ => rfl, IsEffect.refl world⟩
  trans {first second third} one two :=
    { library := fun other different => (two.library other different).trans (one.library other different)
      length := one.length.trans two.length
      fragment := fun other different listed member inside => by
        have still : listed ∈ (second.library other).fragments := by
          have same : (second.library other).fragments = (first.library other).fragments :=
            (congrArg Library.fragments (one.library other different) :)
          exact same ▸ member
        rw [two.fragment other different listed still (inside.trans_le one.length)]
        exact one.fragment other different listed member inside
      upheld := IsEffect.trans one.upheld two.upheld }

/-- **A library may change** that keeps the names in its module. -/
theorem changeLibrary {update : Library → Library}
    (names : (world.library place).module.KeepsNames (update (world.library place)).module) :
    world.LeavesOthers place (world.changeLibrary place update) := by
  have others (other : LibraryId) (different : other ≠ place) :
      (world.changeLibrary place update).library other = world.library other := by
    rw [library_changeLibrary, if_neg fun same => different same.1]
  refine ⟨fun other different => by rw [others other different], Nat.le_refl _,
    fun _ _ _ _ _ => rfl, ⟨fun other different => by rw [others other different],
      fun symbol name known => ?_, fun block label known => ?_, fun _ _ => id,
      fun symbol text different => ?_⟩⟩
  · rw [World.name?, symbol?] at known ⊢
    rw [library_changeLibrary]
    split
    next same => exact names.name _ (same.1 ▸ known)
    next => exact known
  · rw [label?, routine, routine?] at known ⊢
    rw [library_changeLibrary]
    split
    next same =>
      obtain ⟨further, joined⟩ := names.labels block.routine.place
      rw [same.1] at known
      rw [← joined]
      exact (List.getElem?_append_left (List.getElem?_eq_some_iff.mp known).1).trans known
    next => exact known
  · rw [globalText?, globalText?, global?, global?, others _ different]
    exact id

/-- A library may change that keeps its module. -/
theorem changeListed {update : Library → Library}
    (module : (update (world.library place)).module = (world.library place).module) :
    world.LeavesOthers place (world.changeLibrary place update) :=
  .changeLibrary (module ▸ .refl _)

/-- What belongs to no library may change, as long as values that are held stay. -/
theorem aside (libraries : after.libraries = before.libraries)
    (length : before.fragments.length ≤ after.fragments.length)
    (fragment : ∀ other, other ≠ place → ∀ listed ∈ (before.library other).fragments,
      listed.2 < before.fragments.length → after.fragment listed.2 = before.fragment listed.2)
    (held : before.held <+: after.held) : before.LeavesOthers place after := by
  have library (other : LibraryId) : after.library other = before.library other := by
    rw [World.library, libraries, World.library]
  refine ⟨fun other _ => by rw [library], length, fragment, ⟨fun other _ => by rw [library],
    fun symbol name known => ?_, fun block label known => ?_, fun value text known => ?_,
    fun symbol text _ known => ?_⟩⟩
  · rwa [World.name?, symbol?, library]
  · rwa [label?, routine, routine?, library]
  · obtain ⟨further, joined⟩ := held
    obtain ⟨kept, found, texts⟩ := Option.bind_eq_some_iff.mp known
    rw [heldText?, ← joined, List.getElem?_append_left (List.getElem?_eq_some_iff.mp found).1]
    exact known
  · rwa [globalText?, global?, library]

instance : AllowsNewTexts (World.LeavesOthers place) := by
  have texts {before world after : World} (soFar : before.LeavesOthers place world)
      (same : SameBare world after) (upheld : before.Upholds (· ≠ place) after) :
      before.LeavesOthers place after := by
    have fragments : after.fragments = world.fragments := (congrArg World.fragments same :)
    refine ⟨fun other different => ?_, fragments ▸ soFar.length,
      fun other different listed member inside => ?_, upheld⟩
    · rw [← soFar.library other different, ← library_bare, ← library_bare, same]
    · rw [World.fragment, fragments]
      exact soFar.fragment other different listed member inside
  exact
    { held := fun value text soFar new =>
        texts soFar (AllowsTexts.held _ value text) (AllowsNewTexts.held value text soFar.upheld new)
      block := fun block text soFar new =>
        texts soFar (AllowsTexts.block _ block text) (AllowsNewTexts.block block text soFar.upheld new)
      global := fun symbol text soFar new =>
        texts soFar (AllowsTexts.global _ symbol text)
          (AllowsNewTexts.global symbol text soFar.upheld new) }

end World.LeavesOthers

/-! ## Libraries at work -/

/-- A value that is a block of a library, if it is a block at all. -/
def Value.LiesIn (place : LibraryId) (value : Value) : Prop :=
  ∀ block ∈ value.block?, block.routine.owner = place

/-- A generator for a function of a library, at a block of the library. -/
structure Generator.LivesIn (place : LibraryId) (generator : Generator) : Prop where
  /-- It is for a function of the library. -/
  function : generator.function.owner = place
  /-- It is at a block of the library. -/
  block : generator.block.LiesIn place

/-- The entry of a function is a block of its library. -/
theorem World.Homes.entry_liesIn {world : World} (homes : world.Homes) {place : LibraryId}
    {reference : FunctionRef} (owner : reference.owner = place) :
    (Generator.entryValue (world.function reference)).LiesIn place := by
  subst owner
  intro block given
  unfold Generator.entryValue at given
  rcases begins : (world.function reference).entry with _ | entry
  · rw [begins] at given
    cases given
  · rw [begins] at given
    cases given
    exact homes.function begins

/-- A new block of a function is in the library of the function, however it is named. -/
theorem Function.appendBlock_owner {reference : FunctionRef} {base : Value} {world after : World}
    {block : BlockRef} (run : appendBlock reference base world = .ok block after) :
    block.routine.owner = reference.owner := by
  obtain ⟨name, named, -, run⟩ := bind_eq_ok.mp run
  obtain ⟨seen, _, -, run⟩ := bind_eq_ok.mp run
  obtain ⟨_, _, -, run⟩ := bind_eq_ok.mp run
  dsimp only at run
  split at run
  · obtain ⟨text, written, -, run⟩ := bind_eq_ok.mp run
    cases run
    rfl
  · cases run
    rfl

namespace Enclosure

variable {site : Enclosure} {world before after : World}

/-- **Libraries share nothing that changes**, and the generators of a library are at its blocks. -/
structure Settled (site : Enclosure) (world : World) : Prop where
  /-- Libraries share nothing that changes. -/
  homes : world.Homes
  /-- Generators that are still to come are among those of the library. -/
  fresh (generator : GeneratorId) : world.generators.length ≤ generator → site.Owns generator
  /-- The generators of the library are for its functions and at its blocks. -/
  own (generator : GeneratorId) : generator < world.generators.length → site.Owns generator →
    (world.generator generator).LivesIn site.place

/-- **All other libraries were spared**, and libraries still share nothing that changes. -/
structure Keeps (site : Enclosure) (before after : World) : Prop where
  /-- Libraries share nothing that changes. -/
  settled : site.Settled after
  /-- Generators are still there. -/
  generators : before.generators.length ≤ after.generators.length
  /-- All other libraries were spared. -/
  others : before.LeavesOthers site.place after

instance : IsCourse site.Keeps where
  trans first second :=
    ⟨second.settled, first.generators.trans second.generators,
      IsEffect.trans first.others second.others⟩
  arrives keeps := ⟨keeps.settled, Nat.le_refl _, IsEffect.refl _⟩

namespace Settled

/-- Nothing has happened yet. -/
theorem refl (settled : site.Settled world) : site.Keeps world world :=
  ⟨settled, Nat.le_refl _, IsEffect.refl _⟩

/-- Where the generators are the same, they are where they were. -/
theorem of_same (settled : site.Settled before) (generators : after.generators = before.generators)
    (homes : after.Homes) : site.Settled after where
  homes := homes
  fresh generator beyond := settled.fresh generator (generators ▸ beyond)
  own generator inside owned := by
    rw [World.generator, generators]
    exact settled.own generator (generators ▸ inside) owned

/-- Other libraries are spared by a step that leaves generators alone. -/
theorem keeps (settled : site.Settled before) (generators : after.generators = before.generators)
    (homes : after.Homes) (others : before.LeavesOthers site.place after) : site.Keeps before after :=
  ⟨settled.of_same generators homes, generators ▸ Nat.le_refl _, others⟩

/-- A library may change that keeps the names in its module. -/
theorem changeLibrary (settled : site.Settled world) {update : Library → Library}
    (homes : (world.changeLibrary site.place update).Homes)
    (names : (world.library site.place).module.KeepsNames (update (world.library site.place)).module) :
    site.Keeps world (world.changeLibrary site.place update) :=
  settled.keeps rfl homes (.changeLibrary names)

/-- A symbol may be declared. -/
theorem declareSymbol (settled : site.Settled world) (name : Name) (content : Content) :
    site.Keeps world ((Build.declareSymbol site.place name content).after world) := by
  cases run : Build.declareSymbol site.place name content world with
  | error fault final =>
      rw [Build.after_of_error run, Build.declareSymbol_error run]
      exact settled.refl
  | ok symbol final =>
      rw [Build.after_of_ok run, (Build.declareSymbol_ok run).2]
      exact settled.changeLibrary (settled.homes.changeLibrary _ rfl rfl) (.append _ _ _)

/-- A routine may change that keeps the labels of its blocks. -/
theorem changeRoutine (settled : site.Settled world) {symbol : SymbolRef}
    (owner : symbol.owner = site.place) {update : Routine → Routine}
    (labels : ∀ routine, world.routine? symbol = some routine →
      routine.labels <+: (update routine).labels) :
    site.Keeps world (world.changeRoutine symbol update) :=
  settled.keeps rfl (settled.homes.changeLibrary symbol.owner rfl rfl)
    (owner ▸ World.LeavesOthers.changeLibrary (.changeRoutine _ _ labels))

/-- A global may change. -/
theorem changeGlobal (settled : site.Settled world) {symbol : SymbolRef}
    (owner : symbol.owner = site.place) (update : Global → Global) :
    site.Keeps world (world.changeGlobal symbol update) :=
  settled.keeps rfl (settled.homes.changeLibrary symbol.owner rfl rfl)
    (owner ▸ World.LeavesOthers.changeLibrary (.changeGlobal _ _ _))

/-- A generator that is at home may come up. -/
theorem addGenerator (settled : site.Settled world) {generator : Generator}
    (lives : generator.LivesIn site.place) :
    site.Keeps world { world with generators := world.generators ++ [generator] } := by
  have longer : world.generators.length ≤ (world.generators ++ [generator]).length := by simp
  refine ⟨⟨⟨settled.homes.entry, settled.homes.inside, settled.homes.apart⟩, fun other beyond =>
    settled.fresh other (longer.trans beyond), fun other inside owned => ?_⟩, longer,
    .aside rfl (Nat.le_refl _) (fun _ _ _ _ _ => rfl) List.prefix_rfl⟩
  rw [World.generator_append]
  split
  · exact lives
  next different =>
    refine settled.own other ?_ owned
    refine Nat.lt_of_le_of_ne (Nat.lt_succ_iff.mp ?_) different
    rwa [List.length_append, List.length_singleton] at inside

/-- What a body records of a function may change. -/
theorem changeFunction (settled : site.Settled world) {reference : FunctionRef}
    (owner : reference.owner = site.place) {update : Function → Function}
    (entry : ∀ function, (update function).entry = function.entry) :
    site.Keeps world (world.changeFunction reference update) :=
  settled.keeps rfl (settled.homes.changeFunction reference entry)
    (owner ▸ World.LeavesOthers.changeListed rfl)

end Settled

/-! ### Code -/

/-- What leads along the course stays on it where it can be followed. -/
theorem Keeps.leads {Result : Type} {step : Build Result} (valid : site.Keeps world world)
    (leads : Leads (Along site.Keeps) step) : site.Keeps world (step.after world) :=
  leads world valid

instance : AllowsNewTexts (Along site.Keeps) := by
  have texts {before world after : World} (soFar : site.Keeps before world)
      (same : SameBare world after) (homes : Preserves World.Homes world after)
      (others : before.LeavesOthers site.place after) : site.Keeps before after := by
    have generators : after.generators = world.generators := (congrArg World.generators same :)
    exact ⟨soFar.settled.of_same generators (homes soFar.settled.homes),
      generators ▸ soFar.generators, others⟩
  exact
    { held := fun value text soFar new valid =>
        texts (soFar valid) (AllowsTexts.held _ value text) (AllowsTexts.held _ value text)
          (AllowsNewTexts.held value text (soFar valid).others new)
      block := fun block text soFar new valid =>
        texts (soFar valid) (AllowsTexts.block _ block text) (AllowsTexts.block _ block text)
          (AllowsNewTexts.block block text (soFar valid).others new)
      global := fun symbol text soFar new valid =>
        texts (soFar valid) (AllowsTexts.global _ symbol text) (AllowsTexts.global _ symbol text)
          (AllowsNewTexts.global symbol text (soFar valid).others new) }

instance : AllowsSymbolsIn site.place (Along site.Keeps) where
  intern owner text here world valid := by
    obtain rfl := Option.mem_some.mp here
    refine valid.settled.changeLibrary (valid.settled.homes.changeLibrary _ rfl rfl) ?_
    dsimp only [StringPool.intern]
    split
    · exact .refl _
    · exact .append _ _ _
  routine name _ _ _ world valid := valid.settled.declareSymbol name _

instance : AllowsRoutinesIn site.place (Along site.Keeps) where
  changeRoutine _ _ _ owner _ labels valid := valid.settled.changeRoutine owner labels

instance : AllowsCodeIn site.place (Along site.Keeps) where
  emitFirst world reference entry base operation owner begins valid := by
    have here : entry.routine.owner = site.place :=
      (valid.settled.homes.function begins).trans owner
    have : AllowsRoutinesIn entry.routine.owner (Along site.Keeps) := here ▸ inferInstance
    exact valid.leads (Build.leads_emitFirst entry base operation)
  changeFunction world reference update owner heading _ valid :=
    valid.settled.changeFunction owner fun function =>
      (congrArg Function.entry (heading function) :)

/-! ### Declarations -/

instance : AllowsReport site.place (Along site.Keeps) where
  aside libraries fragments generators held valid := by
    refine valid.settled.keeps generators
      (valid.settled.homes.of_same (fun place => by rw [World.library, libraries]; rfl)
        (fun place => by rw [World.library, libraries]; rfl) (fragments ▸ Nat.le_refl _))
      (.aside libraries (fragments ▸ Nat.le_refl _) (fun _ _ listed _ _ => ?_) held)
    rw [World.fragment, fragments]
    rfl
  changeReport world _ valid :=
    valid.settled.changeLibrary (valid.settled.homes.changeLibrary _ rfl rfl) (.refl _)

/-- A function is created and entered. -/
theorem leads_addFunction (key : Key) (name : Value) (signature : Signature) (result : IRType)
    (symbolName : Name) (visibility : Visibility) (isDeclaration : Bool) :
    Leads (Along site.Keeps) (Library.addFunction site.place key name signature result symbolName
      visibility isDeclaration) := by
  have linked (symbol : SymbolRef) (owner : symbol.owner = site.place) (visibility : Value) :
      Leads (Along site.Keeps) (Function.link symbol visibility) :=
    Leads.modify fun world valid => valid.settled.changeRoutine owner fun _ _ => List.prefix_rfl
  have created : Leads (Along site.Keeps) (Function.create site.place name signature result
      symbolName visibility isDeclaration) := by
    unfold Function.create
    refine (Build.leads_ensureRoutine _ _ _ _ _).bindFrom fun _ symbol between run => ?_
    have owner := (Build.ensureRoutine_there run).1
    have here : AllowsRoutinesIn symbol.owner (Along site.Keeps) := owner ▸ inferInstance
    split
    · exact (linked symbol owner _).bind (fun _ => Leads.pure _) between
    · exact (Build.leads_appendNamed symbol "entry").bind (fun _ =>
        (linked symbol owner _).bind fun _ => Leads.pure _) between
  refine created.bindFrom fun _ function between run valid => ?_
  refine valid.settled.changeLibrary (valid.settled.homes.changeFunctions _ ?_ rfl) (.refl _)
  intro listed member block begins
  rcases List.mem_append.mp member with known | new
  · exact valid.settled.homes.entry _ listed known block begins
  · obtain rfl := List.mem_singleton.mp new
    exact Function.create_entry run begins

instance : AllowsLibrary site.place (Along site.Keeps) where
  changeDefault world _ valid :=
    valid.settled.changeLibrary (valid.settled.homes.changeLibrary _ rfl rfl) (.refl _)
  atEntry reference owner world valid :=
    valid.settled.addGenerator ⟨owner, valid.settled.homes.entry_liesIn owner⟩
  addFunction := leads_addFunction
  relinkFunction world reference key function visibility owner _ valid := by
    have changed : site.Keeps world (world.changeFunction reference fun function =>
        { function with visibility }) := valid.settled.changeFunction owner fun _ => rfl
    exact IsCourse.trans changed
      (changed.settled.changeRoutine rfl fun _ _ => List.prefix_rfl)
  addEntry key fragment world valid := by
    refine valid.settled.keeps rfl (valid.settled.homes.addEntry _ key fragment) ?_
    have added : world.LeavesOthers site.place { world with fragments := world.fragments ++ [fragment] } := by
      refine .aside rfl (by simp) (fun _ _ listed _ inside => ?_) List.prefix_rfl
      rw [World.fragment, World.fragment, List.getElem?_append_left inside]
    exact IsEffect.trans added (World.LeavesOthers.changeListed rfl)
  relinkFragment world key fragment visibility known valid := by
    refine valid.settled.keeps rfl ?_ (.aside rfl (List.length_modify ..).ge
      (fun other different listed member _ => ?_) List.prefix_rfl)
    · exact valid.settled.homes.of_same (fun _ => rfl) (fun _ => rfl) (List.length_modify ..).ge
    · have apart : listed.2 ≠ fragment :=
        valid.settled.homes.apart different listed member _ (Dictionary.mem_of_get?_eq_some known)
      simp only [World.fragment, World.changeFragment, List.getElem?_modify]
      simp only [if_neg apart.symm, id_map']
  addGlobal world key symbolName valueType update name visibility _ _ _ valid := by
    have asked : Leads (Along site.Keeps) (Build.ensureGlobal site.place symbolName valueType) := by
      have declared : Leads (Along site.Keeps) (Build.declareSymbol site.place symbolName
        (.global (.external valueType))) := fun world valid => valid.settled.declareSymbol _ _
      grind -linarith [Build.ensureGlobal]
    refine Build.permitted_bind (asked world) (fun symbol between run reached => ?_) valid
    have changed := reached.settled.changeGlobal (Build.ensureGlobal_there run).1 update
    exact IsCourse.trans changed (changed.settled.changeLibrary
      (changed.settled.homes.changeLibrary _ rfl rfl) (.refl _))
  fixGlobal world symbol owner valid := valid.settled.changeGlobal owner _
  relinkGlobal world key entry visibility _ valid := by
    have changed : site.Keeps world (world.changeGlobal ⟨site.place, entry.symbol⟩ fun global =>
        { global with isPrivate := visibility == .isPrivate }) := valid.settled.changeGlobal rfl _
    exact IsCourse.trans changed (changed.settled.changeLibrary
      (changed.settled.homes.changeLibrary _ rfl rfl) (.refl _))

/-! ### Generators -/

/-- A generator may change that stays for its function and at a block of the library. -/
theorem Settled.changeGenerator (settled : site.Settled world) {generator : GeneratorId}
    {update : Generator → Generator}
    (function : ∀ known, (update known).function = known.function)
    (block : generator < world.generators.length →
      (update (world.generator generator)).block.LiesIn site.place) :
    site.Keeps world (world.changeGenerator generator update) := by
  refine ⟨⟨⟨settled.homes.entry, settled.homes.inside, settled.homes.apart⟩, fun other beyond =>
    settled.fresh other ?_, fun other inside owned => ?_⟩, ?_,
    .aside rfl (Nat.le_refl _) (fun _ _ _ _ _ => rfl) List.prefix_rfl⟩
  · rwa [World.length_changeGenerator] at beyond
  · rw [World.length_changeGenerator] at inside
    rw [World.generator_changeGenerator]
    split
    next same =>
      obtain ⟨rfl, there⟩ := same
      refine ⟨?_, block there⟩
      rw [function]
      exact (settled.own _ inside owned).function
    next => exact settled.own other inside owned
  · rw [World.length_changeGenerator]

/-- Code may be added to the functions of the library. -/
theorem allowsCodeIn {reference : FunctionRef} (serves : reference.owner = site.place) :
    AllowsCodeIn reference.owner (Along site.Keeps) :=
  serves ▸ inferInstance

/-- **The discipline of staying in a library**: generators are for its functions and at its blocks, and
use values of any library. -/
def residence (site : Enclosure) : Discipline where
  Course := site.Keeps
  Owns := site.Owns
  Serves reference := reference.owner = site.place
  Spot _ value := value.LiesIn site.place
  Citable _ := True
  Permits _ := True
  Tests _ := True
  Yields _ _ := True
  isCourse := inferInstance
  generators keeps := keeps.generators
  spot _ lies := lies
  fresh valid := valid.settled.fresh _ (Nat.le_refl _)
  function valid owned inside := (valid.settled.own _ inside owned).function
  position valid owned inside := (valid.settled.own _ inside owned).block
  entry valid serves := valid.settled.homes.entry_liesIn serves
  slot _ _ _ _ := trivial
  cite _ _ := trivial
  symbols serves := serves ▸ inferInstance
  straight _ := trivial
  branch _ := trivial
  branchIf _ _ _ _ := trivial
  retVoid _ _ _ := trivial
  ret _ _ _ _ _ := trivial
  emit {world block operation} valid spot _ _ := by
    have : AllowsRoutinesIn block.routine.owner (Along site.Keeps) := spot block rfl ▸ inferInstance
    exact valid.leads (Build.leads_emit block operation)
  changeGenerator valid function block := valid.settled.changeGenerator function block
  addGenerator valid serves lies := valid.settled.addGenerator ⟨serves, lies⟩
  appendNamed {world reference} base valid serves := by
    have := site.allowsCodeIn serves
    exact valid.leads (Function.leads_appendNamed reference base)
  spotNamed _ serves run := by
    intro block given
    cases given
    exact (Function.appendNamed_ok _ run).trans serves
  appendBlock {world reference} base valid serves := by
    have := site.allowsCodeIn serves
    exact valid.leads (Function.leads_appendBlock reference base)
  spotBlock _ serves run := by
    intro block given
    cases given
    exact (Function.appendBlock_owner run).trans serves
  moveAfter {world reference moved} anchor valid serves _ := by
    have := site.allowsCodeIn serves
    exact valid.leads (Function.leads_moveAfter reference moved anchor)
  setUpReturn {world reference} valid serves := by
    have := site.allowsCodeIn serves
    exact valid.leads (Function.leads_setUpReturn reference)

end Enclosure

end StructuredIR
