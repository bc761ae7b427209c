import StructuredIR.Proofs.Discipline.Endings
import StructuredIR.Proofs.Refusals
import StructuredIR.Proofs.Returns.Funnel

/-! # Types of what is returned

A value gets to a return in two ways: through the slot of the function, where it is stored, or in
place. Only the store compares types.

* **`Check.returns`** checks that what is returned in place conforms to the type of a function.
* **`FunctionBody.Begins.returns_typed`**: whatever the clients of a function do, all returns that they
  add are of what the function returns, if what they return in place is checked; and a value that
  conforms is refused in place if it is refused where it is stored. -/

namespace StructuredIR

open Build (FailsIn Leads bind_eq_ok bind_eq_error error_behind get_eq_ok map_eq_ok pure_eq_ok run_get_bind)

/-- **An operation returns what a function returns**, if it returns: nothing, or a value of its type. -/
def Operation.Returns (result : IRType) : Operation → Prop
  | .retVoid => result = .void
  | .ret value => result ≠ .void ∧ value.type = result
  | _ => True

/-- What is checked of what is returned in place: it conforms to the type of the function, unless this
one yields nothing. -/
def Check.returns (result : IRType) : Check where
  argument? := Request.returned?
  callback? _ := none
  passes world value := result = .void || world.conforms result value

/-- The ways to return a value through the slot of a function. -/
inductive SharedReturn where
  /-- A return. -/
  | always
  /-- A return if a condition holds. -/
  | when (condition continuation : Value)
  /-- A return that does not leave yet. -/
  | preset

/-- What a generator does to return a value so. -/
def SharedReturn.run (place : GeneratorId) (value : Value) : SharedReturn → Build Value
  | .always => Generator.returnShared place value
  | .when condition continuation => Generator.returnIf place condition value continuation
  | .preset => Generator.presetReturn place value

/-- The condition of a return, if it has one, is one that can be branched on. -/
def SharedReturn.IsTested (place : GeneratorId) (world : World) : SharedReturn → Prop
  | .when condition _ => ∃ operand after,
      Generator.coerce place condition (some Generator.conditionType) world = .ok operand after
  | _ => True

namespace Generator

variable {place : GeneratorId}

/-- A generator refuses to return a value in place, and changes no code. -/
def RefusesInPlace (place : GeneratorId) (value : Value) (world : World) : Prop :=
  ∃ fault final, returnDirectly place value world = .error fault final ∧ SameCode world final

/-- **A return in place that fails changes no code.** -/
theorem failsIn_returnDirectly (value : Value) :
    FailsIn SameCode (returnDirectly place value) := by
  have closes {step : Build Operand} (fails : FailsIn SameCode step) : FailsIn SameCode (do
      let _ ← step
      finish place) := fails.andThen fun _ _ => rfl
  refine failsIn_actUnlessFinished (.bind (leads_isVoid place) fun isVoid => ?_)
  split
  · exact closes (.bind (leads_position place) fun here => Build.failsIn_emit here _)
  · split
    · exact .of_leads (Build.leads_rejectThen _ _)
    · refine .bind Leads.get fun world => .bind (leads_position place) fun here => ?_
      exact .bind (leads_coerce place value _) fun operand => closes (Build.failsIn_emit here _)

end Generator

namespace FunctionBody

variable {body : FunctionBody} {place : GeneratorId} {block : BlockRef} {value : Value}
  {world before final : World} {fault : Fault}

/-! ## Generators that may return -/

/-- **A generator is at a block for a function**, and not finished. -/
structure IsAt (body : FunctionBody) (place : GeneratorId) (block : BlockRef) (world : World) :
    Prop where
  /-- The generator is for the function. -/
  function : (world.generator place).function = body.reference
  /-- The function returns its result. -/
  returns : world.returns? body.reference = some body.result
  /-- The generator is not finished. -/
  unfinished : (world.generator place).isFinished = false
  /-- It is positioned at the block. -/
  here : (world.generator place).block = .operand (.block block)

/-- **It may return** if the block is not ended. -/
structure MayReturn (body : FunctionBody) (place : GeneratorId) (block : BlockRef) (world : World) :
    Prop extends body.IsAt place block world where
  /-- The block is not ended. -/
  opened : world.isTerminated block = false

/-- **It may store what it returns** if the function has a slot for it. -/
structure MayStore (body : FunctionBody) (place : GeneratorId) (block : BlockRef) (world : World) :
    Prop extends body.MayReturn place block world where
  /-- The slot, if there has to be one, is an address of what is returned. -/
  slot : body.result ≠ .void → ∃ slot, (world.function body.reference).slot = some slot ∧
    slot.type = .pointer body.result

/-- A value is refused if no operand of the type of the function is made of it. -/
def Refuses (body : FunctionBody) (place : GeneratorId) (value : Value) (world : World) : Prop :=
  body.result ≠ .void ∧ ∀ operand after,
    Generator.coerce place value (some body.result) world = .ok operand after →
      operand.type ≠ body.result

/-- The generator is still there if generators are the same and the function returns its result. -/
theorem IsAt.of_generators (stands : body.IsAt place block world)
    (generators : final.generators = world.generators)
    (returns : final.returns? body.reference = some body.result) : body.IsAt place block final := by
  have generator : final.generator place = world.generator place := by
    rw [World.generator, generators, ← World.generator]
  exact ⟨by rw [generator, stands.function], returns, by rw [generator, stands.unfinished],
    by rw [generator, stands.here]⟩

/-- Whether the function yields nothing is known. -/
theorem IsAt.isVoid (stands : body.IsAt place block world) :
    Generator.isVoid place world = .ok (decide (body.result = .void)) world := by
  rw [← World.result_of_returns? stands.returns, ← stands.function]
  rfl

/-- **What is returned in place** is made of a value that is given, at a block that is not ended. -/
theorem IsAt.returnDirectly_ok {given : Value} (stands : body.IsAt place block world)
    (run : Generator.returnDirectly place value world = .ok given final) :
    world.isTerminated block = false ∧ (body.result ≠ .void → value ≠ .none ∧
      ∃ operand after,
        Generator.coerce place value (some body.result) world = .ok operand after) := by
  obtain ⟨run, -⟩ := Generator.actUnlessFinished_ok stands.unfinished run
  obtain ⟨isVoid, _, tested, run⟩ := bind_eq_ok.mp run
  rw [stands.isVoid] at tested
  cases tested
  by_cases void : body.result = .void
  · rw [if_pos (decide_eq_true void)] at run
    obtain ⟨_, closed, emitting, -⟩ := bind_eq_ok.mp run
    rw [Generator.emit_of_block stands.here] at emitting
    obtain ⟨-, -, -, -, free, -⟩ := Build.emit_ok emitting
    exact ⟨free rfl, fun yields => (yields void).elim⟩
  · rw [if_neg (by rwa [decide_eq_true_eq])] at run
    split at run
    · cases run
    next given =>
    obtain ⟨seen, _, looked, run⟩ := bind_eq_ok.mp run
    obtain ⟨rfl, rfl⟩ := get_eq_ok.mp looked
    obtain ⟨here, _, positioned, run⟩ := bind_eq_ok.mp run
    rw [Generator.position_of_block stands.here] at positioned
    cases positioned
    rw [stands.function, World.result_of_returns? stands.returns] at run
    obtain ⟨operand, coerced, coercing, run⟩ := bind_eq_ok.mp run
    obtain ⟨_, closed, emitting, -⟩ := bind_eq_ok.mp run
    obtain ⟨-, -, -, -, free, -⟩ := Build.emit_ok emitting
    have same : SameCode world coerced := (Generator.leads_coerce place value _).of_ok coercing
    refine ⟨?_, fun _ => ⟨given, operand, coerced, coercing⟩⟩
    -- The block was checked behind the coercion, which changes no code.
    rw [World.isTerminated_eq, ← same.row, ← World.isTerminated_eq]
    exact free rfl

namespace MayReturn

variable (opens : body.MayReturn place block world)
include opens

/-- Instructions that pass their checks are added. -/
theorem not_error_emit {operation : Operation} {type : IRType} (checked : operation.check = .ok type)
    (failed : Generator.emit place operation world = .error fault final) : False := by
  rw [Generator.emit_of_block opens.here] at failed
  obtain ⟨value, after, run⟩ := Build.emit_succeeds block world checked fun _ => opens.opened
  rw [run] at failed
  cases failed

/-- The generator may still return behind instructions that end no block. -/
theorem of_emits (emits : Emits place world final) : body.MayReturn place block final where
  toIsAt := opens.toIsAt.of_generators emits.toSameFrame.generators
    (emits.toSameFrame.returns? opens.returns)
  opened := by
    obtain ⟨added, straight, longer, -⟩ := emits.row block
    rw [World.isTerminated_eq, longer, List.any_append, ← World.isTerminated_eq, opens.opened,
      Bool.false_or, List.any_eq_false]
    exact fun instruction member => by simp [straight instruction member]

end MayReturn

/-- The generator may still store behind instructions that end no block. -/
theorem MayStore.of_emits (opens : body.MayStore place block world)
    (emits : Emits place world final) : body.MayStore place block final where
  toMayReturn := opens.toMayReturn.of_emits emits
  slot := by
    rw [emits.toSameFrame.function]
    exact opens.slot

/-! ## What is refused -/

/-- **A value is stored unless it is refused.** -/
theorem MayStore.refuses_of_storeResult (opens : body.MayStore place block world)
    (failed : Generator.storeResult place value world = .error fault final) :
    body.Refuses place value world ∧ value ≠ .none := by
  unfold Generator.storeResult at failed
  split at failed
  · cases failed
  next given =>
  refine ⟨?_, given⟩
  replace failed := error_behind opens.isVoid failed
  by_cases void : body.result = .void
  · rw [if_pos (decide_eq_true void)] at failed
    cases failed
  rw [if_neg (by rwa [decide_eq_true_eq])] at failed
  refine ⟨void, fun operand coerced run same => ?_⟩
  rw [run_get_bind] at failed
  replace failed := error_behind (Generator.position_of_block opens.here) failed
  rw [opens.function, World.result_of_returns? opens.returns] at failed
  replace failed := error_behind run failed
  rw [run_get_bind] at failed
  -- Coercing a value changes no code, so the slot is still there.
  have same_code : SameCode world coerced := (Generator.leads_coerce place value _).of_ok run
  obtain ⟨slot, known, typed⟩ := (opens.of_emits (same_code.emits place)).slot void
  rw [known] at failed
  have checked : (Operation.store operand slot).check = .ok .void := by
    simp only [Operation.check, typed, same, if_true]
  obtain ⟨_, _, stored⟩ := Build.emit_succeeds block coerced checked fun ends => by cases ends
  replace failed := error_behind stored failed
  cases failed

/-- What fails unless a generator is finished fails if it is not. -/
theorem MayReturn.act_error (opens : body.MayReturn place block world) {action : Build Unit}
    (failed : Generator.actUnlessFinished place action world = .error fault final) :
    action world = .error fault final := by
  rw [Generator.actUnlessFinished, Generator.unlessFinished_of_not_isFinished opens.unfinished]
    at failed
  rcases bind_eq_error.mp failed with failed | ⟨_, _, _, failed⟩
  · exact failed
  · cases failed

/-- The generator may still return behind a block that is added. -/
theorem MayReturn.of_addsBlock {symbol : SymbolRef} (opens : body.MayReturn place block world)
    (adds : AddsBlock symbol world final) : body.MayReturn place block final := by
  refine ⟨opens.toIsAt.of_generators adds.generators ?_, ?_⟩
  · exact World.returns?_of_same (adds.function? body.reference) adds.result opens.returns
  · rw [World.isTerminated_eq, adds.row, ← World.isTerminated_eq, opens.opened]

section

variable {ready : World} {exit : BlockRef} (opens : body.MayReturn place block before)
  (setting : Function.setUpReturn body.reference before = .ok exit ready)
  (stores : body.MayStore place block ready)
include opens setting stores

/-- **A return** fails only if the value is refused. -/
theorem refuses_of_returnShared
    (failed : Generator.returnShared place value before = .error fault final) :
    body.Refuses place value ready := by
  replace failed := error_behind opens.isVoid (opens.act_error failed)
  by_cases void : body.result = .void
  · rw [if_pos (decide_eq_true void)] at failed
    rcases bind_eq_error.mp failed with failed | ⟨_, _, _, failed⟩
    · exact (opens.not_error_emit rfl failed).elim
    · cases failed
  rw [if_neg (by rwa [decide_eq_true_eq]), run_get_bind, opens.function] at failed
  replace failed := error_behind setting failed
  rcases bind_eq_error.mp failed with failed | ⟨_, stored, storing, failed⟩
  · exact (stores.refuses_of_storeResult failed).1
  have emits : Emits place ready stored := (Generator.leads_storeResult _ value).of_ok storing
  rcases bind_eq_error.mp failed with failed | ⟨_, _, _, failed⟩
  · exact ((stores.of_emits emits).not_error_emit rfl failed).elim
  · cases failed

/-- **A conditional return** on what can be branched on fails only if the value is refused. -/
theorem refuses_of_returnIf {condition continuation : Value} {tested : Operand} {after : World}
    (tests : Generator.coerce place condition (some Generator.conditionType) ready = .ok tested after)
    (failed : Generator.returnIf place condition value continuation before = .error fault final) :
    body.Refuses place value ready := by
  replace failed := opens.act_error failed
  rw [run_get_bind, opens.function] at failed
  replace failed := error_behind setting failed
  replace failed := error_behind tests failed
  obtain rfl := Coercion.after_coerce_int (Generator.coerce_ok tests)
  rcases bind_eq_error.mp failed with failed | ⟨_, stored, storing, failed⟩
  · exact (stores.refuses_of_storeResult failed).1
  have emits : Emits place after stored := (Generator.leads_storeResult _ value).of_ok storing
  have returns := (stores.of_emits emits).toMayReturn
  -- Branching does not fail, wherever control goes else.
  have branches {target : Value} {moved : World} {update : Generator → Generator}
      (there : body.MayReturn place block moved)
      (failed : (do
        let _ ← Generator.emit place (.branchIf tested (Generator.blockValue exit) target)
        modify (·.changeGenerator place update) : Build Unit) moved = .error fault final) :
      False := by
    rcases bind_eq_error.mp failed with failed | ⟨_, _, _, failed⟩
    · exact there.not_error_emit rfl failed
    · cases failed
  exfalso
  dsimp only at failed
  split at failed
  · exact branches returns (error_behind (pure_eq_ok.mpr ⟨rfl, rfl⟩) failed)
  · obtain ⟨-, yields⟩ := World.returns?_eq_some.mp returns.returns
    obtain ⟨appended, added, adds⟩ := Function.appendNamed_run body.reference "block" stored (by
      rw [← Option.isSome_map (f := Routine.result), yields]
      rfl)
    replace failed := error_behind (map_eq_ok.mpr ⟨_, added, rfl⟩) failed
    exact branches (returns.of_addsBlock adds) failed

/-- **A return that does not leave yet** fails only if the value is refused or missing. -/
theorem refuses_of_presetReturn
    (failed : Generator.presetReturn place value before = .error fault final) :
    body.result ≠ .void ∧ value = .none ∨ body.Refuses place value ready := by
  replace failed := error_behind opens.isVoid (opens.act_error failed)
  by_cases void : body.result = .void
  · rw [if_pos (decide_eq_true void)] at failed
    cases failed
  rw [if_neg (by rwa [decide_eq_true_eq])] at failed
  split at failed
  · exact .inl ⟨void, rfl⟩
  · simp only [Bool.false_eq_true, if_false] at failed
    rw [run_get_bind, opens.function] at failed
    replace failed := error_behind setting failed
    exact .inr (stores.refuses_of_storeResult failed).1

/-- **A return through the slot** of a function that yields something fails only if the value is refused
or missing. -/
theorem refuses_of_sharedReturn {style : SharedReturn} (tested : style.IsTested place ready)
    (fails : (style.run place value).succeeds before = false) :
    body.result ≠ .void ∧ value = .none ∨ body.Refuses place value ready := by
  obtain ⟨fault, final, failed⟩ := Build.error_of_not_succeeds fails
  cases style with
  | always => exact .inr (refuses_of_returnShared opens setting stores failed)
  | when condition continuation =>
      obtain ⟨operand, after, tests⟩ := tested
      exact .inr (refuses_of_returnIf opens setting stores tests failed)
  | preset => exact refuses_of_presetReturn opens setting stores failed

end

/-- A value that is made into an operand is made into one in every world with the same reports. -/
theorem IsAt.coerce_anywhere {other after : World} {operand : Operand} {type : IRType}
    (there : body.IsAt place block other) (stands : body.IsAt place block world)
    (same : SameReports world other)
    (coerced : Generator.coerce place value (some type) world = .ok operand after) :
    ∃ made final, Generator.coerce place value (some type) other = .ok made final := by
  have coerced := Generator.coerce_ok coerced
  rw [stands.function, ← there.function] at coerced
  exact Coercion.coerce_anywhere same coerced

/-! ## Worlds with a return block -/

/-- What the clients of a function are known to end blocks with, by what they return in place. -/
def endings (body : FunctionBody) (world : World) (Yields : World → Value → Prop) : Endings where
  Owns := world.MayBuild body.reference
  Serves := (· = body.reference)
  result? reference := if reference = body.reference then some body.result else none
  Tests _ := True
  Yields := Yields

/-- A value passes what is checked of what is returned in place. -/
def Passes (body : FunctionBody) (world : World) (value : Value) : Prop :=
  (Check.returns body.result).passes world value = true

/-- If only what passes is returned in place, what these endings permit returns what the function
returns. -/
theorem returns_of_permits {operation : Operation}
    (permitted : (body.endings world body.Passes).Permits operation) :
    operation.Returns body.result := by
  cases operation with
  | retVoid =>
      obtain ⟨reference, rfl, nothing⟩ := permitted
      exact nothing body.result (if_pos rfl)
  | ret operand =>
      obtain ⟨reference, rfl, typed⟩ := permitted
      obtain ⟨yields, same | ⟨start, value, passes, pool, after, run⟩⟩ :=
        typed body.result (if_pos rfl)
      · exact ⟨yields, same⟩
      · have passes : (decide (body.result = .void) || start.conforms body.result value) = true :=
          passes
        rw [decide_eq_false yields, Bool.false_or] at passes
        exact ⟨yields, (Coercion.type_coerce_iff run).mpr passes⟩
  | _ => trivial

/-- A function that begins has no slot yet, and returns what its routine yields. -/
theorem Begins.endings (begins : body.Begins world) (Yields : World → Value → Prop) :
    (body.endings world Yields).Holds world where
  fresh place beyond inside := absurd inside (Nat.not_lt.mpr beyond)
  own place inside owned := owned inside
  results reference type known := by
    obtain ⟨rfl, same⟩ := Option.ite_none_right_eq_some.mp known
    cases same
    exact World.returns?_eq_some.mpr ⟨begins.isThere, begins.stands ▸ begins.result⟩
  slots reference type slot known there := by
    obtain ⟨rfl, -⟩ := Option.ite_none_right_eq_some.mp known
    have missing : (world.function body.reference).slot = none := begins.slot
    rw [missing] at there
    cases there

/-- A block that is not ended is not ended by setting up the return block, which comes up behind all
blocks that are there. -/
theorem isTerminated_of_setsUp {symbol : SymbolRef} {entry : BlockRef} {front content : List Instruction}
    {known? slot? : Option Operand} {result : IRType}
    (sets : SetsUpReturn body.reference symbol entry front content slot? before final)
    (returns : ReturnsBy symbol known? result front content slot?)
    (inside : block.place < before.blockCount block.routine)
    (opened : before.isTerminated block = false) : final.isTerminated block = false := by
  have other : block ≠ ⟨symbol, before.blockCount symbol⟩ := by
    rintro rfl
    exact Nat.lt_irrefl _ inside
  rw [World.isTerminated_eq, sets.row, if_neg other]
  split
  next same =>
    subst same
    rw [List.any_append, ← World.isTerminated_eq, opened, Bool.or_false]
    cases returns with
    | nothing => rfl
    | slot yields slot load back allocates =>
        simp only [List.any_cons, allocates, List.any_nil, Bool.or_false]
        rfl
  next => exact opened

/-- **A generator that may return may store what it returns** once the return block is set up, which
never fails. -/
theorem mayStore_setUpReturn {site : ReturnSite} {start : World} {Yields : World → Value → Prop}
    (holds : site.Holds world) (ends : (site.endings start Yields).Holds world)
    (opens : site.MayReturn place block world) (inside : block.place < world.blockCount block.routine) :
    ∃ exit ready, Function.setUpReturn site.reference world = .ok exit ready ∧
      site.MayStore place block ready := by
  obtain ⟨later, gives⟩ := holds.setUpReturn
  have typed := ((ends.setUpSteps rfl).course ends.refl).holds
  have known : (site.endings start Yields).result? site.reference = some site.result := if_pos rfl
  obtain ⟨exit, ready, run, returns⟩ : ∃ exit ready,
      Function.setUpReturn site.reference world = .ok exit ready ∧
        site.MayReturn place block ready := by
    rcases missing : site.exit? world with _ | exit
    · obtain ⟨front, content, slot?, ready, run, sets, returns⟩ :=
        Function.setUpReturn_run holds.isThere holds.stands holds.entry holds.entryInside
          holds.result missing
      rw [Build.after_of_ok run] at typed
      exact ⟨_, ready, run,
        opens.toIsAt.of_generators sets.generators (typed.results _ _ known),
        isTerminated_of_setsUp sets returns inside opens.opened⟩
    · exact ⟨exit, world, Function.setUpReturn_of_exit missing, opens⟩
  refine ⟨exit, ready, run, returns, fun yields => ?_⟩
  rw [Build.after_of_ok run] at later typed
  obtain ⟨there, -⟩ := gives exit ready run
  obtain ⟨-, -, -, slot⟩ := later.holds.set exit there
  rw [HasSlot, if_neg yields] at slot
  obtain ⟨slot, rest, -, recorded, -⟩ := slot
  exact ⟨_, recorded, typed.slots _ _ _ known recorded⟩

/-! ## What is returned -/

/-- **All returns are of what the function returns.** Take any client of a function that has begun.

If what it returns in place conforms to the type of the function, each return that it adds is of this
type, or of nothing if the function yields nothing, in all worlds that it visits.

Take any world that it visits, whatever it does, and a generator of the function at a block. A value that
conforms to the type of the function, and is refused by a return through the slot, is refused in place as
well. Nothing is added then. -/
theorem Begins.returns_typed {start : World} (begins : body.Begins start) {client : Client}
    (clients : client.Forall fun place _ => start.MayBuild body.reference place) :
    (∀ middle, (client.checked (.returns body.result) false).Visits start middle →
      ∀ block, ∀ instruction ∈ middle.row block,
        instruction ∈ start.row block ∨ instruction.operation.Returns body.result) ∧
    ∀ middle, client.Visits start middle → ∀ place block (value : Value) (style : SharedReturn),
      start.MayBuild body.reference place → middle.IsOpenAt place block →
        let ready := (Function.setUpReturn body.reference).after middle
        ready.conforms body.result value = true → style.IsTested place ready →
          (style.run place value).succeeds middle = false →
            Generator.RefusesInPlace place value middle := by
  constructor
  · intro middle visits block instruction member
    have allowed : (client.checked (.returns body.result) false).Admits
        (body.endings start body.Passes).discipline.Allows start :=
      (client.admits_checked clients false start).imp fun _ _ _ _ passed =>
        Endings.allows passed.1 (fun _ _ => trivial) passed.2.argument
    have later := (begins.endings body.Passes).visits allowed visits
    exact (later.code block instruction member).imp_right returns_of_permits
  · intro middle visits place block value style owned opened ready conforms tested fails
    have allowed : client.Admits (body.endings start fun _ _ => True).discipline.Allows start :=
      clients.admitted (fun _ _ _ _ owned =>
        Endings.allows owned (fun _ _ => trivial) fun _ _ => trivial) start
    have later := (begins.endings _).visits allowed visits
    obtain ⟨site, rfl, upTo, -⟩ := begins.visits clients visits
    have stands : site.IsAt place block middle :=
      { function := later.holds.own place opened.isThere owned
        returns := later.holds.results _ _ (if_pos rfl)
        unfinished := opened.unfinished
        here := opened.here }
    cases run : Generator.returnDirectly place value middle with
    | error fault final =>
        exact ⟨fault, final, run, Generator.failsIn_returnDirectly value _ _ _ run⟩
    | ok given final =>
        -- What could be returned in place could be returned through the slot.
        exfalso
        obtain ⟨unended, made⟩ := stands.returnDirectly_ok run
        obtain ⟨exit, after, setting, stores⟩ :=
          mayStore_setUpReturn upTo.holds later.holds ⟨stands, unended⟩ opened.inside
        obtain rfl : ready = after := Build.after_of_ok setting
        rcases refuses_of_sharedReturn ⟨stands, unended⟩ setting stores tested fails with
          ⟨yields, missing⟩ | ⟨yields, refuses⟩
        · exact (made yields).1 missing
        · obtain ⟨-, operand, after, coerced⟩ := made yields
          have same : SameReports middle ready :=
            (Function.leads_setUpReturn site.reference).of_ok setting
          obtain ⟨operand, after, coerced⟩ := stores.coerce_anywhere stands same coerced
          exact refuses operand after coerced ((Generator.type_coerce_iff coerced).mpr conforms)

/-- A client that returns a text in place, which is refused, and then a number. -/
def returnsInPlace : Client :=
  .perform 0 (.operation "sret" [.text "two"] []) (fun _ _ => .done (.ok .none)) fun _ =>
    .perform 0 (.operation "sret" [.integer 2] []) (fun _ _ => .done (.ok .none)) .done

/-- A number is returned in place, and a text is refused. -/
theorem returns_typed_inPlace :
    let middle := (returnsInPlace.checked (.returns onlyBody.result) false).run.after oneFunction
    (∃ instruction ∈ middle.row onlyBody.entry, instruction.operation.isTerminator = true ∧
      instruction.operation.Returns onlyBody.result) ∧
      Generator.RefusesInPlace 0 (.text "two") oneFunction := by
  intro middle
  have own : oneFunction.MayBuild onlyBody.reference 0 := fun _ => rfl
  have clients : returnsInPlace.Forall fun place _ =>
      oneFunction.MayBuild onlyBody.reference place :=
    ⟨own, fun _ _ => trivial, fun _ => ⟨own, fun _ _ => trivial, fun _ => trivial⟩⟩
  obtain ⟨returns, refuses⟩ := begins_onlyBody.returns_typed clients
  constructor
  · have ends : (middle.row onlyBody.entry).any
        (fun instruction => instruction.operation.isTerminator) = true := by
      decide +kernel
    obtain ⟨instruction, member, ends⟩ := List.any_eq_true.mp ends
    refine ⟨instruction, member, ends, ?_⟩
    exact (returns middle (Client.visits_after _ oneFunction) _ _ member).resolve_left
      (List.not_mem_nil)
  · have opened : oneFunction.IsOpenAt 0 onlyBody.entry := ⟨by decide, rfl, rfl, by decide⟩
    exact refuses oneFunction ⟨fun _ => true, rfl⟩ 0 onlyBody.entry _ .preset own opened rfl trivial
      (by decide +kernel)

/-- **A truth value is returned in place by a function that yields a wider integer**, though it is
refused by the returns through the slot. -/
theorem returns_truth :
    (Generator.returnDirectly 0 (.truth true)).succeeds oneFunction = true ∧
      ((((Generator.returnDirectly 0 (.truth true)).after oneFunction).row onlyBody.entry).map
        Instruction.operation) = [.ret (.integer (.int 1) 1)] ∧
      onlyBody.result = .int 32 ∧
      ∀ style ∈ [SharedReturn.always, .when (.truth true) .none, .preset],
        (style.run 0 (.truth true)).succeeds oneFunction = false :=
  ⟨by decide +kernel, rfl, rfl, by decide +kernel⟩

end FunctionBody

end StructuredIR
