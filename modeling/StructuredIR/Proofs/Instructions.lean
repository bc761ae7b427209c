import StructuredIR.Proofs.Calls
import StructuredIR.Proofs.Library.Pooled

/-! # Refused instructions

A generator that is asked for an instruction and refuses it leaves the code as it was.

* **`KeepsRoutines`** says that all routines are what they were, down to the names that they have given;
  further ones may have come up.
* **`PoolsAt`** says that all that has happened is that texts were pooled where a generator works.
* **`Refused`** puts both together for an operation that fails, and **`Script.refused_onGenerator?`** says
  that every operation that adds one instruction is refused in this way, calls of functions included. -/

namespace StructuredIR

open Build (FailsIn Leads bind_eq_ok bind_eq_error get_eq_ok pure_eq_ok)

/-! ## Routines that are kept -/

/-- **Every routine is what it was**, kept texts aside: its blocks are the same in the same order, their
instructions are the same, and the same names are taken. -/
def KeepsRoutines (before after : World) : Prop :=
  ∀ symbol routine, before.routine? symbol = some routine →
    ∃ later, after.routine? symbol = some later ∧ later.bare = routine.bare

namespace KeepsRoutines

/-- Routines are kept that are all the same. -/
theorem of_same {before after : World}
    (same : ∀ symbol, (after.routine? symbol).map Routine.bare =
      (before.routine? symbol).map Routine.bare) : KeepsRoutines before after := by
  intro symbol routine known
  have still := same symbol
  rw [known, Option.map_some] at still
  obtain ⟨later, found, bare⟩ := Option.map_eq_some_iff.mp still
  exact ⟨later, found, bare⟩

/-- Where only texts differ that are kept, routines are. -/
theorem of_sameBare {before after : World} (same : SameBare before after) :
    KeepsRoutines before after :=
  of_same (same.poolsOnly 0).routine?_bare

/-- A further symbol leaves routines as they are. -/
theorem of_append (world : World) (place : LibraryId) (key : Key) (symbol : Symbol) :
    KeepsRoutines world
      (world.changeModule place fun _ => (world.library place).module.append key symbol) := by
  rintro ⟨owner, index⟩ routine known
  refine ⟨routine, ?_, rfl⟩
  rw [World.routine?_changeModule]
  split
  next here =>
    obtain ⟨rfl, -⟩ := here
    -- The place of the new symbol was free, so no routine was there.
    have inside : index ≠ (world.library owner).module.symbols.length := by
      rintro rfl
      simp [World.routine?, Module.routine?_eq, Module.symbol?] at known
    simpa [Module.routine?_eq, Module.symbol?_append, inside, World.routine?] using known
  next => exact known

end KeepsRoutines

instance : IsEffect KeepsRoutines where
  refl _ _ routine known := ⟨routine, known, rfl⟩
  trans first second symbol routine known := by
    obtain ⟨middle, found, same⟩ := first symbol routine known
    obtain ⟨later, found, again⟩ := second symbol middle found
    exact ⟨later, found, again.trans same⟩

instance : AllowsTexts KeepsRoutines where
  held world place text := .of_sameBare (AllowsTexts.held world place text)
  block world place text := .of_sameBare (AllowsTexts.block world place text)
  global world symbol text := .of_sameBare (AllowsTexts.global world symbol text)

instance : AllowsSymbols KeepsRoutines where
  intern place text world := by
    rw [Build.after_of_ok (Build.internString_eq place text world)]
    exact .of_same fun symbol => by rw [World.routine?_pooled]
  routine place name result parameters isVariadic world := by
    cases run : Build.declareSymbol place name
        (.routine (.declare result parameters isVariadic)) world with
    | ok symbol after =>
        rw [Build.after_of_ok run, (Build.declareSymbol_ok run).2]
        exact .of_append world place _ _
    | error fault after =>
        rw [Build.after_of_error run, Build.declareSymbol_error run]
        exact IsEffect.refl world

/-! ## Texts that are pooled where a generator works -/

/-- **All that differs**, kept texts aside, is that the library that a generator works for has pooled some
texts. -/
def PoolsAt (place : GeneratorId) (before after : World) : Prop :=
  PoolsOnly (before.generator place).function.owner before after

instance {place : GeneratorId} : IsEffect (PoolsAt place) where
  refl world := (IsEffect.refl world : PoolsOnly _ world world)
  trans {before middle after} first second := by
    have same : middle.generator place = before.generator place := by
      rw [World.generator, first.generators, ← World.generator]
    rw [PoolsAt, same] at second
    exact (IsEffect.trans first second : PoolsOnly _ before after)

instance {place : GeneratorId} : AllowsTexts (PoolsAt place) where
  held world other text := (AllowsTexts.held world other text : PoolsOnly _ _ _)
  block world other text := (AllowsTexts.block world other text : PoolsOnly _ _ _)
  global world symbol text := (AllowsTexts.global world symbol text : PoolsOnly _ _ _)

instance {place : GeneratorId} : AllowsPoolAt place (PoolsAt place) where
  intern world text := (Build.leads_internString _ text : Leads (PoolsOnly _) _) world

/-! ## Operations that fail -/

/-- **An instruction is refused.** All that is left of it are texts that were pooled, and perhaps a
declaration of the function that would have been called. -/
structure Refused (place : GeneratorId) (called : Callee) (before after : World) : Prop where
  /-- The generators, the blocks and their instructions are the same. -/
  code : SameCode before after
  /-- Routines that were there are the same, down to the names that they have given. -/
  routines : KeepsRoutines before after
  /-- Texts were pooled, and a function that would have been called was found or declared. -/
  added : PoolsAt place before after ∨
    ∃ function middle symbol, called = .function function ∧ PoolsAt place before middle ∧
      Function.callee (before.generator place).function.owner function middle = .ok symbol after

/-- What fails without more than conversions is refused. -/
theorem Refused.of_failsIn {place : GeneratorId} {Result : Type} {step : Build Result}
    (fails : ∀ {Effect : World → World → Prop} [AllowsPoolAt place Effect], FailsIn Effect step)
    (called : Callee) {world after : World} {fault : Fault}
    (run : step world = .error fault after) : Refused place called world after where
  code := fails world fault after run
  routines := fails world fault after run
  added := .inl (fails world fault after run)

namespace Generator

variable {place : GeneratorId} {function : FunctionRef} {arguments : List Value}
  {world after : World} {fault : Fault}

/-- **A call of a function that fails** has pooled texts, or has also found or declared what it calls. -/
theorem callParameters_error {parameters : List IRType}
    (run : callParameters place function parameters arguments world = .error fault after) :
    PoolsAt place world after ∨ ∃ middle symbol, PoolsAt place world middle ∧
      Function.callee (world.generator place).function.owner function middle = .ok symbol after := by
  -- Up to the callee, whatever fails has only pooled texts. Once there is a callee, the instruction is all
  -- that can fail.
  rcases bind_eq_error.mp run with failed | ⟨operands, coerced, coercing, run⟩
  · exact .inl ((leads_coerceArguments place parameters arguments).of_error failed)
  have pools : PoolsAt place world coerced :=
    (leads_coerceArguments place parameters arguments).of_ok coercing
  have same : coerced.generator place = world.generator place := by
    rw [World.generator, pools.generators, ← World.generator]
  rcases bind_eq_error.mp run with failed | ⟨here, _, positioned, run⟩
  · exact .inl (IsEffect.trans pools ((leads_position place).of_error failed))
  obtain ⟨-, rfl⟩ := position_ok positioned
  rcases bind_eq_error.mp run with failed | ⟨library, _, looked, run⟩
  · cases failed
  obtain ⟨_, _, looking, looked⟩ := bind_eq_ok.mp looked
  obtain ⟨rfl, rfl⟩ := get_eq_ok.mp looking
  obtain ⟨rfl, rfl⟩ := pure_eq_ok.mp looked
  rcases bind_eq_error.mp run with failed | ⟨symbol, called, calling, run⟩
  · exact .inl (IsEffect.trans pools (Function.failsIn_callee _ function _ _ _ failed))
  rcases bind_eq_error.mp run with failed | ⟨_, _, looked, emitting⟩
  · cases failed
  obtain ⟨rfl, rfl⟩ := get_eq_ok.mp looked
  rw [Build.emit_refused rfl emitting, ← same]
  exact .inr ⟨coerced, symbol, pools, calling⟩

/-- So it is if the number of arguments is to blame. -/
theorem callFunction_error
    (run : callFunction place function arguments world = .error fault after) :
    PoolsAt place world after ∨ ∃ middle symbol, PoolsAt place world middle ∧
      Function.callee (world.generator place).function.owner function middle = .ok symbol after := by
  rcases bind_eq_error.mp run with failed | ⟨_, _, looked, run⟩
  · cases failed
  obtain ⟨rfl, rfl⟩ := get_eq_ok.mp looked
  dsimp only at run
  split at run
  · left
    have rejects : Leads (PoolsAt place) (do
        let name ← Build.plain ((← get).function function).name
        Build.reject (.functionArity name arguments.length
          (world.routineOf function).parameterTypes.length)
        callParameters place function (world.routineOf function).parameterTypes arguments) :=
      Leads.get.bind fun _ => (Build.leads_plain _).bind fun _ => Build.leads_rejectThen _ _
    exact rejects.of_error run
  · exact callParameters_error run

/-- A call of a function that fails is refused. -/
theorem refused_callFunction
    (run : (do return .operand (← callFunction place function arguments) : Build Value) world =
      .error fault after) : Refused place (.function function) world after := by
  rcases bind_eq_error.mp run with run | ⟨_, _, _, given⟩
  · refine ⟨failsIn_callFunction world fault after run, failsIn_callFunction world fault after run, ?_⟩
    rcases callFunction_error run with pools | ⟨middle, symbol, pools, calling⟩
    · exact .inl pools
    · exact .inr ⟨function, middle, symbol, rfl, pools, calling⟩
  · cases given

/-- A call of what a name stands for is refused if it fails, unless it is a fragment. -/
theorem refused_callName {interpret : Value → Callback} {name : Phrase}
    (unexpanded : ∀ fragment, calleeNamed world place name ≠ .fragment fragment)
    (run : callName interpret place name arguments world = .error fault after) :
    Refused place (calleeNamed world place name) world after := by
  rcases bind_eq_error.mp run with failed | ⟨library, _, looked, run⟩
  · cases failed
  obtain ⟨_, _, looking, looked⟩ := bind_eq_ok.mp looked
  obtain ⟨rfl, rfl⟩ := get_eq_ok.mp looking
  obtain ⟨rfl, rfl⟩ := pure_eq_ok.mp looked
  rw [Build.run_get_bind] at run
  unfold calleeNamed at *
  revert unexpanded run
  cases Library.resolve world (world.generator place).function.owner (.text name.content) true with
  | fragment fragment => exact fun unexpanded => absurd rfl (unexpanded fragment)
  | function function => exact fun _ => refused_callFunction
  | global operand => exact fun _ run => nomatch run
  | notFound =>
      exact fun _ => .of_failsIn (.bind Leads.get fun _ => .of_leads (Leads.reject _)) _

/-- **A call that fails is refused**, unless it expands a fragment. -/
theorem refused_call {interpret : Value → Callback} {value : Value}
    (unexpanded : ∀ fragment, callee world place value ≠ .fragment fragment)
    (run : call interpret place value arguments world = .error fault after) :
    Refused place (callee world place value) world after := by
  unfold call at run
  cases finished : (world.generator place).isFinished with
  | true =>
      rw [unlessFinished_of_isFinished finished] at run
      cases run
  | false =>
      rw [unlessFinished_of_not_isFinished finished] at run
      cases value with
      | function function => exact refused_callFunction run
      | operand known => exact .of_failsIn (failsIn_callOperand known arguments) _ run
      | text content | visibility known | policy known => exact refused_callName unexpanded run
      | _ => exact .of_failsIn (.of_leads (Leads.reject _)) _ run

end Generator

namespace Script

/-- What an operation calls; only calls do. -/
def Call.callee (call : Call) (place : GeneratorId) (verb : String) (world : World) : Callee :=
  if verb = "call" then Generator.callee world place (call.value 0 "callable_") else .nothing

/-- **A failing instruction leaves the code as it was**, whichever check refuses it. -/
theorem refused_onGenerator? {call : Call} {place : GeneratorId} {verb : String}
    {action : Build Value} {world final : World} {fault : Fault}
    (instruction : verb ∈ addsLast ∨ verb = "call")
    (known : onGenerator? call place verb = some action)
    (unexpanded : ∀ fragment, call.callee place verb world ≠ .fragment fragment)
    (run : action world = .error fault final) :
    Refused place (call.callee place verb world) world final := by
  rcases instruction with last | rfl
  · exact .of_failsIn (failsIn_onGenerator? last known) _ run
  · obtain rfl : Generator.call call.interpret place (call.value 0 "callable_") (call.rest 1) =
        action := Option.some.inj known
    exact Generator.refused_call unexpanded run

/-- The sum of a text and a number is refused once the text has become an address. -/
def textAndNumber : Call :=
  ⟨fun _ => ⟨none, fun _ => pure .none⟩, [.text "a", .integer 1], []⟩

theorem refused_textAndNumber :
    ("add" ∈ addsLast ∨ "add" = "call") ∧
      ∃ action fault final, onGenerator? textAndNumber 0 "add" = some action ∧
        (∀ fragment,
          textAndNumber.callee 0 "add" FunctionBody.oneFunction ≠ .fragment fragment) ∧
        action FunctionBody.oneFunction = .error fault final ∧
        Refused 0 (textAndNumber.callee 0 "add" FunctionBody.oneFunction)
          FunctionBody.oneFunction final := by
  have instruction : "add" ∈ addsLast ∨ "add" = "call" := .inl (by decide)
  have known : onGenerator? textAndNumber 0 "add" =
      some (Generator.sum 0 (.text "a") (.integer 1)) := rfl
  have unexpanded (fragment : FragmentId) :
      textAndNumber.callee 0 "add" FunctionBody.oneFunction ≠ .fragment fragment := by
    rw [Call.callee, if_neg (by decide)]
    nofun
  have fails : (Generator.sum 0 (.text "a") (.integer 1)).succeeds FunctionBody.oneFunction =
      false := by decide +kernel
  obtain ⟨fault, final, run⟩ := Build.error_of_not_succeeds fails
  exact ⟨instruction, _, fault, final, known, unexpanded, run,
    refused_onGenerator? instruction known unexpanded run⟩

end Script

end StructuredIR
