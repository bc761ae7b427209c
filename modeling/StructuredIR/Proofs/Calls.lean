import StructuredIR.Proofs.Library.Closure
import StructuredIR.Proofs.Library.Remembered
import StructuredIR.Proofs.Library.Signatures
import StructuredIR.Proofs.Refusals
import StructuredIR.Proofs.Returns.Funnel

/-! # Calls

A function is called with an argument for each parameter. What is called is an operand, whose type
says which arguments it takes.

* **`IRType.Takes`** says that a function type takes arguments of some types: as many as it has
  parameters, or at least as many if it is variadic, and each of the type of its parameter.
* **`IRType.Admits`** leaves out the count: there may be further arguments. This is what the instruction
  checks by itself.
* **`Generator.callee`** tells what a value stands for that is called.
* **`Generator.call_matches`**: a call of a function has the arguments that the type of the function
  takes, a call of an operand those that the type of the operand admits, and what is called for a
  function has the function's type unless the library had a routine of that name. All else that is
  called, and all other arguments, add no instruction. -/

namespace StructuredIR

open Build (Leads FailsIn bind_eq_ok bind_eq_error get_eq_ok pure_eq_ok lift_eq_ok throw_ne_ok)

/-! ## Types of arguments -/

namespace IRType

/-- **A function type admits arguments** of some types if the first ones are of the types of its
parameters. -/
def Admits (type : IRType) (arguments : List IRType) : Prop :=
  match type.signature? with
  | some (_, parameters, _) => parameters <+: arguments
  | none => False

/-- **A function type takes a number of arguments** if it has as many parameters, or at most as many
and is variadic. -/
def TakesCount (type : IRType) (count : Nat) : Prop :=
  match type.signature? with
  | some (_, parameters, isVariadic) =>
      if isVariadic then parameters.length ≤ count else count = parameters.length
  | none => False

/-- **A function type takes arguments** of some types if it admits them and takes as many. -/
def Takes (type : IRType) (arguments : List IRType) : Prop :=
  type.Admits arguments ∧ type.TakesCount arguments.length

instance (type : IRType) (arguments : List IRType) : Decidable (type.Admits arguments) := by
  unfold Admits
  split <;> infer_instance

instance (type : IRType) (count : Nat) : Decidable (type.TakesCount count) := by
  unfold TakesCount
  split <;> infer_instance

instance (type : IRType) (arguments : List IRType) : Decidable (type.Takes arguments) :=
  inferInstanceAs (Decidable (_ ∧ _))

end IRType

namespace Operation

/-- The arguments that pass the check of a call are those that begin with the parameters. -/
theorem checkArguments_ok {position : Nat} {parameters : List IRType} {arguments : List Operand} :
    checkArguments position parameters arguments = .ok () ↔
      parameters <+: arguments.map Operand.type := by
  induction parameters generalizing position arguments with
  | nil => exact iff_of_true rfl (List.nil_prefix ..)
  | cons parameter parameters ih =>
      cases arguments with
      | nil => simp [checkArguments]
      | cons argument arguments =>
          rw [checkArguments, List.map_cons, List.cons_prefix_cons]
          split
          next same => rw [ih, and_iff_right same.symm]
          next other => exact iff_of_false nofun fun both => other both.1.symm

/-- A call that passes its check has arguments that the type of the callee admits. -/
theorem check_call {callee : Operand} {arguments : List Operand} {type : IRType}
    (checked : (Operation.call callee arguments).check = .ok type) :
    callee.type.Admits (arguments.map Operand.type) := by
  change callType callee arguments = .ok type at checked
  unfold callType at checked
  split at checked
  · cases checked
  split at checked
  next result parameters isVariadic known =>
    rw [IRType.Admits, known]
    cases run : checkArguments 1 parameters arguments with
    | error fault =>
        rw [run] at checked
        cases checked
    | ok _ => exact checkArguments_ok.mp run
  next => cases checked

end Operation

namespace Generator

/-! ## Arguments -/

variable {place : GeneratorId} {world after : World}

/-- The argument for a parameter is of the type of the parameter. -/
theorem type_coerceArgument {value : Value} {parameter : IRType} {operand : Operand}
    (run : coerceArgument place value parameter world = .ok operand after) :
    operand.type = parameter := by
  unfold coerceArgument at run
  split at run
  · obtain ⟨rfl, -⟩ := pure_eq_ok.mp run
    rfl
  · obtain ⟨known, _, _, run⟩ := bind_eq_ok.mp run
    split at run
    next same =>
      obtain ⟨rfl, -⟩ := pure_eq_ok.mp run
      exact same
    next => cases run

/-- As many values become as many operands. -/
theorem length_coerceEach {values : List Value} {operands : List Operand}
    (run : coerceEach place values world = .ok operands after) : operands.length = values.length := by
  induction values generalizing world operands with
  | nil =>
      obtain ⟨rfl, -⟩ := pure_eq_ok.mp run
      rfl
  | cons value values ih =>
      obtain ⟨first, _, _, run⟩ := bind_eq_ok.mp run
      obtain ⟨rest, _, others, run⟩ := bind_eq_ok.mp run
      obtain ⟨rfl, rfl⟩ := pure_eq_ok.mp run
      rw [List.length_cons, List.length_cons, ih others]

/-- **Arguments for parameters** are as many as the values, and of the types of the parameters. -/
theorem coerceArguments_ok {parameters : List IRType} {values : List Value}
    {operands : List Operand} (enough : parameters.length ≤ values.length)
    (run : coerceArguments place parameters values world = .ok operands after) :
    operands.length = values.length ∧ parameters <+: operands.map Operand.type := by
  induction parameters generalizing values world operands with
  | nil =>
      have each : coerceEach place values world = .ok operands after := by
        cases values <;> exact run
      exact ⟨length_coerceEach each, List.nil_prefix ..⟩
  | cons parameter parameters ih =>
      cases values with
      | nil => cases Nat.not_succ_le_zero _ enough
      | cons value values =>
          obtain ⟨first, _, one, run⟩ := bind_eq_ok.mp run
          obtain ⟨rest, _, others, run⟩ := bind_eq_ok.mp run
          obtain ⟨rfl, rfl⟩ := pure_eq_ok.mp run
          obtain ⟨lengths, types⟩ := ih (Nat.le_of_succ_le_succ enough) others
          refine ⟨by rw [List.length_cons, List.length_cons, lengths], ?_⟩
          rw [List.map_cons, type_coerceArgument one]
          exact (List.prefix_cons_inj _).mpr types

end Generator

/-! ## What is called -/

/-- What is called. -/
inductive Callee where
  /-- A function of a library. -/
  | function (function : FunctionRef)
  /-- An operand. -/
  | operand (operand : Operand)
  /-- A fragment, which is expanded. -/
  | fragment (fragment : FragmentId)
  /-- A global, which gives itself. -/
  | global (operand : Operand)
  /-- Nothing that can be called. -/
  | nothing

namespace Generator

/-- What a name stands for that is called, in the library of the generator. -/
def calleeNamed (world : World) (place : GeneratorId) (name : Phrase) : Callee :=
  match Library.resolve world (world.generator place).function.owner (.text name.content) true with
  | .fragment fragment => .fragment fragment
  | .function function => .function function
  | .global operand => .global operand
  | .notFound => .nothing

/-- **What a value stands for that is called**: a function or an operand as such, or what a text
stands for as a name. -/
def callee (world : World) (place : GeneratorId) (value : Value) : Callee :=
  match value, value.phrase? with
  | .function function, _ => .function function
  | .operand operand, _ => .operand operand
  | _, some name => calleeNamed world place name
  | _, none => .nothing

end Generator

/-- A routine that is there keeps its type. -/
theorem World.KeepsTypes.signature {before after : World} (keeps : before.KeepsTypes after)
    {symbol : SymbolRef} (there : (before.routine? symbol).isSome) :
    (after.routine symbol).signature = (before.routine symbol).signature := by
  obtain ⟨routine, known⟩ := Option.isSome_iff_exists.mp there
  obtain ⟨later, found, same⟩ := keeps.routine? known
  rw [World.routine, World.routine, found, known]
  exact same

/-- Routines are there no matter which texts are kept. -/
theorem SameBare.isSome_routine? {before after : World} (same : SameBare before after)
    {symbol : SymbolRef} (there : (after.routine? symbol).isSome) :
    (before.routine? symbol).isSome := by
  have library : (after.library symbol.owner).bare = (before.library symbol.owner).bare := by
    rw [← World.library_bare, ← World.library_bare, same]
  have module : (after.library symbol.owner).module.bare = (before.library symbol.owner).module.bare :=
    congrArg Library.module library
  rw [World.routine?, ← Option.isSome_map (f := Routine.bare), ← Module.routine?_bare] at *
  rwa [← module]

/-- A routine that is declared at the end of a module has the type that is declared. -/
theorem World.signature_declared {world : World} {place : LibraryId} {key : Key} {name : Value}
    {result : IRType} {parameters : List IRType} {isVariadic : Bool}
    (inside : place < world.libraries.length) :
    ((world.changeModule place fun _ => (world.library place).module.append key
      ⟨name, .routine (.declare result parameters isVariadic)⟩).routine
        ⟨place, (world.library place).module.symbols.length⟩).signature =
          .function result parameters isVariadic := by
  have typed : ((world.changeModule place fun _ => (world.library place).module.append key
      ⟨name, .routine (.declare result parameters isVariadic)⟩).library place).module.types[
        (world.library place).module.symbols.length]? =
          some (key, some (.function result parameters isVariadic)) := by
    rw [changeModule, library_changeLibrary, if_pos ⟨rfl, inside⟩]
    dsimp only
    rw [Module.types_append, List.getElem?_append_right (by simp [Module.types])]
    simp [Module.types, Content.signature?, Routine.signature_declare]
  obtain ⟨-, routine, found, same⟩ := Module.routine?_of_types typed
  rw [World.routine, World.routine?, found]
  exact same

namespace Function

/-- **What is called for a function has the type of the function**, unless the library that calls has
a routine already that stands for it. -/
theorem signature_callee {place : LibraryId} {reference : FunctionRef} {world after : World}
    {symbol : SymbolRef} (inside : place < world.libraries.length)
    (run : callee place reference world = .ok symbol after) :
    (after.routine symbol).signature = (world.routineOf reference).signature ∨
      reference.owner ≠ place ∧
        (world.routine? symbol).map Routine.signature = some (after.routine symbol).signature := by
  obtain ⟨_, _, looked, run⟩ := bind_eq_ok.mp run
  obtain ⟨rfl, rfl⟩ := get_eq_ok.mp looked
  dsimp only at run
  split at run
  next =>
    obtain ⟨rfl, rfl⟩ := pure_eq_ok.mp run
    exact .inl rfl
  next foreign =>
    obtain ⟨name, named, naming, ensured⟩ := bind_eq_ok.mp run
    have same : SameBare world named := (Build.leads_nameOf _).of_ok naming
    -- Either a routine of that name is there and keeps its type, or one is declared with the type of
    -- the function.
    rcases Build.ensureRoutine_ok ensured with ⟨found, rfl, rfl⟩ | ⟨rfl, rfl⟩
    · have there := same.isSome_routine? (Module.routineNamed?_eq_some found).1
      have keeps : world.KeepsTypes after := (Build.leads_nameOf _).of_ok naming
      refine .inr ⟨foreign, ?_⟩
      rw [keeps.signature there, World.routine]
      obtain ⟨routine, known⟩ := Option.isSome_iff_exists.mp there
      rw [known]
      rfl
    · have inside : place < named.libraries.length := (same.noted place).length ▸ inside
      exact .inl (World.signature_declared inside)

end Function

namespace Generator

variable {place : GeneratorId} {world after : World}

/-- **All that has happened is one call** of an operand, where a generator was, with operands that the
type of what is called admits. -/
structure Calls (place : GeneratorId) (callee : Operand) (operands : List Operand)
    (before after : World) : Prop where
  /-- The call has been added at the end of the block. -/
  call : ∃ here made, (before.generator place).block = .operand (.block here) ∧
    made.operation = Operation.call callee operands ∧ ChangesRow here (· ++ [made]) before after
  /-- The operands begin with arguments for the parameters. -/
  admits : callee.type.Admits (operands.map Operand.type)

/-- A call that is added at the block of a generator, behind changes of no code. -/
theorem Calls.of_emit {callee : Operand} {operands : List Operand} {here : BlockRef}
    {before : World} {result : Operand} (same : SameCode before world)
    (block : (before.generator place).block = .operand (.block here))
    (run : Build.emit here (.call callee operands) world = .ok result after) :
    Calls place callee operands before after := by
  obtain ⟨made, does, checked, -, -, changes⟩ := Build.emit_ok run
  exact ⟨⟨here, made, block, does, changes.behind same⟩, Operation.check_call checked⟩

/-! ### Operands -/

/-- What is done for a call of an operand. -/
def callOperand (place : GeneratorId) (callee : Operand) (arguments : List Value) :
    Build Value := do
  let position ← position place
  let arguments ← coerceEach place arguments
  return .operand (← Build.emit position (.call callee arguments))

/-- A call of an operand that fails adds no instruction. -/
theorem failsIn_callOperand {Effect : World → World → Prop} [AllowsPoolAt place Effect]
    (callee : Operand) (arguments : List Value) :
    FailsIn Effect (callOperand place callee arguments) :=
  .bind (leads_position place) fun here => .bind (leads_coerceEach place arguments) fun _ =>
    FailsIn.result (Build.failsIn_emitStraight here rfl) Value.operand

/-- A call of an operand is one call with as many operands as arguments. -/
theorem calls_callOperand {callee : Operand} {arguments : List Value} {value : Value}
    (run : callOperand place callee arguments world = .ok value after) :
    ∃ operands, operands.length = arguments.length ∧ Calls place callee operands world after := by
  obtain ⟨here, _, positioned, run⟩ := bind_eq_ok.mp run
  obtain ⟨block, rfl⟩ := position_ok positioned
  obtain ⟨operands, coerced, coercing, run⟩ := bind_eq_ok.mp run
  have same : SameCode world coerced := (leads_coerceEach place arguments).of_ok coercing
  obtain ⟨result, _, emitted, run⟩ := bind_eq_ok.mp run
  obtain ⟨-, rfl⟩ := pure_eq_ok.mp run
  exact ⟨operands, length_coerceEach coercing, .of_emit same block emitted⟩

/-! ### Functions -/

/-- What is done for a call of a function with a fitting number of arguments. -/
def callParameters (place : GeneratorId) (function : FunctionRef) (parameters : List IRType)
    (arguments : List Value) : Build Operand := do
  let arguments ← coerceArguments place parameters arguments
  let position ← position place
  let callee ← Function.callee (← library place) function
  Build.emit position (.call ((← get).routineOperand callee) arguments)

variable {function : FunctionRef} {arguments : List Value}

/-- The type of a routine takes as many arguments as the routine has parameters, and further ones if
it is variadic. -/
theorem takesCount_signature {routine : Routine} {count : Nat} :
    routine.signature.TakesCount count ↔
      ¬(count < routine.parameterTypes.length ∨
        routine.parameterTypes.length < count ∧ (!routine.isVariadic) = true) := by
  change (if routine.isVariadic then _ else _) ↔ _
  cases routine.isVariadic
  · simp only [Bool.false_eq_true, if_false, Bool.not_false, and_true]
    omega
  · simp only [if_true, Bool.not_true, Bool.false_eq_true, and_false, or_false]
    omega

/-- A function is called with arguments for its parameters if there are as many as it takes. -/
theorem callFunction_of_takesCount
    (takes : (world.routineOf function).signature.TakesCount arguments.length) :
    callFunction place function arguments world =
      callParameters place function (world.routineOf function).parameterTypes arguments world := by
  have fits := takesCount_signature.mp takes
  simp only [callFunction, bind, EStateM.bind, get, getThe, MonadStateOf.get, EStateM.get, if_neg fits]
  rfl

/-- A function that is called takes as many arguments as there are. -/
theorem takesCount_of_callFunction {result : Operand}
    (run : callFunction place function arguments world = .ok result after) :
    (world.routineOf function).signature.TakesCount arguments.length := by
  obtain ⟨_, _, looked, run⟩ := bind_eq_ok.mp run
  obtain ⟨rfl, rfl⟩ := get_eq_ok.mp looked
  rw [takesCount_signature]
  intro misfit
  dsimp only at run
  rw [if_pos misfit] at run
  obtain ⟨_, _, _, run⟩ := bind_eq_ok.mp run
  obtain ⟨_, _, _, run⟩ := bind_eq_ok.mp run
  obtain ⟨_, _, thrown, _⟩ := bind_eq_ok.mp run
  exact throw_ne_ok thrown

theorem failsIn_callParameters {Effect : World → World → Prop} [AllowsSymbols Effect]
    (parameters : List IRType) :
    FailsIn Effect (callParameters place function parameters arguments) :=
  .bind (leads_coerceArguments place parameters arguments) fun _ =>
    .bind (leads_position place) fun here => .bind (leads_library place) fun library =>
      .bind (Function.leads_callee library function) fun _ => .bind Leads.get fun _ =>
        Build.failsIn_emitStraight here rfl

/-- **A call of a function that fails adds no instruction**, whether or not the number of arguments is
to blame. -/
theorem failsIn_callFunction {Effect : World → World → Prop} [AllowsSymbols Effect] :
    FailsIn Effect (callFunction place function arguments) := by
  refine .bind Leads.get fun world => ?_
  dsimp only
  split
  · refine .bind Leads.get fun seen => .bind (Build.leads_plain _) fun name => ?_
    exact .bind (Leads.reject _) fun _ => failsIn_callParameters _
  · exact failsIn_callParameters _

/-- **A routine is called for a function** if it stands for the function in the library of the
generator. It has the type of the function, unless the function is of another library and the library
of the generator had the routine already. -/
def CallsFor (place : GeneratorId) (function : FunctionRef) (symbol : SymbolRef) (type : IRType)
    (before : World) : Prop :=
  ∃ start called, SameCode before start ∧
    Function.StandsIn (before.generator place).function.owner function start symbol called ∧
      (type = (before.routineOf function).signature ∨
        function.owner ≠ (before.generator place).function.owner ∧
          (start.routine? symbol).map Routine.signature = some type)

/-- **A call of a function** is one call of a routine that is called for the function, with operands
that the function takes. -/
theorem calls_callFunction {result : Operand}
    (inside : (world.generator place).function.owner < world.libraries.length)
    (there : (world.routine? (world.functionSymbol function)).isSome)
    (run : callFunction place function arguments world = .ok result after) :
    ∃ symbol type operands, CallsFor place function symbol type world ∧
      operands.length = arguments.length ∧
        (world.routineOf function).signature.Takes (operands.map Operand.type) ∧
          Calls place (.routine symbol type) operands world after := by
  have takes := takesCount_of_callFunction run
  rw [callFunction_of_takesCount takes] at run
  obtain ⟨operands, coerced, coercing, run⟩ := bind_eq_ok.mp run
  have same : SameCode world coerced := (leads_coerceArguments place _ arguments).of_ok coercing
  have keeps : world.KeepsTypes coerced := (leads_coerceArguments place _ arguments).of_ok coercing
  have remembers : world.Remembers coerced :=
    (leads_coerceArguments place _ arguments).of_ok coercing
  obtain ⟨here, _, positioned, run⟩ := bind_eq_ok.mp run
  obtain ⟨block, rfl⟩ := position_ok positioned
  obtain ⟨library, _, looked, run⟩ := bind_eq_ok.mp run
  obtain ⟨_, _, looking, looked⟩ := bind_eq_ok.mp looked
  obtain ⟨rfl, rfl⟩ := get_eq_ok.mp looking
  obtain ⟨rfl, rfl⟩ := pure_eq_ok.mp looked
  obtain ⟨symbol, called, calling, run⟩ := bind_eq_ok.mp run
  obtain ⟨_, _, looked, emitting⟩ := bind_eq_ok.mp run
  obtain ⟨rfl, rfl⟩ := get_eq_ok.mp looked
  rw [same.generator] at block calling
  -- The callee is looked up once the arguments are operands; these may have added pooled texts, but
  -- neither the function nor the type of its routine has changed.
  have further : SameCode coerced called := (Function.leads_callee _ function).of_ok calling
  have thereStill : (coerced.routine? (coerced.functionSymbol function)).isSome := by
    rw [same.functionSymbol]
    exact same.isSome there
  have own : (coerced.routineOf function).signature = (world.routineOf function).signature := by
    rw [World.routineOf, same.functionSymbol, World.routineOf]
    exact keeps.signature there
  have type := Function.signature_callee (Nat.lt_of_lt_of_le inside remembers.length) calling
  rw [own] at type
  have enough : (world.routineOf function).parameterTypes.length ≤ arguments.length := by
    have fits := takesCount_signature.mp takes
    omega
  obtain ⟨lengths, prefixes⟩ := coerceArguments_ok enough coercing
  refine ⟨symbol, _, operands,
    ⟨coerced, called, same, Function.callee_standsIn thereStill calling, type⟩, lengths,
    ⟨prefixes, ?_⟩, .of_emit (IsEffect.trans same further) block emitting⟩
  rwa [List.length_map, lengths]

/-! ### What is called -/

variable {value : Value}

/-- **What is called for what, with which operands**: an operand as such, and for a function a routine
that is called for it, with operands that the function takes. -/
def Serves (place : GeneratorId) (known : Operand) (operands : List Operand) (before : World) :
    Callee → Prop
  | .operand operand => known = operand
  | .function function => ∃ symbol type, known = .routine symbol type ∧
      CallsFor place function symbol type before ∧
        (before.routineOf function).signature.Takes (operands.map Operand.type)
  | _ => False

/-- What a call comes to: a failure that adds no instruction, a global that gives itself, or one call
with as many operands as arguments. -/
def Settles (place : GeneratorId) (called : Callee) (arguments : List Value) (before : World) :
    EStateM.Result Fault World Value → Prop
  | .error _ after => SameCode before after
  | .ok result after =>
      (∃ known, called = .global known ∧ result = .operand known ∧ after = before) ∨
        ∃ known operands, Serves place known operands before called ∧
          operands.length = arguments.length ∧ Calls place known operands before after

/-- Calling an operand settles. -/
theorem settles_operand (known : Operand) :
    Settles place (.operand known) arguments world (callOperand place known arguments world) := by
  cases run : callOperand place known arguments world with
  | ok result after =>
      obtain ⟨operands, lengths, calls⟩ := calls_callOperand run
      exact .inr ⟨known, operands, rfl, lengths, calls⟩
  | error fault after => exact failsIn_callOperand known arguments world fault after run

/-- Calling a function settles. -/
theorem settles_function
    (inside : (world.generator place).function.owner < world.libraries.length)
    (there : (world.routine? (world.functionSymbol function)).isSome) :
    Settles place (.function function) arguments world
      ((do return .operand (← callFunction place function arguments) : Build Value) world) := by
  cases run : callFunction place function arguments world with
  | ok result after =>
      have whole : (do return .operand (← callFunction place function arguments) : Build Value) world =
          .ok (.operand result) after := bind_eq_ok.mpr ⟨result, after, run, rfl⟩
      rw [whole]
      obtain ⟨symbol, type, operands, callsFor, lengths, takes, calls⟩ :=
        calls_callFunction inside there run
      exact .inr ⟨_, operands, ⟨symbol, type, rfl, callsFor, takes⟩, lengths, calls⟩
  | error fault after =>
      have whole : (do return .operand (← callFunction place function arguments) : Build Value) world =
          .error fault after := bind_eq_error.mpr (.inl run)
      rw [whole]
      exact failsIn_callFunction world fault after run

/-- Calling what a name stands for settles, unless it is a fragment. -/
theorem settles_callName {interpret : Value → Callback} {name : Phrase}
    (inside : (world.generator place).function.owner < world.libraries.length)
    (there : ∀ function, calleeNamed world place name = .function function →
      (world.routine? (world.functionSymbol function)).isSome)
    (unexpanded : ∀ fragment, calleeNamed world place name ≠ .fragment fragment) :
    Settles place (calleeNamed world place name) arguments world
      (callName interpret place name arguments world) := by
  have looked : callName interpret place name arguments world =
      (match Library.resolve world (world.generator place).function.owner (.text name.content) true with
        | .fragment fragment => expand interpret fragment (.generator place) arguments
        | .function function => do return .operand (← callFunction place function arguments)
        | .global operand => return .operand operand
        | .notFound => Build.reject (.unknownName name.plain
            (world.library (world.generator place).function.owner).name.plain)) world := by
    simp only [callName, library, bind, EStateM.bind, get, getThe, MonadStateOf.get, EStateM.get,
      pure, EStateM.pure]
    cases Library.resolve world _ _ true <;> rfl
  rw [looked]
  unfold calleeNamed at *
  revert there unexpanded
  cases Library.resolve world (world.generator place).function.owner (.text name.content) true with
  | fragment fragment => exact fun _ unexpanded => absurd rfl (unexpanded fragment)
  | function function => exact fun there _ => settles_function inside (there function rfl)
  | global operand => exact fun _ _ => .inl ⟨operand, rfl, rfl, rfl⟩
  | notFound => exact fun _ _ => IsEffect.refl world

/-- **Every call settles**, unless a fragment is expanded. -/
theorem settles_call (interpret : Value → Callback) (arguments : List Value)
    (unfinished : (world.generator place).isFinished = false)
    (inside : (world.generator place).function.owner < world.libraries.length)
    (there : ∀ function, callee world place value = .function function →
      (world.routine? (world.functionSymbol function)).isSome)
    (unexpanded : ∀ fragment, callee world place value ≠ .fragment fragment) :
    Settles place (callee world place value) arguments world
      (call interpret place value arguments world) := by
  unfold call
  rw [unlessFinished_of_not_isFinished unfinished]
  cases value with
  | function function => exact settles_function inside (there function rfl)
  | operand known => exact settles_operand known
  | text content => exact settles_callName inside there unexpanded
  | visibility known => exact settles_callName inside there unexpanded
  | policy known => exact settles_callName inside there unexpanded
  | _ => exact IsEffect.refl world

/-- **A call passes the operands that its callee takes, if the callee takes as many.** What is called
for a function has the function's type, and then takes the operands, or is a routine that the library
had already; an operand that is called may take fewer. All else adds no instruction. -/
theorem call_matches (interpret : Value → Callback) (arguments : List Value)
    (unfinished : (world.generator place).isFinished = false)
    (inside : (world.generator place).function.owner < world.libraries.length)
    (there : ∀ function, callee world place value = .function function →
      (world.routine? (world.functionSymbol function)).isSome)
    (unexpanded : ∀ fragment, callee world place value ≠ .fragment fragment) :
    (∀ fault after, call interpret place value arguments world = .error fault after →
      SameCode world after) ∧
    ∀ result after, call interpret place value arguments world = .ok result after →
      (∃ known, callee world place value = .global known ∧ result = .operand known ∧
        after = world) ∨
      ∃ known operands, Serves place known operands world (callee world place value) ∧
        Calls place known operands world after ∧ operands.length = arguments.length ∧
          (known.type.Takes (operands.map Operand.type) ↔
            known.type.TakesCount arguments.length) ∧
          ∀ function, callee world place value = .function function →
            known.type = .pointer (world.routineOf function).signature →
              known.type.Takes (operands.map Operand.type) := by
  have settles := settles_call interpret arguments unfinished inside there unexpanded
  constructor
  · intro fault after run
    rwa [run] at settles
  · intro result after run
    rw [run] at settles
    rcases settles with global | ⟨known, operands, serves, lengths, calls⟩
    · exact .inl global
    refine .inr ⟨known, operands, serves, calls, lengths, ?_, fun function called own => ?_⟩
    · rw [IRType.Takes, List.length_map, lengths]
      exact and_iff_right calls.admits
    · rw [called] at serves
      obtain ⟨symbol, type, rfl, -, takes⟩ := serves
      rw [own]
      exact takes

/-- The only function calls itself. -/
theorem call_matches_answer :
    (FunctionBody.oneFunction.generator 0).isFinished = false ∧
      (FunctionBody.oneFunction.generator 0).function.owner <
        FunctionBody.oneFunction.libraries.length ∧
      ∃ known operands, Calls 0 known operands FunctionBody.oneFunction
          ((call (fun _ => ⟨none, fun _ => pure .none⟩) 0 (.text "answer") []).after
            FunctionBody.oneFunction) ∧
        operands.length = 0 ∧ known.type.Takes (operands.map Operand.type) := by
  have unfinished : (FunctionBody.oneFunction.generator 0).isFinished = false := rfl
  have inside : (FunctionBody.oneFunction.generator 0).function.owner <
      FunctionBody.oneFunction.libraries.length := by decide
  have named : callee FunctionBody.oneFunction 0 (.text "answer") = .function ⟨0, 0⟩ := by rfl
  have there : ∀ function, callee FunctionBody.oneFunction 0 (.text "answer") = .function function →
      (FunctionBody.oneFunction.routine? (FunctionBody.oneFunction.functionSymbol function)).isSome := by
    rw [named]
    rintro function ⟨⟩
    rfl
  have unexpanded : ∀ fragment,
      callee FunctionBody.oneFunction 0 (.text "answer") ≠ .fragment fragment := by
    rw [named]
    nofun
  have done : (call (fun _ => ⟨none, fun _ => pure .none⟩) 0 (.text "answer") []).succeeds
      FunctionBody.oneFunction = true := by decide +kernel
  obtain ⟨result, run⟩ := Build.ok_of_succeeds done
  have matched := (call_matches (fun _ => ⟨none, fun _ => pure .none⟩) [] unfinished inside there
    unexpanded).2 result _ run
  rcases matched with ⟨known, global, -⟩ | ⟨known, operands, serves, calls, lengths, -, takes⟩
  · rw [named] at global
    cases global
  · rw [named] at serves
    obtain ⟨symbol, type, rfl, ⟨_, _, -, -, rfl | ⟨foreign, -⟩⟩, -⟩ := serves
    · exact ⟨unfinished, inside, _, operands, calls, lengths, takes _ named rfl⟩
    · exact absurd rfl foreign

/-- **An operand that is called may take fewer arguments than it is passed**: a function without
parameters is called as an operand with one argument. -/
theorem call_passes_more :
    (call (fun _ => ⟨none, fun _ => pure .none⟩) 0
      (.operand (FunctionBody.oneFunction.routineOperand ⟨0, 0⟩)) [.integer 1]).succeeds
        FunctionBody.oneFunction = true ∧
      (((call (fun _ => ⟨none, fun _ => pure .none⟩) 0
        (.operand (FunctionBody.oneFunction.routineOperand ⟨0, 0⟩)) [.integer 1]).after
          FunctionBody.oneFunction).row FunctionBody.onlyBody.entry).map Instruction.operation =
            [.call (.routine ⟨0, 0⟩ (.function (.int 32) [] false)) [.integer (.int 32) 1]] ∧
        ¬(IRType.pointer (.function (.int 32) [] false)).Takes [.int 32] :=
  ⟨by decide +kernel, rfl, by decide⟩

end Generator

end StructuredIR
