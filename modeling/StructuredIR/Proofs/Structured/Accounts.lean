import StructuredIR.Proofs.Rows
import StructuredIR.Proofs.Structured.Clients
import StructuredIR.Proofs.Structured.Readings

/-! # Accounts of structured clients

While a structured client runs, an account of it is kept: how what it builds is read. The account
follows the calls of the client. A conditional is an alternative of what its arms are; a loop is a
loop of what its parts are, the comparison first although the body is built before it; and what
calls nothing is the instructions that it adds.

* **`Client.account`** runs a client and keeps its account.
* **`Client.map_fst_account`** forgets the account: it is the same run. -/

namespace StructuredIR

/-! ## What is added -/

/-- The instructions among some that end no block. -/
def withoutTerminators (instructions : List Instruction) : List Instruction :=
  instructions.filter fun instruction => !instruction.operation.isTerminator

namespace World

/-- The instructions of a block of a function as generators have put them there. In the entry they
come behind the slot of shared returns, if there is one. -/
def written (world : World) (reference : FunctionRef) (block : BlockRef) : List Instruction :=
  if (world.function reference).entry = some block ∧ (world.function reference).slot.isSome then
    (world.row block).tail
  else world.row block

/-- What is executed in the return block of a function, if there is one. -/
def returned (world : World) (reference : FunctionRef) : List Instruction :=
  match (world.function reference).exit with
  | some exit => withoutTerminators (world.row exit)
  | none => []

end World

/-- What calls with an account are like. -/
structure AccountedCallback where
  /-- The number of arguments that it takes, where it is fixed and can be seen. -/
  arity? : Option Nat
  /-- The call with its arguments, and how what it builds is read. -/
  run : List Value → Build (Value × Reading)

/-- The callback without its account. -/
def AccountedCallback.plain (callback : AccountedCallback) : Callback :=
  ⟨callback.arity?, fun arguments => Prod.fst <$> callback.run arguments⟩

namespace Account

open Generator

/-- What comes up between two worlds where a generator was, but for terminators. -/
def added (place : GeneratorId) (before after : World) : List Instruction :=
  match (before.generator place).block.block? with
  | some block =>
      let reference := (before.generator place).function
      withoutTerminators
        ((after.written reference block).drop (before.written reference block).length)
  | none => []

/-- A step with what it adds where a generator was. -/
def record {Result : Type} (place : GeneratorId) (step : Build Result) :
    Build (Result × List Instruction) := do
  let before ← get
  let result ← step
  return (result, added place before (← get))

/-- How control goes on behind an operation of a name. Functions that yield nothing return in place,
unless they do so on a condition. -/
def onward (world : World) (reference : FunctionRef) : String → Reading
  | "brk" => .leave
  | "cont" => .again
  | "ret" =>
      if (world.routineOf reference).result = .void then .returns []
      else .returns (world.returned reference)
  | "cret" => .returnsIf (world.returned reference)
  | "sret" => .returns []
  | _ => .run []

/-- An operation that calls nothing. Control goes on behind it as its name says, unless the generator
was finished before. -/
def operation (place : GeneratorId) (verb : String) (action : Build Value) :
    Build (Value × Reading) := do
  let before := (← get).generator place
  let (value, added) ← record place action
  let after ← get
  return (value,
    if before.isFinished then .run added
    else .seq (.run added) (onward after before.function verb))

/-! ## Conditionals -/

/-- An arm of a conditional. -/
def buildArm (place : GeneratorId) (function : FunctionRef) (name : String)
    (body : AccountedCallback) : Build (GeneratorId × Reading) := do
  let arm ← childAt place (← Function.appendNamed function name)
  let (_, reading) ← body.run [.generator arm]
  return (arm, reading)

/-- The second arm of a conditional, if there is one. -/
def buildElse (place : GeneratorId) (function : FunctionRef) (arm : GeneratorId)
    (body : Option AccountedCallback) (exit : Value) :
    Build ((Value × GeneratorId) × Reading) := do
  match body with
  | none => return ((exit, arm), .run [])
  | some body =>
      let (arm, reading) ← buildArm place function "else" body
      leadTo arm exit
      finish arm
      return ((((← get).generator arm).start, arm), reading)

/-- A conditional is an alternative of its arms. -/
def conditional (place : GeneratorId) (condition : Value)
    (thenBody elseBody : Option AccountedCallback) (given : Value) :
    Build (Value × Reading) := do
  if ((← get).generator place).isFinished then return (.none, .run [])
  match thenBody with
  | none => Build.reject .missingThen
  | some thenBody =>
      let function := ((← get).generator place).function
      let condition ← coerce place condition (some conditionType)
      let (arm, first) ← buildArm place function "then" thenBody
      let exit ← meetingPlace arm function given
      finish arm
      let whenTrue := ((← get).generator arm).start
      let ((whenFalse, arm), second) ← buildElse place function arm elseBody exit
      unless given.isGiven do
        Function.moveAfter function exit ((← get).generator arm).block
      let _ ← emit place (.branchIf condition whenTrue whenFalse)
      if given.isGiven then finish place else moveTo place exit
      return (.none, .choose first second)

/-! ## Loops -/

/-- The parts of a loop. -/
structure LoopParts where
  /-- Builds the condition under which the loop goes on. -/
  compare : Option AccountedCallback
  /-- Builds what is done after each turn. -/
  increment : Option AccountedCallback
  /-- Builds what is done in each turn. -/
  body : Option AccountedCallback

/-- The parts of a loop without their accounts. -/
def LoopParts.plain (parts : LoopParts) : Generator.LoopParts where
  compare := parts.compare.map AccountedCallback.plain
  increment := parts.increment.map AccountedCallback.plain
  body := parts.body.map AccountedCallback.plain

/-- The body of a loop, with the loads of its slots. -/
def buildBody (place : GeneratorId) (blocks : LoopBlocks) (slots : List Operand) :
    Option AccountedCallback → Option BlockRef → Build Reading
  | some body, some block => do
      let part ← loopPart place block blocks
      let (values, loads) ← record part (loadSlots part (trimmed body.plain slots))
      let (_, reading) ← body.run (.generator part :: values)
      leadTo part (blockValue blocks.continue)
      finish part
      return .seq (.run loads) reading
  | _, _ => return .run []

/-- The condition of a loop, with the loads of its slots in front of it and its test behind it. -/
def buildCompare (place : GeneratorId) (blocks : LoopBlocks) (slots : List Operand) :
    Option AccountedCallback → Build Reading
  | some compare => do
      let part ← loopPart place blocks.header blocks
      let (values, loads) ← record part (loadSlots part (trimmed compare.plain slots))
      let (result, reading) ← compare.run (.generator part :: values)
      branchOn part blocks result
      finish part
      return .seq (.seq (.run loads) reading) .test
  | none => return .run []

/-- The increment of a loop. -/
def buildIncrement (place : GeneratorId) (blocks : LoopBlocks) (slots : List Operand) :
    Option AccountedCallback → Option BlockRef → Build Reading
  | some increment, some block => do
      let part ← loopPart place block blocks
      let (_, reading) ← increment.run
        (.generator part :: (trimmed increment.plain slots).map Value.operand)
      leadTo part (blockValue blocks.header)
      finish part
      return reading
  | _, _ => return .run []

/-- The parts of a loop are a loop of their readings. -/
def buildParts (place : GeneratorId) (parts : LoopParts) (blocks : LoopBlocks)
    (slots : List Operand) : Build Reading := do
  let body ← buildBody place blocks slots parts.body blocks.body
  let compare ← buildCompare place blocks slots parts.compare
  let increment ← buildIncrement place blocks slots parts.increment blocks.increment
  return .loop compare body increment

/-- A loop comes behind what is done to fill its slots. -/
def loop (place : GeneratorId) (initial : Value) (parts : LoopParts) (given : Value) :
    Build (Value × Reading) := do
  if ((← get).generator place).isFinished then return (.none, .run [])
  if parts.plain.isEmpty then Build.reject .emptyLoop
  let function := ((← get).generator place).function
  let (slots, added) ← record place (createSlots place ((← get).loopValues initial))
  let header ← loopHeader place function
  let blocks ← loopBlocks function header parts.plain given
  let reading ← buildParts place parts blocks slots
  if given.isGiven then finish place
  else
    moveToEnd function blocks.exit
    moveTo place blocks.exit
  return (slotsValue slots, .seq (.run added) reading)

/-! ## Calls -/

/-- What a fragment puts in the place of a call is what it builds. -/
def expand (interpret : Value → AccountedCallback) (fragment : FragmentId) (place : Value)
    (arguments : List Value) : Build (Value × Reading) := do
  let fragment := (← get).fragment fragment
  match fragment.body.fragmentArity? with
  | none => (interpret fragment.body).run (place :: arguments)
  | some arity =>
      if arguments.length = arity then (interpret fragment.body).run (place :: arguments)
      else
        let name ← Build.plain fragment.name
        Build.reject (.fragmentArity name arguments.length arity)

/-- What a name stands for, called with arguments. -/
def callName (interpret : Value → AccountedCallback) (place : GeneratorId) (name : Phrase)
    (arguments : List Value) : Build (Value × Reading) := do
  let library ← library place
  match Library.resolve (← get) library (.text name.content) true with
  | .fragment fragment => expand interpret fragment (.generator place) arguments
  | .function function => do
      let (result, added) ← record place (callFunction place function arguments)
      return (.operand result, .run added)
  | .global operand => return (.operand operand, .run [])
  | .notFound => Build.reject (.unknownName name.plain ((← get).library library).name.plain)

/-- A call is what a fragment builds, or the instructions that it adds. -/
def call (interpret : Value → AccountedCallback) (place : GeneratorId) (callee : Value)
    (arguments : List Value) : Build (Value × Reading) := do
  if ((← get).generator place).isFinished then return (.none, .run [])
  match callee, callee.phrase? with
  | .function function, _ => do
      let (result, added) ← record place (callFunction place function arguments)
      return (.operand result, .run added)
  | .operand callee, _ => do
      let (result, added) ← record place do
        let position ← position place
        let arguments ← coerceEach place arguments
        return Value.operand (← Build.emit position (.call callee arguments))
      return (result, .run added)
  | _, some name => callName interpret place name arguments
  | callee, none => Build.reject (.notCallable callee.typeName)

/-! ## Requests -/

/-- The argument of a call that is called back, if it is given. -/
def callback? (interpret : Value → AccountedCallback) (call : Script.Call) (position : Nat)
    (name : String) : Option AccountedCallback :=
  match call.value position name with
  | .none => none
  | value => some (interpret value)

/-- What is done for a request, with its account. -/
def action (interpret : Value → AccountedCallback) (place : GeneratorId) :
    Request → Build (Value × Reading)
  | .inspect name => operation place "" (Script.attributeOf (.generator place) name)
  | .operation verb positional named =>
      let call : Script.Call := ⟨fun value => (interpret value).plain, positional, named⟩
      let callback? := callback? interpret call
      match verb with
      | "cond" =>
          conditional place (call.value 0 "condition") (callback? 1 "then_body")
            (callback? 2 "else_body") (call.value 3 "exit_block")
      | "lp" =>
          loop place (call.value 0 "variables")
            ⟨callback? 1 "compare", callback? 2 "increment", callback? 4 "body"⟩
            (call.value 3 "exit_block")
      | "call" => Account.call interpret place (call.value 0 "callable_") (call.rest 1)
      | verb =>
          operation place verb
            ((Script.onGenerator? call place verb).getD (throw .missingAttribute))

/-- What is done for a request of a generator that should be there, with its account. -/
def perform (interpret : Value → AccountedCallback) (place : GeneratorId) (request : Request) :
    Build (Value × Reading) := do
  if place < (← get).generators.length then action interpret place request
  else throw .missingKey

end Account

/-- **Runs a client and keeps its account.** -/
def Client.account : Client → Build (Value × Reading)
  | done (.ok value) => return (value, .run [])
  | done (.error fault) => throw fault
  | observe next => do (next (← get)).account
  | perform place request meaning next => do
      let interpret (value : Value) : AccountedCallback :=
        ⟨value.arity?, fun arguments => (meaning value arguments).account⟩
      let (value, first) ← Account.perform interpret place request
      let (result, second) ← (next (.ok value)).account
      return (result, .seq first second)

/-! ## Forgetting the account -/

namespace Account

open Generator

variable {place : GeneratorId}

/-- An operation that calls nothing is what it is without its account. -/
theorem map_fst_operation (verb : String) (action : Build Value) :
    Prod.fst <$> operation place verb action = action := by
  simp [operation, record]

/-! ### Conditionals -/

theorem map_fst_buildArm (function : FunctionRef) (name : String) (body : AccountedCallback) :
    Prod.fst <$> buildArm place function name body =
      Generator.buildArm place function name body.plain := by
  simp [buildArm, Generator.buildArm, AccountedCallback.plain]

theorem map_fst_buildElse (function : FunctionRef) (arm : GeneratorId)
    (body : Option AccountedCallback) (exit : Value) :
    Prod.fst <$> buildElse place function arm body exit =
      Generator.buildElse place function arm (body.map AccountedCallback.plain) exit := by
  cases body with
  | none => rfl
  | some body => simp [buildElse, Generator.buildElse, ← map_fst_buildArm]

theorem map_fst_conditional (condition : Value) (thenBody elseBody : Option AccountedCallback)
    (given : Value) :
    Prod.fst <$> conditional place condition thenBody elseBody given =
      Generator.conditional place condition (thenBody.map AccountedCallback.plain)
        (elseBody.map AccountedCallback.plain) given := by
  simp only [conditional, Generator.conditional, actUnlessFinished, unlessFinished, map_bind]
  refine bind_congr fun world => ?_
  split
  · rfl
  · cases thenBody with
    | none => rfl
    | some thenBody =>
        cases given.isGiven <;> simp [← map_fst_buildArm, ← map_fst_buildElse]

/-! ### Loops -/

/-- Without its account a part of a loop gives nothing. -/
theorem map_buildBody (blocks : LoopBlocks) (slots : List Operand)
    (body : Option AccountedCallback) (block : Option BlockRef) :
    (fun _ => ()) <$> buildBody place blocks slots body block =
      Generator.buildBody place blocks slots (body.map AccountedCallback.plain) block := by
  cases body with
  | none => rfl
  | some body =>
      cases block with
      | none => rfl
      | some block =>
          simp [buildBody, Generator.buildBody, record, AccountedCallback.plain]

theorem map_buildCompare (blocks : LoopBlocks) (slots : List Operand)
    (compare : Option AccountedCallback) :
    (fun _ => ()) <$> buildCompare place blocks slots compare =
      Generator.buildCompare place blocks slots (compare.map AccountedCallback.plain) := by
  cases compare with
  | none => rfl
  | some compare =>
      simp [buildCompare, Generator.buildCompare, record, AccountedCallback.plain]

theorem map_buildIncrement (blocks : LoopBlocks) (slots : List Operand)
    (increment : Option AccountedCallback) (block : Option BlockRef) :
    (fun _ => ()) <$> buildIncrement place blocks slots increment block =
      Generator.buildIncrement place blocks slots (increment.map AccountedCallback.plain)
        block := by
  cases increment with
  | none => rfl
  | some increment =>
      cases block with
      | none => rfl
      | some block => simp [buildIncrement, Generator.buildIncrement, AccountedCallback.plain]

theorem map_buildParts (parts : LoopParts) (blocks : LoopBlocks) (slots : List Operand) :
    (fun _ => ()) <$> buildParts place parts blocks slots =
      Generator.buildParts place parts.plain blocks slots := by
  simp [buildParts, Generator.buildParts, LoopParts.plain, ← map_buildBody, ← map_buildCompare,
    ← map_buildIncrement]

theorem map_fst_loop (initial : Value) (parts : LoopParts) (given : Value) :
    Prod.fst <$> loop place initial parts given =
      Generator.loop place initial parts.plain given := by
  simp only [loop, Generator.loop, unlessFinished, map_bind]
  refine bind_congr fun world => ?_
  split
  · rfl
  · cases parts.plain.isEmpty <;> cases given.isGiven <;> simp [record, ← map_buildParts]

/-! ### Calls -/

section

variable (interpret : Value → AccountedCallback)

theorem map_fst_expand (fragment : FragmentId) (value : Value) (arguments : List Value) :
    Prod.fst <$> expand interpret fragment value arguments =
      Generator.expand (fun value => (interpret value).plain) fragment value arguments := by
  simp only [expand, Generator.expand, map_bind]
  refine bind_congr fun world => ?_
  cases (world.fragment fragment).body.fragmentArity? with
  | none => rfl
  | some arity =>
      dsimp only
      split
      · rfl
      · rw [map_bind]
        rfl

theorem map_fst_callName (name : Phrase) (arguments : List Value) :
    Prod.fst <$> callName interpret place name arguments =
      Generator.callName (fun value => (interpret value).plain) place name arguments := by
  simp only [callName, Generator.callName, map_bind]
  refine bind_congr fun library => bind_congr fun world => ?_
  cases Library.resolve world library (.text name.content) true with
  | fragment fragment => exact map_fst_expand interpret fragment _ arguments
  | function function => simp [record]
  | global operand => rfl
  | notFound => rfl

theorem map_fst_call (callee : Value) (arguments : List Value) :
    Prod.fst <$> call interpret place callee arguments =
      Generator.call (fun value => (interpret value).plain) place callee arguments := by
  simp only [call, Generator.call, unlessFinished, map_bind]
  refine bind_congr fun world => ?_
  split
  · rfl
  · cases callee with
    | function | operand => simp [record]
    | text | visibility | policy => exact map_fst_callName interpret _ arguments
    | _ => rfl

/-! ### Requests -/

/-- An argument that is called back is the same one without its account. -/
theorem map_callback? (positional : List Value) (named : Dictionary String Value) (position : Nat)
    (name : String) :
    (callback? interpret ⟨fun value => (interpret value).plain, positional, named⟩ position
        name).map AccountedCallback.plain =
      Script.Call.callback? ⟨fun value => (interpret value).plain, positional, named⟩ position
        name := by
  unfold callback? Script.Call.callback? Script.Call.callbackOf
  generalize Script.Call.value _ position name = value
  cases value <;> rfl

/-- **A request is what it is** without its account. -/
theorem map_fst_action (request : Request) :
    Prod.fst <$> action interpret place request =
      request.action (fun value => (interpret value).plain) place := by
  cases request with
  | inspect name => exact map_fst_operation _ _
  | operation verb positional named =>
      have callbacks := map_callback? interpret positional named
      simp only [action]
      split
      · rw [map_fst_conditional, callbacks, callbacks]
        rfl
      · rw [map_fst_loop, LoopParts.plain, callbacks, callbacks, callbacks]
        rfl
      · exact map_fst_call interpret _ _
      · exact map_fst_operation _ _

theorem map_fst_perform (request : Request) :
    Prod.fst <$> perform interpret place request =
      request.perform (fun value => (interpret value).plain) place := by
  simp only [perform, Request.perform, map_bind]
  refine bind_congr fun world => ?_
  split
  · exact map_fst_action interpret request
  · rfl

end

end Account

/-- **Forgetting the account** of a client recovers its run. -/
theorem Client.map_fst_account (client : Client) : Prod.fst <$> client.account = client.strict := by
  induction client with
  | done outcome => cases outcome <;> rfl
  | observe next ih => simp only [account, strict, map_bind, ih]
  | perform place request meaning next meaning_ih next_ih =>
      have called : (fun value : Value =>
          AccountedCallback.plain ⟨value.arity?, fun arguments => (meaning value arguments).account⟩) =
            fun value => ⟨value.arity?, fun arguments => (meaning value arguments).strict⟩ := by
        funext value
        exact congrArg (Callback.mk _) (funext fun arguments => meaning_ih value arguments)
      simp only [account, strict, map_bind, ← called, ← Account.map_fst_perform, bind_map_left,
        ← next_ih, bind_pure_comp, Functor.map_map]

end StructuredIR
