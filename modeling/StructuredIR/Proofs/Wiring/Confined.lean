import StructuredIR.Proofs.Returns.Funnel
import StructuredIR.Proofs.Structured.Clients
import StructuredIR.Proofs.Wiring.Conditionals
import StructuredIR.Proofs.Wiring.Loops

/-! # Callbacks that keep to their generators

* **`KeepsTo`** is what is asked of a computation that works with one generator: it makes requests of
  that generator only, and none that puts a generator elsewhere. So do structured clients:
  **`Client.Structured.keepsTo`**.
* **`Construction.proceeds_of_keepsTo`**: then no other generator and no other block that was there
  changes, however deep conditionals and loops are nested, and the generator is not left open at a
  block that has ended.
* **`Construction.Hosts.wires_conditional`** and **`Construction.Hosts.wires_loop`** say what
  conditionals and loops wire when their callbacks keep to their generators. -/

namespace StructuredIR

open Build (Leads bind_eq_ok get_eq_ok map_eq_ok modify_eq_ok pure_eq_ok)
open Generator (blockValue)

/-- A request that puts no generator anywhere. -/
def Request.KeepsPositions : Request → Prop
  | .inspect _ => True
  | .operation verb _ _ => verb ∉ ["position_at_end", "child"]

/-- **A computation keeps to one generator**: all requests that it makes are of that generator, and none
of them puts generators elsewhere. What is called back meanwhile keeps to the generator that it is
called with, and whatever else is done leaves all code alone. -/
inductive KeepsTo : GeneratorId → Build Value → Prop where
  /-- Nothing is done any more. -/
  | pure (place : GeneratorId) (value : Value) : KeepsTo place (pure value)
  /-- The computation fails. -/
  | throw (place : GeneratorId) (fault : Fault) : KeepsTo place (throw fault)
  /-- Something is done that leaves all code alone. -/
  | aside (place : GeneratorId) {Result : Type} (step : Build Result) (next : Result → Build Value) :
      (∀ before result after, step before = .ok result after → Spares before after) →
        (∀ result, KeepsTo place (next result)) → KeepsTo place (step >>= next)
  /-- A request is made of the generator. -/
  | request (place : GeneratorId) (interpret : Value → Callback) (request : Request)
      (next : Value → Build Value) : request.KeepsPositions →
        (∀ value part arguments, KeepsTo part ((interpret value).run (.generator part :: arguments))) →
          (∀ value, KeepsTo place (next value)) →
            KeepsTo place (request.perform interpret place >>= next)

/-- **A callback keeps to the generator that it is called with.** -/
def Callback.KeepsToPart (callback : Callback) : Prop :=
  ∀ part arguments, KeepsTo part (callback.run (.generator part :: arguments))

/-- All parts of a loop are built by callbacks that keep to the generators that they are called
with. -/
structure Generator.LoopParts.KeepToParts (parts : Generator.LoopParts) : Prop where
  /-- The callback for the body does. -/
  body (body : Callback) : parts.body = some body → body.KeepsToPart
  /-- The callback for the condition does. -/
  compare (compare : Callback) : parts.compare = some compare → compare.KeepsToPart
  /-- The callback for the increment does. -/
  increment (increment : Callback) : parts.increment = some increment → increment.KeepsToPart

/-- **Structured clients keep to their generators.** -/
theorem Client.Structured.keepsTo {client : Client} {place : GeneratorId}
    (structured : client.Structured place) : KeepsTo place client.strict := by
  -- The generator is generalized, for what is called back is structured with generators of its own.
  induction client generalizing place with
  | done outcome =>
      cases outcome with
      | ok value => exact .pure place value
      | error fault => exact .throw place fault
  | observe next ih =>
      refine .aside place get _ (fun before result after run => ?_) fun world =>
        ih world (structured world)
      obtain ⟨-, rfl⟩ := get_eq_ok.mp run
      exact SameCode.spares (IsEffect.refl _)
  | perform target request meaning next meaning_ih next_ih =>
      obtain ⟨rfl, allowed, called, goes_on⟩ := structured
      refine .request target _ request _ ?_ (fun value part arguments => ?_) fun value => ?_
      · cases request with
        | inspect name => trivial
        | operation verb positional named =>
            exact fun member => allowed.1 (by revert member; simp; tauto)
      · exact meaning_ih value _ (called value part arguments)
      · exact next_ih _ (goes_on _)

namespace Construction

variable {site : Construction} {before middle after : World} {place : GeneratorId}
  {interpret : Value → Callback} {arguments : List Value} {value : Value}

/-! ## Calls -/

/-- A fragment is expanded by what builds it. -/
theorem Hosts.expand {fragment : FragmentId} (hosts : site.Hosts before place)
    (confines : ∀ value, site.Confines (interpret value))
    (run : Generator.expand interpret fragment (.generator place) arguments before =
      .ok value after) : site.Proceeds place before after := by
  obtain ⟨seen, _, looked, run⟩ := bind_eq_ok.mp run
  obtain ⟨rfl, rfl⟩ := get_eq_ok.mp looked
  cases arity : (before.fragment fragment).body.fragmentArity? with
  | none =>
      rw [arity] at run
      exact confines _ _ _ _ _ _ hosts run
  | some count =>
      rw [arity] at run
      dsimp only at run
      split at run
      next => exact confines _ _ _ _ _ _ hosts run
      next =>
        obtain ⟨name, _, -, run⟩ := bind_eq_ok.mp run
        cases run

/-- A call by name adds where the generator is, or is what a fragment builds. -/
theorem Hosts.callName {name : Phrase} (hosts : site.Hosts before place)
    (confines : ∀ value, site.Confines (interpret value))
    (run : Generator.callName interpret place name arguments before = .ok value after) :
    site.Proceeds place before after := by
  obtain ⟨library, looked, looking, run⟩ := bind_eq_ok.mp run
  obtain ⟨seen, _, same, looking⟩ := bind_eq_ok.mp looking
  obtain ⟨rfl, rfl⟩ := get_eq_ok.mp same
  obtain ⟨rfl, rfl⟩ := pure_eq_ok.mp looking
  obtain ⟨seen, _, looked, run⟩ := bind_eq_ok.mp run
  obtain ⟨rfl, rfl⟩ := get_eq_ok.mp looked
  cases found : Library.resolve before (before.generator place).function.owner (.text name.content)
      true with
  | fragment fragment =>
      rw [found] at run
      exact hosts.expand confines run
  | function function =>
      rw [found] at run
      obtain ⟨result, called, calling, run⟩ := bind_eq_ok.mp run
      obtain ⟨rfl, rfl⟩ := pure_eq_ok.mp run
      exact hosts.emits (Generator.leads_callFunction place function arguments) calling
  | global operand =>
      rw [found] at run
      obtain ⟨rfl, rfl⟩ := pure_eq_ok.mp run
      exact hosts.proceeds_refl
  | notFound =>
      rw [found] at run
      cases run

/-- **A call** adds where the generator is, or is what a fragment builds. -/
theorem Hosts.call {callee : Value} (hosts : site.Hosts before place)
    (confines : ∀ value, site.Confines (interpret value))
    (run : Generator.call interpret place callee arguments before = .ok value after) :
    site.Proceeds place before after := by
  refine hosts.unlessFinished run fun run => ?_
  cases callee with
  | function function =>
      obtain ⟨result, called, calling, run⟩ := bind_eq_ok.mp run
      obtain ⟨rfl, rfl⟩ := pure_eq_ok.mp run
      exact hosts.emits (Generator.leads_callFunction place function arguments) calling
  | operand callee => exact hosts.emits (Generator.leads_callOperand place callee arguments) run
  | text | visibility | policy => exact hosts.callName confines run
  | _ => cases run

/-! ## Operations by name -/

/-- An argument that is called back works properly if everything that may be called does. -/
theorem confines_callback? (confines : ∀ value, site.Confines (interpret value)) {positional : List Value}
    {named : Dictionary String Value} {position : Nat} {name : String} {callback : Callback}
    (given : Script.Call.callback? ⟨interpret, positional, named⟩ position name = some callback) :
    site.Confines callback := by
  unfold Script.Call.callback? Script.Call.callbackOf at given
  split at given
  next => cases given
  next =>
    cases given
    exact confines _

/-- **Operations on blocks** that put no generator elsewhere. -/
theorem Hosts.onBlocks {verb : String} {positional : List Value} {named : Dictionary String Value}
    {action : Build Value} (hosts : site.Hosts before place)
    (keeps : (Request.operation verb positional named).KeepsPositions)
    (confines : ∀ value, site.Confines (interpret value))
    (known : Script.onBlocks? ⟨interpret, positional, named⟩ place verb = some action)
    (run : action before = .ok value after) : site.Proceeds place before after := by
  have called (position : Nat) (name : String) (callback : Callback)
      (given : Script.Call.callback? ⟨interpret, positional, named⟩ position name = some callback) :
      site.Confines callback :=
    confines_callback? confines given
  unfold Script.onBlocks? at known
  split at known <;> cases known
  · obtain ⟨_, finished, finishing, run⟩ := bind_eq_ok.mp run
    obtain rfl := modify_eq_ok.mp finishing
    obtain ⟨rfl, rfl⟩ := pure_eq_ok.mp run
    exact hosts.proceeds_finish
  · exact absurd (by decide) keeps
  · exact absurd (by decide) keeps
  · exact hosts.openBlock (called 1 "body") run
  · exact hosts.actUnlessFinished run hosts.branchTo
  · exact hosts.leaveLoop run
  · exact hosts.nextTurn run
  · cases isFinished : (before.generator place).isFinished with
    | true => exact hosts.idle isFinished run
    | false =>
        cases given : Script.Call.callback? ⟨interpret, positional, named⟩ 1 "then_body" with
        | none =>
            rw [given] at run
            obtain ⟨rejecting, -⟩ := Generator.actUnlessFinished_ok isFinished run
            cases rejecting
        | some thenBody =>
            rw [given] at run
            exact hosts.proceeds_conditional isFinished (called _ _ _ given) (called 2 "else_body") run
  · cases isFinished : (before.generator place).isFinished with
    | true => exact hosts.idle isFinished run
    | false =>
        refine hosts.proceeds_loop isFinished (fun callback known => ?_) run
        simp only [Generator.LoopParts.callbacks, List.mem_append, Option.mem_toList] at known
        rcases known with (body | compare) | increment
        · exact called 4 "body" callback body
        · exact called 1 "compare" callback compare
        · exact called 2 "increment" callback increment

/-- **Operations on functions and returns.** -/
theorem Hosts.onFunctions {verb : String} {positional : List Value}
    {named : Dictionary String Value} {action : Build Value} (hosts : site.Hosts before place)
    (confines : ∀ value, site.Confines (interpret value))
    (known : Script.onFunctions? ⟨interpret, positional, named⟩ place verb = some action)
    (run : action before = .ok value after) : site.Proceeds place before after := by
  unfold Script.onFunctions? at known
  split at known <;> cases known
  · exact hosts.call confines run
  · exact hosts.sameCode (Generator.leads_lookUpGlobal place _) run
  · exact hosts.returnShared run
  · exact hosts.returnIf run
  · exact hosts.returnDirectly run
  · exact hosts.presetReturn run

/-- **A request that puts no generator anywhere** adds to the block at which its generator is, and to
blocks that come up. -/
theorem Hosts.action {request : Request} (hosts : site.Hosts before place)
    (keeps : request.KeepsPositions) (confines : ∀ value, site.Confines (interpret value))
    (run : request.action interpret place before = .ok value after) :
    site.Proceeds place before after := by
  cases request with
  | inspect name => exact hosts.attributeOf run
  | operation verb positional named =>
      cases known : Script.onGenerator? ⟨interpret, positional, named⟩ place verb with
      | none =>
          have run : (Script.onGenerator? ⟨interpret, positional, named⟩ place verb).getD
            (throw .missingAttribute) before = .ok value after := run
          rw [known] at run
          cases run
      | some action =>
          have run : (Script.onGenerator? ⟨interpret, positional, named⟩ place verb).getD
            (throw .missingAttribute) before = .ok value after := run
          rw [known] at run
          simp only [Script.onGenerator?, Option.orElse_eq_orElse, Option.orElse_eq_or,
            Option.or_eq_some_iff] at known
          rcases known with numbers | ⟨-, types | ⟨-, memory | ⟨-, blocks | ⟨-, functions⟩⟩⟩⟩
          · exact hosts.emits (Script.leads_onNumbers? numbers) run
          · exact hosts.emits (Script.leads_onTypes? types) run
          · exact hosts.emits (Script.leads_onMemory? memory) run
          · exact hosts.onBlocks keeps confines blocks run
          · exact hosts.onFunctions confines functions run

/-! ## Whole computations -/

/-- **A computation that keeps to a generator** changes no other generator and no other block that was
there, as long as it succeeds, and does not leave the generator open at a block that has ended. -/
theorem proceeds_of_keepsTo {step : Build Value} (keeps : KeepsTo place step)
    (hosts : site.Hosts before place) (run : step before = .ok value after) :
    site.Proceeds place before after := by
  induction keeps generalizing before after value with
  | pure place result =>
      obtain ⟨-, rfl⟩ := pure_eq_ok.mp run
      exact hosts.proceeds_refl
  | throw place fault => cases run
  | aside place step next spares keeps ih =>
      obtain ⟨result, middle, stepping, run⟩ := bind_eq_ok.mp run
      have spared := spares _ _ _ stepping
      have first := hosts.proceeds_idly (hosts.toHolds.spares spared)
        (spared.order _ hosts.known ▸ List.Subset.refl _)
      exact first.trans (ih result (first.hosts hosts) run)
  | request place interpret request next keeps called keepsOn called_ih ih =>
      obtain ⟨result, middle, performing, run⟩ := bind_eq_ok.mp run
      obtain ⟨seen, _, looked, performing⟩ := bind_eq_ok.mp performing
      obtain ⟨rfl, rfl⟩ := get_eq_ok.mp looked
      rw [if_pos hosts.inside] at performing
      -- Callbacks are smaller computations, and so may be trusted with their own generators.
      have confines (value : Value) : site.Confines (interpret value) :=
        fun part arguments _ _ _ hosts run => called_ih value part arguments hosts run
      have first := hosts.action keeps confines performing
      exact first.trans (ih result (first.hosts hosts) run)

/-- **A callback that keeps to the generator that it is called with** works properly. -/
theorem confines_of_keepsToPart {callback : Callback} (keeps : callback.KeepsToPart) :
    site.Confines callback :=
  fun part arguments _ _ _ hosts run => proceeds_of_keepsTo (keeps part arguments) hosts run

/-- A callback that keeps to the generator that it is called with is trusted. -/
theorem trusts_of_keepsToPart {callback : Callback} (keeps : callback.KeepsToPart) :
    site.Trusts callback :=
  (confines_of_keepsToPart keeps).trusts

/-! ## What is wired -/

/-- **Conditionals wire exactly what they should**, whatever their callbacks do with the generators of
the arms. -/
theorem Hosts.wires_conditional (hosts : site.Hosts before place)
    (unfinished : (before.generator place).isFinished = false) {condition given : Value}
    {thenBody : Callback} {elseBody : Option Callback} (keepsThen : thenBody.KeepsToPart)
    (keepsElse : ∀ body, elseBody = some body → body.KeepsToPart)
    (run : Generator.conditional place condition (some thenBody) elseBody given before =
      .ok value after) :
    site.Advances place before after ∧ ∃ diamond,
      site.WiresConditional place condition thenBody elseBody given before diamond after :=
  hosts.conditional unfinished (trusts_of_keepsToPart keepsThen)
    (fun body chosen => trusts_of_keepsToPart (keepsElse body chosen)) run

/-- **Loops wire exactly what they should**, whatever their callbacks do with the generators of the
parts. -/
theorem Hosts.wires_loop (hosts : site.Hosts before place)
    (unfinished : (before.generator place).isFinished = false) {initial given : Value}
    {parts : Generator.LoopParts} (keep : parts.KeepToParts)
    (run : Generator.loop place initial parts given before = .ok value after) :
    site.Advances place before after ∧ ∃ circuit,
      site.WiresLoop place initial parts given before circuit after ∧
        value = Generator.slotsValue circuit.slots :=
  hosts.loop unfinished (fun body chosen => trusts_of_keepsToPart (keep.body body chosen))
    (fun compare chosen => trusts_of_keepsToPart (keep.compare compare chosen))
    (fun increment chosen => trusts_of_keepsToPart (keep.increment increment chosen)) run

/-- The only function of `FunctionBody.oneFunction`, under construction. -/
def ofOneFunction : Construction :=
  ⟨⟨0, 0⟩, ⟨0, 0⟩, some ⟨⟨0, 0⟩, 0⟩⟩

/-- A callback that asks its generator for one operation. -/
def asking (verb : String) (positional : List Value) : Callback :=
  ⟨some 1, fun arguments =>
    match arguments with
    | .generator part :: _ =>
        (Request.operation verb positional []).perform (fun _ => ⟨none, fun _ => throw .tooDeep⟩) part
          >>= pure
    | _ => throw .missingAttribute⟩

/-- A callback that gives a value, whatever it is called with. -/
def giving (value : Value) : Callback :=
  ⟨none, fun _ => pure value⟩

/-- A callback that asks its generator to put no generator anywhere keeps to it. -/
theorem keepsToPart_asking {verb : String} {positional : List Value}
    (keeps : (Request.operation verb positional []).KeepsPositions) :
    (asking verb positional).KeepsToPart :=
  fun part _ => .request part _ _ _ keeps (fun _ part _ => .throw part _) fun value => .pure part value

/-- A callback that gives a value keeps to its generator. -/
theorem keepsToPart_giving (value : Value) : (giving value).KeepsToPart :=
  fun part _ => .pure part value

/-- The generator at the entry of the only function. -/
theorem hosts_ofOneFunction : ofOneFunction.Hosts FunctionBody.oneFunction 0 where
  isThere := rfl
  stands := rfl
  entry := rfl
  known := rfl
  entryInside entry begins := by
    cases begins
    exact Nat.zero_lt_one
  nodup := by decide
  ordered := by decide
  inside := by decide
  function := rfl
  standing block here := by
    cases here
    exact Nat.zero_lt_one

/-- Parts of a loop that is left to go on, with a body that goes on to the next turn by itself. -/
def turning : Generator.LoopParts :=
  ⟨some (giving (.truth true)), some (giving .none), some (asking "cont" [])⟩

/-- A conditional whose first arm returns and whose second one does nothing. -/
theorem wires_conditional_returning :
    ofOneFunction.Hosts FunctionBody.oneFunction 0 ∧
      (FunctionBody.oneFunction.generator 0).isFinished = false ∧
      (asking "ret" [.integer 1]).KeepsToPart ∧ (giving .none).KeepsToPart ∧
      ∃ value after diamond,
        Generator.conditional 0 (.truth true) (some (asking "ret" [.integer 1]))
            (some (giving .none)) .none FunctionBody.oneFunction = .ok value after ∧
          ofOneFunction.WiresConditional 0 (.truth true) (asking "ret" [.integer 1])
            (some (giving .none)) .none FunctionBody.oneFunction diamond after := by
  have keepsThen : (asking "ret" [.integer 1]).KeepsToPart :=
    keepsToPart_asking (by simp [Request.KeepsPositions])
  have keepsElse : (giving .none).KeepsToPart := keepsToPart_giving .none
  have succeeded : (Generator.conditional 0 (.truth true) (some (asking "ret" [.integer 1]))
      (some (giving .none)) .none).succeeds FunctionBody.oneFunction = true := by decide +kernel
  have unfinished : (FunctionBody.oneFunction.generator 0).isFinished = false := rfl
  obtain ⟨value, run⟩ := Build.ok_of_succeeds succeeded
  obtain ⟨-, diamond, wires⟩ := hosts_ofOneFunction.wires_conditional unfinished keepsThen
    (fun body chosen => Option.some.inj chosen ▸ keepsElse) run
  exact ⟨hosts_ofOneFunction, unfinished, keepsThen, keepsElse, value, _, diamond, run, wires⟩

/-- A loop with a slot and all parts. -/
theorem wires_loop_turning :
    ofOneFunction.Hosts FunctionBody.oneFunction 0 ∧
      (FunctionBody.oneFunction.generator 0).isFinished = false ∧ turning.KeepToParts ∧
      ∃ value after circuit,
        Generator.loop 0 (.integer 3) turning .none FunctionBody.oneFunction = .ok value after ∧
          ofOneFunction.WiresLoop 0 (.integer 3) turning .none FunctionBody.oneFunction circuit
            after := by
  have keep : turning.KeepToParts := by
    refine ⟨fun body chosen => ?_, fun compare chosen => ?_, fun increment chosen => ?_⟩
    · cases chosen
      exact keepsToPart_asking (by simp [Request.KeepsPositions])
    · cases chosen
      exact keepsToPart_giving (.truth true)
    · cases chosen
      exact keepsToPart_giving .none
  have succeeded : (Generator.loop 0 (.integer 3) turning .none).succeeds
      FunctionBody.oneFunction = true := by decide +kernel
  have unfinished : (FunctionBody.oneFunction.generator 0).isFinished = false := rfl
  obtain ⟨value, run⟩ := Build.ok_of_succeeds succeeded
  obtain ⟨-, circuit, wires, -⟩ := hosts_ofOneFunction.wires_loop unfinished keep run
  exact ⟨hosts_ofOneFunction, unfinished, keep, value, _, circuit, run, wires⟩

end Construction

end StructuredIR
