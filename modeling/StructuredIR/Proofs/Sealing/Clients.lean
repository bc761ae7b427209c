import StructuredIR.Proofs.Library.Refusals
import StructuredIR.Proofs.Sealing.Loops
import StructuredIR.Proofs.Structured.Functions

/-! # Clients that keep order

A client keeps order among the generators that are free if it asks no others, and if it hands on the
failure of what has called it back: a loop that fails leaves its generator behind a terminator, where it
is not finished.

* **`Client.minding`** is a client that minds this: it does what another client does, but ends where this
  one would ask a generator that is not free, put a generator somewhere by hand, or go on behind such a
  failure. While a loop is built, its generator is not free.
* **`Request.comesTo_perform`**: what is asked of a free generator keeps order, if what it calls back does.
* **`Client.comesTo_minding`**: clients that mind this keep order, up to each world that they visit.
* **`Library.isSealed_define`**: whatever body is defined by a client that minds this, nothing ever is
  behind a terminator.
* **`FunctionBody.behind_terminator`**: a generator is not finished while a loop of it is built, although
  its block has ended by then. What it is asked for by the body of the loop is added behind the
  terminator. -/

namespace StructuredIR

open Build (Leads ComesTo bind_eq_ok bind_eq_error get_eq_ok modify_eq_ok pure_eq_ok)
open Generator (blockValue allBut)

/-! ## Minding -/

namespace Request

/-- Whether a request may call something back. -/
def callsBack : Request → Bool
  | .inspect _ => false
  | .operation verb _ _ => verb ∈ ["block", "cond", "lp", "call"]

/-- Whether a request keeps to the generators that are free, and puts none of them somewhere by hand.
Looking at a generator is no matter, unless it is for where shared returns lead. -/
def minds (free : GeneratorId → Bool) (place : GeneratorId) : Request → Bool
  | .inspect name => free place || name != "return_block"
  | .operation verb _ _ => free place && verb ∉ ["position_at_end", "child"]

/-- The generators that are free for what a request calls back. -/
def freeMeanwhile (free : GeneratorId → Bool) (place : GeneratorId) : Request → GeneratorId → Bool
  | .operation "lp" _ _ => allBut free place
  | _ => free

/-- **What a request leaves behind that fails**: nothing is behind a terminator, and order is kept unless
something may have been called back. -/
structure Fails (request : Request) (free : GeneratorId → Bool) (world after : World) : Prop where
  /-- Nothing is behind a terminator. -/
  isSealed : after.IsSealed
  /-- Order is kept if nothing is called back. -/
  keeps : request.callsBack = false → KeepsOrder free world after

end Request

/-- **A client that minds the free generators**: it does what another client does, but ends with a fault
where this one would make a request that does not mind them, and with the fault of a request that fails
and may have called something back. -/
def Client.minding : Client → (GeneratorId → Bool) → Client
  | done outcome, _ => done outcome
  | observe next, free => observe fun world => (next world).minding free
  | perform place request meaning next, free =>
      if request.minds free place then
        perform place request
          (fun value arguments => (meaning value arguments).minding (request.freeMeanwhile free place))
          fun
          | .ok value => (next (.ok value)).minding free
          | .error fault =>
              if request.callsBack then done (.error fault) else (next (.error fault)).minding free
      else done (.error .tooDeep)

/-! ## Requests -/

namespace Generator

variable {free : GeneratorId → Bool} {world : World} {place : GeneratorId}
  {interpret : Value → Callback} (orderly : world.IsOrderly free) (isFree : free place = true)
  (inside : place < world.generators.length) (keeps : ∀ value, (interpret value).KeepsOrder free)

include orderly in
/-- Where no code differs, order is kept. -/
theorem comesTo_sameCode {Result : Type} {action : Build Result} (same : Leads SameCode action) :
    ComesTo action world (fun _ after => KeepsOrder free world after) (KeepsOrder free world) :=
  .of_after ((EndsNothing.of_sameCode (same world)).keepsOrder orderly)

include orderly isFree inside in
/-- What is emitted where a generator is that is not finished keeps order. -/
theorem comesTo_emits (unfinished : (world.generator place).isFinished = false) {Result : Type}
    {action : Build Result} (emits : Leads (Emits place) action) :
    ComesTo action world (fun _ after => KeepsOrder free world after) World.IsSealed :=
  (ComesTo.of_after ((Emits.endsNothing orderly isFree inside (emits world)
    unfinished).keepsOrder orderly)).imp (fun _ _ => id) fun _ kept => kept.orderly.isSealed

include orderly keeps in
/-- **Fragments keep order** if their bodies do. -/
theorem comesTo_expand (fragment : FragmentId) (target : Value) (arguments : List Value) :
    ComesTo (expand interpret fragment target arguments) world
      (fun _ after => KeepsOrder free world after) World.IsSealed := by
  refine .get ?_
  dsimp only
  split
  · exact keeps _ world _ orderly
  · split
    · exact keeps _ world _ orderly
    · exact (comesTo_sameCode orderly ((Build.leads_plain _).bind fun _ => Leads.reject _)).imp
        (fun _ _ => id) fun _ kept => kept.orderly.isSealed

include orderly isFree inside keeps

/-- **What a name stands for keeps order** if it is called. -/
theorem comesTo_callName (unfinished : (world.generator place).isFinished = false) (name : Phrase)
    (arguments : List Value) :
    ComesTo (callName interpret place name arguments) world
      (fun _ after => KeepsOrder free world after) World.IsSealed := by
  unfold callName library
  simp only [bind_assoc, pure_bind]
  refine .get (.get ?_)
  split
  · exact comesTo_expand orderly keeps _ _ arguments
  · exact comesTo_emits orderly isFree inside unfinished
      ((leads_callFunction place _ arguments).bind fun _ => Leads.pure _)
  · exact .pure orderly.keeps
  · exact .get (.throw orderly.isSealed)

/-- **Calls keep order** if what they call back does. -/
theorem comesTo_call (callee : Value) (arguments : List Value) :
    ComesTo (call interpret place callee arguments) world
      (fun _ after => KeepsOrder free world after) World.IsSealed := by
  refine .unlessFinished (fun _ => orderly.keeps) fun unfinished => ?_
  split
  · exact comesTo_emits orderly isFree inside unfinished
      ((leads_callFunction place _ arguments).bind fun _ => Leads.pure _)
  · exact comesTo_emits orderly isFree inside unfinished (leads_callOperand place _ arguments)
  · exact comesTo_callName orderly isFree inside keeps unfinished _ arguments
  · exact .throw orderly.isSealed

end Generator

namespace Script

variable {free : GeneratorId → Bool} {world : World} {place : GeneratorId}
  {interpret : Value → Callback} {verb : String} {positional : List Value}
  {named : Dictionary String Value} {action : Build Value}

/-- An argument that is called keeps order if all values do. -/
theorem Call.keepsOrder {free : GeneratorId → Bool} {call : Call}
    (keeps : ∀ value, (call.interpret value).KeepsOrder free) (position : Nat) (name : String) :
    ∀ callback ∈ call.callback? position name, callback.KeepsOrder free := by
  intro callback chosen
  unfold Call.callback? Call.callbackOf at chosen
  split at chosen
  · cases chosen
  · cases chosen
    exact keeps _

section

variable (orderly : world.IsOrderly free) (isFree : free place = true)
  (inside : place < world.generators.length)
  (minds : (Request.operation verb positional named).minds free place = true)
  (keeps : ∀ value, (interpret value).KeepsOrder
    ((Request.operation verb positional named).freeMeanwhile free place))

/-- A request that calls nothing back leaves order behind if it keeps it in any case. -/
theorem comesTo_kept
    (kept : ComesTo action world (fun _ after => KeepsOrder free world after)
      (KeepsOrder free world)) (request : Request) :
    ComesTo action world (fun _ after => KeepsOrder free world after)
      (request.Fails free world) :=
  kept.imp (fun _ _ => id) fun _ kept => ⟨kept.orderly.isSealed, fun _ => kept⟩

/-- A request that calls something back may leave less behind if it fails. -/
theorem comesTo_called
    (kept : ComesTo action world (fun _ after => KeepsOrder free world after) World.IsSealed)
    {request : Request} (callsBack : request.callsBack = true) :
    ComesTo action world (fun _ after => KeepsOrder free world after)
      (request.Fails free world) :=
  kept.imp (fun _ _ => id) fun _ isSealed => ⟨isSealed, fun nothing => by
    rw [callsBack] at nothing
    cases nothing⟩

include orderly isFree inside minds keeps in
/-- **Operations on blocks keep order.** -/
theorem comesTo_onBlocks?
    (known : onBlocks? ⟨interpret, positional, named⟩ place verb = some action) :
    ComesTo action world (fun _ after => KeepsOrder free world after)
      ((Request.operation verb positional named).Fails free world) := by
  unfold onBlocks? at known
  split at known <;> cases known
  · exact comesTo_kept (.through (fun _ after => KeepsOrder free world after)
      (.modify (orderly.finish isFree inside)) fun _ _ kept => .pure kept) _
  · exact absurd (Bool.and_eq_true_iff.mp minds).2 (by decide)
  · exact absurd (Bool.and_eq_true_iff.mp minds).2 (by decide)
  · exact comesTo_called (Generator.comesTo_openBlock orderly isFree inside _
      (Call.keepsOrder keeps 1 "body")) rfl
  · exact comesTo_kept (Generator.comesTo_branch orderly isFree inside _) _
  · exact comesTo_kept (Generator.comesTo_leaveLoop orderly isFree inside) _
  · exact comesTo_kept (Generator.comesTo_nextTurn orderly isFree inside) _
  · exact comesTo_called (Generator.comesTo_conditional orderly isFree inside _ _
      (Call.keepsOrder keeps 1 "then_body") (Call.keepsOrder keeps 2 "else_body")) rfl
  · refine comesTo_called (Generator.comesTo_loop orderly isFree inside _ _
      fun callback member => ?_) rfl
    rcases List.mem_append.mp member with first | increment
    · rcases List.mem_append.mp first with body | compare
      · exact Call.keepsOrder keeps 4 "body" callback (Option.mem_toList.mp body)
      · exact Call.keepsOrder keeps 1 "compare" callback (Option.mem_toList.mp compare)
    · exact Call.keepsOrder keeps 2 "increment" callback (Option.mem_toList.mp increment)

include orderly isFree inside keeps in
/-- **Calls and returns keep order.** -/
theorem comesTo_onFunctions?
    (known : onFunctions? ⟨interpret, positional, named⟩ place verb = some action) :
    ComesTo action world (fun _ after => KeepsOrder free world after)
      ((Request.operation verb positional named).Fails free world) := by
  unfold onFunctions? at known
  split at known <;> cases known
  · exact comesTo_called (Generator.comesTo_call orderly isFree inside keeps _ _) rfl
  · exact comesTo_kept (Generator.comesTo_sameCode orderly (Generator.leads_lookUpGlobal place _)) _
  · exact comesTo_kept (Generator.comesTo_returnShared orderly isFree inside _) _
  · exact comesTo_kept (Generator.comesTo_returnIf orderly isFree inside _ _ _) _
  · exact comesTo_kept (Generator.comesTo_returnDirectly orderly isFree inside _) _
  · exact comesTo_kept (Generator.comesTo_presetReturn orderly isFree inside _) _

include orderly isFree inside minds keeps in
/-- **All operations of a free generator keep order.** -/
theorem comesTo_onGenerator? :
    ComesTo ((onGenerator? ⟨interpret, positional, named⟩ place verb).getD
        (throw .missingAttribute)) world
      (fun _ after => KeepsOrder free world after)
      ((Request.operation verb positional named).Fails free world) := by
  have straight {action : Build Value} (emits : Leads (Emits place) action)
      (idles : Leads (Idles place) action) :
      ComesTo action world (fun _ after => KeepsOrder free world after)
        ((Request.operation verb positional named).Fails free world) :=
    comesTo_kept (.of_after (orderly.straight isFree inside emits idles)) _
  unfold onGenerator?
  cases numbers : onNumbers? ⟨interpret, positional, named⟩ place verb with
  | some action => exact straight (leads_onNumbers? numbers) (idles_onNumbers? numbers)
  | none =>
  cases types : onTypes? ⟨interpret, positional, named⟩ place verb with
  | some action => exact straight (leads_onTypes? types) (idles_onTypes? types)
  | none =>
  cases memory : onMemory? ⟨interpret, positional, named⟩ place verb with
  | some action => exact straight (leads_onMemory? memory) (idles_onMemory? memory)
  | none =>
  cases blocks : onBlocks? ⟨interpret, positional, named⟩ place verb with
  | some action => exact comesTo_onBlocks? orderly isFree inside minds keeps blocks
  | none =>
  cases functions : onFunctions? ⟨interpret, positional, named⟩ place verb with
  | some action => exact comesTo_onFunctions? orderly isFree inside keeps functions
  | none => exact comesTo_kept (.throw orderly.keeps) _

end

/-- **Looking at a generator keeps order**, also if it sets up shared returns. -/
theorem comesTo_attributeOf (orderly : world.IsOrderly free)
    (inside : place < world.generators.length) {name : String}
    (minds : (Request.inspect name).minds free place = true) :
    ComesTo (attributeOf (.generator place) name) world
      (fun _ after => KeepsOrder free world after) (KeepsOrder free world) := by
  by_cases sharing : name = "return_block"
  · subst sharing
    have isFree : free place = true := by simpa [Request.minds] using minds
    exact .get ((ComesTo.of_after ((Generator.endsNothing_setUpReturn orderly isFree
      inside).keepsOrder orderly)).bind fun _ _ kept => .pure kept)
  · exact Generator.comesTo_sameCode orderly (sameCode_attributeOf sharing)

end Script

/-- **What minds the free generators keeps order**, as long as what is called back does. -/
theorem Request.comesTo_perform {free : GeneratorId → Bool} {world : World} {place : GeneratorId}
    {request : Request} {interpret : Value → Callback} (orderly : world.IsOrderly free)
    (minds : request.minds free place = true)
    (keeps : ∀ value, (interpret value).KeepsOrder (request.freeMeanwhile free place)) :
    ComesTo (request.perform interpret place) world (fun _ after => KeepsOrder free world after)
      (request.Fails free world) := by
  refine .get ?_
  split
  next inside =>
    cases request with
    | inspect name => exact Script.comesTo_kept (Script.comesTo_attributeOf orderly inside minds) _
    | operation verb positional named =>
        have isFree := (Bool.and_eq_true_iff.mp minds).1
        exact Script.comesTo_onGenerator? orderly isFree inside minds keeps
  next => exact Script.comesTo_kept (.throw orderly.keeps) _

/-! ## Clients -/

/-- An attempt has what it comes to as its outcome. -/
theorem Build.ComesTo.attempt {Result : Type} {step : Build Result} {world : World}
    {gives : Result → World → Prop} {fails missing : World → Prop}
    (comes : ComesTo step world gives fails) :
    ComesTo (Script.attempt step) world (fun outcome after =>
      (∃ value, outcome = .ok value ∧ gives value after) ∨
        ∃ fault, outcome = .error fault ∧ fails after) missing := by
  refine ⟨fun outcome final run => ?_, fun fault final run => ?_⟩
  · rw [Script.attempt_eq] at run
    cases stepped : step world with
    | ok value middle =>
        rw [stepped] at run
        cases run
        exact .inl ⟨value, rfl, comes.gives value _ stepped⟩
    | error fault middle =>
        rw [stepped] at run
        cases run
        exact .inr ⟨fault, rfl, comes.fails fault _ stepped⟩
  · rw [Script.attempt_eq] at run
    cases stepped : step world <;>
    · rw [stepped] at run
      cases run

namespace Client

/-- A client that is held up leaves the world as it is. -/
theorem comesTo_upTo {stop : World → Bool} {step : Client} {world : World}
    {gives : Value → World → Prop} {fails : World → Prop} (missing : fails world)
    (rest : ComesTo step.run world gives fails) :
    ComesTo (observe fun world => if stop world then done (.error .tooDeep) else step).run world gives
      fails := by
  refine .get ?_
  dsimp only
  split
  · exact .throw missing
  · exact rest

/-- **Clients that mind the free generators keep order**, up to each world that they visit. If they fail,
nothing is behind a terminator all the same. -/
theorem comesTo_minding (client : Client) (stop : World → Bool) (free : GeneratorId → Bool)
    {world : World} (orderly : world.IsOrderly free) :
    ComesTo ((client.minding free).upTo stop).run world (fun _ after => KeepsOrder free world after)
      World.IsSealed := by
  induction client generalizing free world with
  | done outcome =>
      refine comesTo_upTo orderly.isSealed ?_
      cases outcome with
      | ok value => exact .pure orderly.keeps
      | error fault => exact .throw orderly.isSealed
  | observe next ih =>
      refine .get ?_
      dsimp only
      split
      · exact .throw orderly.isSealed
      · exact ih world free orderly
  | perform place request meaning next meaning_ih next_ih =>
      unfold minding
      split
      next minds =>
        refine comesTo_upTo orderly.isSealed ?_
        -- What is called back minds the generators that are free meanwhile.
        have keeps (value : Value) : (calls (fun value arguments => ((meaning value arguments).minding
            (request.freeMeanwhile free place)).upTo stop) value).KeepsOrder
              (request.freeMeanwhile free place) :=
          fun _ arguments => meaning_ih value arguments (request.freeMeanwhile free place)
        refine (request.comesTo_perform orderly minds keeps).attempt.bind ?_
        rintro _ middle (⟨value, rfl, kept⟩ | ⟨fault, rfl, failed⟩)
        · exact (next_ih (.ok value) free kept.orderly).imp
            (fun _ _ later => kept.trans later fun _ => id) fun _ => id
        · dsimp only
          split
          next => exact comesTo_upTo failed.isSealed (.throw failed.isSealed)
          next nothing =>
            -- Nothing has been called back, so that order is kept and the client may go on.
            have kept := failed.keeps (Bool.eq_false_iff.mpr nothing)
            exact (next_ih (.error fault) free kept.orderly).imp
              (fun _ _ later => kept.trans later fun _ => id) fun _ => id
      next => exact comesTo_upTo orderly.isSealed (.throw orderly.isSealed)

end Client

/-! ## Bodies of functions -/

/-- None of the generators of a world is free, but those that come up are. -/
def World.freeSince (world : World) : GeneratorId → Bool :=
  fun place => world.generators.length ≤ place

/-- Where none of the generators is free, they are in order. -/
theorem World.IsSealed.isOrderly {world : World} (isSealed : world.IsSealed) :
    world.IsOrderly world.freeSince := by
  have none {place : GeneratorId} (isFree : world.freeSince place = true)
      (inside : place < world.generators.length) : False :=
    Nat.not_lt.mpr (of_decide_eq_true isFree) inside
  exact
    { isSealed := isSealed
      fresh := fun _ beyond => decide_eq_true beyond
      stands := fun _ isFree inside => (none isFree inside).elim
      standing := fun _ _ isFree inside => (none isFree inside).elim
      opened := fun _ _ works => (none works.isFree works.inside).elim
      apart := fun _ _ _ works => (none works.isFree works.inside).elim }

/-- **The first generator of a function** is at its entry, which is new. -/
theorem Generator.comesTo_atEntry {world : World} {reference : FunctionRef} {entry : BlockRef}
    (isSealed : world.IsSealed) (hosts : world.Hosts reference)
    (begins : (world.function reference).entry = some entry) (has : world.Has entry)
    (blank : world.row entry = []) (fails : World → Prop) :
    ComesTo (atEntry reference) world (fun _ begun => begun.IsOrderly world.freeSince) fails := by
  have since : OrderSince world.freeSince (fun _ => False) (fun _ => False) world world :=
    .refl isSealed.isOrderly fun _ => False.elim
  have vacant : IsVacant world.freeSince (fun _ => False) world world entry := by
    refine ⟨has, ?_, id, fun place works => ?_, fun place isFree inside => ?_⟩
    · rw [World.isTerminated_eq, blank]
      rfl
    · exact Nat.not_lt.mpr (of_decide_eq_true works.isFree) works.inside
    · exact absurd inside (Nat.not_lt.mpr (of_decide_eq_true isFree))
  refine .get ?_
  rw [entryValue, begins]
  exact .get (.through (fun _ begun => begun.IsOrderly world.freeSince)
    (.modify (since.join vacant rfl hosts).orderly) fun _ _ orderly => .pure orderly)

namespace Library

variable {place : LibraryId} {parameters result : Value} {world : World}

/-- No block that was there changes when a function is declared. -/
theorem row_declareFunction {name : Name} {symbolName : Build Value} {visibility : Visibility}
    {after : World} {reference : FunctionRef} (inside : place < world.libraries.length)
    (naming : Leads SameBare symbolName)
    (run : declareFunction place name parameters result symbolName visibility false world =
      .ok reference after) (block : BlockRef) : after.row block = world.row block := by
  obtain ⟨_, _, _, named, _, created, same, creating, entering⟩ := declareFunction_ok naming run
  have length : named.libraries.length = world.libraries.length := (same.noted place).length
  obtain ⟨symbol, rfl, -, -, -, -, there, adds⟩ := Function.create_ok (length ▸ inside) creating
  have still : symbol.owner < created.libraries.length := by
    by_contra beyond
    rw [World.routine?, World.library_of_length_le created (Nat.le_of_not_lt beyond)] at there
    cases there
  obtain ⟨-, -, -, routines⟩ := enterFunction_ok still entering
  rw [World.row_congr (routines block.routine), adds.row, same.sameCode.row]

/-- **A function that is declared** has an entry in which nothing is. -/
theorem comesTo_declareFunction {name : Name} {symbolName : Build Value} {visibility : Visibility}
    (isSealed : world.IsSealed) (inside : place < world.libraries.length)
    (naming : Leads SameBare symbolName) :
    ComesTo (declareFunction place name parameters result symbolName visibility false) world
      (fun reference after => after.IsSealed ∧ after.generators = world.generators ∧
        after.Hosts reference ∧ ∃ entry, (after.function reference).entry = some entry ∧
          after.Has entry ∧ after.row entry = []) World.IsSealed := by
  refine ⟨fun reference after run => ?_, fun fault after run => ?_⟩
  · obtain ⟨generators, symbol, type, starts⟩ := declareFunction_starts inside naming run
    have rows := row_declareFunction inside naming run
    have there := starts.tidy.result
    rw [← starts.tidy.stands] at there
    refine ⟨fun block => rows block ▸ isSealed block, generators, ?_, _, starts.tidy.entry,
      starts.tidy.entryInside.known, ?_⟩
    · rw [World.Hosts, ← Option.isSome_map (f := Routine.result)]
      exact there ▸ rfl
    · rw [rows]
      exact World.row_of_blockCount_le world (Nat.le_refl _)
  · have same : SameBare world after :=
      failsIn_declareFunction place name parameters result naming visibility false _ _ _ run
    exact fun block => same.sameCode.row block ▸ isSealed block

/-- **A body that keeps order adds nothing behind a terminator.** -/
theorem isSealed_define_of_keepsOrder {callback : Callback} (isSealed : world.IsSealed)
    (inside : place < world.libraries.length) (keeps : callback.KeepsOrder world.freeSince)
    (name : Value) :
    ((define place name parameters result (some callback)).after world).IsSealed := by
  suffices comes : ComesTo (define place name parameters result (some callback)) world
      (fun _ after => after.IsSealed) World.IsSealed from comes.after
  have sealedStill {named : World} (same : SameBare world named) : named.IsSealed :=
    fun block => same.sameCode.row block ▸ isSealed block
  refine ((ComesTo.of_leads (Build.leads_nameOf name : Leads SameBare _)).imp (fun _ _ => id)
    fun _ same => sealedStill same).bind fun name named same => .get ?_
  have length : named.libraries.length = world.libraries.length := (same.noted place).length
  refine (comesTo_declareFunction (sealedStill same) (length ▸ inside)
    (leads_symbolName _ _)).bind ?_
  rintro reference declared ⟨isSealed, generators, hosts, entry, begins, has, blank⟩
  have free : declared.freeSince = world.freeSince :=
    congrArg (fun generators : List Generator => fun place => decide (generators.length ≤ place))
      (generators.trans same.sameCode.generators)
  refine (Generator.comesTo_atEntry isSealed hosts begins has blank _).bind
    fun generator begun orderly => ?_
  exact ((keeps begun _ (free ▸ orderly)).imp (fun _ _ kept => kept.orderly.isSealed)
    fun _ => id).bind fun _ _ kept => .pure kept

/-- **Nothing is ever behind a terminator** of a function whose body is built by a client that minds the
free generators, in whichever world the client is in charge. -/
theorem isSealed_define {client : List Value → Client} (isSealed : world.IsSealed)
    (inside : place < world.libraries.length) (name : Value) (arity? : Option Nat)
    (stop : World → Bool) :
    ((define place name parameters result (some ⟨arity?, fun arguments =>
      (((client arguments).minding world.freeSince).upTo stop).run⟩)).after world).IsSealed :=
  isSealed_define_of_keepsOrder isSealed inside
    (fun _ arguments orderly => (client arguments).comesTo_minding stop world.freeSince orderly) name

end Library

/-- A client that goes back and forth among generators: it opens a block, begins a conditional whose arm
asks the generator around it for a slot before it returns, and then returns in both of the others. -/
def Client.mingling : List Value → Client
  | [.generator place] =>
      let returning (number : Int) : List Value → Client :=
        single (fun _ => .operation "ret" [.integer number] []) fun _ => done (.ok .none)
      perform place (.operation "block" [.text "beside"] []) (fun _ => returning 0) fun
        | .ok beside =>
            perform place (.operation "cond" [.truth true, .text "then"] [])
              (fun _ arm =>
                perform place (.operation "alloca" [.type (.int 32)] []) (fun _ => returning 0)
                  fun _ => returning 1 arm)
              fun _ => perform place (.operation "ret" [.integer 2] []) (fun _ => returning 0)
                fun _ => returning 3 [beside]
        | .error fault => done (.error fault)
  | _ => done (.ok .none)

/-- The definition of a function by such a client, which minds the free generators. -/
def Library.defineMingling : Build FunctionRef :=
  define 0 (.text "f") (.tuple []) (.type (.int 32)) (some ⟨none, fun arguments =>
    (((Client.mingling arguments).minding World.oneLibrary.freeSince).upTo fun _ => false).run⟩)

/-- The function is defined, its generators are finished, and nothing is behind a terminator. -/
theorem Library.isSealed_mingling :
    defineMingling.succeeds .oneLibrary = true ∧
      (defineMingling.after .oneLibrary).generators.map Generator.isFinished = [true, true, true] ∧
        World.oneLibrary.IsSealed ∧ 0 < World.oneLibrary.libraries.length ∧
          (defineMingling.after .oneLibrary).IsSealed := by
  have isSealed : World.oneLibrary.IsSealed := fun block => by
    rw [World.row_of_blockCount_le _ ((World.noBlocks_oneLibrary block.routine).1 ▸ Nat.zero_le _)]
    exact IsStraight.nil
  exact ⟨by decide +kernel, by decide +kernel, isSealed, by decide,
    isSealed_define isSealed (by decide) _ _ _⟩

namespace FunctionBody

/-- A client that begins a loop. The body of the loop asks the generator around the loop for a
slot. -/
def slotInLoop : Client :=
  .perform 0 (.operation "lp" [] [("body", .truth true)])
    (fun _ _ => .perform 0 (.operation "alloca" [.type (.int 32)] [])
      (fun _ _ => .done (.ok .none)) .done) .done

/-- **Behind a terminator**: the block in front of a loop has ended before the loop is built, but its
generator is not finished, so what the body of the loop asks it for is added there. -/
theorem behind_terminator :
    oneFunction.row onlyBody.entry = [] ∧
      slotInLoop.run.succeeds oneFunction = true ∧
        ¬ IsSealed ((slotInLoop.run.after oneFunction).row onlyBody.entry) :=
  ⟨rfl, by decide +kernel, by decide +kernel⟩

end FunctionBody

end StructuredIR
