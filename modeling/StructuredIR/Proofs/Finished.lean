import StructuredIR.Proofs.Divisions

/-! # Finished generators

Once a generator is finished, what it is asked for adds nothing, whatever is called back.

* **`Request.sameCode_of_isFinished`** says so of every request that adds instructions or blocks.
* **`Generator.inert_of_isFinished`**: whatever operations it is asked for, one after the other, they
  give nothing and the whole world stays as it is. Only a quotient or remainder by what is known to
  be zero is refused still. -/

namespace StructuredIR

open Build (Leads)

/-- Nothing is behind the first terminator of a row. -/
def IsSealed (row : List Instruction) : Prop :=
  IsStraight row.dropLast

instance (row : List Instruction) : Decidable (IsStraight row) :=
  inferInstanceAs (Decidable (∀ instruction ∈ row, _))

instance (row : List Instruction) : Decidable (IsSealed row) :=
  inferInstanceAs (Decidable (IsStraight row.dropLast))

/-- A request for instructions or blocks: it neither deals with generators only, nor sets up shared
returns by asking for where they lead. -/
def Request.IsBuilding : Request → Prop
  | .inspect name => name ≠ "return_block"
  | .operation verb _ _ => verb ∉ ["finish", "position_at_end", "child"]

namespace Script

variable {place : GeneratorId} {interpret : Value → Callback} {verb : String}
  {positional : List Value} {named : Dictionary String Value}

/-- **Finished generators change no code**, whatever they are asked to build. -/
theorem idles_onGenerator?
    (building : (Request.operation verb positional named).IsBuilding) :
    Leads (Idles place)
      ((onGenerator? ⟨interpret, positional, named⟩ place verb).getD (throw .missingAttribute)) := by
  unfold onGenerator?
  cases numbers : onNumbers? ⟨interpret, positional, named⟩ place verb with
  | some action => exact idles_onNumbers? numbers
  | none =>
  cases types : onTypes? ⟨interpret, positional, named⟩ place verb with
  | some action => exact idles_onTypes? types
  | none =>
  cases memory : onMemory? ⟨interpret, positional, named⟩ place verb with
  | some action => exact idles_onMemory? memory
  | none =>
  cases blocks : onBlocks? ⟨interpret, positional, named⟩ place verb with
  | some action =>
      unfold onBlocks? at blocks
      split at blocks <;> cases blocks
      -- Operations that deal with generators only do not build, and all others ask first.
      all_goals first
        | exact absurd (by decide) building
        | exact Generator.idles_unlessFinished _
  | none =>
  cases functions : onFunctions? ⟨interpret, positional, named⟩ place verb with
  | some action =>
      unfold onFunctions? at functions
      split at functions <;> cases functions
      all_goals first
        | exact Generator.idles_unlessFinished _
        | exact Generator.leads_lookUpGlobal place _
  | none => exact Leads.throw _

/-- Looking at a generator changes no code, unless it is for where shared returns lead. -/
theorem sameCode_attributeOf {name : String} (other : name ≠ "return_block") :
    Leads SameCode (attributeOf (.generator place) name) := by
  refine Leads.get.bind fun world => ?_
  split
  next own known =>
    have known : generatorAttribute? world place name = some own := known
    unfold generatorAttribute? at known
    split at known
    all_goals cases known
    all_goals first
      | exact Leads.pure _
      | exact absurd rfl other
      | exact (Generator.leads_position place).bind fun _ => Leads.pure _
  next => exact Leads.pure _
  next => exact Leads.throw _

end Script

/-- **A finished generator adds nothing**: whatever it is asked to build, and whatever is called back,
the code is the same. -/
theorem Request.sameCode_of_isFinished {world : World} {place : GeneratorId} {request : Request}
    (finished : (world.generator place).isFinished = true) (building : request.IsBuilding)
    (interpret : Value → Callback) :
    SameCode world ((request.perform interpret place).after world) := by
  have idles : Leads (Idles place) (request.perform interpret place) := by
    refine Leads.get.bind fun seen => ?_
    split
    next =>
      cases request with
      | inspect name => exact (Script.sameCode_attributeOf building).weaken fun _ _ same _ => same
      | operation verb positional named => exact Script.idles_onGenerator? building
    next => exact Leads.throw _
  exact idles world finished

/-! ## Inertness -/

/-- A request for an operation that asks first whether the generator is finished, or marks it as
finished. -/
def Request.IsGuarded : Request → Prop
  | .inspect _ => False
  | .operation verb _ _ =>
      (MethodSignature.ofGenerator? verb).isSome ∧
        verb ∉ ["position_at_end", "child", "convert", "global_"]

/-- How a request of a finished generator comes out: nothing is given, but a divisor that is known to
be zero is refused. -/
def Request.idleOutcome : Request → Except Fault Value
  | .inspect _ => .ok .none
  | .operation verb positional named =>
      let divisor := (positional[1]? <|> Dictionary.get? named "divisor").getD .none
      if (verb = "div" ∨ verb = "rem") ∧ divisor.isStaticZero then
        .error (.rejected (.constantZero verb))
      else .ok .none

/-- What is done has an outcome that is known, and changes nothing, where a generator is finished. -/
def Generator.Rests (place : GeneratorId) (outcome : Except Fault Value)
    (action : Build Value) : Prop :=
  ∀ world : World, (world.generator place).isFinished = true →
    Script.attempt action world = .ok outcome world

namespace Generator

variable {place : GeneratorId}

/-- What gives something and changes nothing rests. -/
theorem Rests.of_ok {action : Build Value} {value : Value}
    (run : ∀ world : World, (world.generator place).isFinished = true →
      action world = .ok value world) :
    Rests place (.ok value) action := by
  intro world finished
  rw [Script.attempt_eq, run world finished]

/-- What is done unless a generator is finished rests. -/
theorem rests_unlessFinished (action : Build Value) :
    Rests place (.ok .none) (unlessFinished place action) :=
  .of_ok fun _ finished => unlessFinished_of_isFinished finished

/-- A finished generator is as it is after it is marked as finished. -/
theorem changeGenerator_of_isFinished {world : World}
    (finished : (world.generator place).isFinished = true) :
    world.changeGenerator place (fun generator => { generator with isFinished := true }) =
      world := by
  have same : world.generators.modify place
      (fun generator => { generator with isFinished := true }) = world.generators := by
    refine List.ext_getElem? fun index => ?_
    rw [List.getElem?_modify]
    by_cases here : place = index
    · subst here
      cases known : world.generators[place]? with
      | none => simp
      | some generator =>
          have already : generator.isFinished = true := by
            simpa only [World.generator, known, Option.getD_some] using finished
          simp only [if_true, Option.map_eq_map, Option.map_some, ← already]
    · simp [here]
  rw [World.changeGenerator, same]

/-- Marking a generator as finished rests. -/
theorem rests_finish : Rests place (.ok .none) (Script.noResult (finish place)) := by
  refine .of_ok fun world finished => ?_
  have marked : finish place world = .ok () world :=
    congrArg (EStateM.Result.ok ()) (changeGenerator_of_isFinished finished)
  exact Build.bind_eq_ok.mpr ⟨(), world, marked, rfl⟩

/-- What rests with either answer rests when it asks for a flag first. -/
theorem rests_flag (call : Script.Call) (position : Nat) (name : String) (fallback : Bool)
    {outcome : Except Fault Value} {next : Bool → Build Value}
    (rests : ∀ flag, Rests place outcome (next flag)) :
    Rests place outcome (call.flag position name fallback >>= next) := by
  intro world finished
  obtain ⟨flag, flagged⟩ : ∃ flag, call.flag position name fallback world = .ok flag world := by
    unfold Script.Call.flag
    cases call.value? position name with
    | none => exact ⟨fallback, rfl⟩
    | some value => exact ⟨world.isTruthy value, rfl⟩
  have whole : (call.flag position name fallback >>= next) world = next flag world := by
    simp only [bind, EStateM.bind, flagged]
  rw [Script.attempt_eq, whole, ← Script.attempt_eq]
  exact rests flag world finished

/-- A quotient or remainder rests, but a divisor that is known to be zero is refused. -/
theorem rests_divide (operation : Arithmetic) (dividend divisor : Value) (signed : Bool) :
    Rests place
      (if divisor.isStaticZero then .error (.rejected (.constantZero operation.text)) else .ok .none)
      (divide place operation dividend divisor signed) := by
  cases zero : divisor.isStaticZero with
  | true =>
      intro world _
      rw [Script.attempt_eq]
      simp only [divide, zero, if_true]
      rfl
  | false =>
      rw [divide_of_not_isStaticZero zero]
      exact rests_unlessFinished _

end Generator

/-- An operation that does not divide gives nothing. -/
theorem Request.idleOutcome_of_ne {verb : String} {positional : List Value}
    {named : Dictionary String Value} (quotient : verb ≠ "div") (remainder : verb ≠ "rem") :
    (Request.operation verb positional named).idleOutcome = .ok .none := by
  simp only [idleOutcome, quotient, remainder, false_or, false_and, if_false]

namespace Script

variable {place : GeneratorId} {interpret : Value → Callback} {verb : String}
  {positional : List Value} {named : Dictionary String Value} {action : Build Value}

/-- Operations on numbers rest. -/
theorem rests_onNumbers? (known : onNumbers? ⟨interpret, positional, named⟩ place verb = some action) :
    Generator.Rests place (Request.operation verb positional named).idleOutcome action := by
  unfold onNumbers? at known
  split at known <;> cases known
  case h_4 =>
    simpa [Request.idleOutcome, Arithmetic.text, Call.value, Call.value?, Call.named?] using
      Generator.rests_flag ⟨interpret, positional, named⟩ 2 "signed" true
        (Generator.rests_divide .div _ _)
  case h_5 =>
    simpa [Request.idleOutcome, Arithmetic.text, Call.value, Call.value?, Call.named?] using
      Generator.rests_flag ⟨interpret, positional, named⟩ 2 "signed" true
        (Generator.rests_divide .rem _ _)
  all_goals
    rw [Request.idleOutcome_of_ne (by decide) (by decide)]
    exact Generator.rests_unlessFinished _

/-- Conversions rest, apart from the one that looks up nothing but a type. -/
theorem rests_onTypes? (other : verb ≠ "convert")
    (known : onTypes? ⟨interpret, positional, named⟩ place verb = some action) :
    Generator.Rests place (Request.operation verb positional named).idleOutcome action := by
  unfold onTypes? at known
  split at known <;> cases known
  case h_1 => exact absurd rfl other
  all_goals
    rw [Request.idleOutcome_of_ne (by decide) (by decide)]
    first
      | exact Generator.rests_unlessFinished _
      | exact Generator.rests_flag _ _ _ _ fun _ => Generator.rests_unlessFinished _

/-- Operations on memory and aggregates rest. -/
theorem rests_onMemory? (known : onMemory? ⟨interpret, positional, named⟩ place verb = some action) :
    Generator.Rests place (Request.operation verb positional named).idleOutcome action := by
  unfold onMemory? at known
  split at known <;> cases known
  all_goals
    rw [Request.idleOutcome_of_ne (by decide) (by decide)]
    exact Generator.rests_unlessFinished _

/-- Operations on blocks rest, apart from those that put generators somewhere. -/
theorem rests_onBlocks? (other : verb ∉ ["position_at_end", "child"])
    (known : onBlocks? ⟨interpret, positional, named⟩ place verb = some action) :
    Generator.Rests place (Request.operation verb positional named).idleOutcome action := by
  unfold onBlocks? at known
  split at known <;> cases known
  case h_2 | h_3 => exact absurd (by decide) other
  all_goals
    rw [Request.idleOutcome_of_ne (by decide) (by decide)]
    first
      | exact Generator.rests_unlessFinished _
      | exact Generator.rests_finish

/-- Calls and returns rest. -/
theorem rests_onFunctions? (other : verb ≠ "global_")
    (known : onFunctions? ⟨interpret, positional, named⟩ place verb = some action) :
    Generator.Rests place (Request.operation verb positional named).idleOutcome action := by
  unfold onFunctions? at known
  split at known <;> cases known
  case h_2 => exact absurd rfl other
  all_goals
    rw [Request.idleOutcome_of_ne (by decide) (by decide)]
    exact Generator.rests_unlessFinished _

/-- Every operation that generators have is known. -/
theorem isSome_onGenerator? (call : Call) (place : GeneratorId)
    (known : (MethodSignature.ofGenerator? verb).isSome) : (onGenerator? call place verb).isSome := by
  unfold MethodSignature.ofGenerator? at known
  split at known
  all_goals first
    | rfl
    | cases known

/-- Guarded operations rest. -/
theorem rests_onGenerator? (guarded : (Request.operation verb positional named).IsGuarded)
    (known : onGenerator? ⟨interpret, positional, named⟩ place verb = some action) :
    Generator.Rests place (Request.operation verb positional named).idleOutcome action := by
  obtain ⟨-, guarded⟩ := guarded
  simp only [List.mem_cons, List.not_mem_nil, or_false, not_or] at guarded
  obtain ⟨position, child, convert, global⟩ := guarded
  simp only [onGenerator?, Option.orElse_eq_orElse, Option.orElse_eq_or, Option.or_eq_some_iff]
    at known
  rcases known with numbers | ⟨-, types | ⟨-, memory | ⟨-, blocks | ⟨-, functions⟩⟩⟩⟩
  · exact rests_onNumbers? numbers
  · exact rests_onTypes? convert types
  · exact rests_onMemory? memory
  · exact rests_onBlocks? (by simp [position, child]) blocks
  · exact rests_onFunctions? global functions

end Script

/-- **What a finished generator does for one request**: it gives nothing and changes nothing, whatever
the request is given and whatever it would call. -/
theorem Request.rests_perform {place : GeneratorId} {request : Request} (guarded : request.IsGuarded)
    (interpret : Value → Callback) :
    Generator.Rests place request.idleOutcome (request.perform interpret place) := by
  intro world finished
  have isThere : place < world.generators.length := by
    by_contra outside
    rw [World.generator, List.getElem?_eq_none (Nat.le_of_not_lt outside)] at finished
    cases finished
  have inside : request.perform interpret place world = request.action interpret place world := by
    rw [perform, Build.run_get_bind, if_pos isThere]
  rw [Script.attempt_eq, inside, ← Script.attempt_eq]
  cases request with
  | inspect name => exact guarded.elim
  | operation verb positional named =>
  obtain ⟨found, known⟩ := Option.isSome_iff_exists.mp
    (Script.isSome_onGenerator? ⟨interpret, positional, named⟩ place guarded.1)
  rw [action, known]
  exact Script.rests_onGenerator? guarded known world finished

/-- **What a finished generator does when one of its operations is called as a value**: the same as for
a request, if the operation takes as many arguments. -/
theorem Script.rests_runMethod {place : GeneratorId} {name : String} {arguments : List Value}
    {signature : MethodSignature} (guarded : (Request.operation name arguments []).IsGuarded)
    (known : MethodSignature.ofGenerator? name = some signature)
    (accepted : signature.accepts arguments.length = true) (interpret : Value → Callback) :
    Generator.Rests place (Request.operation name arguments []).idleOutcome
      (runMethod interpret (.generator place) name arguments) := by
  intro world finished
  obtain ⟨found, acts⟩ := Option.isSome_iff_exists.mp
    (isSome_onGenerator? ⟨interpret, arguments, []⟩ place guarded.1)
  have rests := rests_onGenerator? guarded acts world finished
  cases idle : Generator.isIdle name with
  | true =>
      have outcome : (Request.operation name arguments []).idleOutcome = .ok .none := by
        refine Request.idleOutcome_of_ne ?_ ?_ <;>
        · rintro rfl
          exact absurd idle (by decide)
      have run : runMethod interpret (.generator place) name arguments world = .ok .none world := by
        rw [runMethod, Build.run_get_bind]
        simp only [finished, idle, Bool.and_self, if_true]
        rfl
      rw [attempt_eq, run, outcome]
  | false =>
      have run : runMethod interpret (.generator place) name arguments world = found world := by
        rw [runMethod, Build.run_get_bind]
        simp only [idle, Bool.and_false, Bool.false_eq_true, if_false, onTarget?, acts, known,
          Value.methodSignature?, accepted, if_true]
      rw [attempt_eq, run, ← attempt_eq]
      exact rests

/-- **A finished generator is inert**: however many operations it is asked for, each comes out as if
nothing was asked, except that a divisor that is known to be zero is refused. In the end the world is
the same, so no callback had a say. -/
theorem Generator.inert_of_isFinished {world : World} {place : GeneratorId}
    (finished : (world.generator place).isFinished = true)
    (asked : List ((Value → Callback) × Request)) (guarded : ∀ call ∈ asked, call.2.IsGuarded) :
    (asked.mapM fun call => Script.attempt (call.2.perform call.1 place)) world =
      .ok (asked.map fun call => call.2.idleOutcome) world := by
  induction asked with
  | nil => rfl
  | cons call rest ih =>
      have first := Request.rests_perform (guarded call List.mem_cons_self) call.1 world finished
      have others := ih fun other there => guarded other (List.mem_cons_of_mem _ there)
      rw [List.mapM_cons]
      exact Build.bind_eq_ok.mpr ⟨_, world, first, Build.bind_eq_ok.mpr ⟨_, world, others, rfl⟩⟩

/-- A generator that has returned is asked for a slot of what is no type, for a conditional whose arm
would fail, for a call of what nothing is called, and for a quotient by zero. -/
theorem Generator.inert_of_twoReturns :
    ((FunctionBody.twoReturns.run.after FunctionBody.oneFunction).generator 0).isFinished = true ∧
      ([Request.operation "alloca" [.text "no type"] [],
          .operation "cond" [.text "no condition", .truth true] [],
          .operation "call" [.text "nothing", .integer 1] [],
          .operation "div" [.integer 1, .integer 0] []].mapM fun request =>
        Script.attempt (request.perform (fun _ => ⟨none, fun _ => throw .missingKey⟩) 0))
          (FunctionBody.twoReturns.run.after FunctionBody.oneFunction) =
        .ok [.ok .none, .ok .none, .ok .none, .error (.rejected (.constantZero "div"))]
          (FunctionBody.twoReturns.run.after FunctionBody.oneFunction) := by
  have finished : ((FunctionBody.twoReturns.run.after FunctionBody.oneFunction).generator
      0).isFinished = true := by
    decide +kernel
  have inert := inert_of_isFinished finished
    ([Request.operation "alloca" [.text "no type"] [],
      .operation "cond" [.text "no condition", .truth true] [],
      .operation "call" [.text "nothing", .integer 1] [],
      .operation "div" [.integer 1, .integer 0] []].map fun request =>
        (fun _ => ⟨none, fun _ => throw .missingKey⟩, request)) (by
      intro call there
      simp only [List.map_cons, List.map_nil, List.mem_cons, List.not_mem_nil, or_false] at there
      rcases there with rfl | rfl | rfl | rfl <;>
        exact ⟨by decide, by decide⟩)
  exact ⟨finished, inert⟩

end StructuredIR
