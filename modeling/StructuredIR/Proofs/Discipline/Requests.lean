import StructuredIR.Proofs.Discipline.ControlFlow

/-! # Disciplines and clients

Whatever a client asks of the generators in use stays on the course of a discipline, as long as its
generators are put only where they may be, and it uses only values that may be used, branches only on
what may be branched on and returns in place only what may be returned.

* **`Request.operands`** are the values that a request uses; the function that is called is not among
  them.
* **`Discipline.Allows`** says that a discipline allows a request.
* **`Discipline.visits`**: a client that makes only allowed requests stays on the course up to each
  world that it visits, and from there up to its end. -/

namespace StructuredIR

open Build (Leads Follows)

/-- The values that a request uses: all arguments, apart from the function that is called. -/
def Request.operands : Request → List Value
  | .inspect _ => []
  | .operation verb positional named =>
      if verb = "call" then
        match (positional[0]? <|> Dictionary.get? named "callable_").getD .none with
        | .function _ => positional.drop 1
        | callee => callee :: positional.drop 1
      else positional ++ named.map Prod.snd

namespace Discipline

variable {discipline : Discipline} {stop : World → Bool} {world : World} {place : GeneratorId}

/-- **A request that a discipline allows**: it is made of a generator in use, it positions generators
only where they may be, it uses only values that may be used, and it branches on and returns only values
for which this is so. -/
structure Allows (discipline : Discipline) (world : World) (place : GeneratorId)
    (request : Request) (interpret : Value → Callback) : Prop where
  /-- The generator is in use. -/
  owned : discipline.Owns place
  /-- Generators are positioned where they may be. -/
  target : discipline.Course world world → discipline.Spot world request.target
  /-- The values that are used may be used. -/
  operands : ∀ value ∈ request.operands, discipline.FitsValue value
  /-- The values that are branched on may be branched on. -/
  tests : ∀ value, request.Tests interpret value → discipline.Tests value
  /-- The values that are returned in place may be. -/
  yields : ∀ value, request.returned? = some value → discipline.Yields world value

/-- Operations that may be there, which follow each other if they are. -/
abbrev FollowIfThere (discipline : Discipline) (stop : World → Bool) (world : World) :
    Option (Build Value) → Option (Build Value) → Prop :=
  Option.Rel fun held step => Follows stop discipline.Course world held step fun _ _ => True

/-- An operation that runs where a generator is stays on the course. -/
theorem followIfThere_of_runs {action? : Option (Build Value)}
    (valid : discipline.Course world world) (has : discipline.Has world place)
    (runs : ∀ action, action? = some action →
      Runs (discipline.having place) action fun _ => True) :
    discipline.FollowIfThere stop world action? action? := by
  cases action? with
  | none => exact .none
  | some action => exact .some (runs action rfl stop world valid has)

/-- The first of two operations that is there follows the first of two others. -/
theorem FollowIfThere.orElse {held other step next : Option (Build Value)}
    (first : discipline.FollowIfThere stop world held step)
    (second : discipline.FollowIfThere stop world other next) :
    discipline.FollowIfThere stop world (held <|> other) (step <|> next) := by
  cases first with
  | none => exact second
  | some follows => exact .some follows

/-! ## Arguments -/

/-- All arguments of a call may be used. -/
def FitsCall (discipline : Discipline) (call : Script.Call) : Prop :=
  ∀ value ∈ call.positional ++ call.named.map Prod.snd, discipline.FitsValue value

section

variable {call : Script.Call} (fits : discipline.FitsCall call)
include fits

/-- An argument that is given may be used. -/
theorem FitsCall.value? {position : Nat} {name : String} {value : Value}
    (given : call.value? position name = some value) : discipline.FitsValue value := by
  unfold Script.Call.value? at given
  rcases there : call.positional[position]? with _ | known
  · rw [there] at given
    change List.lookup name call.named = some value at given
    obtain ⟨before, after, split, -⟩ := List.lookup_eq_some_iff.mp given
    refine fits value (List.mem_append_right _ (List.mem_map.mpr ⟨(name, value), ?_, rfl⟩))
    rw [split]
    exact List.mem_append_right _ List.mem_cons_self
  · rw [there] at given
    cases given
    exact fits value (List.mem_append_left _ (List.mem_of_getElem? there))

/-- An argument may be used if what stands for it may be. -/
theorem FitsCall.valueOr {fallback : Value} (position : Nat) (name : String)
    (fitsFallback : discipline.FitsValue fallback) :
    discipline.FitsValue (call.valueOr position name fallback) := by
  unfold Script.Call.valueOr
  rcases given : call.value? position name with _ | value
  · exact fitsFallback
  · exact fits.value? given

/-- An argument may be used. -/
theorem FitsCall.value (position : Nat) (name : String) :
    discipline.FitsValue (call.value position name) :=
  fits.valueOr position name (fitsValue_of_isAtom rfl)

/-- The arguments from a position on may be used. -/
theorem FitsCall.rest (position : Nat) :
    ∀ value ∈ call.rest position, discipline.FitsValue value :=
  fun value member => fits value (List.mem_append_left _ (List.mem_of_mem_drop member))

/-! ## Straight-line operations -/

/-- Every operation on numbers runs. -/
theorem runs_onNumbers? {verb : String} {action : Build Value}
    (known : Script.onNumbers? call place verb = some action) :
    Runs (discipline.having place) action fun _ => True := by
  have flag : Runs (discipline.having place) (call.flag 2 "signed" true) fun _ => True :=
    runs_texts fun Effect _ => Script.leads_flag call 2 "signed" true
  unfold Script.onNumbers? at known
  split at known <;> cases known
  · exact runs_operandUnlessFinished (runs_arithmetic .add true (fits.value 0 _) (fits.value 1 _))
  · exact runs_operandUnlessFinished (runs_arithmetic .sub true (fits.value 0 _) (fits.value 1 _))
  · exact runs_operandUnlessFinished (runs_arithmetic .mul true (fits.value 0 _) (fits.value 1 _))
  · exact flag.bind fun signed _ => runs_divide .div signed (fits.value 0 _) (fits.value 1 _)
  · exact flag.bind fun signed _ => runs_divide .rem signed (fits.value 0 _) (fits.value 1 _)
  · exact runs_negation (fits.value 0 _)
  · exact runs_change _ _ (fits.value 0 _) (fits.valueOr 1 _ (fitsValue_of_isAtom rfl))
  · exact runs_change _ _ (fits.value 0 _) (fits.valueOr 1 _ (fitsValue_of_isAtom rfl))
  · exact runs_shift _ (fits.value 0 _) (fits.value 1 _)
  · exact runs_shift _ (fits.value 0 _) (fits.value 1 _)
  · exact runs_shift _ (fits.value 0 _) (fits.value 1 _)
  · exact runs_complement (fits.value 0 _)
  · exact runs_compareNull _ _ (fits.value 0 _)
  · exact runs_compareNull _ _ (fits.value 0 _)
  · exact runs_operate _ (fits.value 1 _) (fits.value 2 _)

/-- Every conversion runs. -/
theorem runs_onTypes? {verb : String} {action : Build Value}
    (known : Script.onTypes? call place verb = some action) :
    Runs (discipline.having place) action fun _ => True := by
  have flag : Runs (discipline.having place) (call.flag 2 "signed" true) fun _ => True :=
    runs_texts fun Effect _ => Script.leads_flag call 2 "signed" true
  unfold Script.onTypes? at known
  split at known <;> cases known
  · refine runs_library.bind fun library served => ?_
    obtain ⟨reference, serves, rfl⟩ := served
    have converted : Runs (discipline.having place) (Coercion.coerceAs (some reference.owner)
        (call.value 0 "value") (call.value 1 "type_")) fun _ => True := by
      refine Runs.of_leads fun _ _ _ => ?_
      have := discipline.symbols serves
      exact Coercion.leads_coerceAs (some reference.owner) _ _
    exact converted.bind fun _ _ => Runs.pure trivial
  · exact runs_bitcast (fits.value 0 _) _
  · exact runs_resize _ _ _ (fits.value 0 _) _
  · exact runs_resize _ _ _ (fits.value 0 _) _
  · exact runs_resize _ _ _ (fits.value 0 _) _
  · exact flag.bind fun signed _ => runs_toInteger (fits.value 0 _) _ signed
  · exact flag.bind fun signed _ => runs_toFloat (fits.value 0 _) _ signed
  · exact runs_cast (fits.value 0 _) _

/-- Every operation on memory and aggregates runs. -/
theorem runs_onMemory? {verb : String} {action : Build Value}
    (known : Script.onMemory? call place verb = some action) :
    Runs (discipline.having place) action fun _ => True := by
  unfold Script.onMemory? at known
  split at known <;> cases known
  · exact runs_allocate _ (fits.value 1 _)
  · exact runs_allocateOnHeap _ (fits.value 1 _)
  · exact runs_release (fits.value 0 _)
  · exact runs_load (fits.value 0 _)
  · exact runs_store (fits.value 0 _) (fits.value 1 _)
  · exact runs_address (fits.value 0 _) (fits.rest 1)
  · exact runs_loadElement (fits.value 0 _) (fits.rest 1)
  · exact runs_storeElement (fits.value 0 _) (fits.rest 1)
  · exact runs_insert (fits.value 0 _) (fits.value 1 _) (fits.value 2 _)
  · exact runs_extract (fits.value 0 _) (fits.value 1 _)

end

/-! ## Operations with callbacks -/

section

variable {held interpret : Value → Callback} (positional : List Value)
  (named : Dictionary String Value)

omit positional named in
/-- A callback that is given is what its value stands for. -/
theorem eq_of_mem_callback? {call : Script.Call} {position : Nat} {name : String}
    {callback : Callback} (given : callback ∈ call.callback? position name) :
    callback = call.interpret (call.value position name) := by
  unfold Script.Call.callback? Script.Call.callbackOf at given
  split at given
  · cases given
  · exact (Option.some.inj given).symm

/-- Callbacks that may be given obey the discipline if all callbacks do. -/
theorem callback?_rel (obeys : ∀ value, discipline.Obeys stop (held value) (interpret value))
    (position : Nat) (name : String) :
    Option.Rel (discipline.Obeys stop)
      (Script.Call.callback? ⟨held, positional, named⟩ position name)
      (Script.Call.callback? ⟨interpret, positional, named⟩ position name) := by
  show Option.Rel _ (Script.Call.callbackOf ⟨held, positional, named⟩
      (Script.Call.value ⟨interpret, positional, named⟩ position name))
    (Script.Call.callbackOf ⟨interpret, positional, named⟩
      (Script.Call.value ⟨interpret, positional, named⟩ position name))
  unfold Script.Call.callbackOf
  split
  · exact .none
  · exact .some (obeys _)

/-- Every operation on blocks stays on the course. -/
theorem follows_onBlocks? (verb : String) (valid : discipline.Course world world)
    (has : discipline.Has world place)
    (target : discipline.Spot world (Request.operation verb positional named).target)
    (fits : discipline.FitsCall ⟨interpret, positional, named⟩)
    (tests : ∀ value, (Request.operation verb positional named).Tests interpret value →
      discipline.Tests value)
    (obeys : ∀ value, discipline.Obeys stop (held value) (interpret value)) :
    discipline.FollowIfThere stop world
      (Script.onBlocks? ⟨held, positional, named⟩ place verb)
      (Script.onBlocks? ⟨interpret, positional, named⟩ place verb) := by
  have callbacks := callback?_rel positional named obeys
  unfold Script.onBlocks?
  split
  · exact .some ((follows_finish valid has).bind fun _ _ later _ =>
      .pure (IsCourse.arrives later) trivial)
  · exact .some ((follows_moveTo place valid target).bind fun _ _ later _ =>
      .pure (IsCourse.arrives later) trivial)
  · exact .some ((follows_child valid has target).bind fun _ _ later _ =>
      .pure (IsCourse.arrives later) trivial)
  · exact .some (follows_openBlock _ valid has (callbacks 1 "body"))
  · exact .some (runs_branch _ stop world valid has)
  · exact .some (runs_leaveLoop stop world valid has)
  · exact .some (runs_nextTurn stop world valid has)
  · exact .some (follows_conditional _ valid has (fits.value 0 "condition") (tests _ (.inl rfl))
      (callbacks 1 "then_body") (callbacks 2 "else_body"))
  · refine .some (follows_loop _ valid has (fits.value 0 "variables") ⟨?_, ?_, ?_, ?_⟩)
    · exact callbacks 1 "compare"
    · intro compare known value gives
      obtain rfl := eq_of_mem_callback? known
      exact tests value (.inr ⟨_, rfl, gives⟩)
    · exact callbacks 2 "increment"
    · exact callbacks 4 "body"
  · exact .none

/-- Every operation that looks up or returns stays on the course. -/
theorem follows_onFunctions? {verb : String} (other : verb ≠ "call")
    (valid : discipline.Course world world) (has : discipline.Has world place)
    (fits : discipline.FitsCall ⟨interpret, positional, named⟩)
    (tests : ∀ value, (Request.operation verb positional named).Tests interpret value →
      discipline.Tests value)
    (yields : ∀ value, (Request.operation verb positional named).returned? = some value →
      discipline.Yields world value) :
    discipline.FollowIfThere stop world
      (Script.onFunctions? ⟨held, positional, named⟩ place verb)
      (Script.onFunctions? ⟨interpret, positional, named⟩ place verb) := by
  have looks (name : Value) : Runs (discipline.having place)
      (Generator.lookUpGlobal place name) fun _ => True :=
    runs_texts fun Effect _ => Generator.leads_lookUpGlobal place name
  unfold Script.onFunctions?
  split
  · exact absurd rfl other
  · exact .some (looks _ stop world valid has)
  · exact .some (runs_returnShared (fits.value 0 "value") stop world valid has)
  · exact .some (runs_returnIf _ (fits.value 0 "condition") (tests _ (.inl rfl))
      (fits.value 1 "value") stop world valid has)
  · exact .some (follows_returnDirectly valid has (fits.value 0 "value") (yields _ rfl))
  · exact .some (runs_presetReturn (fits.value 0 "value") stop world valid has)
  · exact .none

/-- A call whose arguments may be used stays on the course. -/
theorem follows_callRequest (valid : discipline.Course world world)
    (has : discipline.Has world place)
    (fits : ∀ value ∈ (Request.operation "call" positional named).operands,
      discipline.FitsValue value)
    (obeys : ∀ value, discipline.Obeys stop (held value) (interpret value)) :
    discipline.FollowIfThere stop world
      (Script.onFunctions? ⟨held, positional, named⟩ place "call")
      (Script.onFunctions? ⟨interpret, positional, named⟩ place "call") := by
  have fitsCallee (operand : Operand) (callee :
      (positional[0]? <|> Dictionary.get? named "callable_").getD .none = .operand operand) :
      discipline.Fits operand := by
    refine FitsValue.operand (fits _ ?_)
    simp only [Request.operands, if_true, callee, List.mem_cons, true_or]
  have fitsArguments : ∀ argument ∈ positional.drop 1, discipline.FitsValue argument := by
    intro argument member
    refine fits argument ?_
    simp only [Request.operands, if_true]
    split
    · exact member
    · exact List.mem_cons_of_mem _ member
  exact .some (follows_call valid has fitsCallee fitsArguments obeys)

end

/-- Every attribute of a generator stays on the course. -/
theorem follows_attribute (name : String) (valid : discipline.Course world world)
    (has : discipline.Has world place) :
    Follows stop discipline.Course world (Script.attributeOf (.generator place) name)
      (Script.attributeOf (.generator place) name) fun _ _ => True := by
  refine .get ?_
  split
  next own found =>
    have known : Script.generatorAttribute? world place name = some own := found
    unfold Script.generatorAttribute? at known
    split at known
    all_goals cases known
    all_goals try exact .pure valid trivial
    · exact (follows_setUpReturn valid (has.serves valid)).bind fun _ _ later _ =>
        .pure (IsCourse.arrives later) trivial
    · exact (follows_position valid has).bind fun _ _ later _ =>
        .pure (IsCourse.arrives later) trivial
  next => exact .pure valid trivial
  next => exact .throw valid

/-- **Every allowed request** stays on the course. -/
theorem follows_action {request : Request} {held interpret : Value → Callback}
    (valid : discipline.Course world world) (inside : place < world.generators.length)
    (allowed : discipline.Allows world place request interpret)
    (obeys : ∀ value, discipline.Obeys stop (held value) (interpret value)) :
    Follows stop discipline.Course world (request.action held place)
      (request.action interpret place) fun _ _ => True := by
  have has : discipline.Has world place := ⟨allowed.owned, inside⟩
  have target := allowed.target valid
  have operands := allowed.operands
  cases request with
  | inspect name => exact follows_attribute name valid has
  | operation verb positional named =>
      have related : discipline.FollowIfThere stop world
          (Script.onGenerator? ⟨held, positional, named⟩ place verb)
          (Script.onGenerator? ⟨interpret, positional, named⟩ place verb) := by
        by_cases calls : verb = "call"
        · -- Of all tables of operations only the last one has calls.
          subst calls
          exact follows_callRequest positional named valid has operands obeys
        · have fits : discipline.FitsCall ⟨interpret, positional, named⟩ := by
            rwa [Request.operands, if_neg calls] at operands
          refine .orElse ?_ (.orElse ?_ (.orElse ?_ (.orElse ?_ ?_)))
          · exact followIfThere_of_runs valid has fun _ => runs_onNumbers? fits
          · exact followIfThere_of_runs valid has fun _ => runs_onTypes? fits
          · exact followIfThere_of_runs valid has fun _ => runs_onMemory? fits
          · exact follows_onBlocks? positional named verb valid has target fits allowed.tests obeys
          · exact follows_onFunctions? positional named calls valid has fits allowed.tests
              allowed.yields
      unfold Request.action
      dsimp only
      generalize Script.onGenerator? ⟨held, positional, named⟩ place verb = heldAction?
        at related ⊢
      generalize Script.onGenerator? ⟨interpret, positional, named⟩ place verb = action?
        at related ⊢
      cases related with
      | none => exact .throw valid
      | some follows => exact follows

/-- **A client that makes only allowed requests** stays on the course, up to each world that it visits
and from there up to the end. -/
theorem visits {client : Client} (valid : discipline.Course world world)
    (allowed : client.Admits discipline.Allows world) (ends : client.Ends discipline.FitsValue)
    {middle : World} (visits : client.Visits world middle) :
    discipline.Course world middle ∧ discipline.Course middle (client.run.after world) := by
  obtain ⟨stop, rfl⟩ := visits
  have follows : Follows stop discipline.Course world (client.upTo stop).run client.run
      fun value _ => discipline.FitsValue value := client.follows_upTo
    (fun world place request held interpret fine allowed inside related =>
      follows_action fine inside allowed related) allowed ends valid
  rcases follows.follows with same | ⟨fault, middle, held_up, -, upTo, further⟩
  · rw [Build.after, same]
    exact ⟨follows.course, IsCourse.arrives follows.course⟩
  · rw [Build.after_of_error held_up]
    exact ⟨upTo, further⟩

end Discipline

end StructuredIR
