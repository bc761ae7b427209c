import StructuredIR.Proofs.Finished
import StructuredIR.Proofs.Structured.Conditionals
import StructuredIR.Proofs.Structured.Loops

/-! # Structured clients build what they account for

* **`FreshBody.Ready.action`** says so of each structured request, whether or not the generator is
  finished, if what is called back does.
* **`Client.Structured.builds`** says so of structured clients, by induction on the client. -/

namespace StructuredIR

open Build (Leads bind_eq_ok get_eq_ok pure_eq_ok)

namespace FreshBody

open FunctionBody

variable {body : FreshBody} {before middle after : World} {place : GeneratorId} {here : BlockRef}
  {reading : Reading}

/-! ## Finished generators -/

/-- **A finished generator** builds nothing, however it is accounted for. -/
theorem Ready.builds_of_isFinished (ready : body.Ready before place)
    (isFinished : (before.generator place).isFinished = true)
    (alters : body.Alters [] [] before after) (generators : after.generators = before.generators)
    (reading : Reading) : body.Builds place reading before after := by
  have untouched := Untouched.of_generators before.generators.length generators
  have same := untouched.same place ready.inside
  obtain ⟨block, ⟨standing, inside⟩, -⟩ := ready.isAt
  refine ⟨untouched.moves ready.inside, ⟨block, same ▸ standing, alters.inside inside⟩, ?_,
    fun here stands => ?_⟩
  · rw [World.stand_of_isFinished isFinished,
      World.stand_of_isFinished (same ▸ isFinished : (after.generator place).isFinished = true)]
    exact alters
  · have claimed := stands.unfinished
    rw [isFinished] at claimed
    cases claimed

/-- Nothing is built. -/
theorem Ready.builds_refl (ready : body.Ready before place) (tidy : body.Tidy before) :
    body.Builds place (.run []) before before := by
  cases isFinished : (before.generator place).isFinished with
  | true => exact ready.builds_of_isFinished isFinished (.refl tidy nofun) rfl _
  | false =>
      obtain ⟨here, stands, -⟩ := ready.stands isFinished
      exact Works.builds_refl ⟨tidy, ready, stands⟩

/-! ## Operations that call nothing -/

/-- What is accounted for of an operation that calls nothing. -/
theorem operation_ok {verb : String} {action : Build Value} {value : Value}
    (run : Account.operation place verb action before = .ok (value, reading) after) :
    action before = .ok value after ∧ reading =
      if (before.generator place).isFinished then .run (Account.added place before after)
      else .seq (.run (Account.added place before after))
        (Account.onward after (before.generator place).function verb) := by
  obtain ⟨seen, _, looked, run⟩ := bind_eq_ok.mp run
  obtain ⟨rfl, rfl⟩ := get_eq_ok.mp looked
  obtain ⟨⟨given, added⟩, between, stepping, run⟩ := bind_eq_ok.mp run
  obtain ⟨seen, _, looked, run⟩ := bind_eq_ok.mp run
  obtain ⟨rfl, rfl⟩ := get_eq_ok.mp looked
  obtain ⟨same, rfl⟩ := pure_eq_ok.mp run
  cases same
  obtain ⟨acting, rfl⟩ := Account.record_ok stepping
  exact ⟨acting, rfl⟩

/-- **An operation that calls nothing** builds what it accounts for. -/
theorem Ready.operation {verb : String} {action : Build Value} {value : Value}
    (ready : body.Ready before place)
    (idles : (before.generator place).isFinished = true →
      body.Alters [] [] before after ∧ after.generators = before.generators)
    (adds : ∀ here, body.Works before place here → body.Adds place here verb before after)
    (tidy : body.Tidy before)
    (run : Account.operation place verb action before = .ok (value, reading) after) :
    body.Builds place reading before after := by
  obtain ⟨-, rfl⟩ := operation_ok run
  cases isFinished : (before.generator place).isFinished with
  | true =>
      obtain ⟨alters, generators⟩ := idles isFinished
      exact ready.builds_of_isFinished isFinished alters generators _
  | false =>
      obtain ⟨here, stands, -⟩ := ready.stands isFinished
      have works : body.Works before place here := ⟨tidy, ready, stands⟩
      rw [if_neg Bool.false_ne_true, ready.function]
      exact (adds here works).builds works

/-! ## Calls -/

section

variable {interpret : Value → AccountedCallback} {value : Value} {arguments : List Value}

/-- Instructions that are recorded are read off. -/
theorem Works.recorded {Result : Type} {step : Build Result} {result : Result}
    {added : List Instruction} (works : body.Works before place here)
    (emits : Leads (Emits place) step)
    (run : Account.record place step before = .ok (result, added) after) :
    body.Builds place (.run added) before after := by
  obtain ⟨stepping, same⟩ := Account.record_ok run
  obtain ⟨more, grows⟩ := works.emits emits stepping
  rw [same, grows.added_eq works]
  exact grows.builds works

/-- **A fragment** is read as what it builds. -/
theorem Works.expand {fragment : FragmentId} (works : body.Works before place here)
    (faithful : ∀ value, body.Faithful (interpret value))
    (run : Account.expand interpret fragment (.generator place) arguments before =
      .ok (value, reading) after) : body.Builds place reading before after := by
  obtain ⟨seen, _, looked, run⟩ := bind_eq_ok.mp run
  obtain ⟨rfl, rfl⟩ := get_eq_ok.mp looked
  cases arity : (before.fragment fragment).body.fragmentArity? with
  | none =>
      rw [arity] at run
      exact faithful _ _ _ _ _ _ _ works.tidy works.ready run
  | some count =>
      rw [arity] at run
      dsimp only at run
      split at run
      next => exact faithful _ _ _ _ _ _ _ works.tidy works.ready run
      next =>
        obtain ⟨name, _, -, run⟩ := bind_eq_ok.mp run
        cases run

/-- **A call by name** is read as what the name stands for. -/
theorem Works.callName {name : Phrase} (works : body.Works before place here)
    (faithful : ∀ value, body.Faithful (interpret value))
    (run : Account.callName interpret place name arguments before = .ok (value, reading) after) :
    body.Builds place reading before after := by
  obtain ⟨library, looked, looking, run⟩ := bind_eq_ok.mp run
  obtain ⟨seen, _, same, looking⟩ := bind_eq_ok.mp looking
  obtain ⟨rfl, rfl⟩ := get_eq_ok.mp same
  obtain ⟨rfl, rfl⟩ := pure_eq_ok.mp looking
  obtain ⟨seen, _, looked, run⟩ := bind_eq_ok.mp run
  obtain ⟨rfl, rfl⟩ := get_eq_ok.mp looked
  cases found : Library.resolve before (before.generator place).function.owner (.text name.content)
      true with
  | fragment fragment =>
      rw [found] at run
      exact works.expand faithful run
  | function function =>
      rw [found] at run
      obtain ⟨⟨result, added⟩, _, recording, run⟩ := bind_eq_ok.mp run
      obtain ⟨same, rfl⟩ := pure_eq_ok.mp run
      cases same
      exact works.recorded (Generator.leads_callFunction place function arguments) recording
  | global operand =>
      rw [found] at run
      obtain ⟨same, rfl⟩ := pure_eq_ok.mp run
      cases same
      exact works.builds_refl
  | notFound =>
      rw [found] at run
      cases run

/-- **A call** is read as what a fragment builds, or as the instructions that it adds. -/
theorem Works.call {callee : Value} (works : body.Works before place here)
    (faithful : ∀ value, body.Faithful (interpret value))
    (run : Account.call interpret place callee arguments before = .ok (value, reading) after) :
    body.Builds place reading before after := by
  obtain ⟨seen, _, looked, run⟩ := bind_eq_ok.mp run
  obtain ⟨rfl, rfl⟩ := get_eq_ok.mp looked
  rw [works.stands.unfinished, if_neg Bool.false_ne_true] at run
  cases callee with
  | function function =>
      obtain ⟨⟨result, added⟩, _, recording, run⟩ := bind_eq_ok.mp run
      obtain ⟨same, rfl⟩ := pure_eq_ok.mp run
      cases same
      exact works.recorded (Generator.leads_callFunction place function arguments) recording
  | operand callee =>
      obtain ⟨⟨result, added⟩, _, recording, run⟩ := bind_eq_ok.mp run
      obtain ⟨same, rfl⟩ := pure_eq_ok.mp run
      cases same
      exact works.recorded (Generator.leads_callOperand place callee arguments) recording
  | text | visibility | policy => exact works.callName faithful run
  | _ => cases run

end

/-! ## Requests -/

/-- An argument that is called back builds what it accounts for if everything that may be called
does. -/
theorem faithful_callback? {interpret : Value → AccountedCallback}
    (faithful : ∀ value, body.Faithful (interpret value)) {call : Script.Call} {position : Nat}
    {name : String} {callback : AccountedCallback}
    (given : Account.callback? interpret call position name = some callback) :
    body.Faithful callback := by
  unfold Account.callback? at given
  split at given
  next => cases given
  next =>
    cases given
    exact faithful _

/-- A finished generator does nothing for structured requests but to set up the return block. -/
theorem Tidy.alters_of_isFinished {verb : String} {positional : List Value}
    {named : Dictionary String Value} {interpret : Value → Callback} {value : Value}
    (tidy : body.Tidy before) (isFinished : (before.generator place).isFinished = true)
    (structured : (Request.operation verb positional named).IsStructured)
    (run : (Script.onGenerator? ⟨interpret, positional, named⟩ place verb).getD
      (throw .missingAttribute) before = .ok value after) :
    body.Alters [] [] before after ∧ after.generators = before.generators := by
  have building : (Request.operation verb positional named).IsBuilding := by
    intro member
    exact structured.1 (by revert member; simp; tauto)
  have same := (Script.idles_onGenerator? building).of_ok run isFinished
  exact ⟨tidy.alters_of_sameCode same, same.generators⟩

/-- What is done unless a generator is finished builds what it accounts for if it does where the
generator is at work. -/
theorem Ready.unlessFinished {step : Build (Value × Reading)} {value : Value}
    (ready : body.Ready before place) (tidy : body.Tidy before)
    (run : (do
      if ((← get).generator place).isFinished then return (.none, .run [])
      step : Build (Value × Reading)) before = .ok (value, reading) after)
    (builds : ∀ here, body.Works before place here → body.Builds place reading before after) :
    body.Builds place reading before after := by
  cases isFinished : (before.generator place).isFinished with
  | true =>
      obtain ⟨seen, _, looked, run⟩ := bind_eq_ok.mp run
      obtain ⟨rfl, rfl⟩ := get_eq_ok.mp looked
      rw [isFinished, if_pos rfl] at run
      obtain ⟨same, rfl⟩ := pure_eq_ok.mp run
      cases same
      exact ready.builds_refl tidy
  | false =>
      obtain ⟨here, stands, -⟩ := ready.stands isFinished
      exact builds here ⟨tidy, ready, stands⟩

/-- **A structured request** builds what it accounts for, if what is called back does. -/
theorem Ready.action {interpret : Value → AccountedCallback} {request : Request} {value : Value}
    (ready : body.Ready before place) (tidy : body.Tidy before)
    (structured : request.IsStructured) (faithful : ∀ value, body.Faithful (interpret value))
    (run : Account.action interpret place request before = .ok (value, reading) after) :
    body.Builds place reading before after := by
  cases request with
  | inspect name =>
      obtain ⟨acting, -⟩ := operation_ok run
      obtain ⟨alters, generators⟩ := tidy.attribute_ok ready.function acting
      refine ready.operation (fun _ => ⟨alters, generators⟩) (fun here works => ?_) tidy run
      exact (Grows.of_alters alters works.opened generators).adds works rfl
  | operation verb positional named =>
      have callbacks (position : Nat) (name : String) (callback : AccountedCallback)
          (given : Account.callback? interpret
            ⟨fun value => (interpret value).plain, positional, named⟩ position name =
              some callback) : body.Faithful callback :=
        faithful_callback? faithful given
      simp only [Account.action] at run
      split at run
      next =>
        have given : Script.Call.value ⟨fun value => (interpret value).plain, positional, named⟩ 3
          "exit_block" = .none := structured.2
        rw [given] at run
        exact ready.unlessFinished tidy run fun here works =>
          works.conditional (callbacks _ _) (callbacks _ _) run
      next =>
        have given : Script.Call.value ⟨fun value => (interpret value).plain, positional, named⟩ 3
          "exit_block" = .none := structured.2
        rw [given] at run
        exact ready.unlessFinished tidy run fun here works =>
          works.loop ⟨callbacks _ _, callbacks _ _, callbacks _ _⟩ run
      next => exact ready.unlessFinished tidy run fun here works => works.call faithful run
      next noCond noLoop noCall =>
        obtain ⟨acting, -⟩ := operation_ok run
        refine ready.operation (fun isFinished => tidy.alters_of_isFinished isFinished structured acting)
          (fun here works => works.operation structured ?_ acting) tidy run
        simp only [List.mem_cons, List.not_mem_nil, or_false, not_or]
        exact ⟨noCond, noLoop, noCall⟩

end FreshBody

/-! ## Clients -/

/-- **Structured clients build what they account for.** -/
theorem Client.Structured.builds {body : FreshBody} {client : Client} {place : GeneratorId}
    (structured : client.Structured place) {before after : World} {value : Value}
    {reading : Reading} (tidy : body.Tidy before) (ready : body.Ready before place)
    (run : client.account before = .ok (value, reading) after) :
    body.Builds place reading before after := by
  -- The generator is generalized: what is called back is a client with a generator of its own.
  induction client generalizing place before after value reading with
  | done outcome =>
      cases outcome with
      | error fault => cases run
      | ok result =>
          obtain ⟨same, rfl⟩ := pure_eq_ok.mp run
          cases same
          exact ready.builds_refl tidy
  | observe next ih =>
      obtain ⟨seen, _, looked, run⟩ := bind_eq_ok.mp run
      obtain ⟨rfl, rfl⟩ := get_eq_ok.mp looked
      exact ih before (structured before) tidy ready run
  | perform target request meaning next meaning_ih next_ih =>
      obtain ⟨rfl, allowed, called, goes_on⟩ := structured
      obtain ⟨⟨given, first⟩, middle, performing, run⟩ := bind_eq_ok.mp run
      obtain ⟨⟨result, second⟩, _, going, run⟩ := bind_eq_ok.mp run
      obtain ⟨same, rfl⟩ := pure_eq_ok.mp run
      cases same
      obtain ⟨seen, _, looked, performing⟩ := bind_eq_ok.mp performing
      obtain ⟨rfl, rfl⟩ := get_eq_ok.mp looked
      rw [if_pos ready.inside] at performing
      have builds := ready.action tidy allowed (fun value part arguments world result read final
        tidy ready run => meaning_ih value _ (called value part arguments) tidy ready run) performing
      exact builds.seq
        (next_ih _ (goes_on _) builds.alters.tidy (builds.ready ready) going)

end StructuredIR
