import StructuredIR.Proofs.Courses

/-! # Clients

A client is a program that uses generators: it looks at the world, makes requests of generators,
and goes on as their outcomes tell. What a request calls back, whether it is an arm of a
conditional, a part of a loop or the body of a fragment, is a client again, so a client is a tree
of requests.

* **`Client.run`** runs a client. A request that fails does not end it: the client may go on.
* **`Client.Forall`** says something of all requests of a client, those of its callbacks included, and
  **`Client.Ends`** says something of all values that the client and its callbacks end with.
  **`Client.Admits`** says something of all requests where they are made, and of how values are called
  by them.
* **`Client.checked`** is a client that checks what it is about to give, and fails instead if it does
  not pass.
* **`Client.upTo`** is a client that goes on only up to certain worlds, so the worlds that it
  leaves behind are all the worlds in which the client is in charge: `Client.Visits`.
* **`Client.follows_upTo`** is what a course of worlds is good for: if every request stays on the
  course, the client does, from each world that it visits up to the end. -/

namespace StructuredIR

/-- What a client can ask of a generator. -/
inductive Request where
  /-- An attribute of a name. -/
  | inspect (name : String)
  /-- An operation of a name, with arguments by position and by name. -/
  | operation (verb : String) (positional : List Value) (named : Dictionary String Value)

/-- What is done for a request, where `interpret` says how values are called. -/
def Request.action (interpret : Value → Callback) (place : GeneratorId) :
    Request → Build Value
  | .inspect name => Script.attributeOf (.generator place) name
  | .operation verb positional named =>
      (Script.onGenerator? ⟨interpret, positional, named⟩ place verb).getD (throw .missingAttribute)

/-- What is done for a request of a generator that should be there. -/
def Request.perform (interpret : Value → Callback) (place : GeneratorId) (request : Request) :
    Build Value := do
  if place < (← get).generators.length then request.action interpret place
  else throw .missingKey

/-- The value that a request asks a generator to be positioned at, or nothing. -/
def Request.target : Request → Value
  | .inspect _ => .none
  | .operation verb positional named =>
      if verb = "position_at_end" ∨ verb = "child" then
        (positional[0]? <|> Dictionary.get? named "block").getD .none
      else .none

/-- What a callback can give. -/
def Callback.CanGive (callback : Callback) (value : Value) : Prop :=
  ∃ arguments world final, callback.run arguments world = .ok value final

/-- The value that a request gives as the condition of a conditional or of a return. -/
def Request.condition? : Request → Option Value
  | .operation "cond" positional named | .operation "cret" positional named =>
      some ((positional[0]? <|> Dictionary.get? named "condition").getD .none)
  | _ => none

/-- The value that a request gives as the condition of a loop, which is called. -/
def Request.comparison? : Request → Option Value
  | .operation "lp" positional named =>
      some ((positional[1]? <|> Dictionary.get? named "compare").getD .none)
  | _ => none

/-- **A request branches on a value** if it gives it as a condition, or if it gives a condition that is
called and can give the value. -/
def Request.Tests (request : Request) (interpret : Value → Callback) (value : Value) : Prop :=
  request.condition? = some value ∨
    ∃ compare, request.comparison? = some compare ∧ (interpret compare).CanGive value

/-- The value that a request returns in place. -/
def Request.returned? : Request → Option Value
  | .operation "sret" positional named =>
      some ((positional[0]? <|> Dictionary.get? named "value").getD .none)
  | _ => none

/-- **What is checked** of what requests are given. -/
structure Check where
  /-- The argument of a request that has to pass. -/
  argument? : Request → Option Value
  /-- The argument of a request that is called and has to give what passes. -/
  callback? : Request → Option Value
  /-- Whether a value passes. -/
  passes : World → Value → Bool

open Classical in
/-- Whether a value is the one that a request calls for what is checked. -/
noncomputable def Check.asks (check : Check) (request : Request) (value : Value) : Bool :=
  check.callback? request = some value

open Classical in
/-- A value is asked for what it gives if it is the one that is called for it. -/
theorem Check.asks_iff {check : Check} {request : Request} {value : Value} :
    check.asks request value = true ↔ check.callback? request = some value :=
  decide_eq_true_iff

/-- A request passes a check: its argument does, and so does what its callback can give. -/
structure Check.Passed (check : Check) (world : World) (request : Request)
    (interpret : Value → Callback) : Prop where
  /-- The argument passes where the request is made. -/
  argument : ∀ value, check.argument? request = some value → check.passes world value = true
  /-- What the callback can give passes somewhere. -/
  callback : ∀ called value, check.callback? request = some called →
    (interpret called).CanGive value → ∃ seen, check.passes seen value = true

/-- A program that uses generators. -/
inductive Client where
  /-- The client ends with a value or a fault. -/
  | done (outcome : Except Fault Value)
  /-- The client looks at the world. -/
  | observe (next : World → Client)
  /-- The client makes a request of a generator. What is called meanwhile does what `meaning` says
  of the value and its arguments. -/
  | perform (place : GeneratorId) (request : Request) (meaning : Value → List Value → Client)
      (next : Except Fault Value → Client)

namespace Client

/-- Runs a client. A callback takes the arguments that its value takes. -/
def run : Client → Build Value
  | done (.ok value) => pure value
  | done (.error fault) => throw fault
  | observe next => do (next (← get)).run
  | perform place request meaning next => do
      let interpret (value : Value) : Callback :=
        ⟨value.arity?, fun arguments => (meaning value arguments).run⟩
      let outcome ← Script.attempt (request.perform interpret place)
      (next outcome).run

/-- How values are called by a request of a client. -/
def calls (meaning : Value → List Value → Client) (value : Value) : Callback :=
  ⟨value.arity?, fun arguments => (meaning value arguments).run⟩

/-- Something holds of all requests of a client from a world on, where they are made, and of how values
are called by them. Nothing is known of where callbacks are called, or of what requests leave. -/
def Admits (Allowed : World → GeneratorId → Request → (Value → Callback) → Prop) :
    Client → World → Prop
  | done _, _ => True
  | observe next, world => (next world).Admits Allowed world
  | perform place request meaning next, world =>
      Allowed world place request (calls meaning) ∧
        (∀ value arguments later, (meaning value arguments).Admits Allowed later) ∧
          ∀ outcome later, (next outcome).Admits Allowed later

/-- **A client that checks what it gives**: it does what another client does, but ends with a fault
where this one would make a request with an argument that does not pass. Its callbacks end with a fault
instead of a value that is asked for and does not pass, and so does the client itself if its own value
is asked for. -/
noncomputable def checked (check : Check) : Client → Bool → Client
  | done (.ok value), asked =>
      observe fun world =>
        if !check.passes world value && asked then done (.error .tooDeep) else done (.ok value)
  | done (.error fault), _ => done (.error fault)
  | observe next, asked => observe fun world => (next world).checked check asked
  | perform place request meaning next, asked =>
      observe fun world =>
        if (check.argument? request).all (check.passes world) then
          perform place request
            (fun value arguments =>
              (meaning value arguments).checked check (check.asks request value))
            fun outcome => (next outcome).checked check asked
        else done (.error .tooDeep)

/-- Something holds of all requests of a client. -/
def Forall (Allowed : GeneratorId → Request → Prop) : Client → Prop
  | done _ => True
  | observe next => ∀ world, (next world).Forall Allowed
  | perform place request meaning next =>
      Allowed place request ∧ (∀ value arguments, (meaning value arguments).Forall Allowed) ∧
        ∀ outcome, (next outcome).Forall Allowed

/-- Something holds of all values that a client and its callbacks end with. -/
def Ends (Gives : Value → Prop) : Client → Prop
  | done outcome => ∀ value, outcome = .ok value → Gives value
  | observe next => ∀ world, (next world).Ends Gives
  | perform _ _ meaning next =>
      (∀ value arguments, (meaning value arguments).Ends Gives) ∧
        ∀ outcome, (next outcome).Ends Gives

/-- A client that ends with a fault as soon as it is in charge of a world in which `stop` says
so. -/
def upTo (stop : World → Bool) : Client → Client
  | done outcome =>
      observe fun world => if stop world then done (.error .tooDeep) else done outcome
  | observe next =>
      observe fun world =>
        if stop world then done (.error .tooDeep) else (next world).upTo stop
  | perform place request meaning next =>
      observe fun world =>
        if stop world then done (.error .tooDeep)
        else
          perform place request (fun value arguments => (meaning value arguments).upTo stop)
            fun outcome => (next outcome).upTo stop

/-- **A client visits a world** if it is in charge there in its run from another one. -/
def Visits (client : Client) (world middle : World) : Prop :=
  ∃ stop, (client.upTo stop).run.after world = middle

/-- What holds of all requests implies what follows from it. -/
theorem Forall.imp {Allowed Wider : GeneratorId → Request → Prop} {client : Client}
    (allowed : client.Forall Allowed)
    (implies : ∀ place request, Allowed place request → Wider place request) :
    client.Forall Wider := by
  induction client with
  | done outcome => trivial
  | observe next ih => exact fun world => ih world (allowed world)
  | perform place request meaning next meaning_ih next_ih =>
      obtain ⟨here, meant, goes_on⟩ := allowed
      refine ⟨implies place request here, fun value arguments => ?_, fun outcome => ?_⟩
      · exact meaning_ih value arguments (meant value arguments)
      · exact next_ih outcome (goes_on outcome)

/-- What holds of all requests, wherever they are made and however values are called by them, is what a
client admits. -/
theorem Forall.admitted {Allowed : GeneratorId → Request → Prop}
    {Admitted : World → GeneratorId → Request → (Value → Callback) → Prop} {client : Client}
    (allowed : client.Forall Allowed)
    (implies : ∀ world place request interpret, Allowed place request →
      Admitted world place request interpret) (world : World) :
    client.Admits Admitted world := by
  induction client generalizing world with
  | done outcome => trivial
  | observe next ih => exact ih world (allowed world) world
  | perform place request meaning next meaning_ih next_ih =>
      obtain ⟨here, meant, goes_on⟩ := allowed
      refine ⟨implies world place request _ here, fun value arguments => ?_, fun outcome => ?_⟩
      · exact meaning_ih value arguments (meant value arguments)
      · exact next_ih outcome (goes_on outcome)

/-- What a client admits it also admits if less is said. -/
theorem Admits.imp {Allowed Wider : World → GeneratorId → Request → (Value → Callback) → Prop}
    {client : Client} {world : World} (admits : client.Admits Allowed world)
    (implies : ∀ world place request interpret, Allowed world place request interpret →
      Wider world place request interpret) :
    client.Admits Wider world := by
  induction client generalizing world with
  | done outcome => trivial
  | observe next ih => exact ih world admits
  | perform place request meaning next meaning_ih next_ih =>
      obtain ⟨here, meant, goes_on⟩ := admits
      refine ⟨implies world place request _ here, fun value arguments later => ?_,
        fun outcome later => ?_⟩
      · exact meaning_ih value arguments (meant value arguments later)
      · exact next_ih outcome (goes_on outcome later)

/-- What holds of all requests holds of those that a client makes. -/
theorem forall_of_all {Allowed : GeneratorId → Request → Prop} (client : Client)
    (all : ∀ place request, Allowed place request) : client.Forall Allowed := by
  induction client with
  | done outcome => trivial
  | observe next ih => exact ih
  | perform place request meaning next meaning_ih next_ih =>
      exact ⟨all place request, meaning_ih, next_ih⟩

/-- What holds of all values holds of those that a client ends with. -/
theorem ends_of_forall {Gives : Value → Prop} (all : ∀ value, Gives value) (client : Client) :
    client.Ends Gives := by
  induction client with
  | done outcome => exact fun value _ => all value
  | observe next ih => exact ih
  | perform place request meaning next meaning_ih next_ih => exact ⟨meaning_ih, next_ih⟩

/-- A client that looks at the world goes on with what it sees. -/
theorem run_observe (next : World → Client) (world : World) :
    (observe next).run world = (next world).run world :=
  rfl

section

variable {check : Check} {client : Client}

/-- A client that checks the value it is asked for gives one that passes. -/
theorem passes_of_checked {world final : World} {value : Value}
    (run : (client.checked check true).run world = .ok value final) :
    check.passes final value = true := by
  induction client generalizing world with
  | done outcome =>
      cases outcome with
      | ok given =>
          rw [checked, run_observe] at run
          split at run
          · cases run
          next passes =>
            cases run
            simpa using passes
      | error fault => cases run
  | observe next ih => exact ih world run
  | perform place request meaning next meaning_ih next_ih =>
      rw [checked, run_observe] at run
      split at run
      · obtain ⟨outcome, middle, -, run⟩ := Build.bind_eq_ok.mp run
        exact next_ih outcome run
      · cases run

/-- **All requests of a client that checks what it gives pass.** -/
theorem admits_checked {Allowed : GeneratorId → Request → Prop} (allowed : client.Forall Allowed)
    (asked : Bool) (world : World) :
    (client.checked check asked).Admits (fun world place request interpret =>
      Allowed place request ∧ check.Passed world request interpret) world := by
  induction client generalizing asked world with
  | done outcome =>
      cases outcome with
      | ok value =>
          rw [checked, Admits]
          split <;> trivial
      | error fault => trivial
  | observe next ih => exact ih world (allowed world) asked world
  | perform place request meaning next meaning_ih next_ih =>
      obtain ⟨here, meant, goes_on⟩ := allowed
      rw [checked, Admits]
      split
      next passes =>
        refine ⟨⟨here, fun value given => ?_, fun called value asks gives => ?_⟩,
          fun value arguments later => meaning_ih value arguments (meant value arguments) _ later,
          fun outcome later => next_ih outcome (goes_on outcome) asked later⟩
        · rwa [given, Option.all_some] at passes
        · -- What is called for a value that passes was told to check what it ends with.
          obtain ⟨arguments, start, final, run⟩ := gives
          have run : ((meaning called arguments).checked check
              (check.asks request called)).run start = .ok value final := run
          rw [Check.asks_iff.mpr asks] at run
          exact ⟨final, passes_of_checked run⟩
      next => trivial

end

/-- A client that is held up nowhere runs as it does. -/
theorem run_upTo_never (client : Client) : (client.upTo fun _ => false).run = client.run := by
  induction client with
  | done outcome => rfl
  | observe next ih => exact congrArg (get >>= ·) (funext ih)
  | perform place request meaning next meaning_ih next_ih =>
      simp only [upTo, run, meaning_ih, next_ih, Bool.false_eq_true, if_false]
      rfl

/-- A client visits the world in which it ends. -/
theorem visits_after (client : Client) (world : World) :
    client.Visits world (client.run.after world) :=
  ⟨fun _ => false, by rw [run_upTo_never]⟩

end Client

/-- A world with a library in which nothing is declared. -/
def World.oneLibrary : World :=
  (Library.create (.text "main") (.text "public") (.text "smart") .none (.truth false) none).after
    .empty

/-! ## Clients on a course -/

/-- A callback follows another one if its calls do, from all worlds that are worth going on from,
and if it takes as many arguments. What it gives is as said. -/
structure Callback.Follows (stop : World → Bool) (Course : World → World → Prop)
    (Gives : Value → Prop) (held callback : Callback) : Prop where
  /-- Both take the same number of arguments. -/
  arity : held.arity? = callback.arity?
  /-- Each call follows the other one. -/
  run (world : World) (arguments : List Value) : Course world world →
    Build.Follows stop Course world (held.run arguments) (callback.run arguments)
      fun value _ => Gives value

namespace Build.Follows

variable {stop : World → Bool} {Course : World → World → Prop} [IsCourse Course] {world : World}
  {Result Next : Type}

/-- What is attempted stays on its course, and so does what is done with the outcome. Once the
attempt is held up, what comes next has to be held up as well. -/
theorem attempt {held step : Build Result} {heldNext next : Except Fault Result → Build Next}
    {goal : Next → World → Prop} (first : Follows stop Course world held step fun _ _ => True)
    (second : ∀ outcome middle, Course world middle →
      Follows stop Course middle (heldNext outcome) (next outcome) goal)
    (stops : ∀ outcome middle, stop middle = true →
      ∃ fault, heldNext outcome middle = .error fault middle) :
    Follows stop Course world (Script.attempt held >>= heldNext)
      (Script.attempt step >>= next) goal := by
  obtain ⟨outcome, whole⟩ : ∃ outcome,
      Script.attempt step world = .ok outcome (step.after world) := by
    rw [Script.attempt_eq, after]
    cases step world with
    | ok value final => exact ⟨_, rfl⟩
    | error fault final => exact ⟨_, rfl⟩
  have rest := second outcome _ first.course
  have whole_run : (Script.attempt step >>= next) world = next outcome (step.after world) := by
    simp only [Bind.bind, EStateM.bind, whole]
  have whole_after : (Script.attempt step >>= next).after world =
      (next outcome).after (step.after world) := by
    rw [after, whole_run]
    rfl
  refine ⟨?_, fun value final claimed => ?_, ?_⟩
  · rw [whole_after]
    exact IsCourse.trans first.course rest.course
  · rw [whole_run] at claimed
    exact rest.gives value final claimed
  · rcases first.follows with same | ⟨fault, middle, held_up, stopped, upTo, further⟩
    · have held_run : (Script.attempt held >>= heldNext) world =
          heldNext outcome (step.after world) := by
        rw [Script.attempt_eq, ← same, ← Script.attempt_eq] at whole
        simp only [Bind.bind, EStateM.bind, whole]
      rw [held_run, whole_run, whole_after]
      rcases rest.follows with again | ⟨fault, middle, held_up, stopped, upTo, further⟩
      · exact .inl again
      · exact .inr ⟨fault, middle, held_up, stopped, IsCourse.trans first.course upTo, further⟩
    · obtain ⟨other, next_held_up⟩ := stops (.error fault) middle stopped
      right
      refine ⟨other, middle, ?_, stopped, upTo, ?_⟩
      · simp only [Bind.bind, EStateM.bind, Script.attempt_eq, held_up]
        exact next_held_up
      · rw [whole_after]
        exact IsCourse.trans further rest.course

end Build.Follows

namespace Client

open Build (Follows)

variable {stop : World → Bool} {Course : World → World → Prop}
  {Allowed : World → GeneratorId → Request → (Value → Callback) → Prop} {Gives : Value → Prop}

/-- A client that is held up where it is in charge ends there. -/
theorem upTo_of_stop (client : Client) {world : World} (stopped : stop world = true) :
    (client.upTo stop).run world = .error .tooDeep world := by
  cases client <;>
  · simp only [upTo, run, Bind.bind, EStateM.bind, get, getThe, MonadStateOf.get, EStateM.get,
      stopped, if_true]
    rfl

/-- What follows a client where it is not held up also follows it where it may be. -/
theorem follows_hold {client : Client} {world : World} {step : Build Value}
    {post : Value → World → Prop} (valid : Course world world)
    (follows : Follows stop Course world client.run step post) :
    Follows stop Course world
      (observe fun world => if stop world then done (.error .tooDeep) else client).run step
      post := by
  refine ⟨follows.course, follows.gives, ?_⟩
  by_cases stopped : stop world = true
  · right
    refine ⟨.tooDeep, world, ?_, stopped, valid, follows.course⟩
    simp only [run, Bind.bind, EStateM.bind, get, getThe, MonadStateOf.get, EStateM.get, stopped,
      if_true]
    rfl
  · have same : (observe fun world =>
        if stop world then done (.error .tooDeep) else client).run world = client.run world := by
      simp only [run, Bind.bind, EStateM.bind, get, getThe, MonadStateOf.get, EStateM.get, stopped]
      rfl
    rw [same]
    exact follows.follows

variable [IsCourse Course]

/-- **A client stays on a course** if each request that it may make does, with callbacks that do.
Whichever world it visits, it stays on the course up to there, and from there on. -/
theorem follows_upTo
    (each : ∀ (world : World) (place : GeneratorId) (request : Request)
      (held interpret : Value → Callback), Course world world →
        Allowed world place request interpret →
      place < world.generators.length →
      (∀ value, (held value).Follows stop Course Gives (interpret value)) →
      Follows stop Course world (request.action held place) (request.action interpret place)
        fun _ _ => True)
    (client : Client) {world : World} (allowed : client.Admits Allowed world)
    (ends : client.Ends Gives) (valid : Course world world) :
    Follows stop Course world (client.upTo stop).run client.run fun value _ => Gives value := by
  induction client generalizing world with
  | done outcome =>
      refine follows_hold valid ?_
      cases outcome with
      | ok value => exact .pure valid (ends value rfl)
      | error fault => exact .throw valid
  | observe next ih =>
      have inner : Follows stop Course world
          (observe fun seen => if stop seen then done (.error .tooDeep)
            else (next world).upTo stop).run (next world).run fun value _ => Gives value :=
        follows_hold valid (ih world allowed (ends world) valid)
      exact ⟨inner.course, inner.gives, inner.follows⟩
  | perform place request meaning next meaning_ih next_ih =>
      obtain ⟨here, meant, goes_on⟩ := allowed
      obtain ⟨meantEnds, goesOnEnds⟩ := ends
      refine follows_hold valid ?_
      refine .attempt ?_ (fun outcome middle later => ?_) fun outcome middle stopped =>
        ⟨_, upTo_of_stop (next outcome) stopped⟩
      · refine .get ?_
        dsimp only
        split
        next inside =>
          refine each world place request _ _ valid here inside fun value => ⟨rfl, ?_⟩
          intro start arguments fine
          exact meaning_ih value arguments (meant value arguments start) (meantEnds value arguments) fine
        next => exact .throw valid
      · exact next_ih outcome (goes_on outcome middle) (goesOnEnds outcome)
          (IsCourse.arrives later)

end Client

end StructuredIR
