import StructuredIR.Proofs.Library.Isolation

/-! # Agents of libraries

An agent is a program that works on libraries, on their functions and on their generators. What its
operations call back is an agent again.

* **`Agent.run`** runs an agent. An operation that fails does not end it.
* **`Enclosure.Serves`** says that an operation is one of a library, of one of its functions or of one of
  its generators, and that it positions generators only at blocks of the library. Its arguments may be
  anything.
* **`Request.leads_performOn`** is one operation, **`Agent.leads`** a whole run: both spare all other
  libraries.
* **`Script.Attainable.isolated`**: whatever agents do for one library in a world that scripts attain
  leaves every other library as it is. -/

namespace StructuredIR

open Build (Leads Follows)

/-! ## Agents -/

/-- What is done for a request of a value. A generator should be there. -/
def Request.performOn (interpret : Value → Callback) : Value → Request → Build Value
  | .generator place, request => request.perform interpret place
  | target, .inspect name => Script.attributeOf target name
  | target, .operation verb positional named =>
      (Script.onTarget? ⟨interpret, positional, named⟩ target verb).getD (throw .missingAttribute)

/-- A program that works on libraries, their functions and their generators. -/
inductive Agent where
  /-- The agent ends with a value or a fault. -/
  | done (outcome : Except Fault Value)
  /-- The agent looks at the world. -/
  | observe (next : World → Agent)
  /-- The agent makes a request of a value. What is called meanwhile does what `meaning` says of the
  value and its arguments. -/
  | perform (target : Value) (request : Request) (meaning : Value → List Value → Agent)
      (next : Except Fault Value → Agent)

namespace Agent

/-- Runs an agent. A callback takes the arguments that its value takes. -/
def run : Agent → Build Value
  | done (.ok value) => pure value
  | done (.error fault) => throw fault
  | observe next => do (next (← get)).run
  | perform target request meaning next => do
      let interpret (value : Value) : Callback :=
        ⟨value.arity?, fun arguments => (meaning value arguments).run⟩
      let outcome ← Script.attempt (request.performOn interpret target)
      (next outcome).run

/-- Something holds of all requests of an agent. -/
def Forall (Allowed : Value → Request → Prop) : Agent → Prop
  | done _ => True
  | observe next => ∀ world, (next world).Forall Allowed
  | perform target request meaning next =>
      Allowed target request ∧ (∀ value arguments, (meaning value arguments).Forall Allowed) ∧
        ∀ outcome, (next outcome).Forall Allowed

end Agent

/-! ## Operations -/

/-- **A request serves a library**: it is made of the library, of one of its functions or of one of its
generators, which it positions only at blocks of the library. -/
def Enclosure.Serves (site : Enclosure) : Value → Request → Prop
  | .library known, _ => known = site.place
  | .function reference, _ => reference.owner = site.place
  | .generator generator, request => site.Owns generator ∧ request.target.LiesIn site.place
  | _, _ => False

section

variable {Effect : World → World → Prop} [IsEffect Effect]

/-- Looking at a library does nothing. -/
theorem Script.leads_libraryAttribute (place : LibraryId) (name : String) :
    Leads Effect (attributeOf (.library place) name) := by
  refine Leads.get.bind fun world => ?_
  split
  next known =>
    obtain ⟨value, -, rfl⟩ := Option.map_eq_some_iff.mp known
    exact Leads.pure value
  next => exact Leads.pure _
  next => exact Leads.throw _

/-- Looking at a function does nothing. -/
theorem Script.leads_functionAttribute (reference : FunctionRef) (name : String) :
    Leads Effect (attributeOf (.function reference) name) := by
  refine Leads.get.bind fun world => ?_
  split
  next own found =>
    change functionAttribute? world reference name = some own at found
    unfold functionAttribute? at found
    split at found
    all_goals cases found
    all_goals first | exact Leads.pure _ | exact (Leads.lift _).bind fun _ => Leads.pure _
  next => exact Leads.pure _
  next => exact Leads.throw _

/-- An operation that may be there leads where it does. -/
theorem Build.leads_getD {Result : Type} {step? : Option (Build Result)} {fault : Fault}
    (leads : ∀ step, step? = some step → Leads Effect step) :
    Leads Effect (step?.getD (throw fault)) := by
  cases step? with
  | none => exact Leads.throw fault
  | some step => exact leads step rfl

end

section

variable {site : Enclosure} {interpret : Value → Callback}
  (callbacks : ∀ value, (interpret value).LeadsTo (Along site.Keeps))
include callbacks

/-- An operation of a generator of the library spares all other libraries. -/
theorem Request.leads_perform {generator : GeneratorId} {request : Request}
    (owned : site.Owns generator) (target : request.target.LiesIn site.place) :
    Leads (Along site.Keeps) (request.perform interpret generator) := by
  have allowed (world : World) : (site.residence).Allows world generator request interpret :=
    ⟨owned, fun _ => target, fun _ _ _ _ _ => trivial, fun _ _ => trivial, fun _ _ => trivial⟩
  -- The discipline speaks of steps that may be held up; here nothing is.
  have obeys (value : Value) : (site.residence).Obeys (fun _ => false) (interpret value)
      (interpret value) :=
    ⟨rfl, fun world arguments valid =>
      .of_step (callbacks value arguments world valid) fun _ _ _ _ _ _ => trivial⟩
  intro world valid
  unfold Request.perform
  rw [Build.after_get_bind]
  split
  next inside =>
    exact (Discipline.follows_action valid inside (allowed world) obeys).course
  next => exact valid

/-- **An operation that serves a library** spares all others, if its callbacks do. -/
theorem Request.leads_performOn {target : Value} {request : Request}
    (serves : site.Serves target request) :
    Leads (Along site.Keeps) (request.performOn interpret target) := by
  cases target with
  | generator generator => exact request.leads_perform callbacks serves.1 serves.2
  | library place =>
      obtain rfl : place = site.place := serves
      cases request with
      | inspect name => exact Script.leads_libraryAttribute site.place name
      | operation verb positional named =>
          have given : Script.Call.LeadsTo (Along site.Keeps) ⟨interpret, positional, named⟩ :=
            callbacks
          exact Build.leads_getD fun action known => Script.leads_onLibrary? given known
  | function reference =>
      have here : AllowsLibrary reference.owner (Along site.Keeps) := serves ▸ inferInstance
      cases request with
      | inspect name => exact Script.leads_functionAttribute reference name
      | operation verb positional named =>
          exact Build.leads_getD fun action known => Script.leads_onFunction? known
  | _ => exact serves.elim

end

/-! ## Runs -/

/-- **An agent that serves a library** spares all others. -/
theorem Agent.leads {site : Enclosure} {agent : Agent} (serves : agent.Forall site.Serves) :
    Leads (Along site.Keeps) agent.run := by
  induction agent with
  | done outcome =>
      cases outcome with
      | ok value => exact Leads.pure value
      | error fault => exact Leads.throw fault
  | observe next ih => exact Leads.get.bind fun world => ih world (serves world)
  | perform target request meaning next meaning_ih next_ih =>
      obtain ⟨here, meant, goes_on⟩ := serves
      refine (Leads.attempt ?_).bind fun outcome => next_ih outcome (goes_on outcome)
      exact Request.leads_performOn (fun value arguments =>
        meaning_ih value arguments (meant value arguments)) here

/-- **A library is as it was**, whatever has happened elsewhere. -/
structure World.LeavesAlone (other : LibraryId) (before after : World) : Prop where
  /-- Its module has the same content, it declares the same under the same names with the same
  visibilities, and it has the same strings, the same default visibility and the same warnings. -/
  library : (after.library other).bare = (before.library other).bare
  /-- The fragments that it declares are the same, and as visible. -/
  fragment : ∀ listed ∈ (before.library other).fragments,
    after.fragment listed.2 = before.fragment listed.2
  /-- The text of its module, read before, is what is read afterwards. -/
  text : before.NamesSteadily → ∀ world text, Build.printModule other world = .ok text before →
    Build.printModule other after = .ok text after

/-- **Libraries are isolated**: whatever is done with a library, its functions and its generators, in a
world that scripts attain, and whatever fails, all other libraries are as they were. The values that
are used may be of any library; the generators of the library are at its blocks. -/
theorem Script.Attainable.isolated {world : World} (attainable : Attainable world)
    {place other : LibraryId} (different : other ≠ place)
    (positioned : ∀ generator < world.generators.length,
      (world.generator generator).function.owner = place →
        (world.generator generator).block.LiesIn place)
    {agent : Agent} (serves : agent.Forall (Enclosure.Serves ⟨place, world.BuildsIn place⟩)) :
    world.LeavesAlone other (agent.run.after world) := by
  have homes := attainable.homes
  have settled : Enclosure.Settled ⟨place, world.BuildsIn place⟩ world :=
    { homes
      fresh := fun generator beyond inside => (Nat.not_lt.mpr beyond inside).elim
      own := fun generator inside owned =>
        ⟨owned inside, positioned generator inside (owned inside)⟩ }
  have others := (settled.refl.leads (Agent.leads serves)).others
  exact
    { library := others.library other different
      fragment := fun listed member =>
        others.fragment other different listed member (homes.inside other listed member)
      text := fun names start text read => others.upheld.printModule names different read }

/-! ### Two libraries -/

namespace World

/-- A world with a library that declares a function, a fragment and a global, and a second one whose
function has a generator at its entry. -/
def estate : World :=
  (do
    let first ← Library.create (.text "b") (.text "public") (.text "smart") .none (.truth false) none
    let _ ← Library.define first (.text "f") (.tuple []) (.type (.int 32)) none
    let _ ← Library.declareFragment first (.text "m") (.type (.int 32))
    let _ ← Library.declareGlobal first (.text "x") (.integer 5)
    let second ← Library.create (.text "a") (.text "public") (.text "smart") .none (.truth false) none
    let function ← Library.define second (.text "g") (.tuple []) (.type .void) none
    Generator.atEntry function : Build GeneratorId).after Script.initialWorld

/-- The world in which the module of the first library has been read. -/
def surveyed : World :=
  (Build.printModule 0).after estate

/-- An agent of the second library: it imports the first one, calls its function, sets up a return
block, and in the end defines a function that is there already. -/
def borrower : Agent :=
  .perform (.library 1) (.operation "import_" [.library 0] []) (fun _ _ => .done (.ok .none)) fun _ =>
    .perform (.generator 0) (.operation "call" [.function ⟨0, 0⟩] [])
        (fun _ _ => .done (.ok .none)) fun _ =>
      .perform (.function ⟨1, 0⟩) (.operation "setup_return" [] [])
          (fun _ _ => .done (.ok .none)) fun _ =>
        .perform (.library 1) (.operation "function" [.text "g"] [])
            (fun _ _ => .done (.ok .none)) fun outcome => .done outcome

/-- Scripts attain the world in which the module has been read. -/
theorem attainable_surveyed : Script.Attainable surveyed := by
  have built : Script.Attainable estate := Script.attainable_initialWorld.after fun _ _ =>
    (Library.leads_create _ _ _ _ _ nofun).bind fun first =>
      (Library.leads_define first _ _ _ nofun).bind fun _ =>
        (Library.leads_declareFragment first _ _).bind fun _ =>
          (Library.leads_declareGlobal first _ _).bind fun _ =>
            (Library.leads_create _ _ _ _ _ nofun).bind fun second =>
              (Library.leads_define second _ _ _ nofun).bind fun function =>
                Generator.leads_atEntry function
  exact built.after fun _ _ => Build.leads_printModule 0

end World

/-- Importing, calling and building in the second library, until it fails, leaves the first one alone; its
text is the one that was read. -/
theorem Script.Attainable.isolated_surveyed :
    Script.Attainable World.surveyed ∧
      (World.borrower.run.succeeds World.surveyed = false ∧
        ((World.borrower.run.after World.surveyed).library 1).functions.length = 2) ∧
      World.surveyed.LeavesAlone 0 (World.borrower.run.after World.surveyed) ∧
        ∃ text, Build.printModule 0 World.estate = .ok text World.surveyed ∧
          Build.printModule 0 (World.borrower.run.after World.surveyed) =
            .ok text (World.borrower.run.after World.surveyed) := by
  have alone : World.surveyed.LeavesAlone 0 (World.borrower.run.after World.surveyed) := by
    have different : (0 : LibraryId) ≠ 1 := by decide
    refine World.attainable_surveyed.isolated different (fun generator inside _ block given => ?_) ?_
    -- The only generator is at the entry of the function of the second library.
    · have only : World.surveyed.generators.length = 1 := by decide +kernel
      obtain rfl : generator = 0 := by omega
      have entry : (World.surveyed.generator 0).block.block? = some ⟨⟨1, 0⟩, 0⟩ := by decide +kernel
      rw [entry] at given
      cases given
      rfl
    · have builds : World.surveyed.BuildsIn 1 0 := fun _ => by decide +kernel
      have nowhere : Value.LiesIn 1 .none := fun block given => (Option.not_mem_none _ given).elim
      exact ⟨rfl, fun _ _ => trivial, fun _ => ⟨⟨builds, nowhere⟩, fun _ _ => trivial, fun _ =>
        ⟨rfl, fun _ _ => trivial, fun _ => ⟨rfl, fun _ _ => trivial, fun _ => trivial⟩⟩⟩⟩
  obtain ⟨text, read⟩ : ∃ text, Build.printModule 0 World.estate = .ok text World.surveyed :=
    Build.ok_of_succeeds (by decide +kernel)
  refine ⟨World.attainable_surveyed, ⟨by decide +kernel, by decide +kernel⟩, alone, text, read, ?_⟩
  exact alone.text (.of_hasPhrases (by decide +kernel)) _ text read

end StructuredIR
