import StructuredIR.Proofs.Clients

/-! # Structured clients

* **`Client.Structured`** says that a client, and everything that is called for it, asks only the
  generator that it is given, and for nothing that would take control out of the structure: no
  blocks or branches of its own, no exits or continuations that come from elsewhere.
* **`Client.strict`** runs a client that gives up as soon as anything that it asks for fails. If it
  succeeds, nothing has failed. -/

namespace StructuredIR

/-- The argument that would say where control goes on, if it were given. -/
def Request.detour (verb : String) (positional : List Value) (named : Dictionary String Value) :
    Value :=
  match verb with
  | "cond" | "lp" => (positional[3]? <|> Dictionary.get? named "exit_block").getD .none
  | "cret" => (positional[2]? <|> Dictionary.get? named "continuation").getD .none
  | _ => .none

/-- A request keeps to the structure if it is none of the operations that deal with blocks and
positions, and if control goes on where the structure says. -/
def Request.IsStructured : Request → Prop
  | .inspect _ => True
  | .operation verb positional named =>
      verb ∉ ["finish", "position_at_end", "child", "block", "br"] ∧
        detour verb positional named = .none

namespace Client

/-- **A client is structured** if it makes structured requests of the generator that it is given
only, and if what is called for it does so with the generators that it is called with. -/
def Structured : Client → GeneratorId → Prop
  | done _, _ => True
  | observe next, place => ∀ world, (next world).Structured place
  | perform target request meaning next, place =>
      target = place ∧ request.IsStructured ∧
        (∀ value part arguments, (meaning value (.generator part :: arguments)).Structured part) ∧
          ∀ outcome, (next outcome).Structured place

/-- Runs a client that fails if one of its requests fails, or a request that is made by what is called
for it. -/
def strict : Client → Build Value
  | done (.ok value) => pure value
  | done (.error fault) => throw fault
  | observe next => do (next (← get)).strict
  | perform place request meaning next => do
      let interpret (value : Value) : Callback :=
        ⟨value.arity?, fun arguments => (meaning value arguments).strict⟩
      let value ← request.perform interpret place
      (next (.ok value)).strict

end Client

end StructuredIR
