import StructuredIR.Proofs.Discipline.Endings
import StructuredIR.Proofs.Returns.Funnel

/-! # What is branched on

A conditional, a conditional return and the condition of a loop all coerce what they are given to a
single bit. What has a type already keeps it, so they branch on whatever operand they are given.

* **`Value.isCondition`** says that a value is no operand of another type, and **`Check.conditions`**
  checks this of all that is given to branch on.
* **`Client.Visits.condition_isBit`**: whatever is done and whatever fails, each conditional branch that
  a client adds is on a bit, if what it gives to branch on is checked.
* **`Client.branches_on_numbers`** shows how a number becomes a condition. -/

namespace StructuredIR

/-- **Whether a value that is branched on becomes a bit, or is refused.** Only what has a type of its
own does neither, unless the type is that of a bit. -/
def Value.isCondition : Value → Bool
  | .operand known => known.type = .int 1
  | .function _ => false
  | _ => true

/-- The operand that an operation branches on, if it does. -/
def Operation.condition? : Operation → Option Operand
  | .branchIf condition _ _ => some condition
  | _ => none

/-- Only a conditional branch branches on an operand. -/
theorem Operation.eq_of_condition? {operation : Operation} {condition : Operand}
    (known : operation.condition? = some condition) :
    ∃ whenTrue whenFalse, operation = .branchIf condition whenTrue whenFalse := by
  unfold condition? at known
  split at known
  · cases known
    exact ⟨_, _, rfl⟩
  · cases known

/-- **A value becomes a bit exactly if it is a condition**: rows are refused, and all else that has no
type is made a bit. -/
theorem Coercion.conforms_bit_iff {pool : Option LibraryId} {value : Value} {operand : Operand}
    {world after : World} (run : coerce pool value (some (.int 1)) world = .ok operand after) :
    world.conforms (.int 1) value = true ↔ value.isCondition = true := by
  have single := not_isRow_of_int run
  cases value with
  | operand known => exact Iff.rfl
  | function reference =>
      refine iff_of_false (fun bit => ?_) Bool.false_ne_true
      rw [World.conforms, decide_eq_true_eq] at bit
      cases bit
  | list items | tuple items | resolution kind target | liveRow row => cases single
  | _ => exact iff_of_true rfl rfl

/-- What is checked of what is branched on. -/
def Check.conditions : Check where
  argument? := Request.condition?
  callback? := Request.comparison?
  passes _ value := value.isCondition

/-- A request that passes branches only on conditions. -/
theorem Check.Passed.isCondition {world : World} {request : Request}
    {interpret : Value → Callback} (passed : conditions.Passed world request interpret)
    {value : Value} (tests : request.Tests interpret value) : value.isCondition = true := by
  rcases tests with given | ⟨compare, called, gives⟩
  · exact passed.argument value given
  · obtain ⟨_, passes⟩ := passed.callback compare value called gives
    exact passes

/-- Only conditions are branched on. Anything may be returned, by generators of any function. -/
def Endings.onConditions : Endings where
  Owns _ := True
  Serves _ := True
  result? _ := none
  Tests value := value.isCondition = true
  Yields _ _ := True

/-- So much is known of every world. -/
theorem Endings.holds_onConditions (world : World) : onConditions.Holds world where
  fresh _ _ := trivial
  own _ _ _ := trivial
  results _ _ known := (Option.some_ne_none _ known.symm).elim
  slots _ _ _ known := (Option.some_ne_none _ known.symm).elim

/-- **Only bits are branched on.** Take any client that gives no operand of another type to branch on,
and any world that it visits. Each conditional branch there is one that was there before, or is on a
bit. -/
theorem Client.Visits.condition_isBit {client : Client} {world middle : World}
    (visits : (client.checked .conditions false).Visits world middle) {block : BlockRef}
    {instruction : Instruction} (member : instruction ∈ middle.row block) {condition : Operand}
    (branches : instruction.operation.condition? = some condition) :
    instruction ∈ world.row block ∨ condition.type = .int 1 := by
  -- Nothing is asked of the client but what it branches on: any generator may do anything else.
  have allowed : (client.checked .conditions false).Admits Endings.onConditions.discipline.Allows
      world :=
    (client.admits_checked (client.forall_of_all fun _ _ => trivial) false world).imp
      fun _ _ _ _ passed =>
        Endings.allows passed.1 (fun _ => passed.2.isCondition) fun _ _ => trivial
  have later := (Endings.holds_onConditions world).visits allowed visits
  refine (later.code block instruction member).imp_right fun permitted => ?_
  obtain ⟨whenTrue, whenFalse, does⟩ := Operation.eq_of_condition? branches
  rw [does] at permitted
  obtain ⟨start, value, tested, pool, after, run⟩ := permitted
  exact (Coercion.type_coerce_iff run).mpr ((Coercion.conforms_bit_iff run).mpr tested)

namespace Client

/-- A client that tests one value three times: in a conditional, in a loop and in a return. -/
def testing (condition : Value) : Client :=
  let nothing : Value → List Value → Client := fun _ _ => .done (.ok .none)
  .perform 0 (.operation "cond" [condition, .object 0] []) nothing fun _ =>
    .perform 0 (.operation "lp" [.none, .object 0] []) (fun _ _ => .done (.ok condition)) fun _ =>
      .perform 0 (.operation "cret" [condition, .integer 2] []) nothing .done

open FunctionBody in
/-- A truth value is branched on as a bit. -/
theorem Visits.condition_isBit_testing :
    let middle := ((testing (.truth true)).checked .conditions false).run.after oneFunction
    ∃ instruction ∈ middle.row onlyBody.entry,
      ∃ condition, instruction.operation.condition? = some condition ∧ condition.type = .int 1 := by
  intro middle
  have ends : (middle.row onlyBody.entry).any
      (fun instruction => instruction.operation.condition?.isSome) = true := by
    decide +kernel
  obtain ⟨instruction, member, branches⟩ := List.any_eq_true.mp ends
  obtain ⟨condition, branches⟩ := Option.isSome_iff_exists.mp branches
  refine ⟨instruction, member, condition, branches, ?_⟩
  have visits := ((testing (.truth true)).checked .conditions false).visits_after oneFunction
  rcases visits.condition_isBit member branches with before | bit
  · exact (List.not_mem_nil before).elim
  · exact bit

end Client

/-- The types of the operands that are branched on in a routine, in the order of its blocks. -/
def World.conditionTypes (world : World) (symbol : SymbolRef) : List IRType :=
  ((world.order symbol).flatMap fun place => world.row ⟨symbol, place⟩).filterMap
    fun instruction => instruction.operation.condition?.map Operand.type

open FunctionBody in
/-- **A number is branched on as it is**, in a conditional, in a loop and in a return. -/
theorem Client.branches_on_numbers :
    ((testing (.operand (.integer (.int 32) 5))).run.after oneFunction).conditionTypes
      onlyBody.symbol = [.int 32, .int 32, .int 32] := by
  decide +kernel

end StructuredIR
