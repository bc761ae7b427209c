import StructuredIR.Proofs.Blocks
import StructuredIR.Proofs.Courses

/-! # Setting up shared returns on a course

The first shared return of a function that yields something allocates a slot and records it; then
the return block comes up, is recorded and gets its instructions.

* **`Function.SetUpSteps`** says of these steps, one by one, that they stay on a course.
* **`Function.SetUpSteps.course`**: then so does setting up the return block. -/

namespace StructuredIR

open Build (Follows)

namespace Function

variable {Course : World → World → Prop} [IsCourse Course] {reference : FunctionRef} {world : World}
  {result : IRType} {Slot Loaded : Operand → Prop}

/-- **The steps that set up shared returns** stay on a course, where `Slot` holds of a slot and
`Loaded` of what is loaded from one. -/
structure SetUpSteps (Course : World → World → Prop) (reference : FunctionRef) (result : IRType)
    (Slot Loaded : Operand → Prop) (world : World) : Prop where
  /-- A slot is allocated. -/
  allocates (entry : BlockRef) : Follows (fun _ => false) Course world
    (Build.emitFirst entry "retval" (.alloca result none))
    (Build.emitFirst entry "retval" (.alloca result none)) fun slot _ => Slot slot
  /-- It is recorded. -/
  records {middle : World} {slot : Operand} : Course world middle → Slot slot →
    Course middle (middle.changeFunction reference fun function =>
      { function with slot := some slot })
  /-- The return block comes up. -/
  appends {middle : World} : Course world middle →
    Course middle ((appendNamed reference "return").after middle)
  /-- It is recorded as well. -/
  enters {middle : World} (exit : BlockRef) : Course world middle →
    Course middle (middle.changeFunction reference fun function =>
      { function with exit := some exit })
  /-- It loads what the slot holds. -/
  loads {middle : World} {slot : Operand} (exit : BlockRef) : Course world middle → Slot slot →
    Follows (fun _ => false) Course middle (Build.emit exit (.load slot))
      (Build.emit exit (.load slot)) fun value _ => Loaded value
  /-- It returns this. -/
  returns {middle : World} {value : Operand} (exit : BlockRef) : Course world middle →
    result ≠ .void → Loaded value → Course middle ((Build.emit exit (.ret value)).after middle)
  /-- If there is nothing to return, it returns nothing. -/
  leaves {middle : World} (exit : BlockRef) : Course world middle → result = .void →
    Course middle ((Build.emit exit .retVoid).after middle)

/-- What is left to do for shared returns once it is known whether there is a slot: the return block
comes up, and returns what the slot holds. -/
def enterReturn (reference : FunctionRef) (slot? : Option Operand) : Build BlockRef := do
  let exit ← appendNamed reference "return"
  modify (·.changeFunction reference fun function => { function with exit := some exit })
  match slot? with
  | none => let _ ← Build.emit exit .retVoid
  | some slot =>
      let value ← Build.emit exit (.load slot)
      let _ ← Build.emit exit (.ret value)
  return exit

namespace SetUpSteps

/-- A slot is created on the course. -/
theorem createSlot (steps : SetUpSteps Course reference result Slot Loaded world)
    (valid : Course world world) :
    Follows (fun _ => false) Course world (createSlot reference result)
      (createSlot reference result) fun slot _ => Slot slot := by
  refine .get ?_
  split
  · exact .throw valid
  next entry _ =>
    refine (steps.allocates entry).bind fun slot middle later holds => ?_
    exact (Follows.change (steps.records later holds)).bind fun _ final further _ =>
      .pure (IsCourse.arrives further) holds

/-- Once there is a slot, or none is needed, the rest stays on the course. -/
theorem enterReturn (steps : SetUpSteps Course reference result Slot Loaded world)
    (slot? : Option Operand) {middle : World} (upTo : Course world middle)
    (known : slot?.elim (result = .void) fun slot => result ≠ .void ∧ Slot slot) :
    Follows (fun _ => false) Course middle (enterReturn reference slot?)
      (enterReturn reference slot?) fun _ _ => True := by
  refine (Follows.of_step (steps.appends upTo) fun _ _ _ => trivial).bind fun exit next later _ => ?_
  have further := IsCourse.trans upTo later
  refine (Follows.change (steps.enters exit further)).bind fun _ third entered _ => ?_
  have onward := IsCourse.trans further entered
  cases slot? with
  | none =>
      have leaves := steps.leaves exit onward known
      exact (Follows.of_step leaves fun _ _ _ => trivial).bind fun _ _ last _ =>
        .pure (IsCourse.arrives last) trivial
  | some slot =>
      obtain ⟨yields, holds⟩ := known
      refine (steps.loads exit onward holds).bind fun value fourth loads loaded => ?_
      have returns := steps.returns exit (IsCourse.trans onward loads) yields loaded
      exact (Follows.of_step returns fun _ _ _ => trivial).bind fun _ _ last _ =>
        .pure (IsCourse.arrives last) trivial

/-- **Setting up the return block of a function** stays on the course if its steps do. -/
theorem course
    (steps : SetUpSteps Course reference (world.routineOf reference).result Slot Loaded world)
    (valid : Course world world) : Course world ((setUpReturn reference).after world) := by
  have follows : Follows (fun _ => false) Course world (setUpReturn reference)
      (setUpReturn reference) fun _ _ => True := by
    refine .get ?_
    split
    · exact .pure valid trivial
    refine .get ?_
    dsimp only
    split
    next nothing =>
      have unneeded : Follows (fun _ => false) Course world (pure none) (pure none)
          fun (slot? : Option Operand) _ => slot? = none := .pure valid rfl
      refine unneeded.bind fun slot? middle upTo given => ?_
      obtain rfl := given
      exact steps.enterReturn none upTo nothing
    next yields =>
      have created : Follows (fun _ => false) Course world
          (some <$> Function.createSlot reference (world.routineOf reference).result)
          (some <$> Function.createSlot reference (world.routineOf reference).result)
          fun slot? _ => ∃ slot, slot? = some slot ∧ Slot slot :=
        (steps.createSlot valid).map fun slot _ _ holds => ⟨slot, rfl, holds⟩
      refine created.bind fun slot? middle upTo given => ?_
      obtain ⟨slot, rfl, holds⟩ := given
      exact steps.enterReturn (some slot) upTo ⟨yields, holds⟩
  exact follows.course

end SetUpSteps

end Function

end StructuredIR
