import StructuredIR.Proofs.Discipline.Requests
import StructuredIR.Proofs.Returns.Site

/-! # The discipline of shared returns

The generators of a function with shared returns keep the course of these, as long as nothing
positions a generator at the return block. `ReturnSite.discipline` is this discipline: each step that
operations of generators consist of keeps the course, and says where generators may be afterwards. -/

namespace StructuredIR

open Build (Leads)

namespace ReturnSite

variable {site : ReturnSite} {world : World}

/-- A generator of the function that is there. -/
structure Has (site : ReturnSite) (world : World) (place : GeneratorId) : Prop where
  /-- It is a generator of the function. -/
  owned : site.Owns place
  /-- It is there. -/
  inside : place < world.generators.length

/-- Generators stay there. -/
theorem Has.later {before after : World} {place : GeneratorId} (has : site.Has before place)
    (later : site.Later before after) : site.Has after place :=
  ⟨has.owned, Nat.lt_of_lt_of_le has.inside later.generators⟩

/-- A generator of the function is for the function. -/
theorem Has.function {place : GeneratorId} (has : site.Has world place)
    (holds : site.Holds world) : (world.generator place).function = site.reference :=
  holds.own place has.inside has.owned

/-! ## Single steps -/

/-- Adding an instruction to a block that is clear of the return block keeps the course. -/
theorem Holds.emit {block : BlockRef} (holds : site.Holds world)
    (clear : site.Clear world (.operand (.block block))) (operation : Operation) :
    site.Later world ((Build.emit block operation).after world) := by
  cases run : Build.emit block operation world with
  | error fault final =>
      rw [Build.after_of_error run]
      exact holds.later_of_sameCode (Build.emit_error run)
  | ok value final =>
      obtain ⟨made, -, -, -, -, changes⟩ := Build.emit_ok run
      rw [Build.after_of_ok run]
      exact holds.later_of_changesRow clear changes

/-- The entry is clear of the return block. -/
theorem Holds.clear_entry (holds : site.Holds world) :
    site.Clear world (.operand (.block site.entry)) := by
  intro same
  have meant : site.entry = site.exit := Operand.block.inj (Value.operand.inj same)
  refine ⟨fun there => (holds.set _ there).2.2.1 meant.symm, ?_⟩
  exact meant ▸ holds.entryInside.2

/-- The routine of the function, as the function knows it, is there. -/
theorem Holds.isSome_functionSymbol (holds : site.Holds world) :
    (world.routine? (world.functionSymbol site.reference)).isSome := by
  rw [holds.stands]
  exact holds.isSome_routine

/-- A new block of the function keeps the course, and is clear of the return block. -/
theorem Holds.appendNamed (base : String) (holds : site.Holds world) :
    site.Later world ((Function.appendNamed site.reference base).after world) ∧
      ∀ block final, Function.appendNamed site.reference base world = .ok block final →
        site.Clear final (.operand (.block block)) := by
  obtain ⟨final, run, adds⟩ :=
    Function.appendNamed_run site.reference base world holds.isSome_functionSymbol
  rw [holds.stands] at run adds
  obtain ⟨later, clear⟩ := holds.later_of_addsBlock adds
  refine ⟨(Build.after_of_ok run).symm ▸ later, fun block final' claimed => ?_⟩
  rw [run] at claimed
  cases claimed
  exact clear

/-- A new block of the function keeps the course and is clear of the return block, however it is
named. -/
theorem Holds.appendBlock (base : Value) (holds : site.Holds world) :
    site.Later world ((Function.appendBlock site.reference base).after world) ∧
      ∀ block final, Function.appendBlock site.reference base world = .ok block final →
        site.Clear final (.operand (.block block)) := by
  cases run : Function.appendBlock site.reference base world with
  | error fault final =>
      refine ⟨?_, fun block final' claimed => ?_⟩
      · rw [Build.after_of_error run]
        exact holds.later_of_sameCode (Function.appendBlock_error run)
      · cases claimed
  | ok block final =>
      obtain ⟨rfl, adds⟩ := Function.appendBlock_ok holds.isSome_functionSymbol run
      rw [holds.stands] at run adds
      obtain ⟨later, clear⟩ := holds.later_of_addsBlock adds
      refine ⟨(Build.after_of_ok run).symm ▸ later, fun block final' claimed => ?_⟩
      cases claimed
      rwa [holds.stands]

/-- Moving a block that is clear of the return block keeps the course. -/
theorem Holds.moveAfter {moved : Value} (anchor : Value) (holds : site.Holds world)
    (clear : site.Clear world moved) :
    site.Later world ((Function.moveAfter site.reference moved anchor).after world) := by
  obtain ⟨order, reorders, how⟩ := Function.moveAfter_reorders site.reference moved anchor
    holds.stands holds.isSome_routine
  refine holds.later_of_reorders reorders ?_ ?_
  · rcases how with rfl | ⟨place, -, inside, ⟨target, there, rfl⟩ | ⟨rfl, -⟩⟩
    · exact fun _ => id
    · intro other member
      have put_back := (Routine.insertAfter_perm place there).trans
        (List.perm_cons_erase inside).symm
      exact put_back.mem_iff.mp member
    · exact fun _ => List.mem_of_mem_erase
  · intro known
    rcases how with rfl | ⟨place, rfl, inside, ⟨target, there, rfl⟩ | ⟨rfl, -⟩⟩
    · rfl
    · have put_back := (Routine.insertAfter_perm place there).trans
        (List.perm_cons_erase inside).symm
      exact put_back.count_eq _
    · -- A failure takes a block out for good, but that is not the return block.
      have other : site.exit.place ≠ place := by
        rintro rfl
        have routine := (holds.set _ known).1
        exact (clear (by rw [← routine])).1 known
      exact List.count_erase_of_ne other

/-- Setting up the return block keeps the course. The return block of the function is the one that it
has afterwards; generators stay as they are, and blocks stay there. -/
theorem Holds.setUpReturn (holds : site.Holds world) :
    site.Later world ((Function.setUpReturn site.reference).after world) ∧
      ∀ exit final, Function.setUpReturn site.reference world = .ok exit final →
        site.exit? final = some exit ∧ final.generators = world.generators ∧
          ∀ symbol, world.blockCount symbol ≤ final.blockCount symbol := by
  rcases known : site.exit? world with _ | exit
  · obtain ⟨front, content, slot?, final, run, sets, returns⟩ :=
      Function.setUpReturn_run holds.isThere holds.stands holds.entry holds.entryInside
        holds.result known
    refine ⟨?_, fun exit final' claimed => ?_⟩
    · rw [Build.after_of_ok run]
      exact holds.later_of_setsUp known sets returns
    · rw [run] at claimed
      cases claimed
      refine ⟨congrArg Function.exit (function_of_setsUp holds sets), sets.generators,
        fun symbol => ?_⟩
      rw [sets.blockCount]
      split
      next same => exact same ▸ Nat.le_succ _
      next => exact Nat.le_refl _
  · have run := Function.setUpReturn_of_exit known
    refine ⟨?_, fun exit final' claimed => ?_⟩
    · rw [Build.after_of_ok run]
      exact holds.refl
    · rw [run] at claimed
      cases claimed
      exact ⟨known, rfl, fun _ => Nat.le_refl _⟩

/-- Texts may be pooled and routines declared on the course. -/
theorem allowsSymbols : AllowsSymbols (Along site.Later) :=
  .of_sameCode fun _ _ same later => later.holds.later_of_sameCode same

/-! ## The discipline -/

/-- **The discipline of shared returns**: generators are for the function, and never at the return
block. -/
def discipline (site : ReturnSite) : Discipline where
  Course := site.Later
  Owns := site.Owns
  Serves := (· = site.reference)
  Spot := site.Clear
  Citable _ := True
  Permits _ := True
  Tests _ := True
  Yields _ _ := True
  isCourse := inferInstance
  generators later := later.generators
  spot later clear := clear.later later
  fresh valid := valid.holds.fresh _ (Nat.le_refl _)
  function valid owned inside := valid.holds.own _ inside owned
  position valid _ inside := valid.holds.clear _ inside
  entry valid serves := by
    rw [serves, Generator.entryValue, valid.holds.entry]
    exact valid.holds.clear_entry
  slot _ _ _ _ := trivial
  cite _ _ := trivial
  symbols _ :=
    have := site.allowsSymbols
    inferInstance
  straight _ := trivial
  branch _ := trivial
  branchIf _ _ _ _ := trivial
  retVoid _ _ _ := trivial
  ret _ _ _ _ _ := trivial
  emit valid clear _ _ := valid.holds.emit clear _
  changeGenerator valid function clear := valid.holds.later_of_changeGenerator function clear
  addGenerator valid function clear := valid.holds.later_of_addGenerator function clear
  appendNamed base valid serves := serves ▸ (valid.holds.appendNamed base).1
  spotNamed valid serves run := (valid.holds.appendNamed _).2 _ _ (serves ▸ run)
  appendBlock base valid serves := serves ▸ (valid.holds.appendBlock base).1
  spotBlock valid serves run := (valid.holds.appendBlock _).2 _ _ (serves ▸ run)
  moveAfter anchor valid serves clear := serves ▸ valid.holds.moveAfter anchor clear
  setUpReturn valid serves := serves ▸ valid.holds.setUpReturn.1

/-- A request that the clients of a function may make: it is made of a generator of the function,
and positions no generator at the return block. That block is never the entry. -/
def Allowed (site : ReturnSite) (place : GeneratorId) (request : Request) : Prop :=
  site.Owns place ∧ (request.target = .operand (.block site.exit) → site.exit = site.entry)

/-- The discipline of shared returns allows such requests. -/
theorem Allowed.allows {place : GeneratorId} {request : Request} {interpret : Value → Callback}
    (allowed : site.Allowed place request) :
    site.discipline.Allows world place request interpret where
  owned := allowed.1
  target valid := fun same => valid.holds.clear_entry (by rw [allowed.2 same])
  operands _ _ _ _ _ := trivial
  tests _ _ := trivial
  yields _ _ := trivial

/-- **A client of a function** keeps the course, up to each world that it visits and from there up
to the end. -/
theorem Holds.visits {client : Client} (holds : site.Holds world)
    (allowed : client.Forall site.Allowed) {middle : World} (visits : client.Visits world middle) :
    site.Later world middle ∧ site.Later middle (client.run.after world) :=
  Discipline.visits holds.refl (allowed.admitted (fun _ _ _ _ => Allowed.allows) world)
    (client.ends_of_forall fun _ _ _ _ => trivial) visits

end ReturnSite

end StructuredIR
