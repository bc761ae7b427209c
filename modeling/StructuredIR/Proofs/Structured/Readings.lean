import StructuredIR.Instruction

/-! # Readings

A structured body can be read without looking at blocks: as a tree of instructions, alternatives and
loops. What is executed of such a tree depends on how its conditions come out.

* **`Reading`** is the tree.
* **`Reading.exec`** executes it. Conditions are decided in the order in which they come up; each
  loop is only followed for a number of turns, so there is always an end, and what is executed in a
  longer or endless run is known from its beginnings. -/

namespace StructuredIR

/-- How a body, or a part of it, is read. -/
inductive Reading where
  /-- Instructions one after the other. -/
  | run (instructions : List Instruction)
  /-- One part, and then another one. -/
  | seq (first second : Reading)
  /-- One of two parts, as a condition comes out. -/
  | choose (whenTrue whenFalse : Reading)
  /-- Turns of a comparison, a body and an increment, one after the other. -/
  | loop (compare body increment : Reading)
  /-- The end of a comparison: the loop goes on if a condition holds. -/
  | test
  /-- The innermost loop ends. -/
  | leave
  /-- The turn of the innermost loop is over. -/
  | again
  /-- The function returns, after some instructions. -/
  | returns (instructions : List Instruction)
  /-- The function returns, after some instructions, if a condition holds. -/
  | returnsIf (instructions : List Instruction)

/-- How what is executed of a part ends. -/
inductive Ending where
  /-- Control goes on behind the part. -/
  | falls
  /-- Control leaves the innermost loop. -/
  | leaves
  /-- The turn of the innermost loop is over. -/
  | again
  /-- The function has returned. -/
  | returns
  /-- A loop has more turns than are followed. -/
  | exhausted

/-- What is executed of a part. -/
structure Passage where
  /-- How it ends. -/
  ending : Ending
  /-- How many conditions have come out when it ends. -/
  asked : Nat
  /-- The instructions that are executed, but for terminators. -/
  trace : List Instruction

namespace Passage

/-- What is executed after some instructions. -/
def behind (trace : List Instruction) (passage : Passage) : Passage :=
  { passage with trace := trace ++ passage.trace }

/-- What is executed if one part comes behind another one. -/
def andThen (first : Passage) (next : Nat → Passage) : Passage :=
  match first.ending with
  | .falls => (next first.asked).behind first.trace
  | _ => first

/-- What is executed if one part comes behind another one, or the turn is over before. -/
def onward (first : Passage) (next : Nat → Passage) : Passage :=
  match first.ending with
  | .falls | .again => (next first.asked).behind first.trace
  | _ => first

/-- What is executed of a loop whose turns are known, as long as each turn leads to another one. -/
def repeatedly (once : Nat → Passage) : Nat → Nat → Passage
  | 0, asked => ⟨.exhausted, asked, []⟩
  | turns + 1, asked =>
      match (once asked).ending with
      | .again => (repeatedly once turns (once asked).asked).behind (once asked).trace
      | _ => once asked

/-- A part whose end is the end of a turn. -/
def turned (passage : Passage) : Passage :=
  match passage.ending with
  | .falls => { passage with ending := .again }
  | _ => passage

/-- A loop that is left is over. -/
def closed (passage : Passage) : Passage :=
  match passage.ending with
  | .leaves => { passage with ending := .falls }
  | _ => passage

end Passage

namespace Reading

open Passage (repeatedly)

/-- **What is executed of a reading** if conditions come out as `decide` says, in the order in which
they come up, and if `asked` of them have come up before. At most `turns` turns of each loop are
followed. -/
def exec (decide : Nat → Bool) (turns : Nat) : Reading → Nat → Passage
  | run instructions, asked => ⟨.falls, asked, instructions⟩
  | seq first second, asked =>
      (first.exec decide turns asked).andThen (second.exec decide turns)
  | choose whenTrue whenFalse, asked =>
      if decide asked then whenTrue.exec decide turns (asked + 1)
      else whenFalse.exec decide turns (asked + 1)
  | loop compare body increment, asked =>
      -- A turn that is over before its increment still has its increment; an increment that is over
      -- before its end begins anew.
      let turn (asked : Nat) : Passage :=
        (((compare.exec decide turns asked).andThen (body.exec decide turns)).onward
          (repeatedly (increment.exec decide turns) turns)).turned
      (repeatedly turn turns asked).closed
  | test, asked => ⟨if decide asked then .falls else .leaves, asked + 1, []⟩
  | leave, asked => ⟨.leaves, asked, []⟩
  | again, asked => ⟨.again, asked, []⟩
  | returns instructions, asked => ⟨.returns, asked, instructions⟩
  | returnsIf instructions, asked =>
      if decide asked then ⟨.returns, asked + 1, instructions⟩ else ⟨.falls, asked + 1, []⟩

/-- The instructions that are executed of a reading from its beginning. -/
def trace (reading : Reading) (decide : Nat → Bool) (turns : Nat) : List Instruction :=
  (reading.exec decide turns 0).trace

end Reading

end StructuredIR
