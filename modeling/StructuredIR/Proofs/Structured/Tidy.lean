import StructuredIR.Proofs.Blocks
import StructuredIR.Proofs.Bodies
import StructuredIR.Proofs.Straight

/-! # Tidy functions

While a function is built, each of its blocks is either open, that is without a terminator, or
closed, that is with one terminator that is the last instruction.

* **`FreshBody.code`** is what generators have put into a block: the slot of shared returns, which
  is put in front of the entry at any time, is left out.
* **`FreshBody.Tidy`** is the invariant of a function being built. It says nothing about
  generators, so it holds between any two steps of an operation.
* **`FreshBody.Alters`** relates worlds in which a function is tidy: code is only added, and it is
  known which blocks are no longer open and which are now. -/

namespace StructuredIR

/-! ## Open and closed blocks -/

/-- A row of instructions with one terminator, at its end, that leads only where `Goes` permits. -/
def EndsOnce (Goes : Value → Prop) (row : List Instruction) : Prop :=
  ∃ front last, row = front ++ [last] ∧ IsStraight front ∧
    last.operation.isTerminator = true ∧ ∀ target ∈ last.operation.targets, Goes target

/-- A row that ends once is not straight. -/
theorem EndsOnce.not_isStraight {Goes : Value → Prop} {row : List Instruction}
    (ends : EndsOnce Goes row) : ¬ IsStraight row := by
  obtain ⟨front, last, rfl, -, terminates, -⟩ := ends
  intro straight
  have claimed := straight last (List.mem_append_right front (List.mem_singleton_self last))
  rw [terminates] at claimed
  cases claimed

/-- What leads only where one may go leads where more is permitted. -/
theorem EndsOnce.weaken {Goes Wider : Value → Prop} {row : List Instruction}
    (ends : EndsOnce Goes row) (wider : ∀ value, Goes value → Wider value) :
    EndsOnce Wider row := by
  obtain ⟨front, last, same, straight, terminates, goes⟩ := ends
  exact ⟨front, last, same, straight, terminates, fun target member => wider _ (goes _ member)⟩

/-- A terminator behind a straight row ends it. -/
theorem EndsOnce.of_append {Goes : Value → Prop} {front : List Instruction} {last : Instruction}
    (straight : IsStraight front) (terminates : last.operation.isTerminator = true)
    (goes : ∀ target ∈ last.operation.targets, Goes target) : EndsOnce Goes (front ++ [last]) :=
  ⟨front, last, rfl, straight, terminates, goes⟩

/-- A row that ends once is the same as every row that ends once and begins with it. -/
theorem EndsOnce.eq_of_begins {Goes Wider : Value → Prop} {row longer : List Instruction}
    (ends : EndsOnce Goes row) (begins : row <+: longer) (endsLater : EndsOnce Wider longer) :
    longer = row := by
  obtain ⟨front, last, rfl, straight, terminates, -⟩ := ends
  obtain ⟨front', last', rfl, straight', terminates', -⟩ := endsLater
  obtain ⟨added, same⟩ := begins
  -- If something came behind the terminator, it would be among the straight part.
  rcases List.eq_nil_or_concat added with rfl | ⟨more, other, rfl⟩
  · rw [List.append_nil] at same
    exact same.symm
  · exfalso
    rw [List.concat_eq_append, ← List.append_assoc] at same
    obtain ⟨rfl, -⟩ := List.append_inj' same rfl
    have claimed := straight' last (by simp)
    rw [terminates] at claimed
    cases claimed

/-- A return block ends with a return, which leads nowhere. -/
theorem ReturnsBy.endsOnce {symbol : SymbolRef} {known? slot? : Option Operand} {result : IRType}
    {front content : List Instruction}
    (returns : ReturnsBy symbol known? result front content slot?) :
    EndsOnce (fun _ => False) content := by
  cases returns with
  | nothing back does =>
      refine .of_append IsStraight.nil (by rw [does]; rfl) fun target member => ?_
      rw [does] at member
      cases member
  | slot yields slot load back allocates loads does =>
      have straight : IsStraight [load] := by
        intro instruction member
        rw [List.mem_singleton.mp member, loads]
        rfl
      refine .of_append straight (by rw [does]; rfl) fun target member => ?_
      rw [does] at member
      cases member

/-- A function with a body that is being built. -/
structure FreshBody extends FunctionBody where
  /-- How many blocks the routine of the function had before. -/
  base : Nat
  /-- The routine had no blocks before, in order or not. -/
  isFirst : Prop

namespace FreshBody

open FunctionBody

variable (body : FreshBody)

/-- A block of the body that is there. -/
@[mk_iff isInside_iff]
structure IsInside (world : World) (block : BlockRef) : Prop where
  /-- It is a block of the routine. -/
  routine : block.routine = body.symbol
  /-- It is none of the blocks that the routine had before. -/
  fresh : body.base ≤ block.place
  /-- It is there. -/
  known : block.place < body.blockCount world

/-- The instructions of a block as generators have put them there. In the entry they come behind the
slot of shared returns, if there is one. -/
def code (world : World) (block : BlockRef) : List Instruction :=
  if block = body.entry ∧ (body.slot? world).isSome then (world.row block).tail
  else world.row block

/-- Where control may go to: a block of the function other than the entry. -/
def IsTarget (world : World) (value : Value) : Prop :=
  ∃ block, value = .operand (.block block) ∧ body.IsInside world block ∧ block ≠ body.entry

/-- A block is open if it is there and has no terminator. -/
def Open (world : World) (block : BlockRef) : Prop :=
  body.IsInside world block ∧ IsStraight (body.code world block)

/-- A block is closed if its only terminator is the last instruction, and leads to blocks of the
function. -/
def Closed (world : World) (block : BlockRef) : Prop :=
  body.IsInside world block ∧ EndsOnce (body.IsTarget world) (body.code world block)

/-- The blocks of a routine are in order once each, and the entry is the first one. -/
structure IsArranged (world : World) : Prop where
  /-- No block is in order twice. -/
  nodup : (world.order body.symbol).Nodup
  /-- The entry is the first one. -/
  first : (world.order body.symbol).head? = some body.entry.place
  /-- The blocks in order are those that are there. -/
  ordered (place : Nat) : place ∈ world.order body.symbol ↔ place < body.blockCount world

/-- **A function is tidy** if each block of its body is open or closed, and if its return block and
its slot are what they have to be. -/
structure Tidy (world : World) : Prop where
  /-- The function is there. -/
  isThere : (world.function? body.reference).isSome
  /-- It stands for its routine. -/
  stands : world.functionSymbol body.reference = body.symbol
  /-- It begins at its entry. -/
  entry : (world.function body.reference).entry = some body.entry
  /-- Its routine is there and yields what the function yields. -/
  result : (world.routine? body.symbol).map Routine.result = some body.result
  /-- The entry is a block of the function. -/
  entryInside : body.IsInside world body.entry
  /-- Each block is open or closed. -/
  blocks (block : BlockRef) : body.IsInside world block →
    body.Open world block ∨ body.Closed world block
  /-- The blocks are in order, unless the routine had blocks before. -/
  arranged : body.isFirst → body.IsArranged world
  /-- Without a return block there is no slot. -/
  slotless : body.exit? world = none → body.slot? world = none
  /-- A return block is a block of the function other than the entry. It ends with a return. -/
  exit (exit : BlockRef) : body.exit? world = some exit →
    body.IsInside world exit ∧ exit ≠ body.entry ∧ EndsOnce (fun _ => False) (body.code world exit)
  /-- The slot is the first instruction of the entry. -/
  slot (slot : Operand) : body.slot? world = some slot →
    ∃ (first : Instruction) (rest : List Instruction), world.row body.entry = first :: rest ∧
      first.operation = .alloca body.result none

variable {body}

/-- The code of a block other than the entry is its row. -/
theorem code_of_ne {world : World} {block : BlockRef} (other : block ≠ body.entry) :
    body.code world block = world.row block := by
  rw [code, if_neg]
  exact fun claimed => other claimed.1

/-- A block without instructions has no code. -/
theorem code_of_isEmpty {world : World} {block : BlockRef}
    (empty : (world.block block).instructions.isEmpty = true) : body.code world block = [] := by
  have blank : world.row block = [] := List.isEmpty_iff.mp empty
  rw [code, blank, List.tail_nil, ite_self]

/-- A block that is closed is not open. -/
theorem Closed.not_open {world : World} {block : BlockRef} (closed : body.Closed world block) :
    ¬ body.Open world block :=
  fun opened => closed.2.not_isStraight opened.2

/-- A return block is closed. -/
theorem Tidy.closed_exit {world : World} (tidy : body.Tidy world) {exit : BlockRef}
    (known : body.exit? world = some exit) : body.Closed world exit :=
  ⟨(tidy.exit exit known).1, (tidy.exit exit known).2.2.weaken fun _ => False.elim⟩

/-- The routine of a tidy function is there. -/
theorem Tidy.isSome_routine {world : World} (tidy : body.Tidy world) :
    (world.routine? (world.functionSymbol body.reference)).isSome := by
  obtain ⟨routine, known, -⟩ := Option.map_eq_some_iff.mp tidy.result
  rw [tidy.stands, known]
  rfl

/-- Where control may go to it may go to later as well. -/
theorem IsTarget.later {before after : World} {value : Value}
    (target : body.IsTarget before value)
    (count : body.blockCount before ≤ body.blockCount after) : body.IsTarget after value := by
  obtain ⟨block, same, inside, other⟩ := target
  exact ⟨block, same, ⟨inside.routine, inside.fresh, Nat.lt_of_lt_of_le inside.known count⟩, other⟩

/-- Control never goes to the entry. -/
theorem IsTarget.ne_entry {world : World} {value : Value} (target : body.IsTarget world value) :
    value ≠ .operand (.block body.entry) := by
  obtain ⟨block, rfl, -, other⟩ := target
  exact fun same => other (Operand.block.inj (Value.operand.inj same))

/-! ## Altering a function -/

variable (body) in
/-- **A function has been altered**: it is tidy and its code has only grown. Of the blocks that were
open, those of `taken` may have become longer or closed, and the others are the same. The open blocks
that are left of them, or new, are those of `left`. -/
structure Alters (taken left : List BlockRef) (before after : World) : Prop where
  /-- The function is tidy. -/
  tidy : body.Tidy after
  /-- Blocks stay there. -/
  count : body.blockCount before ≤ body.blockCount after
  /-- The return block stays what it is. -/
  exit (known : BlockRef) : body.exit? before = some known → body.exit? after = some known
  /-- The slot stays what it is. -/
  slot (known : Operand) : body.slot? before = some known → body.slot? after = some known
  /-- Code has only grown. -/
  code (block : BlockRef) : body.IsInside before block →
    body.code before block <+: body.code after block
  /-- It is known which blocks are open. -/
  opens (block : BlockRef) :
    body.Open after block ↔ body.Open before block ∧ block ∉ taken ∨ block ∈ left
  /-- Open blocks that are not taken are the same. -/
  keeps (block : BlockRef) : body.Open before block → block ∉ taken →
    body.code after block = body.code before block
  /-- The blocks that are left were taken or are new. -/
  moves (block : BlockRef) : block ∈ left → block ∈ taken ∨ ¬ body.IsInside before block

namespace Alters

variable {taken left : List BlockRef} {before middle after : World}

/-- Blocks stay inside. -/
theorem inside (alters : body.Alters taken left before after) {block : BlockRef}
    (known : body.IsInside before block) : body.IsInside after block :=
  ⟨known.routine, known.fresh, Nat.lt_of_lt_of_le known.known alters.count⟩

/-- Where control may go to it may go to later. -/
theorem target (alters : body.Alters taken left before after) {value : Value}
    (known : body.IsTarget before value) : body.IsTarget after value :=
  known.later alters.count

/-- The code of closed blocks is the same. -/
theorem code_of_closed (alters : body.Alters taken left before after) {block : BlockRef}
    (closed : body.Closed before block) :
    body.code after block = body.code before block := by
  have grown := alters.code block closed.1
  rcases alters.tidy.blocks block (alters.inside closed.1) with opened | later
  · -- The terminator is still there, so the block cannot be open.
    exfalso
    obtain ⟨front, last, same, -, terminates, -⟩ := closed.2
    have member : last ∈ body.code after block :=
      grown.subset (same ▸ List.mem_append_right front (List.mem_singleton_self last))
    have claimed := opened.2 last member
    rw [terminates] at claimed
    cases claimed
  · exact closed.2.eq_of_begins grown later.2

/-- Nothing is altered. -/
theorem refl (tidy : body.Tidy before) (opened : ∀ block ∈ taken, body.Open before block) :
    body.Alters taken taken before before where
  tidy := tidy
  count := Nat.le_refl _
  exit _ := id
  slot _ := id
  code _ _ := List.prefix_rfl
  opens block := by
    by_cases member : block ∈ taken
    · simp [member, opened block member]
    · simp [member]
  keeps _ _ _ := rfl
  moves _ := .inl

/-- What is altered after something has been altered. -/
theorem trans {last : List BlockRef} (first : body.Alters taken left before middle)
    (second : body.Alters left last middle after) : body.Alters taken last before after where
  tidy := second.tidy
  count := Nat.le_trans first.count second.count
  exit known there := second.exit known (first.exit known there)
  slot known there := second.slot known (first.slot known there)
  code block known := (first.code block known).trans (second.code block (first.inside known))
  opens block := by
    rw [second.opens, first.opens]
    constructor
    · rintro (⟨⟨opened, free⟩ | member, other⟩ | member)
      · exact .inl ⟨opened, free⟩
      · exact absurd member other
      · exact .inr member
    · rintro (⟨opened, free⟩ | member)
      · refine .inl ⟨.inl ⟨opened, free⟩, fun claimed => ?_⟩
        exact (first.moves block claimed).elim free fun outside => outside opened.1
      · exact .inr member
  keeps block opened free := by
    have other : block ∉ left := fun claimed =>
      (first.moves block claimed).elim free fun outside => outside opened.1
    have still : body.Open middle block := (first.opens block).mpr (.inl ⟨opened, free⟩)
    rw [second.keeps block still other, first.keeps block opened free]
  moves block member := by
    rcases second.moves block member with known | outside
    · exact first.moves block known
    · exact .inr fun known => outside (first.inside known)

/-- Which blocks are taken and left does not depend on their order. -/
theorem congr {taken' left' : List BlockRef} (alters : body.Alters taken left before after)
    (same : ∀ block, block ∈ taken' ↔ block ∈ taken) (sameLeft : ∀ block, block ∈ left' ↔ block ∈ left) :
    body.Alters taken' left' before after where
  tidy := alters.tidy
  count := alters.count
  exit := alters.exit
  slot := alters.slot
  code := alters.code
  opens block := by rw [alters.opens, same, sameLeft]
  keeps block opened free := alters.keeps block opened fun member => free ((same block).mpr member)
  moves block member := by
    rw [same]
    exact alters.moves block ((sameLeft block).mp member)

/-- **Framing**: open blocks that are not taken may be counted among those that are taken and
left. -/
theorem frameAll (alters : body.Alters taken left before after) {blocks : List BlockRef}
    (opened : ∀ block ∈ blocks, body.Open before block) (free : ∀ block ∈ blocks, block ∉ taken) :
    body.Alters (blocks ++ taken) (blocks ++ left) before after where
  tidy := alters.tidy
  count := alters.count
  exit := alters.exit
  slot := alters.slot
  code := alters.code
  opens other := by
    rw [alters.opens, List.mem_append, List.mem_append]
    by_cases member : other ∈ blocks
    · simp [member, opened other member, free other member]
    · simp [member]
  keeps other opened missing :=
    alters.keeps other opened fun member => missing (List.mem_append_right blocks member)
  moves other member := by
    rcases List.mem_append.mp member with framed | known
    · exact .inl (List.mem_append_left taken framed)
    · exact (alters.moves other known).imp_left (List.mem_append_right blocks)

/-- One open block that is not taken may be counted among those that are taken and left. -/
theorem frame (alters : body.Alters taken left before after) {block : BlockRef}
    (opened : body.Open before block) (free : block ∉ taken) :
    body.Alters (block :: taken) (block :: left) before after :=
  alters.frameAll (List.forall_mem_singleton.mpr opened) (List.forall_mem_singleton.mpr free)

/-- Blocks that come up afterwards are left besides. -/
theorem adding {more : List BlockRef} (first : body.Alters taken left before middle)
    (second : body.Alters [] more middle after) :
    body.Alters taken (left ++ more) before after := by
  have framed := second.frameAll (fun block member => (first.opens block).mpr (.inr member))
    fun _ _ => List.not_mem_nil
  rw [List.append_nil] at framed
  exact first.trans framed

/-- Nothing else is altered afterwards. -/
theorem idly (first : body.Alters taken left before middle)
    (second : body.Alters [] [] middle after) : body.Alters taken left before after := by
  have added := first.adding second
  rwa [List.append_nil] at added

/-- Some blocks may be closed, and other ones afterwards. -/
theorem andThen {further : List BlockRef} (first : body.Alters taken [] before middle)
    (second : body.Alters further [] middle after)
    (others : ∀ block ∈ further, body.Open before block ∧ block ∉ taken) :
    body.Alters (taken ++ further) [] before after := by
  have framed := first.frameAll (fun block member => (others block member).1)
    fun block member => (others block member).2
  rw [List.append_nil] at framed
  exact (framed.trans second).congr (fun _ => by simp [or_comm]) fun _ => Iff.rfl

/-- Blocks that are left may be closed afterwards. -/
theorem closing {closed : List BlockRef} (first : body.Alters taken left before middle)
    (second : body.Alters closed [] middle after) (known : ∀ block ∈ closed, block ∈ left) :
    body.Alters taken (left.filter (· ∉ closed)) before after := by
  have others (block : BlockRef) (member : block ∈ left.filter (· ∉ closed)) :
      block ∈ left ∧ block ∉ closed := by
    simpa using member
  have framed := second.frameAll
    (fun block member => (first.opens block).mpr (.inr (others block member).1))
    fun block member => (others block member).2
  rw [List.append_nil] at framed
  refine first.trans (framed.congr (fun block => ?_) fun _ => Iff.rfl)
  by_cases member : block ∈ closed
  · simp [member, known block member]
  · simp [member]

/-- The blocks that are left are open. -/
theorem open_of_mem (alters : body.Alters taken left before after) {block : BlockRef}
    (member : block ∈ left) : body.Open after block :=
  (alters.opens block).mpr (.inr member)

/-- Control may go to a block that has come up: the entry was there before. -/
theorem isTarget_of_mem (alters : body.Alters taken left before after) (tidy : body.Tidy before)
    {block : BlockRef} (member : block ∈ left) (free : block ∉ taken) :
    body.IsTarget after (.operand (.block block)) := by
  refine ⟨block, rfl, (alters.open_of_mem member).1, ?_⟩
  rintro rfl
  exact (alters.moves body.entry member).elim free fun outside => outside tidy.entryInside

/-- Open blocks that are not taken stay open. -/
theorem open_of_not_mem (alters : body.Alters taken left before after) {block : BlockRef}
    (opened : body.Open before block) (free : block ∉ taken) : body.Open after block :=
  (alters.opens block).mpr (.inl ⟨opened, free⟩)

end Alters

end FreshBody

end StructuredIR
