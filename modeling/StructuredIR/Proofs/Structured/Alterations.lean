import StructuredIR.Proofs.Structured.Tidy

/-! # What steps alter

Each step that a structured body is made of keeps its function tidy, and it is known what the step
alters: adding instructions to an open block, adding a block, setting up the return block, and
moving a block to another place in the order. -/

namespace StructuredIR

namespace FreshBody

open FunctionBody

variable {body : FreshBody}

/-! ## Changes of rows -/

variable (body) in
/-- Nothing of a function has changed but its rows. -/
structure SameShape (before after : World) : Prop where
  /-- Its record is the same. -/
  function? : after.function? body.reference = before.function? body.reference
  /-- It has as many blocks. -/
  blockCount : body.blockCount after = body.blockCount before
  /-- The blocks are in the same order. -/
  order : after.order body.symbol = before.order body.symbol
  /-- Its routine still yields what it yielded. -/
  result : (before.routine? body.symbol).map Routine.result = some body.result →
    (after.routine? body.symbol).map Routine.result = some body.result

section

variable {before after : World}

/-- A frame keeps the shape of every function. -/
theorem sameShape_of_frame (frame : SameFrame before after) : body.SameShape before after where
  function? := frame.function? _
  blockCount := frame.blockCount _
  order := frame.order _
  result := frame.result _ _

namespace SameShape

theorem function (shape : body.SameShape before after) :
    after.function body.reference = before.function body.reference := by
  rw [World.function_eq, World.function_eq, shape.function?]

theorem exit? (shape : body.SameShape before after) : body.exit? after = body.exit? before :=
  congrArg Function.exit shape.function

theorem slot? (shape : body.SameShape before after) : body.slot? after = body.slot? before :=
  congrArg Function.slot shape.function

theorem isInside_iff (shape : body.SameShape before after) (block : BlockRef) :
    body.IsInside after block ↔ body.IsInside before block := by
  rw [FreshBody.isInside_iff, FreshBody.isInside_iff, shape.blockCount]

/-- The code of a block whose row is the same is the same. -/
theorem code_eq (shape : body.SameShape before after) {block : BlockRef}
    (row : after.row block = before.row block) : body.code after block = body.code before block := by
  rw [FreshBody.code, FreshBody.code, shape.slot?, row]

/-- What is added to a row is added to the code: the slot is there already. -/
theorem code_append (shape : body.SameShape before after) (tidy : body.Tidy before)
    {block : BlockRef} {added : List Instruction}
    (row : after.row block = before.row block ++ added) :
    body.code after block = body.code before block ++ added := by
  rw [FreshBody.code, FreshBody.code, shape.slot?, row]
  split
  next entry =>
    obtain ⟨rfl, known⟩ := entry
    obtain ⟨slot, known⟩ := Option.isSome_iff_exists.mp known
    obtain ⟨first, rest, begins, -⟩ := tidy.slot slot known
    rw [begins, List.cons_append, List.tail_cons, List.tail_cons]
  next => rfl

end SameShape

/-- A function of the same shape is tidy if each block is open or closed, and if its return block and
the beginning of its entry are what they were. -/
theorem Tidy.of_shape (tidy : body.Tidy before) (shape : body.SameShape before after)
    (blocks : ∀ block, body.IsInside before block → body.Open after block ∨ body.Closed after block)
    (exit : ∀ exit, body.exit? before = some exit → body.code after exit = body.code before exit)
    (entry : before.row body.entry <+: after.row body.entry) : body.Tidy after where
  isThere := shape.function? ▸ tidy.isThere
  stands := by rw [← tidy.stands, World.functionSymbol, World.functionSymbol, shape.function]
  entry := shape.function ▸ tidy.entry
  result := shape.result tidy.result
  entryInside := (shape.isInside_iff _).mpr tidy.entryInside
  blocks block inside := blocks block ((shape.isInside_iff block).mp inside)
  arranged isFirst :=
    { nodup := shape.order ▸ (tidy.arranged isFirst).nodup
      first := shape.order ▸ (tidy.arranged isFirst).first
      ordered := fun place => by
        rw [shape.order, shape.blockCount]
        exact (tidy.arranged isFirst).ordered place }
  slotless := by
    rw [shape.exit?, shape.slot?]
    exact tidy.slotless
  exit known there := by
    rw [shape.exit?] at there
    obtain ⟨inside, other, ends⟩ := tidy.exit known there
    exact ⟨(shape.isInside_iff known).mpr inside, other, exit known there ▸ ends⟩
  slot slot known := by
    rw [shape.slot?] at known
    obtain ⟨first, rest, begins, allocates⟩ := tidy.slot slot known
    obtain ⟨more, longer⟩ := entry
    exact ⟨first, rest ++ more, by rw [← longer, begins, List.cons_append], allocates⟩

/-- **Adding instructions to an open block** keeps a function tidy. The block stays open if they are
straight, and is closed if they end once. -/
theorem Tidy.alters_of_append (tidy : body.Tidy before) (shape : body.SameShape before after)
    {here : BlockRef} (added : List Instruction) {left : List BlockRef}
    (opened : body.Open before here)
    (row : ∀ block, after.row block =
      if block = here then before.row here ++ added else before.row block)
    (outcome : IsStraight added ∧ left = [here] ∨
      EndsOnce (body.IsTarget before) added ∧ left = []) :
    body.Alters [here] left before after := by
  have code_here : body.code after here = body.code before here ++ added :=
    shape.code_append tidy (by rw [row, if_pos rfl])
  have code_other {block : BlockRef} (other : block ≠ here) :
      body.code after block = body.code before block :=
    shape.code_eq (by rw [row, if_neg other])
  have target (value : Value) (known : body.IsTarget before value) : body.IsTarget after value :=
    known.later shape.blockCount.ge
  have open_other {block : BlockRef} (other : block ≠ here) :
      body.Open after block ↔ body.Open before block := by
    rw [Open, Open, shape.isInside_iff, code_other other]
  -- What becomes of the block is the only difference between the two cases.
  have here_after : left = [here] ∧ body.Open after here ∨ left = [] ∧ body.Closed after here := by
    have inside := (shape.isInside_iff here).mpr opened.1
    rcases outcome with ⟨straight, rfl⟩ | ⟨ends, rfl⟩
    · exact .inl ⟨rfl, inside, code_here ▸ opened.2.append straight⟩
    · obtain ⟨front, last, rfl, straight, terminates, goes⟩ := ends
      refine .inr ⟨rfl, inside, ?_⟩
      rw [code_here, ← List.append_assoc]
      exact .of_append (opened.2.append straight) terminates fun value member =>
        target value (goes value member)
  refine ⟨tidy.of_shape shape (fun block inside => ?_) (fun exit known => ?_) ?_,
    shape.blockCount.ge, fun known there => shape.exit? ▸ there,
    fun known there => shape.slot? ▸ there, fun block inside => ?_, fun block => ?_,
    fun block _ free => code_other fun same => free (by rw [same]; exact List.mem_cons_self),
    fun block member => ?_⟩
  · by_cases same : block = here
    · subst same
      exact here_after.imp (fun claimed => claimed.2) fun claimed => claimed.2
    · refine (tidy.blocks block inside).imp (open_other same).mpr fun closed => ?_
      refine ⟨(shape.isInside_iff block).mpr inside, ?_⟩
      rw [code_other same]
      exact closed.2.weaken target
  · refine code_other ?_
    rintro rfl
    exact (tidy.closed_exit known).not_open opened
  · rw [row]
    split
    next same => exact same ▸ List.prefix_append _ _
    next => exact List.prefix_rfl
  · by_cases same : block = here
    · rw [same, code_here]
      exact List.prefix_append _ _
    · rw [code_other same]
  · by_cases same : block = here
    · subst same
      rcases here_after with ⟨rfl, opened⟩ | ⟨rfl, closed⟩
      · simp [opened]
      · simp [closed.not_open]
    · rw [open_other same]
      rcases here_after with ⟨rfl, -⟩ | ⟨rfl, -⟩ <;> simp [same]
  · rcases here_after with ⟨rfl, -⟩ | ⟨rfl, -⟩
    · exact .inl member
    · cases member

/-- Where rows are the same, a tidy function is not altered. -/
theorem Tidy.alters_of_rows (tidy : body.Tidy before) (shape : body.SameShape before after)
    (row : ∀ block, after.row block = before.row block) : body.Alters [] [] before after := by
  have code (block : BlockRef) : body.code after block = body.code before block :=
    shape.code_eq (row block)
  have opens (block : BlockRef) : body.Open after block ↔ body.Open before block := by
    rw [Open, Open, shape.isInside_iff, code]
  refine ⟨tidy.of_shape shape (fun block inside => ?_) (fun exit _ => code exit)
      (row body.entry ▸ List.prefix_rfl), shape.blockCount.ge, fun known there => shape.exit? ▸ there,
    fun known there => shape.slot? ▸ there, fun block _ => code block ▸ List.prefix_rfl,
    fun block => by simp [opens], fun block _ _ => code block, nofun⟩
  refine (tidy.blocks block inside).imp (opens block).mpr fun closed => ?_
  refine ⟨(shape.isInside_iff block).mpr inside, ?_⟩
  rw [code]
  exact closed.2.weaken fun _ known => known.later shape.blockCount.ge

/-- What changes no code alters no function. -/
theorem Tidy.alters_of_sameCode (tidy : body.Tidy before) (same : SameCode before after) :
    body.Alters [] [] before after :=
  tidy.alters_of_rows (sameShape_of_frame same.toSameFrame) same.row

/-- Changes of generators alter no function. -/
theorem Tidy.alters_of_generators (tidy : body.Tidy before) (generators : List Generator) :
    body.Alters [] [] before { before with generators } :=
  tidy.alters_of_rows ⟨rfl, rfl, rfl, id⟩ fun _ => rfl

/-- Emission where a generator is, at an open block, alters that block only. -/
theorem Tidy.alters_of_emits (tidy : body.Tidy before) {place : GeneratorId} {here : BlockRef}
    (opened : body.Open before here)
    (positioned : (before.generator place).block = .operand (.block here))
    (emits : Emits place before after) :
    body.Alters [here] [here] before after := by
  obtain ⟨added, straight, longer, -⟩ := emits.row here
  refine tidy.alters_of_append (sameShape_of_frame emits.toSameFrame) added opened
    (fun block => ?_) (.inl ⟨straight, rfl⟩)
  split
  next same => rw [same, longer]
  next other =>
    obtain ⟨more, -, row, nothing | here⟩ := emits.row block
    · rw [row, nothing, List.append_nil]
    · rw [positioned] at here
      cases here
      exact absurd rfl other

/-- The rows after an instruction has been added to an open block. -/
theorem row_of_changesRow {here : BlockRef} {made : Instruction} (opened : body.Open before here)
    (changes : ChangesRow here (· ++ [made]) before after) (block : BlockRef) :
    after.row block = if block = here then before.row here ++ [made] else before.row block := by
  have inside : here.place < before.blockCount here.routine :=
    opened.1.routine ▸ opened.1.known
  rw [changes.row]
  simp only [inside, and_true]

/-- The code of an open block to which an instruction is added. -/
theorem code_of_changesRow (tidy : body.Tidy before) {here : BlockRef} {made : Instruction}
    (opened : body.Open before here) (changes : ChangesRow here (· ++ [made]) before after) :
    body.code after here = body.code before here ++ [made] :=
  (sameShape_of_frame changes.toSameFrame).code_append tidy
    (by rw [row_of_changesRow opened changes, if_pos rfl])

/-- A terminator that is added to an open block closes it. -/
theorem Tidy.alters_of_terminator (tidy : body.Tidy before) {here : BlockRef}
    {made : Instruction} (opened : body.Open before here)
    (changes : ChangesRow here (· ++ [made]) before after)
    (terminates : made.operation.isTerminator = true)
    (goes : ∀ target ∈ made.operation.targets, body.IsTarget before target) :
    body.Alters [here] [] before after :=
  tidy.alters_of_append (sameShape_of_frame changes.toSameFrame) [made] opened
    (row_of_changesRow opened changes)
    (.inr ⟨EndsOnce.of_append IsStraight.nil terminates goes, rfl⟩)

end

/-! ## New blocks -/

section

variable {before after : World}

/-- The next block of the function. -/
abbrev next (body : FreshBody) (world : World) : BlockRef :=
  ⟨body.symbol, body.blockCount world⟩

/-- The next block is not there yet. -/
theorem not_isInside_next (world : World) : ¬ body.IsInside world (body.next world) :=
  fun inside => Nat.lt_irrefl _ inside.known

/-- What is known of a function with one more block: the code of its other blocks is the same, and
what is recorded of it is what it was or fits the new block. -/
structure GainsBlock (body : FreshBody) (before after : World) : Prop where
  /-- The function is there. -/
  isThere : (after.function? body.reference).isSome
  /-- It stands for its routine. -/
  stands : after.functionSymbol body.reference = body.symbol
  /-- It begins at its entry. -/
  entry : (after.function body.reference).entry = some body.entry
  /-- Its routine is there and yields what the function yields. -/
  result : (after.routine? body.symbol).map Routine.result = some body.result
  /-- There is one more block. -/
  blockCount : body.blockCount after = body.blockCount before + 1
  /-- The block is the last one in the order. -/
  order : after.order body.symbol = before.order body.symbol ++ [body.blockCount before]
  /-- The code of all other blocks is the same. -/
  code (block : BlockRef) : body.IsInside before block →
    body.code after block = body.code before block
  /-- Without a return block there is no slot. -/
  slotless : body.exit? after = none → body.slot? after = none
  /-- The return block is the same, or the new block, which ends with a return. -/
  exit (exit : BlockRef) : body.exit? after = some exit → body.exit? before = some exit ∨
    exit = body.next before ∧ EndsOnce (fun _ => False) (body.code after exit)
  /-- The return block stays what it is. -/
  exitStays (known : BlockRef) : body.exit? before = some known → body.exit? after = some known
  /-- The slot is the first instruction of the entry. -/
  slot (slot : Operand) : body.slot? after = some slot →
    ∃ (first : Instruction) (rest : List Instruction), after.row body.entry = first :: rest ∧
      first.operation = .alloca body.result none
  /-- The slot stays what it is. -/
  slotStays (known : Operand) : body.slot? before = some known → body.slot? after = some known

namespace GainsBlock

/-- The blocks that are there now are those that were there and the new one. -/
theorem isInside_iff (gains : body.GainsBlock before after) (tidy : body.Tidy before)
    (block : BlockRef) :
    body.IsInside after block ↔ body.IsInside before block ∨ block = body.next before := by
  have fresh : body.base ≤ body.blockCount before :=
    Nat.le_trans tidy.entryInside.fresh (Nat.le_of_lt tidy.entryInside.known)
  obtain ⟨symbol, place⟩ := block
  simp only [FreshBody.isInside_iff, gains.blockCount, BlockRef.mk.injEq, Nat.lt_succ_iff_lt_or_eq,
    and_or_left]
  constructor
  · rintro (known | ⟨routine, -, rfl⟩)
    · exact .inl known
    · exact .inr ⟨routine, rfl⟩
  · rintro (known | ⟨routine, rfl⟩)
    · exact .inl known
    · exact .inr ⟨routine, fresh, rfl⟩

/-- Control may go to where it went. -/
theorem target (gains : body.GainsBlock before after) {value : Value}
    (known : body.IsTarget before value) : body.IsTarget after value :=
  known.later (gains.blockCount ▸ Nat.le_succ _)

/-- Blocks that were there are open if they were. -/
theorem open_iff (gains : body.GainsBlock before after) (tidy : body.Tidy before) {block : BlockRef}
    (known : body.IsInside before block) : body.Open after block ↔ body.Open before block := by
  rw [Open, Open, gains.code block known, gains.isInside_iff tidy]
  simp [known]

/-- Closed blocks stay closed. -/
theorem closed (gains : body.GainsBlock before after) (tidy : body.Tidy before) {block : BlockRef}
    (closed : body.Closed before block) : body.Closed after block := by
  refine ⟨(gains.isInside_iff tidy block).mpr (.inl closed.1), ?_⟩
  rw [gains.code block closed.1]
  exact closed.2.weaken fun _ => gains.target

/-- The order of blocks stays what it has to be. -/
theorem isArranged (gains : body.GainsBlock before after) (arranged : body.IsArranged before) :
    body.IsArranged after where
  nodup := by
    rw [gains.order, List.nodup_append]
    refine ⟨arranged.nodup, List.nodup_singleton _, fun place old other new => ?_⟩
    rw [List.mem_singleton] at new
    have known := (arranged.ordered place).mp old
    omega
  first := by
    rw [gains.order, List.head?_append, arranged.first]
    rfl
  ordered place := by
    rw [gains.order, List.mem_append, List.mem_singleton, arranged.ordered, gains.blockCount]
    omega

/-- **The function stays tidy** if the new block is open or closed. -/
theorem tidy (gains : body.GainsBlock before after) (tidy : body.Tidy before)
    (outcome : body.Open after (body.next before) ∨ body.Closed after (body.next before)) :
    body.Tidy after where
  isThere := gains.isThere
  stands := gains.stands
  entry := gains.entry
  result := gains.result
  entryInside := (gains.isInside_iff tidy _).mpr (.inl tidy.entryInside)
  blocks block known := by
    rcases (gains.isInside_iff tidy block).mp known with old | rfl
    · exact (tidy.blocks block old).imp (gains.open_iff tidy old).mpr (gains.closed tidy)
    · exact outcome
  arranged isFirst := gains.isArranged (tidy.arranged isFirst)
  slotless := gains.slotless
  exit exit known := by
    rcases gains.exit exit known with old | ⟨rfl, ends⟩
    · obtain ⟨known, other, ends⟩ := tidy.exit exit old
      exact ⟨(gains.isInside_iff tidy exit).mpr (.inl known), other, gains.code exit known ▸ ends⟩
    · refine ⟨(gains.isInside_iff tidy _).mpr (.inr rfl), fun same => ?_, ends⟩
      exact not_isInside_next before (same ▸ tidy.entryInside)
  slot := gains.slot

/-- The open blocks are those that were open, and the new one if that is. -/
theorem open_iff_or (gains : body.GainsBlock before after) (tidy : body.Tidy before)
    (block : BlockRef) : body.Open after block ↔
      body.Open before block ∨ block = body.next before ∧ body.Open after (body.next before) := by
  by_cases known : body.IsInside before block
  · have other : block ≠ body.next before := fun same => not_isInside_next before (same ▸ known)
    simp [gains.open_iff tidy known, other]
  · constructor
    · intro opened
      obtain rfl := ((gains.isInside_iff tidy block).mp opened.1).resolve_left known
      exact .inr ⟨rfl, opened⟩
    · rintro (opened | ⟨rfl, opened⟩)
      · exact absurd opened.1 known
      · exact opened

end GainsBlock

/-- **One more block**, open or closed, keeps a function tidy. -/
theorem Tidy.alters_of_gainsBlock (tidy : body.Tidy before) (gains : body.GainsBlock before after)
    {left : List BlockRef}
    (outcome : IsStraight (body.code after (body.next before)) ∧ left = [body.next before] ∨
      EndsOnce (body.IsTarget after) (body.code after (body.next before)) ∧ left = []) :
    body.Alters [] left before after := by
  have inside : body.IsInside after (body.next before) := (gains.isInside_iff tidy _).mpr (.inr rfl)
  have outcome : left = [body.next before] ∧ body.Open after (body.next before) ∨
      left = [] ∧ body.Closed after (body.next before) := by
    rcases outcome with ⟨straight, rfl⟩ | ⟨ends, rfl⟩
    · exact .inl ⟨rfl, inside, straight⟩
    · exact .inr ⟨rfl, inside, ends⟩
  exact
    { tidy := gains.tidy tidy (outcome.imp (·.2) (·.2))
      count := gains.blockCount ▸ Nat.le_succ _
      exit := gains.exitStays
      slot := gains.slotStays
      code := fun block known => by rw [gains.code block known]
      opens := fun block => by
        rw [gains.open_iff_or tidy]
        rcases outcome with ⟨rfl, opened⟩ | ⟨rfl, closed⟩
        · simp [opened]
        · simp [closed.not_open]
      keeps := fun block opened _ => gains.code block opened.1
      moves := fun block member => by
        rcases outcome with ⟨rfl, -⟩ | ⟨rfl, -⟩
        · rw [List.mem_singleton.mp member]
          exact .inr (not_isInside_next before)
        · cases member }

/-- **A new block** is open and has no code. -/
theorem Tidy.alters_of_addsBlock (tidy : body.Tidy before)
    (adds : AddsBlock body.symbol before after) :
    body.Alters [] [body.next before] before after ∧ body.code after (body.next before) = [] := by
  have function : after.function body.reference = before.function body.reference := by
    rw [World.function_eq, World.function_eq, adds.function?]
  have exit? : body.exit? after = body.exit? before := congrArg Function.exit function
  have slot? : body.slot? after = body.slot? before := congrArg Function.slot function
  have code (block : BlockRef) : body.code after block = body.code before block := by
    rw [FreshBody.code, FreshBody.code, slot?, adds.row]
  have blank : body.code after (body.next before) = [] := by
    have other : body.next before ≠ body.entry := by
      intro same
      exact not_isInside_next before (same ▸ tidy.entryInside)
    rw [code, code_of_ne other, World.row_of_blockCount_le _ (Nat.le_refl _)]
  refine ⟨tidy.alters_of_gainsBlock ?_ (.inl ⟨blank ▸ IsStraight.nil, rfl⟩), blank⟩
  exact
    { isThere := by rw [adds.function?]; exact tidy.isThere
      stands := by rw [← tidy.stands, World.functionSymbol, World.functionSymbol, function]
      entry := function ▸ tidy.entry
      result := adds.result _ _ tidy.result
      blockCount := by rw [blockCount, adds.blockCount, if_pos rfl]
      order := by rw [adds.order, if_pos rfl]
      code := fun block _ => code block
      slotless := by rw [exit?, slot?]; exact tidy.slotless
      exit := fun exit known => .inl (exit? ▸ known)
      exitStays := fun known there => exit? ▸ there
      slot := fun slot known => by rw [adds.row]; exact tidy.slot slot (slot? ▸ known)
      slotStays := fun known there => slot? ▸ there }

/-- **Setting up the return block** keeps a function tidy and alters none of its open blocks: the
new block is closed, and the slot is no part of the code. -/
theorem Tidy.alters_of_setsUp (tidy : body.Tidy before) {front content : List Instruction}
    {slot? : Option Operand} (missing : body.exit? before = none)
    (sets : SetsUpReturn body.reference body.symbol body.entry front content slot? before after)
    (returns : ReturnsBy body.symbol (body.slot? before) body.result front content slot?) :
    body.Alters [] [] before after ∧ body.exit? after = some (body.next before) := by
  have no_slot := tidy.slotless missing
  have function : after.function body.reference =
      { before.function body.reference with slot := slot?, exit := some (body.next before) } := by
    obtain ⟨record, known⟩ := Option.isSome_iff_exists.mp tidy.isThere
    rw [World.function_eq, World.function_eq, sets.function?, if_pos rfl, known]
    rfl
  have exit_eq : body.exit? after = some (body.next before) := congrArg Function.exit function
  have slot_eq : body.slot? after = slot? := congrArg Function.slot function
  have other : body.entry ≠ body.next before := by
    intro same
    exact not_isInside_next before (same ▸ tidy.entryInside)
  have row_entry : after.row body.entry = front ++ before.row body.entry := by
    rw [sets.row, if_neg other, if_pos rfl]
  have code_new : body.code after (body.next before) = content := by
    rw [code_of_ne other.symm, sets.row]
    exact if_pos rfl
  -- The slot is put in front of the entry, where it does not count as code.
  have code_entry : body.code after body.entry = body.code before body.entry := by
    rw [FreshBody.code, FreshBody.code, slot_eq, no_slot, row_entry]
    generalize body.result = result at returns
    cases returns with
    | nothing back does => simp [no_slot]
    | slot yields slot load back allocates loads does => simp
  have ends := returns.endsOnce
  refine ⟨tidy.alters_of_gainsBlock ?_ (.inr ⟨?_, rfl⟩), exit_eq⟩
  · exact
      { isThere := by rw [sets.function?, if_pos rfl, Option.isSome_map]; exact tidy.isThere
        stands := by rw [← tidy.stands, World.functionSymbol, World.functionSymbol, function]
        entry := by rw [function]; exact tidy.entry
        result := sets.result _ _ tidy.result
        blockCount := by rw [blockCount, sets.blockCount, if_pos rfl]
        order := by rw [sets.order, if_pos rfl]
        code := fun block inside => by
          by_cases same : block = body.entry
          · rw [same, code_entry]
          · have old : block ≠ body.next before := by
              rintro rfl
              exact not_isInside_next before inside
            rw [code_of_ne same, code_of_ne same, sets.row, if_neg old, if_neg same]
        slotless := fun gone => by rw [exit_eq] at gone; cases gone
        exit := fun exit known => by
          rw [exit_eq, Option.some.injEq] at known
          exact .inr ⟨known.symm, known ▸ code_new ▸ ends⟩
        exitStays := fun known there => by rw [missing] at there; cases there
        slot := fun slot known => by
          rw [slot_eq] at known
          rw [row_entry]
          generalize body.result = result at returns
          cases returns with
          | nothing back does => rw [no_slot] at known; cases known
          | slot yields slot load back allocates loads does =>
              exact ⟨slot, before.row body.entry, rfl, allocates⟩
        slotStays := fun known there => by rw [no_slot] at there; cases there }
  · rw [code_new]
    exact ends.weaken fun _ => False.elim

/-- The return block of a tidy function is set up if it is not there. -/
theorem Tidy.setUpReturn_ok (tidy : body.Tidy before) {exit : BlockRef}
    (run : Function.setUpReturn body.reference before = .ok exit after) :
    body.Alters [] [] before after ∧ body.exit? after = some exit ∧
      after.generators = before.generators := by
  rcases missing : body.exit? before with _ | known
  · obtain ⟨front, content, slot?, final, done, sets, returns⟩ :=
      Function.setUpReturn_run tidy.isThere tidy.stands tidy.entry
        ⟨tidy.entryInside.routine, tidy.entryInside.known⟩ tidy.result missing
    rw [run] at done
    cases done
    obtain ⟨alters, there⟩ := tidy.alters_of_setsUp missing sets returns
    exact ⟨alters, there, sets.generators⟩
  · rw [Function.setUpReturn_of_exit missing] at run
    cases run
    exact ⟨.refl tidy nofun, missing, rfl⟩

/-- A new block of a tidy function. -/
theorem Tidy.appendNamed_ok (tidy : body.Tidy before) {base : String} {block : BlockRef}
    (run : Function.appendNamed body.reference base before = .ok block after) :
    block = body.next before ∧ body.Alters [] [block] before after ∧ body.code after block = [] ∧
      after.generators = before.generators := by
  obtain ⟨final, done, adds⟩ :=
    Function.appendNamed_run body.reference base before tidy.isSome_routine
  rw [run] at done
  cases done
  rw [tidy.stands] at adds ⊢
  obtain ⟨alters, blank⟩ := tidy.alters_of_addsBlock adds
  exact ⟨rfl, alters, blank, adds.generators⟩

/-! ## Another order -/

/-- What comes first stays first when something is put behind a place. -/
theorem head?_insertAfter {moved anchor first : Nat} {places : List Nat}
    (begins : places.head? = some first) :
    (Routine.insertAfter moved anchor places).head? = some first := by
  cases places with
  | nil => cases begins
  | cons place places =>
      unfold Routine.insertAfter
      split <;> exact begins

/-- What comes first stays first when something else is taken out. -/
theorem head?_erase {taken first : Nat} {places : List Nat} (begins : places.head? = some first)
    (other : taken ≠ first) : (places.erase taken).head? = some first := by
  cases places with
  | nil => cases begins
  | cons place places =>
      obtain rfl : place = first := Option.some.inj begins
      rw [List.erase_cons_tail (by simpa using other.symm)]
      rfl

/-- **Moving a block** other than the entry keeps a function tidy. -/
theorem Tidy.moveAfter_ok (tidy : body.Tidy before) {moved anchor : Value}
    (other : moved ≠ .operand (.block body.entry))
    (run : Function.moveAfter body.reference moved anchor before = .ok () after) :
    body.Alters [] [] before after ∧ after.generators = before.generators := by
  have known : (before.routine? body.symbol).isSome := tidy.stands ▸ tidy.isSome_routine
  obtain ⟨order, reorders, how⟩ := Function.moveAfter_reorders body.reference moved anchor
    tidy.stands known
  rw [Build.after_of_ok run] at reorders
  have order_eq : after.order body.symbol = order := by rw [reorders.order, if_pos rfl]
  -- The new order has the same places as the old one, and the same first place.
  have arranged : order.Perm (before.order body.symbol) ∧
      ((before.order body.symbol).head? = some body.entry.place →
        order.head? = some body.entry.place) := by
    rcases how with rfl | ⟨place, rfl, inside, ⟨target, there, rfl⟩ | ⟨-, fault, final, failed⟩⟩
    · exact ⟨.refl _, id⟩
    · refine ⟨(Routine.insertAfter_perm place there).trans (List.perm_cons_erase inside).symm,
        fun first => ?_⟩
      refine head?_insertAfter (head?_erase first fun same => other ?_)
      rw [same, ← tidy.entryInside.routine]
    · rw [run] at failed
      cases failed
  have function : after.function body.reference = before.function body.reference := by
    rw [World.function_eq, World.function_eq, reorders.function?]
  have exit? : body.exit? after = body.exit? before := congrArg Function.exit function
  have slot? : body.slot? after = body.slot? before := congrArg Function.slot function
  have count : body.blockCount after = body.blockCount before := reorders.blockCount _
  have code (block : BlockRef) : body.code after block = body.code before block := by
    rw [FreshBody.code, FreshBody.code, slot?, reorders.row]
  have inside (block : BlockRef) : body.IsInside after block ↔ body.IsInside before block := by
    rw [isInside_iff, isInside_iff, count]
  have opens (block : BlockRef) : body.Open after block ↔ body.Open before block := by
    rw [Open, Open, inside, code]
  refine ⟨⟨?_, count.ge, fun _ there => exit? ▸ there, fun _ there => slot? ▸ there,
    fun block _ => code block ▸ List.prefix_rfl, fun block => by simp [opens],
    fun block _ _ => code block, fun _ member => absurd member List.not_mem_nil⟩,
    reorders.generators⟩
  exact
    { isThere := by rw [reorders.function?]; exact tidy.isThere
      stands := by rw [← tidy.stands, World.functionSymbol, World.functionSymbol, function]
      entry := function ▸ tidy.entry
      result := reorders.result _ _ tidy.result
      entryInside := (inside _).mpr tidy.entryInside
      blocks := fun block known => by
        refine (tidy.blocks block ((inside block).mp known)).imp (opens block).mpr fun closed => ?_
        refine ⟨known, ?_⟩
        rw [code]
        exact closed.2.weaken fun _ target => target.later count.ge
      arranged := fun isFirst =>
        { nodup := order_eq ▸ arranged.1.nodup_iff.mpr (tidy.arranged isFirst).nodup
          first := order_eq ▸ arranged.2 (tidy.arranged isFirst).first
          ordered := fun place => by
            rw [order_eq, arranged.1.mem_iff, (tidy.arranged isFirst).ordered, count] }
      slotless := by rw [exit?, slot?]; exact tidy.slotless
      exit := fun exit known => by
        obtain ⟨known, other, ends⟩ := tidy.exit exit (exit? ▸ known)
        exact ⟨(inside exit).mpr known, other, code exit ▸ ends⟩
      slot := fun slot known => by rw [reorders.row]; exact tidy.slot slot (slot? ▸ known) }

end

end FreshBody

end StructuredIR
