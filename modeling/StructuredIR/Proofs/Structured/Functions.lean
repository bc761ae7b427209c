import StructuredIR.Proofs.Bare
import StructuredIR.Proofs.Libraries
import StructuredIR.Proofs.Structured.Requests

/-! # Structured functions

A function is defined with a body that a structured client builds, and nothing that the client asks for
fails.

* **`Library.define_starts`**: the function begins with one block without instructions, at which the
  outermost generator is. So all that is known of parts of structured bodies applies to the whole.
* **`Library.isWellFormed_define`**: each block of the function ends with its only terminator, but for
  the block at which the outermost generator has been left, and terminators lead only to blocks of the
  function other than the entry.
* **`Library.reads_define`**: walking the blocks of the function from its entry executes what reading
  the body directly does, whatever the outcomes of its conditions are. -/

namespace StructuredIR

open Build (Leads bind_eq_ok get_eq_ok map_eq_ok modify_eq_ok pure_eq_ok lift_eq_ok)

/-! ## New functions -/

/-- Where nothing but texts differs, no code does. -/
theorem SameBare.sameCode {before after : World} (same : SameBare before after) :
    SameCode before after := by
  have library (place : LibraryId) : (after.library place).bare = (before.library place).bare := by
    rw [← World.library_bare, ← World.library_bare, same]
  have routine (symbol : SymbolRef) :
      (after.routine? symbol).map Routine.bare = (before.routine? symbol).map Routine.bare := by
    have module := congrArg Library.module (library symbol.owner)
    rw [World.routine?, World.routine?, ← Module.routine?_bare, ← Module.routine?_bare]
    exact congrArg (Module.routine? · symbol.place) module
  refine .of_routines (congrArg World.generators same :) (fun reference => ?_) (fun symbol => ?_)
    fun symbol type known => ?_
  · have functions := congrArg Library.functions (library reference.owner)
    exact congrArg (fun functions => (functions[reference.place]?).map Prod.snd) functions
  · have bare (world : World) : (world.routine symbol).bare =
        ((world.routine? symbol).map Routine.bare).getD default := by
      rw [World.routine]
      cases world.routine? symbol <;> rfl
    have both : (after.routine symbol).bare = (before.routine symbol).bare := by
      rw [bare, bare, routine]
    have blocks := congrArg (fun routine => routine.blocks.map Block.instructions) both
    refine ⟨?_, (congrArg Routine.order both :)⟩
    simpa [Routine.bare, Function.comp_def, Block.bare] using blocks
  · have results := congrArg (Option.map Routine.result) (routine symbol)
    rw [Option.map_map, Option.map_map] at results
    exact results.trans known

/-- Changes of no code behind one more block. -/
theorem AddsBlock.sameCode {before between after : World} {symbol : SymbolRef}
    (adds : AddsBlock symbol before between) (same : SameCode between after) :
    AddsBlock symbol before after where
  generators := same.generators.trans adds.generators
  function? reference := (same.function? reference).trans (adds.function? reference)
  row place := (same.row place).trans (adds.row place)
  blockCount other := by rw [same.blockCount, adds.blockCount]
  order other := by rw [same.order, adds.order]
  result other type yields := same.result other type (adds.result other type yields)

/-- A routine that was asked for in a library that is there is there. -/
theorem Build.isSome_ensureRoutine {place : LibraryId} {name : Name} {declared : Routine}
    {world after : World} {symbol : SymbolRef} (inside : place < world.libraries.length)
    (run : ensureRoutine place name declared world = .ok symbol after) :
    (after.routine? symbol).isSome := by
  obtain ⟨owner, missing | there⟩ := ensureRoutine_there run
  · have same : after.libraries.length = world.libraries.length := by
      rcases ensureRoutine_ok run with ⟨-, -, rfl⟩ | ⟨-, rfl⟩
      · rfl
      · rw [World.changeModule, World.length_changeLibrary]
    exact absurd inside (Nat.not_lt.mpr (same ▸ missing))
  · rwa [← owner] at there

/-- **A function that is created with a body** has a new block of its routine as its entry. -/
theorem Function.create_ok {place : LibraryId} {name : Value} {signature : Signature}
    {result : IRType} {symbolName : Name} {visibility : Visibility} {world after : World}
    {function : Function} (inside : place < world.libraries.length)
    (run : create place name signature result symbolName visibility false world =
      .ok function after) :
    ∃ symbol : SymbolRef, symbol.owner = place ∧ function.symbol = symbol.place ∧
      function.entry = some ⟨symbol, world.blockCount symbol⟩ ∧ function.exit = none ∧
        function.slot = none ∧ (after.routine? symbol).isSome ∧ AddsBlock symbol world after := by
  obtain ⟨symbol, between, asking, run⟩ := bind_eq_ok.mp run
  have same : SameCode world between :=
    (Build.leads_ensureRoutine place _ _ _ _ : Leads SameCode _).of_ok asking
  have there := Build.isSome_ensureRoutine inside asking
  obtain ⟨owner, -⟩ := Build.ensureRoutine_there asking
  obtain ⟨entry, added, adding, run⟩ := bind_eq_ok.mp run
  obtain ⟨rfl, adds⟩ : entry = ⟨symbol, between.blockCount symbol⟩ ∧
      AddsBlock symbol between added := by
    cases adding
    exact ⟨rfl, .of_appendBlock there⟩
  obtain ⟨_, _, linking, run⟩ := bind_eq_ok.mp run
  obtain rfl := modify_eq_ok.mp linking
  obtain ⟨rfl, rfl⟩ := pure_eq_ok.mp run
  have links : SameCode added (added.changeRoutine symbol fun routine =>
      { routine with isPrivate := (Value.visibility visibility).isPrivate }) :=
    .changeRoutine added symbol (fun _ => rfl) (fun _ => rfl) fun _ => rfl
  have all := (same.addsBlock adds).sameCode links
  obtain ⟨routine, known⟩ := Option.isSome_iff_exists.mp there
  have kept := (adds.sameCode links).result symbol routine.result (by rw [known]; rfl)
  refine ⟨symbol, owner, rfl, by rw [same.blockCount], rfl, rfl, ?_, all⟩
  obtain ⟨last, there, -⟩ := Option.map_eq_some_iff.mp kept
  rw [there]
  rfl

/-! ### Entering functions -/

namespace World

variable (world : World) (place : LibraryId) (update : Library → List (Key × Function))

/-- What is entered among the functions of a library changes no routine. -/
theorem routine?_enter (symbol : SymbolRef) :
    (world.changeLibrary place fun library => { library with functions := update library }).routine?
      symbol = world.routine? symbol := by
  simp only [routine?, library_changeLibrary]
  split
  next same => rw [same.1]
  next => rfl

end World

/-- A function that is entered in a library is the last one there. -/
theorem Library.enterFunction_ok {place : LibraryId} {key : Key} {function : Function}
    {world after : World} {reference : FunctionRef} (inside : place < world.libraries.length)
    (run : enterFunction place key function world = .ok reference after) :
    reference.owner = place ∧ after.function? reference = some function ∧
      after.generators = world.generators ∧
        ∀ symbol, after.routine? symbol = world.routine? symbol := by
  obtain ⟨seen, _, looked, run⟩ := bind_eq_ok.mp run
  obtain ⟨rfl, rfl⟩ := get_eq_ok.mp looked
  obtain ⟨_, _, changing, run⟩ := bind_eq_ok.mp run
  obtain rfl := modify_eq_ok.mp changing
  obtain ⟨rfl, rfl⟩ := pure_eq_ok.mp run
  refine ⟨rfl, ?_, rfl, fun symbol => World.routine?_enter world place _ symbol⟩
  simp [World.function?, World.library_changeLibrary, inside]

/-- **A function that is declared** is created and entered when its names have been written. -/
theorem Library.declareFunction_ok {Effect : World → World → Prop} [AllowsNewTexts Effect]
    {place : LibraryId} {name : Name} {parameters result : Value} {symbolName : Build Value}
    {visibility : Visibility} {isDeclaration : Bool} {world after : World}
    {reference : FunctionRef} (naming : Leads Effect symbolName)
    (run : declareFunction place name parameters result symbolName visibility isDeclaration world =
      .ok reference after) :
    ∃ signature type symbol named function created, Effect world named ∧
      Function.create place name.shown signature type symbol visibility isDeclaration named =
          .ok function created ∧
        enterFunction place name.key function created = .ok reference after := by
  obtain ⟨_, _, looked, run⟩ := bind_eq_ok.mp run
  obtain ⟨rfl, rfl⟩ := get_eq_ok.mp looked
  obtain ⟨_, first, checking, run⟩ := bind_eq_ok.mp run
  have checks : Effect world first := (leads_requireFree place _ name _).of_ok checking
  obtain ⟨_, _, looked, run⟩ := bind_eq_ok.mp run
  obtain ⟨rfl, rfl⟩ := get_eq_ok.mp looked
  obtain ⟨signature, _, spelling, run⟩ := bind_eq_ok.mp run
  obtain ⟨-, rfl⟩ := lift_eq_ok.mp spelling
  obtain ⟨type, _, spelling, run⟩ := bind_eq_ok.mp run
  obtain ⟨-, rfl⟩ := lift_eq_ok.mp spelling
  obtain ⟨shown, second, namingRun, run⟩ := bind_eq_ok.mp run
  obtain ⟨symbol, third, keying, run⟩ := bind_eq_ok.mp run
  obtain ⟨function, created, creating, entering⟩ := bind_eq_ok.mp run
  refine ⟨signature, type, symbol, third, function, created, ?_, creating, entering⟩
  exact IsEffect.trans checks
    (IsEffect.trans (naming.of_ok namingRun) ((Build.leads_nameOf shown).of_ok keying))

namespace FreshBody

open FunctionBody

/-- The body of a function whose routine, in some world, does not have the entry yet. -/
def upcoming (world : World) (reference : FunctionRef) (symbol : SymbolRef) (result : IRType) :
    FreshBody where
  reference := reference
  symbol := symbol
  entry := ⟨symbol, world.blockCount symbol⟩
  result := result
  base := world.blockCount symbol
  isFirst := world.blockCount symbol = 0 ∧ world.order symbol = []

/-- **A body that has not been begun**: the entry is the only block of the function, and nothing is
in it. -/
structure Starts (body : FreshBody) (world : World) : Prop where
  /-- The function is tidy. -/
  tidy : body.Tidy world
  /-- Only the entry is open. -/
  opened (block : BlockRef) : body.Open world block ↔ block = body.entry
  /-- Nothing is in the entry. -/
  blank : body.code world body.entry = []

end FreshBody

/-- **A function that is declared with a body** has an entry without instructions. -/
theorem Library.declareFunction_starts {place : LibraryId} {name : Name}
    {parameters result : Value} {symbolName : Build Value} {visibility : Visibility}
    {world after : World} {reference : FunctionRef} (inside : place < world.libraries.length)
    (naming : Leads SameBare symbolName)
    (run : declareFunction place name parameters result symbolName visibility false world =
      .ok reference after) :
    after.generators = world.generators ∧ ∃ symbol type,
      (FreshBody.upcoming world reference symbol type).Starts after := by
  obtain ⟨signature, type, symbolName, named, function, created, same, creating, entering⟩ :=
    declareFunction_ok naming run
  have length : named.libraries.length = world.libraries.length := (same.noted place).length
  obtain ⟨symbol, rfl, stands, entry, exit, slot, there, adds⟩ :=
    Function.create_ok (length ▸ inside) creating
  have adds : AddsBlock symbol world created := same.sameCode.addsBlock adds
  have still : symbol.owner < created.libraries.length := by
    by_contra beyond
    rw [World.routine?, World.library_of_length_le created (Nat.le_of_not_lt beyond)] at there
    cases there
  obtain ⟨owner, known, generators, routines⟩ := enterFunction_ok still entering
  obtain ⟨routine, found⟩ := Option.isSome_iff_exists.mp there
  refine ⟨generators.trans adds.generators, symbol, routine.result, ?_⟩
  generalize body_eq : FreshBody.upcoming world reference symbol routine.result = body
  have record : after.function reference = function := by
    rw [World.function_eq, known]
    rfl
  have count : after.blockCount symbol = world.blockCount symbol + 1 := by
    rw [World.blockCount, World.routine, routines]
    exact (adds.blockCount symbol).trans (if_pos rfl)
  have order : after.order symbol = world.order symbol ++ [world.blockCount symbol] := by
    rw [World.order, World.routine, routines]
    exact (adds.order symbol).trans (if_pos rfl)
  have missing : body.exit? after = none ∧ body.slot? after = none := by
    rw [← body_eq, FunctionBody.exit?, FunctionBody.slot?, FreshBody.upcoming, record]
    exact ⟨exit, slot⟩
  have blank : body.code after body.entry = [] := by
    rw [FreshBody.code, missing.2, if_neg (by simp), World.row_congr (routines _), adds.row, ← body_eq]
    exact World.row_of_blockCount_le world (Nat.le_refl _)
  have insides (block : BlockRef) : body.IsInside after block ↔ block = body.entry := by
    obtain ⟨other, number⟩ := block
    rw [FreshBody.isInside_iff, FunctionBody.blockCount, ← body_eq]
    simp only [FreshBody.upcoming, count, BlockRef.mk.injEq]
    exact and_congr_right fun _ => by omega
  have opened (block : BlockRef) : body.Open after block ↔ block = body.entry := by
    rw [FreshBody.Open, insides]
    refine and_iff_left_of_imp ?_
    rintro rfl
    exact blank ▸ IsStraight.nil
  refine ⟨?_, opened, blank⟩
  refine
    { isThere := ?_
      stands := ?_
      entry := ?_
      result := ?_
      entryInside := (insides _).mpr rfl
      blocks := fun block known => .inl ((opened block).mpr ((insides block).mp known))
      arranged := fun isFirst => ?_
      slotless := fun _ => missing.2
      exit := fun exit known => absurd known (by simp [missing.1])
      slot := fun slot known => absurd known (by simp [missing.2]) }
  all_goals subst body_eq
  · show (after.function? reference).isSome
    rw [known]
    rfl
  · show World.functionSymbol after reference = symbol
    rw [World.functionSymbol, record, owner, stands]
  · show (after.function reference).entry = _
    rw [record, entry, same.sameCode.blockCount]
    rfl
  · show (after.routine? symbol).map Routine.result = some routine.result
    rw [routines, found]
    rfl
  · obtain ⟨none, unordered⟩ : world.blockCount symbol = 0 ∧ world.order symbol = [] := isFirst
    refine ⟨?_, ?_, fun place => ?_⟩
    · show (after.order symbol).Nodup
      rw [order, unordered]
      exact List.nodup_singleton _
    · show (after.order symbol).head? = some (world.blockCount symbol)
      rw [order, unordered]
      rfl
    · show place ∈ after.order symbol ↔ place < after.blockCount symbol
      rw [order, unordered, count, none]
      simp

/-! ## Bodies -/

namespace FreshBody

open FunctionBody

variable {body : FreshBody} {before after : World} {place : GeneratorId} {reading : Reading}

/-- **The outermost generator** of a body is at work at the entry, outside all loops. -/
theorem Starts.atEntry (starts : body.Starts before)
    (run : Generator.atEntry body.reference before = .ok place after) :
    place = before.generators.length ∧ body.Starts after ∧
      body.Works after place body.entry ∧ (after.generator place).loopExit = .none ∧
        (after.generator place).loopBlock = .none := by
  obtain ⟨rfl, made⟩ : place = before.generators.length ∧ after = { before with
      generators := before.generators ++ [⟨body.reference, .operand (.block body.entry),
        .operand (.block body.entry), .none, .none, false⟩] } := by
    obtain ⟨seen, _, looked, run⟩ := bind_eq_ok.mp run
    obtain ⟨rfl, rfl⟩ := get_eq_ok.mp looked
    rw [Generator.entryValue, starts.tidy.entry] at run
    cases run
    exact ⟨rfl, rfl⟩
  have same : after.generator before.generators.length = ⟨body.reference,
      .operand (.block body.entry), .operand (.block body.entry), .none, .none, false⟩ := by
    rw [made, World.generator_append, if_pos rfl]
  have alters : body.Alters [] [] before after := made ▸ starts.tidy.alters_of_generators _
  have opened := (starts.opened body.entry).mpr rfl
  have later := alters.open_of_not_mem opened List.not_mem_nil
  refine ⟨rfl, ⟨alters.tidy, fun block => ?_, ?_⟩, ⟨alters.tidy,
    ⟨?_, by rw [same], ⟨body.entry, ⟨by rw [same], later.1⟩, fun _ => later⟩, ?_, ?_⟩,
    by rw [same], by rw [same]⟩, by rw [same], by rw [same]⟩
  · rw [alters.opens, starts.opened]
    simp
  · rw [alters.keeps body.entry opened List.not_mem_nil, starts.blank]
  · rw [made, List.length_append]
    exact Nat.lt_succ_self _
  · intro given
    rw [same] at given
    exact absurd rfl given
  · intro given
    rw [same] at given
    exact absurd rfl given

end FreshBody

/-! ## Definitions -/

/-- What is executed of a function in front of its body: the slot of shared returns, if there is
one. -/
def World.prologue (world : World) (reference : FunctionRef) : List Instruction :=
  match (world.function reference).entry with
  | some entry => if (world.function reference).slot.isSome then (world.row entry).take 1 else []
  | none => []

/-- Defines a function and keeps an account of it. -/
def Account.define (place : LibraryId) (name parameters result : Value)
    (body : AccountedCallback) : Build (FunctionRef × Reading) := do
  let name ← Build.nameOf name
  let library := (← get).library place
  let function ← Library.declareFunction place name parameters result
    (Library.symbolName library name.shown) library.visibility false
  let generator ← Generator.atEntry function
  let (_, reading) ← body.run [.generator generator]
  return (function, .seq (.run ((← get).prologue function)) reading)

/-- **Forgetting the account** of a function recovers its definition. -/
theorem Account.map_fst_define (place : LibraryId) (name parameters result : Value)
    (body : AccountedCallback) :
    Prod.fst <$> define place name parameters result body =
      Library.define place name parameters result (some body.plain) := by
  simp [define, Library.define, AccountedCallback.plain]

/-- The definition of a function by a client that must not fail, with its account forgotten. -/
theorem Account.define_strict (place : LibraryId) (name parameters result : Value)
    (arity? : Option Nat) (client : List Value → Client) :
    Library.define place name parameters result
        (some ⟨arity?, fun arguments => (client arguments).strict⟩) =
      Prod.fst <$> define place name parameters result
        ⟨arity?, fun arguments => (client arguments).account⟩ := by
  simp only [map_fst_define, AccountedCallback.plain, Client.map_fst_account]

section

variable {place : LibraryId} {name parameters result : Value} {arity? : Option Nat}
  {client : List Value → Client} {world final : World} {function : FunctionRef} {reading : Reading}

/-- **The body of a function that is defined** is built by the outermost generator, which is the next
generator of the world. -/
theorem Account.define_builds (inside : place < world.libraries.length)
    (structured : ∀ part, (client [.generator part]).Structured part)
    (run : define place name parameters result
      ⟨arity?, fun arguments => (client arguments).account⟩ world = .ok (function, reading) final) :
    ∃ (symbol : SymbolRef) (type : IRType) (begun : World) (read : Reading),
      reading = .seq (.run (final.prologue function)) read ∧
        (FreshBody.upcoming world function symbol type).Starts begun ∧
          (FreshBody.upcoming world function symbol type).Works begun world.generators.length
            ⟨symbol, world.blockCount symbol⟩ ∧
            (begun.generator world.generators.length).loopExit = .none ∧
              (begun.generator world.generators.length).loopBlock = .none ∧
                (FreshBody.upcoming world function symbol type).Builds world.generators.length read
                  begun final := by
  obtain ⟨name, named, naming, run⟩ := bind_eq_ok.mp run
  obtain ⟨_, _, looked, run⟩ := bind_eq_ok.mp run
  obtain ⟨rfl, rfl⟩ := get_eq_ok.mp looked
  obtain ⟨reference, declared, declaring, run⟩ := bind_eq_ok.mp run
  obtain ⟨generator, begun, beginning, run⟩ := bind_eq_ok.mp run
  obtain ⟨⟨value, read⟩, built, building, run⟩ := bind_eq_ok.mp run
  obtain ⟨_, _, looked, run⟩ := bind_eq_ok.mp run
  obtain ⟨rfl, rfl⟩ := get_eq_ok.mp looked
  obtain ⟨same, rfl⟩ := pure_eq_ok.mp run
  cases same
  have names : SameBare world named := (Build.leads_nameOf _).of_ok naming
  have length : named.libraries.length = world.libraries.length := (names.noted place).length
  obtain ⟨generators, symbol, type, starts⟩ := Library.declareFunction_starts (length ▸ inside)
    (Library.leads_symbolName _ _) declaring
  have generators : declared.generators.length = world.generators.length :=
    congrArg List.length (generators.trans names.sameCode.generators)
  have same : FreshBody.upcoming named function symbol type =
      FreshBody.upcoming world function symbol type := by
    rw [FreshBody.upcoming, FreshBody.upcoming, names.sameCode.blockCount, names.sameCode.order]
  rw [same] at starts
  obtain ⟨rfl, starts, works, loopExit, loopBlock⟩ := starts.atEntry beginning
  rw [generators] at works loopExit loopBlock building
  exact ⟨symbol, type, begun, read, rfl, starts, works, loopExit, loopBlock,
    (structured _).builds works.tidy works.ready building⟩

end

/-! ## Well-formed functions -/

/-- A block is one of those of the function, as they are in order. -/
def World.HasBlock (world : World) (reference : FunctionRef) (block : BlockRef) : Prop :=
  block.routine = world.functionSymbol reference ∧
    block.place ∈ world.order (world.functionSymbol reference)

/-- **A function is well-formed**, up to the block at which a generator is. -/
structure World.IsWellFormed (world : World) (reference : FunctionRef) (place : GeneratorId) :
    Prop where
  /-- No block is listed twice. -/
  nodup : (world.order (world.functionSymbol reference)).Nodup
  /-- The entry is the first block. -/
  entry : ∃ entry, (world.function reference).entry = some entry ∧ world.HasBlock reference entry ∧
    (world.order (world.functionSymbol reference)).head? = some entry.place
  /-- The generator is at a block of the function, which ends with its only terminator if the generator
  is finished, and has no terminator otherwise. -/
  current : ∃ here, (world.generator place).block = .operand (.block here) ∧
    world.HasBlock reference here ∧
      ((∃ instruction ∈ world.row here, instruction.operation.isTerminator = true) ↔
        (world.generator place).isFinished = true) ∧
        ((world.generator place).isFinished = true → EndsOnce (fun _ => True) (world.row here))
  /-- All other blocks end with their only terminator. -/
  others (block : BlockRef) : world.HasBlock reference block →
    (world.generator place).block ≠ .operand (.block block) →
      EndsOnce (fun _ => True) (world.row block)
  /-- Branches lead to blocks of the function other than the entry. -/
  targets (block : BlockRef) (instruction : Instruction) (target : Value) :
    world.HasBlock reference block → instruction ∈ world.row block →
      target ∈ instruction.operation.targets →
        ∃ next, target = .operand (.block next) ∧ world.HasBlock reference next ∧
          (world.function reference).entry ≠ some next

/-- Only terminators lead anywhere. -/
theorem Operation.targets_of_isTerminator {operation : Operation}
    (straight : operation.isTerminator = false) : operation.targets = [] := by
  cases operation with
  | branch target => cases straight
  | branchIf condition whenTrue whenFalse => cases straight
  | _ => rfl

namespace FreshBody

open FunctionBody

variable {body : FreshBody} {begun final : World} {place : GeneratorId} {reading : Reading}

/-- The slot of shared returns ends no block. -/
theorem Tidy.row_eq (tidy : body.Tidy final) (block : BlockRef) :
    ∃ front, IsStraight front ∧ final.row block = front ++ body.code final block := by
  rw [code]
  split
  next own =>
    obtain ⟨rfl, known⟩ := own
    obtain ⟨slot, known⟩ := Option.isSome_iff_exists.mp known
    obtain ⟨first, rest, same, allocates⟩ := tidy.slot slot known
    refine ⟨[first], fun instruction member => ?_, by rw [same]; rfl⟩
    rw [List.mem_singleton.mp member, allocates]
    rfl
  next => exact ⟨[], IsStraight.nil, rfl⟩

/-- The row of a closed block ends once. -/
theorem Tidy.endsOnce (tidy : body.Tidy final) {block : BlockRef} (closed : body.Closed final block) :
    EndsOnce (body.IsTarget final) (final.row block) := by
  obtain ⟨front, straight, same⟩ := tidy.row_eq block
  obtain ⟨middle, last, ends, straightOn, terminates, goes⟩ := closed.2
  rw [same, ends, ← List.append_assoc]
  exact .of_append (straight.append straightOn) terminates goes

/-- The row of an open block is straight. -/
theorem Tidy.straight (tidy : body.Tidy final) {block : BlockRef} (opened : body.Open final block) :
    IsStraight (final.row block) := by
  obtain ⟨front, straight, same⟩ := tidy.row_eq block
  rw [same]
  exact straight.append opened.2

/-- What is among instructions that end no block leads nowhere. -/
theorem not_mem_targets {row : List Instruction} {instruction : Instruction} {target : Value}
    (straight : IsStraight row) (member : instruction ∈ row) :
    target ∉ instruction.operation.targets := by
  rw [Operation.targets_of_isTerminator (straight instruction member)]
  exact List.not_mem_nil

/-- Control goes to blocks of a tidy function other than the entry. -/
theorem Tidy.isTarget_of_mem (tidy : body.Tidy final) {block : BlockRef} {instruction : Instruction}
    {target : Value} (inside : body.IsInside final block)
    (member : instruction ∈ body.code final block)
    (leads : target ∈ instruction.operation.targets) : body.IsTarget final target := by
  rcases tidy.blocks block inside with opened | closed
  · exact (not_mem_targets opened.2 member leads).elim
  · obtain ⟨front, last, same, straight, -, goes⟩ := closed.2
    rw [same] at member
    rcases List.mem_append.mp member with found | found
    · exact (not_mem_targets straight found leads).elim
    · exact goes target (List.mem_singleton.mp found ▸ leads)

/-- **A tidy function is well-formed** up to the only block that may be open. -/
theorem Tidy.isWellFormed (tidy : body.Tidy final) (isFirst : body.isFirst) (base : body.base = 0)
    (isAt : ∃ here, body.IsAt final place here)
    (opens : ∀ block, body.Open final block ↔ block ∈ final.stand place) :
    final.IsWellFormed body.reference place := by
  have arranged := tidy.arranged isFirst
  have stands := tidy.stands
  have has (block : BlockRef) : final.HasBlock body.reference block ↔ body.IsInside final block := by
    rw [World.HasBlock, stands, arranged.ordered, isInside_iff, base]
    simp
  have closed {block : BlockRef} (inside : body.IsInside final block)
      (away : block ∉ final.stand place) : EndsOnce (body.IsTarget final) (final.row block) :=
    tidy.endsOnce ((tidy.blocks block inside).resolve_left fun opened =>
      away ((opens block).mp opened))
  obtain ⟨here, positioned, inside⟩ := isAt
  refine ⟨stands ▸ arranged.nodup, ⟨body.entry, tidy.entry, (has _).mpr tidy.entryInside,
      stands ▸ arranged.first⟩, ⟨here, positioned, (has here).mpr inside, ?_⟩,
    fun block known away => ?_, fun block instruction target known member leads => ?_⟩
  · cases isFinished : (final.generator place).isFinished with
    | true =>
        have ends : EndsOnce (body.IsTarget final) (final.row here) :=
          closed inside (by rw [World.stand_of_isFinished isFinished]; exact List.not_mem_nil)
        refine ⟨⟨fun _ => rfl, fun _ => ?_⟩, fun _ => ends.weaken fun _ _ => trivial⟩
        obtain ⟨front, last, same, -, terminates, -⟩ := ends
        exact ⟨last, by rw [same]; simp, terminates⟩
    | false =>
        have standing : final.StandsAt place here := ⟨isFinished, positioned⟩
        have straight := tidy.straight ((opens here).mpr
          (by rw [standing.stand_eq]; exact List.mem_singleton_self here))
        refine ⟨⟨fun ⟨instruction, member, terminates⟩ => ?_, nofun⟩, nofun⟩
        rw [straight instruction member] at terminates
        exact terminates
  · refine (closed ((has block).mp known) fun member => away ?_).weaken fun _ _ => trivial
    rw [World.stand] at member
    split at member
    next => cases member
    next =>
      rw [positioned] at member ⊢
      rw [List.mem_singleton.mp member]
  · obtain ⟨front, straight, same⟩ := tidy.row_eq block
    rw [same] at member
    rcases List.mem_append.mp member with found | found
    · exact (not_mem_targets straight found leads).elim
    · obtain ⟨next, rfl, inside, other⟩ :=
        tidy.isTarget_of_mem ((has block).mp known) found leads
      refine ⟨next, rfl, (has next).mpr inside, fun same => other ?_⟩
      exact (Option.some.inj (tidy.entry.symm.trans same)).symm

/-- What a body comes to that has been built from its beginning on: only the block at which the
generator has been left is open. -/
theorem Builds.opens (builds : body.Builds place reading begun final) (starts : body.Starts begun)
    (works : body.Works begun place body.entry) (block : BlockRef) :
    body.Open final block ↔ block ∈ final.stand place := by
  rw [builds.alters.opens, starts.opened, works.stands.stand_eq]
  simp

end FreshBody

/-- **Well-formed block graphs.** A structured client builds the body of a function whose routine has
no blocks, and nothing that it asks for fails. Then the function is well-formed up to the block at which
the outermost generator has been left, which is the next generator of the world. -/
theorem Library.isWellFormed_define {place : LibraryId} {name parameters result : Value}
    {arity? : Option Nat} {client : List Value → Client} {world final : World}
    {function : FunctionRef} (inside : place < world.libraries.length)
    (structured : ∀ part, (client [.generator part]).Structured part)
    (run : define place name parameters result
      (some ⟨arity?, fun arguments => (client arguments).strict⟩) world = .ok function final)
    (noBlocks : world.blockCount (final.functionSymbol function) = 0 ∧
      world.order (final.functionSymbol function) = []) :
    final.IsWellFormed function world.generators.length := by
  rw [Account.define_strict] at run
  obtain ⟨⟨function, reading⟩, defining, rfl⟩ := map_eq_ok.mp run
  obtain ⟨symbol, type, begun, read, -, starts, works, -, -, builds⟩ :=
    Account.define_builds inside structured defining
  have tidy := builds.alters.tidy
  have stands : final.functionSymbol function = symbol := tidy.stands
  rw [stands] at noBlocks
  exact tidy.isWellFormed noBlocks noBlocks.1 builds.isAt (builds.opens starts works)

namespace Client

/-- Makes one request of the generator that it is given, whose callbacks are all the same, and ends
with what the request gives. -/
def single (request : List Value → Request) (called : List Value → Client) : List Value → Client
  | .generator place :: arguments => perform place (request arguments) (fun _ => called) done
  | _ => done (.ok .none)

/-- Leaves the loop around it. -/
def leaving : List Value → Client :=
  single (fun _ => .operation "brk" [] []) fun _ => done (.ok .none)

/-- Compares the variable of a loop with a number. -/
def comparing : List Value → Client :=
  single (fun arguments => .operation "opr" (.text "slt" :: arguments ++ [.integer 10]) [])
    fun _ => done (.ok .none)

/-- Leaves the loop around it on a condition. -/
def turning : List Value → Client :=
  single (fun _ => .operation "cond" [.truth true, .text "leave"] []) leaving

/-- A loop that ends on two conditions, and a return behind it. -/
def looping : List Value → Client
  | [.generator place] =>
      perform place
        (.operation "lp" [.integer 0, .truth true, .none, .none, .truth false] [])
        (fun value => if value.isStaticZero then turning else comparing) fun _ =>
          perform place (.operation "ret" [.integer 1] []) (fun _ _ => done (.ok .none)) done
  | _ => done (.ok .none)

/-- A single request is structured if what it asks for is. -/
theorem structured_single {request : List Value → Request} {called : List Value → Client}
    (keeps : ∀ arguments, (request arguments).IsStructured)
    (structured : ∀ part arguments, (called (.generator part :: arguments)).Structured part)
    (part : GeneratorId) (arguments : List Value) :
    (single request called (.generator part :: arguments)).Structured part :=
  ⟨rfl, keeps arguments, fun _ => structured, fun _ => trivial⟩

/-- The loop and all that is called for it are structured. -/
theorem structured_looping (part : GeneratorId) :
    (looping [.generator part]).Structured part := by
  have leaves : ∀ part arguments, (leaving (.generator part :: arguments)).Structured part :=
    structured_single (fun _ => ⟨by decide, rfl⟩) fun _ _ => trivial
  have compares : ∀ part arguments, (comparing (.generator part :: arguments)).Structured part :=
    structured_single (fun _ => ⟨by decide, rfl⟩) fun _ _ => trivial
  have turns : ∀ part arguments, (turning (.generator part :: arguments)).Structured part :=
    structured_single (fun _ => ⟨by decide, rfl⟩) leaves
  refine ⟨rfl, ⟨by decide, rfl⟩, fun value part arguments => ?_, fun _ =>
    ⟨rfl, ⟨by decide, rfl⟩, fun _ _ _ => trivial, fun _ => trivial⟩⟩
  dsimp only
  split
  · exact turns part arguments
  · exact compares part arguments

end Client

/-- No routine of a library in which nothing is declared has blocks. -/
theorem World.noBlocks_oneLibrary (symbol : SymbolRef) :
    oneLibrary.blockCount symbol = 0 ∧ oneLibrary.order symbol = [] := by
  have missing : oneLibrary.routine? symbol = none := by
    obtain ⟨owner, place⟩ := symbol
    cases owner <;> rfl
  rw [blockCount, order, routine, missing]
  exact ⟨rfl, rfl⟩

/-- The definition of a function with a loop that ends on two conditions. -/
def Library.defineLooping : Build FunctionRef :=
  define 0 (.text "f") (.tuple []) (.type (.int 32))
    (some ⟨none, fun arguments => (Client.looping arguments).strict⟩)

/-- A function with a loop that ends on two conditions is well-formed. -/
theorem Library.isWellFormed_looping : ∃ function,
    defineLooping .oneLibrary = .ok function (defineLooping.after .oneLibrary) ∧
      (defineLooping.after .oneLibrary).IsWellFormed function 0 := by
  obtain ⟨function, run⟩ : ∃ function,
      defineLooping .oneLibrary = .ok function (defineLooping.after .oneLibrary) :=
    Build.ok_of_succeeds (by decide +kernel)
  exact ⟨function, run, isWellFormed_define (by decide) Client.structured_looping run
    (World.noBlocks_oneLibrary _)⟩

/-! ## Walking functions -/

/-- Where control goes is one of the targets of an operation, at its beginning. -/
theorem Walker.leadsTo_eq_some {decide : Nat → Bool} {asked : Nat} {operation : Operation}
    {other : Walker} (leads : leadsTo decide asked operation = some other) :
    Value.operand (.block other.block) ∈ operation.targets ∧ other.index = 0 := by
  unfold leadsTo at leads
  split at leads
  next target =>
    obtain ⟨block, known, rfl⟩ := Option.map_eq_some_iff.mp leads
    rw [← Value.eq_of_block?_eq_some known]
    exact ⟨List.mem_singleton_self _, rfl⟩
  next condition whenTrue whenFalse =>
    obtain ⟨block, known, rfl⟩ := Option.map_eq_some_iff.mp leads
    rw [← Value.eq_of_block?_eq_some known]
    refine ⟨?_, rfl⟩
    cases decide asked <;> simp [Operation.targets]
  next => cases leads

namespace FreshBody

open FunctionBody

variable {body : FreshBody} {begun final : World} {place : GeneratorId} {reading : Reading}
  {decide : Nat → Bool}

variable (body) in
/-- Where a walker through the code of a function is in its rows: in the entry, behind the slot of
shared returns. -/
def inRows (world : World) (walker : Walker) : Walker :=
  if walker.block = body.entry ∧ (body.slot? world).isSome then
    { walker with index := walker.index + 1 }
  else walker

/-- What comes next in the rows is what comes next in the code. -/
theorem getElem?_inRows (world : World) (walker : Walker) :
    (world.row (body.inRows world walker).block)[(body.inRows world walker).index]? =
      (body.code world walker.block)[walker.index]? := by
  rw [inRows, code]
  split
  next => rw [List.getElem?_tail]
  next => rfl

/-- **A walk through the rows** of a tidy function executes what the walk through its code does: no
terminator leads to the entry, where the slot is. -/
theorem Tidy.walk_inRows (tidy : body.Tidy final) (steps : Nat) (walker : Walker)
    (inside : body.IsInside final walker.block) :
    (body.inRows final walker).walk final.row decide steps =
      walker.walk (body.code final) decide steps := by
  induction steps generalizing walker with
  | zero => rfl
  | succ steps ih =>
      have asked : (body.inRows final walker).asked = walker.asked := by
        rw [inRows]
        split <;> rfl
      have moved : (⟨⟨(body.inRows final walker).block, (body.inRows final walker).index + 1⟩,
          walker.asked⟩ : Walker) = body.inRows final { walker with index := walker.index + 1 } := by
        rw [inRows, inRows]
        split <;> rfl
      rw [Walker.walk, Walker.walk, Walker.next, Walker.next, getElem?_inRows, asked]
      cases found : (body.code final walker.block)[walker.index]? with
      | none => rfl
      | some instruction =>
          cases terminates : instruction.operation.isTerminator with
          | true =>
              -- Control never goes to the entry, so it goes to the same place in rows and in code.
              simp only [terminates, if_true]
              cases leads : Walker.leadsTo decide walker.asked instruction.operation with
              | none => rfl
              | some other =>
                  obtain ⟨member, -⟩ := Walker.leadsTo_eq_some leads
                  obtain ⟨next, same, insideNext, away⟩ :=
                    tidy.isTarget_of_mem inside (List.mem_of_getElem? found) member
                  cases same
                  have stays : body.inRows final other = other :=
                    if_neg fun claimed => away claimed.1
                  have rest := ih other insideNext
                  rw [stays] at rest
                  exact rest
          | false =>
              simp only [terminates, Bool.false_eq_true, if_false]
              rw [moved]
              exact congrArg ([instruction] ++ ·) (ih { walker with index := walker.index + 1 } inside)

/-- **A walk from the entry** executes the slot of shared returns first, if there is one. -/
theorem Tidy.walk_entry (tidy : body.Tidy final) (decide : Nat → Bool) (steps : Nat) :
    Walker.walk final.row decide ((final.prologue body.reference).length + steps)
        ⟨⟨body.entry, 0⟩, 0⟩ =
      final.prologue body.reference ++
        Walker.walk (body.code final) decide steps ⟨⟨body.entry, 0⟩, 0⟩ := by
  have slots : (final.function body.reference).slot = body.slot? final := rfl
  rw [← tidy.walk_inRows steps _ tidy.entryInside, World.prologue, tidy.entry, slots]
  dsimp only
  rw [inRows]
  cases known : body.slot? final with
  | none =>
      simp only [Option.isSome_none, Bool.false_eq_true, and_false, if_false, List.nil_append,
        List.length_nil, Nat.zero_add]
  | some slot =>
      obtain ⟨first, rest, same, allocates⟩ := tidy.slot slot known
      simp only [Option.isSome_some, and_self, if_true, same, List.take_succ_cons, List.take_zero]
      have straight : IsStraight [first] := fun instruction member => by
        rw [List.mem_singleton.mp member, allocates]
        rfl
      have walks : Walks final.row decide 1 ⟨⟨body.entry, 0⟩, 0⟩ [first] ⟨⟨body.entry, 1⟩, 0⟩ :=
        Walks.straight straight [] (by rw [same]; exact ⟨rest, rfl⟩)
      exact walks.walk_add steps

end FreshBody

/-- Beginnings of walks and readings stay the same if the same instructions are put in front. -/
theorem exists_prefix_append_iff {first second : Nat → List Instruction}
    (same : ∀ trace, (∃ steps, trace <+: first steps) ↔ ∃ turns, trace <+: second turns)
    (front trace : List Instruction) :
    (∃ steps, trace <+: front ++ first steps) ↔ ∃ turns, trace <+: front ++ second turns := by
  constructor
  · rintro ⟨steps, begins⟩
    obtain ⟨turns, further⟩ := (same (first steps)).mp ⟨steps, List.prefix_rfl⟩
    exact ⟨turns, begins.trans ((List.prefix_append_right_inj front).mpr further)⟩
  · rintro ⟨turns, begins⟩
    obtain ⟨steps, further⟩ := (same (second turns)).mpr ⟨turns, List.prefix_rfl⟩
    exact ⟨steps, begins.trans ((List.prefix_append_right_inj front).mpr further)⟩

namespace FreshBody

variable {body : FreshBody} {begun final : World} {place : GeneratorId} {reading : Reading}

/-- **A body that has been built from its beginning on** is walked through as it is read. -/
theorem Builds.trace_iff (builds : body.Builds place reading begun final)
    (starts : body.Starts begun) (works : body.Works begun place body.entry)
    (loopExit : (begun.generator place).loopExit = .none)
    (loopBlock : (begun.generator place).loopBlock = .none) (decide : Nat → Bool)
    (trace : List Instruction) :
    (∃ steps, trace <+: Walker.walk (body.code final) decide steps ⟨⟨body.entry, 0⟩, 0⟩) ↔
      ∃ turns, trace <+: reading.trace decide turns := by
  have exits : ∀ turns, Carries (body.code final) decide turns ⟨⟨body.entry, 0⟩, 0⟩
      (reading.exec decide turns 0) (body.exits place begun final) := fun turns => by
    have carries := builds.reads body.entry works.stands (body.code final)
      (fun _ _ => List.prefix_rfl) decide turns 0
    rwa [starts.blank] at carries
  refine Carries.trace_iff exits (fun position asked falls => ?_) (fun position leaves => ?_)
    (fun position again => ?_) trace
  · -- Where the generator has been left, nothing comes next.
    obtain ⟨-, index⟩ := falls
    rw [Walker.next, index, List.getElem?_eq_none (Nat.le_refl _)]
  · cases loopExit.symm.trans leaves.1
  · cases loopBlock.symm.trans again.1

end FreshBody

/-- **Structured control flow is compiled faithfully.** A structured client builds the body of a
function, and nothing that it asks for fails. However the conditions come out, walking the blocks of the
function from its entry executes the same instructions, terminators aside, as reading the body
directly: each has the beginnings that the other one has, also if they go on for ever. -/
theorem Library.reads_define {place : LibraryId} {name parameters result : Value}
    {arity? : Option Nat} {client : List Value → Client} {world final : World}
    {function : FunctionRef} (inside : place < world.libraries.length)
    (structured : ∀ part, (client [.generator part]).Structured part)
    (run : define place name parameters result
      (some ⟨arity?, fun arguments => (client arguments).strict⟩) world = .ok function final) :
    ∃ reading entry, Account.define place name parameters result
        ⟨arity?, fun arguments => (client arguments).account⟩ world = .ok (function, reading) final ∧
      (final.function function).entry = some entry ∧ ∀ decide trace,
        (∃ steps, trace <+: Walker.walk final.row decide steps ⟨⟨entry, 0⟩, 0⟩) ↔
          ∃ turns, trace <+: reading.trace decide turns := by
  rw [Account.define_strict] at run
  obtain ⟨⟨function, reading⟩, defining, rfl⟩ := map_eq_ok.mp run
  obtain ⟨symbol, type, begun, read, rfl, starts, works, loopExit, loopBlock, builds⟩ :=
    Account.define_builds inside structured defining
  have tidy := builds.alters.tidy
  refine ⟨_, _, defining, tidy.entry, fun decide trace => ?_⟩
  have walk := tidy.walk_entry decide
  refine Iff.trans ⟨?_, ?_⟩ (exists_prefix_append_iff
    (builds.trace_iff starts works loopExit loopBlock decide) (final.prologue function) trace)
  · rintro ⟨steps, begins⟩
    exact ⟨steps, begins.trans (walk steps ▸ Walker.walk_prefix _ (Nat.le_add_left _ _))⟩
  · rintro ⟨steps, begins⟩
    exact ⟨_, walk steps ▸ begins⟩

/-- The blocks of a function with a loop that ends on two conditions are walked through as its body is
read. -/
theorem Library.reads_looping : ∃ function reading entry,
    defineLooping .oneLibrary = .ok function (defineLooping.after .oneLibrary) ∧
      ((defineLooping.after .oneLibrary).function function).entry = some entry ∧
        ∀ decide trace,
          (∃ steps, trace <+:
            Walker.walk (defineLooping.after .oneLibrary).row decide steps ⟨⟨entry, 0⟩, 0⟩) ↔
              ∃ turns, trace <+: Reading.trace reading decide turns := by
  obtain ⟨function, run⟩ : ∃ function,
      defineLooping .oneLibrary = .ok function (defineLooping.after .oneLibrary) :=
    Build.ok_of_succeeds (by decide +kernel)
  obtain ⟨reading, entry, -, begins, reads⟩ :=
    reads_define (by decide) Client.structured_looping run
  exact ⟨function, reading, entry, run, begins, reads⟩

end StructuredIR
