import StructuredIR.Proofs.Emission

/-! # Adding and moving blocks

* **`AddsBlock`** says that all that has happened is that a routine has got one more block, without
  instructions and at the end of the order; **`Function.appendNamed_ok`** and
  **`Function.appendBlock_ok`** say it of the steps that add blocks.
* **`Reorders`** says that nothing has changed but the order of the blocks of a routine;
  **`Function.moveAfter_reorders`** says it of moving a block, and how the order changes.
* **`SameRows`** says that no instruction, function or generator has changed, whatever has become of
  the blocks. -/

namespace StructuredIR

open Build (Leads bind_eq_ok bind_eq_error get_eq_ok modify_eq_ok pure_eq_ok lift_eq_ok)

/-! ## Adding blocks -/

/-- **One more block**: a routine has got a block without instructions at the end of its order, and
nothing else has changed. -/
structure AddsBlock (symbol : SymbolRef) (before after : World) : Prop where
  /-- The generators are the same. -/
  generators : after.generators = before.generators
  /-- What is recorded of functions is the same. -/
  function? (reference : FunctionRef) : after.function? reference = before.function? reference
  /-- The instructions are the same. -/
  row (place : BlockRef) : after.row place = before.row place
  /-- The routine has one more block, and no other one has. -/
  blockCount (other : SymbolRef) :
    after.blockCount other =
      if other = symbol then before.blockCount symbol + 1 else before.blockCount other
  /-- The block is the last one in the order. -/
  order (other : SymbolRef) :
    after.order other =
      if other = symbol then before.order symbol ++ [before.blockCount symbol]
      else before.order other
  /-- Routines that are there still yield what they yielded. -/
  result (other : SymbolRef) (type : IRType) :
    (before.routine? other).map Routine.result = some type →
      (after.routine? other).map Routine.result = some type

/-- A routine that is there with one more block. -/
theorem AddsBlock.of_appendBlock {world : World} {symbol : SymbolRef} {base : Value} {key : Key}
    {text : String} (known : (world.routine? symbol).isSome) :
    AddsBlock symbol world (world.changeRoutine symbol (·.appendBlock base key text)) := by
  obtain ⟨routine, found⟩ := Option.isSome_iff_exists.mp known
  have views : ∀ other, (world.changeRoutine symbol (·.appendBlock base key text)).routine other =
      if other = symbol then routine.appendBlock base key text else world.routine other := by
    intro other
    simp only [World.routine, World.routine?_changeRoutine, found]
    split <;> rfl
  have here : world.routine symbol = routine := by
    rw [World.routine, found]
    rfl
  refine ⟨rfl, fun reference => world.function?_changeRoutine symbol _ reference, fun place => ?_,
    fun other => ?_, fun other => ?_, fun other type yields => ?_⟩
  · simp only [World.row, World.block, views]
    split
    next same =>
      rw [same, here, Routine.appendBlock, List.getElem?_append]
      split
      · rfl
      next beyond =>
        rw [List.getElem?_eq_none (Nat.le_of_not_lt beyond)]
        rcases place.place - routine.blocks.length with _ | further <;> rfl
    next => rfl
  · simp only [World.blockCount, views]
    split
    · rw [here, Routine.appendBlock, List.length_append]
      rfl
    · rfl
  · simp only [World.order, World.blockCount, views]
    split
    · rw [here]
      rfl
    · rfl
  · rw [World.routine?_changeRoutine]
    split
    next same =>
      rw [same, found] at yields
      rw [found]
      exact yields
    next => exact yields

/-- One more block behind changes of no code. -/
theorem SameCode.addsBlock {before between after : World} {symbol : SymbolRef}
    (same : SameCode before between) (adds : AddsBlock symbol between after) :
    AddsBlock symbol before after where
  generators := adds.generators.trans same.generators
  function? reference := (adds.function? reference).trans (same.function? reference)
  row place := (adds.row place).trans (same.row place)
  blockCount other := by rw [adds.blockCount, same.blockCount, same.blockCount]
  order other := by rw [adds.order, same.order, same.order, same.blockCount]
  result other type yields := adds.result other type (same.result other type yields)

namespace Function

/-- A new block of a function is the next one of its routine. It is always added. -/
theorem appendNamed_run (reference : FunctionRef) (base : String) (world : World)
    (known : (world.routine? (world.functionSymbol reference)).isSome) :
    ∃ final, appendNamed reference base world =
        .ok ⟨world.functionSymbol reference, world.blockCount (world.functionSymbol reference)⟩
          final ∧
      AddsBlock (world.functionSymbol reference) world final :=
  ⟨_, rfl, AddsBlock.of_appendBlock known⟩

/-- Naming a block changes no code; then the block is the next one of the routine. -/
theorem appendBlock_ok {reference : FunctionRef} {base : Value} {world final : World}
    {place : BlockRef} (known : (world.routine? (world.functionSymbol reference)).isSome)
    (run : appendBlock reference base world = .ok place final) :
    place = ⟨world.functionSymbol reference, world.blockCount (world.functionSymbol reference)⟩ ∧
      AddsBlock (world.functionSymbol reference) world final := by
  -- However the block is named, it is added behind changes of no code.
  have appended {between : World} (same : SameCode world between) {name : Name} {text : String}
      (run : Build.appendBlock (between.functionSymbol reference) name text between =
        .ok place final) :
      place =
          ⟨world.functionSymbol reference, world.blockCount (world.functionSymbol reference)⟩ ∧
        AddsBlock (world.functionSymbol reference) world final := by
    rw [same.functionSymbol] at run
    cases run
    exact ⟨congrArg _ (same.blockCount _),
      same.addsBlock (AddsBlock.of_appendBlock (same.isSome known))⟩
  obtain ⟨name, named, naming, run⟩ := bind_eq_ok.mp run
  have same : SameCode world named := (Build.leads_nameOf base).of_ok naming
  obtain ⟨seen, _, looked, run⟩ := bind_eq_ok.mp run
  obtain ⟨rfl, rfl⟩ := get_eq_ok.mp looked
  obtain ⟨seen, _, looked, run⟩ := bind_eq_ok.mp run
  obtain ⟨rfl, rfl⟩ := get_eq_ok.mp looked
  dsimp only at run
  split at run
  · obtain ⟨text, written, writing, run⟩ := bind_eq_ok.mp run
    have further : SameCode named written := (Build.leads_plain base).of_ok writing
    rw [← further.functionSymbol] at run
    exact appended (IsEffect.trans same further) run
  · exact appended same run

/-- A block that cannot be named leaves the code as it is. -/
theorem appendBlock_error {reference : FunctionRef} {base : Value} {world final : World}
    {fault : Fault} (run : appendBlock reference base world = .error fault final) :
    SameCode world final := by
  rcases bind_eq_error.mp run with naming | ⟨name, named, naming, run⟩
  · exact (Build.leads_nameOf base).of_error naming
  · have same : SameCode world named := (Build.leads_nameOf base).of_ok naming
    rcases bind_eq_error.mp run with looked | ⟨seen, _, looked, run⟩
    · cases looked
    · obtain ⟨rfl, rfl⟩ := get_eq_ok.mp looked
      rcases bind_eq_error.mp run with looked | ⟨seen, _, looked, run⟩
      · cases looked
      · obtain ⟨rfl, rfl⟩ := get_eq_ok.mp looked
        dsimp only at run
        split at run
        · rcases bind_eq_error.mp run with writing | ⟨text, written, writing, run⟩
          · exact IsEffect.trans same ((Build.leads_plain base).of_error writing)
          · cases run
        · cases run

end Function

/-! ## Moving blocks -/

/-- **Another order**: nothing has changed but the order of the blocks of a routine. -/
structure Reorders (symbol : SymbolRef) (order : List Nat) (before after : World) : Prop where
  /-- The generators are the same. -/
  generators : after.generators = before.generators
  /-- What is recorded of functions is the same. -/
  function? (reference : FunctionRef) : after.function? reference = before.function? reference
  /-- The instructions are the same. -/
  row (place : BlockRef) : after.row place = before.row place
  /-- The blocks are the same. -/
  blockCount (other : SymbolRef) : after.blockCount other = before.blockCount other
  /-- The order is another one. -/
  order (other : SymbolRef) :
    after.order other = if other = symbol then order else before.order other
  /-- Routines that are there still yield what they yielded. -/
  result (other : SymbolRef) (type : IRType) :
    (before.routine? other).map Routine.result = some type →
      (after.routine? other).map Routine.result = some type

/-- A routine that is there in another order. -/
theorem Reorders.of_changeRoutine {before between : World} {symbol : SymbolRef}
    {update : Routine → Routine} {order : List Nat} (same : SameCode before between)
    (known : (between.routine? symbol).isSome)
    (changed : update (between.routine symbol) = { between.routine symbol with order }) :
    Reorders symbol order before (between.changeRoutine symbol update) := by
  obtain ⟨routine, found⟩ := Option.isSome_iff_exists.mp known
  have here : between.routine symbol = routine := by
    rw [World.routine, found]
    rfl
  rw [here] at changed
  have views (other : SymbolRef) : (between.changeRoutine symbol update).routine other =
      if other = symbol then { routine with order } else between.routine other := by
    simp only [World.routine, World.routine?_changeRoutine, found, ← changed]
    split <;> rfl
  refine ⟨same.generators, fun reference => ?_, fun place => ?_, fun other => ?_, fun other => ?_,
    fun other type yields => ?_⟩
  · rw [World.function?_changeRoutine, same.function?]
  · rw [← same.row]
    simp only [World.row, World.block, views]
    split
    next equal => rw [equal, here]
    next => rfl
  · rw [← same.blockCount]
    simp only [World.blockCount, views]
    split
    next equal => rw [equal, here]
    next => rfl
  · rw [← same.order]
    simp only [World.order, views]
    split <;> rfl
  · have still := same.result other type yields
    rw [World.routine?_changeRoutine]
    split
    next equal =>
      rw [equal, found] at still
      rw [found, Option.map_some, Option.map_some, changed]
      exact still
    next => exact still

/-- Where no code differs, the order is what it was. -/
theorem SameCode.reorders {before after : World} (same : SameCode before after)
    (symbol : SymbolRef) : Reorders symbol (before.order symbol) before after where
  generators := same.generators
  function? := same.function?
  row := same.row
  blockCount := same.blockCount
  order other := by
    rw [same.order]
    split
    next equal => rw [equal]
    next => rfl
  result := same.result

/-- Another order after another order. -/
theorem Reorders.trans {symbol : SymbolRef} {first second : List Nat} {before between after : World}
    (left : Reorders symbol first before between) (right : Reorders symbol second between after) :
    Reorders symbol second before after where
  generators := right.generators.trans left.generators
  function? reference := (right.function? reference).trans (left.function? reference)
  row place := (right.row place).trans (left.row place)
  blockCount other := (right.blockCount other).trans (left.blockCount other)
  order other := by
    rw [right.order]
    split
    · rfl
    next different => rw [left.order, if_neg different]
  result other type yields := right.result other type (left.result other type yields)

/-- A place put behind another one is one more place. -/
theorem Routine.insertAfter_perm (moved : Nat) {anchor : Nat} {places : List Nat}
    (inside : anchor ∈ places) :
    (Routine.insertAfter moved anchor places).Perm (moved :: places) := by
  induction places with
  | nil => cases inside
  | cons place places ih =>
      unfold insertAfter
      split
      · exact List.Perm.swap moved place places
      next other =>
        rcases List.mem_cons.mp inside with same | further
        · exact absurd same.symm other
        · exact ((ih further).cons place).trans (List.Perm.swap moved place places)

namespace Function

/-- What a place in order is the place of. -/
theorem placeInOrder?_eq_some {routine : Routine} {symbol : SymbolRef} {value : Value}
    {place : Nat} (found : placeInOrder? routine symbol value = some place) :
    value = .operand (.block ⟨symbol, place⟩) ∧ place ∈ routine.order := by
  unfold placeInOrder? Value.block? at found
  split at found
  next block same =>
    split at same
    next target =>
      cases same
      split at found
      next inside =>
        cases found
        obtain ⟨rfl, inside⟩ := inside
        exact ⟨rfl, List.contains_iff_mem.mp inside⟩
      next => cases found
    next => cases same
  next => cases found

/-- Telling things from each other changes no code. -/
theorem leads_isSame (left right : Value) : Leads SameCode (isSame left right) := by
  have equal : Leads SameCode (do
      return (← Build.keyOf left) == (← Build.keyOf right) : Build Bool) := by
    grind
  unfold isSame
  dsimp only
  split <;> grind

/-- **Moving a block** changes nothing but the order, from which the block is taken out and put
behind its anchor. Only a failure leaves the order without the block. -/
theorem moveAfter_reorders (reference : FunctionRef) (moved anchor : Value) {world : World}
    {symbol : SymbolRef} (stands : world.functionSymbol reference = symbol)
    (known : (world.routine? symbol).isSome) :
    ∃ order,
      Reorders symbol order world ((moveAfter reference moved anchor).after world) ∧
        (order = world.order symbol ∨
          ∃ place, moved = .operand (.block ⟨symbol, place⟩) ∧ place ∈ world.order symbol ∧
            ((∃ target ∈ (world.order symbol).erase place,
                order = Routine.insertAfter place target ((world.order symbol).erase place)) ∨
              order = (world.order symbol).erase place ∧
                ∃ fault final, moveAfter reference moved anchor world = .error fault final)) := by
  have tested := leads_isSame moved anchor
  cases testing : isSame moved anchor world with
  | error fault between =>
      have whole : moveAfter reference moved anchor world = .error fault between := by
        simp only [moveAfter, Bind.bind, EStateM.bind, testing]
      rw [Build.after_of_error whole]
      exact ⟨_, (tested.of_error testing).reorders symbol, .inl rfl⟩
  | ok same between =>
      have code := tested.of_ok testing
      cases same with
      | true =>
          have whole : moveAfter reference moved anchor world = .ok () between := by
            simp only [moveAfter, Bind.bind, EStateM.bind, testing]
            rfl
          rw [Build.after_of_ok whole]
          exact ⟨_, code.reorders symbol, .inl rfl⟩
      | false =>
          -- From here on the blocks are those of the world in which the order is looked at.
          obtain rfl : between.functionSymbol reference = symbol :=
            (code.functionSymbol reference).trans stands
          have order_eq := code.order (between.functionSymbol reference)
          cases found : placeInOrder? (between.routine (between.functionSymbol reference))
              (between.functionSymbol reference) moved with
          | none =>
              have whole : moveAfter reference moved anchor world = .error .blockNotHere between := by
                simp only [moveAfter, Bind.bind, EStateM.bind, testing, Bool.false_eq_true, if_false,
                  get, getThe, MonadStateOf.get, EStateM.get, found]
                rfl
              rw [Build.after_of_error whole]
              exact ⟨_, code.reorders _, .inl rfl⟩
          | some place =>
              obtain ⟨moved_eq, inside⟩ := placeInOrder?_eq_some found
              rw [show (between.routine (between.functionSymbol reference)).order =
                world.order (between.functionSymbol reference) from order_eq] at inside
              obtain ⟨others, others_def⟩ : ∃ others : Routine, others =
                  { between.routine (between.functionSymbol reference) with
                    order := (between.routine
                      (between.functionSymbol reference)).order.erase place } := ⟨_, rfl⟩
              have others_order : others.order =
                  (world.order (between.functionSymbol reference)).erase place := by
                rw [others_def, ← order_eq]
                rfl
              obtain ⟨taken, taken_def⟩ : ∃ taken, taken =
                  between.changeRoutine (between.functionSymbol reference) fun _ => others :=
                ⟨_, rfl⟩
              have out : Reorders (between.functionSymbol reference)
                  ((world.order (between.functionSymbol reference)).erase place) world taken := by
                rw [← others_order, taken_def]
                refine Reorders.of_changeRoutine code (code.isSome known) ?_
                rw [others_def]
              have still : (taken.routine? (between.functionSymbol reference)).isSome := by
                rw [taken_def, World.routine?_changeRoutine, if_pos rfl, Option.isSome_map]
                exact code.isSome known
              cases anchored : placeInOrder? others (between.functionSymbol reference) anchor with
              | some target =>
                  have at_target := (placeInOrder?_eq_some anchored).2
                  have whole : moveAfter reference moved anchor world = .ok ()
                      (taken.changeRoutine (between.functionSymbol reference) fun routine =>
                        { routine with
                          order := Routine.insertAfter place target others.order }) := by
                    rw [others_def] at anchored
                    simp only [moveAfter, Bind.bind, EStateM.bind, testing, Bool.false_eq_true, if_false,
                      get, getThe, MonadStateOf.get, EStateM.get, found, modify, modifyGet,
                      MonadStateOf.modifyGet, EStateM.modifyGet, anchored]
                    rw [taken_def, others_def]
                  rw [others_order] at at_target whole
                  rw [Build.after_of_ok whole]
                  exact ⟨_, out.trans (Reorders.of_changeRoutine (IsEffect.refl taken) still rfl),
                    .inr ⟨place, moved_eq, inside, .inl ⟨target, at_target, rfl⟩⟩⟩
              | none =>
                  have rest : moveAfter reference moved anchor world =
                      (do throw (.anchorNotHere (← Build.quoted anchor)) : Build Unit) taken := by
                    rw [others_def] at anchored
                    simp only [moveAfter, Bind.bind, EStateM.bind, testing, Bool.false_eq_true, if_false,
                      get, getThe, MonadStateOf.get, EStateM.get, found, modify, modifyGet,
                      MonadStateOf.modifyGet, EStateM.modifyGet, anchored]
                    rw [taken_def, others_def]
                  have written : Leads SameCode (Build.quoted anchor) := Build.leads_quoted anchor
                  obtain ⟨fault, final, failed⟩ : ∃ fault final,
                      moveAfter reference moved anchor world = .error fault final := by
                    rw [rest]
                    cases writing : Build.quoted anchor taken with
                    | ok text final =>
                        exact ⟨.anchorNotHere text, final, by
                          simp only [Bind.bind, EStateM.bind, writing]
                          rfl⟩
                    | error fault final =>
                        exact ⟨fault, final, by simp only [Bind.bind, EStateM.bind, writing]⟩
                  have kept : SameCode taken final := by
                    have leads : Leads SameCode (do
                        throw (.anchorNotHere (← Build.quoted anchor)) : Build Unit) :=
                      written.bind fun text => Leads.throw _
                    exact leads.of_error (rest ▸ failed)
                  rw [Build.after_of_error failed]
                  have unmoved := kept.reorders (between.functionSymbol reference)
                  rw [out.order, if_pos rfl] at unmoved
                  exact ⟨_, out.trans unmoved,
                    .inr ⟨place, moved_eq, inside, .inr ⟨rfl, fault, final, failed⟩⟩⟩

end Function

/-! ## Setting up the return block -/

/-- **A return block is set up**: the routine of the function has one more block with some
instructions, there may be instructions in front of those of the entry, and the function knows the
block and the slot. -/
structure SetsUpReturn (reference : FunctionRef) (symbol : SymbolRef) (entry : BlockRef)
    (front content : List Instruction) (slot? : Option Operand) (before after : World) :
    Prop where
  /-- The generators are the same. -/
  generators : after.generators = before.generators
  /-- The function knows the block and the slot, and no other function has changed. -/
  function? (other : FunctionRef) :
    after.function? other =
      if other = reference then
        (before.function? reference).map fun function =>
          { function with
            slot := slot?
            exit := some ⟨symbol, before.blockCount symbol⟩ }
      else before.function? other
  /-- The routine has one more block, and no other one has. -/
  blockCount (other : SymbolRef) :
    after.blockCount other =
      if other = symbol then before.blockCount symbol + 1 else before.blockCount other
  /-- The block is the last one in the order. -/
  order (other : SymbolRef) :
    after.order other =
      if other = symbol then before.order symbol ++ [before.blockCount symbol]
      else before.order other
  /-- Routines that are there still yield what they yielded. -/
  result (other : SymbolRef) (type : IRType) :
    (before.routine? other).map Routine.result = some type →
      (after.routine? other).map Routine.result = some type
  /-- The instructions of the new block, of the entry and of all other blocks. -/
  row (place : BlockRef) :
    after.row place =
      if place = ⟨symbol, before.blockCount symbol⟩ then content
      else if place = entry then front ++ before.row entry
      else before.row place

/-- What a return block is set up with: it returns the value of the slot that is allocated in front
of the entry, or nothing. -/
inductive ReturnsBy (symbol : SymbolRef) (known? : Option Operand) :
    IRType → List Instruction → List Instruction → Option Operand → Prop where
  /-- A function that yields nothing has no new slot. -/
  | nothing (back : Instruction) (returns : back.operation = .retVoid) :
      ReturnsBy symbol known? .void [] [back] known?
  /-- A function that yields a value has a slot for it. -/
  | slot {result : IRType} (yields : result ≠ .void) (slot load back : Instruction)
      (allocates : slot.operation = .alloca result none)
      (loads : load.operation = .load (slot.result symbol))
      (returns : back.operation = .ret (load.result symbol)) :
      ReturnsBy symbol known? result [slot] [load, back] (some (slot.result symbol))

namespace Function

/-- A block that has just been added, to a routine whose functions may have changed, is not ended. -/
theorem isTerminated_of_addsBlock {symbol : SymbolRef} {before after : World}
    (adds : AddsBlock symbol before after) (reference : FunctionRef)
    (update : Function → Function) :
    (after.changeFunction reference update).isTerminated ⟨symbol, before.blockCount symbol⟩ =
      false := by
  rw [World.isTerminated_eq, World.row_changeFunction, adds.row,
    World.row_of_blockCount_le _ (Nat.le_refl _)]
  rfl

/-- Setting up the return block of a function that yields nothing. -/
theorem setUpReturn_of_void {world : World} {reference : FunctionRef} {symbol : SymbolRef}
    {entry : BlockRef} (stands : world.functionSymbol reference = symbol)
    (inside : entry.routine = symbol ∧ entry.place < world.blockCount symbol)
    (known : (world.routine? symbol).isSome)
    (yields : (world.routine symbol).result = .void)
    (missing : (world.function reference).exit = none)
    (isThere : (world.function? reference).isSome) :
    ∃ front content final,
      setUpReturn reference world = .ok ⟨symbol, world.blockCount symbol⟩ final ∧
        SetsUpReturn reference symbol entry front content (world.function reference).slot
          world final ∧
        ReturnsBy symbol (world.function reference).slot .void front content
          (world.function reference).slot := by
  subst stands
  obtain ⟨appended, appending, adds⟩ := appendNamed_run reference "return" world known
  have unchecked : Operation.retVoid.check = .ok .void := rfl
  obtain ⟨value, final, emitting⟩ := Build.emit_succeeds _ _ unchecked fun _ =>
    isTerminated_of_addsBlock adds reference fun function =>
      { function with
        exit := some ⟨world.functionSymbol reference,
          world.blockCount (world.functionSymbol reference)⟩ }
  obtain ⟨back, does, -, -, -, changes⟩ := Build.emit_ok emitting
  have run : setUpReturn reference world =
      .ok ⟨world.functionSymbol reference, world.blockCount (world.functionSymbol reference)⟩
        final := by
    have result : (world.routineOf reference).result = .void := yields
    simp only [setUpReturn, Bind.bind, EStateM.bind, get, getThe, MonadStateOf.get, EStateM.get,
      missing, result, if_pos, pure, EStateM.pure, appending, modify, modifyGet,
      MonadStateOf.modifyGet, EStateM.modifyGet, emitting]
  refine ⟨[], [back], final, run, ⟨?_, fun other => ?_, fun other => ?_, fun other => ?_,
    fun other type held => ?_, fun place => ?_⟩, .nothing back does⟩
  · exact changes.generators.trans adds.generators
  · rw [changes.function?, World.function?_changeFunction, adds.function?, adds.function?]
    obtain ⟨function, found⟩ := Option.isSome_iff_exists.mp isThere
    rw [World.function_eq, found]
    split <;> rfl
  · rw [changes.blockCount, World.blockCount_changeFunction, adds.blockCount]
  · rw [changes.order, World.order_changeFunction, adds.order]
  · refine changes.result other type ?_
    rw [World.routine?_changeFunction]
    exact adds.result other type held
  · rw [changes.row, World.blockCount_changeFunction, adds.blockCount, if_pos rfl]
    simp only [World.row_changeFunction, adds.row, Nat.lt_succ_self, and_true]
    split
    next same =>
      rw [World.row_of_blockCount_le _ (Nat.le_refl _)]
      rfl
    next =>
      split
      next same => rw [same, List.nil_append]
      next => rfl

/-- **A slot is made** in front of the instructions of the entry, and the function knows it. -/
structure SetsUpSlot (reference : FunctionRef) (symbol : SymbolRef) (entry : BlockRef)
    (slot : Instruction) (before after : World) : Prop where
  /-- The generators are the same. -/
  generators : after.generators = before.generators
  /-- The function knows the slot, and no other function has changed. -/
  function? (other : FunctionRef) :
    after.function? other =
      if other = reference then
        (before.function? reference).map fun function =>
          { function with slot := some (slot.result symbol) }
      else before.function? other
  /-- Functions stand for the same routines. -/
  stands : after.functionSymbol reference = before.functionSymbol reference
  /-- The blocks are the same. -/
  blockCount (other : SymbolRef) : after.blockCount other = before.blockCount other
  /-- The blocks are in the same order. -/
  order (other : SymbolRef) : after.order other = before.order other
  /-- Routines that are there still yield what they yielded. -/
  result (other : SymbolRef) (type : IRType) :
    (before.routine? other).map Routine.result = some type →
      (after.routine? other).map Routine.result = some type
  /-- Only the instructions of the entry have changed. -/
  row (place : BlockRef) :
    after.row place = if place = entry then slot :: before.row entry else before.row place

/-- The slot of a function that yields a value is made in front of the entry. -/
theorem createSlot_run {world : World} (reference : FunctionRef) {symbol : SymbolRef}
    {entry : BlockRef} {result : IRType} (begins : (world.function reference).entry = some entry)
    (inside : entry.routine = symbol ∧ entry.place < world.blockCount symbol)
    (value : result ≠ .void) :
    ∃ (slot : Instruction) (final : World),
      createSlot reference result world = .ok (slot.result symbol) final ∧
        slot.operation = .alloca result none ∧ slot.type = .pointer result ∧
          SetsUpSlot reference symbol entry slot world final := by
  have checked : (Operation.alloca result none).check = .ok (.pointer result) := by
    cases result with
    | void => exact absurd rfl value
    | _ => rfl
  obtain ⟨made, allocated, allocating⟩ :=
    Build.emitFirst_succeeds entry "retval" world checked rfl
  obtain ⟨slot, allocates, typed, rfl, changes⟩ := Build.emitFirst_ok allocating
  rw [checked, Except.ok.injEq] at typed
  rw [inside.1] at allocating
  refine ⟨slot, allocated.changeFunction reference fun function =>
      { function with slot := some (slot.result symbol) }, ?_, allocates, typed.symm, ?_,
    fun other => ?_, ?_, fun other => ?_, fun other => ?_, fun other type held => ?_,
    fun place => ?_⟩
  · simp only [createSlot, Bind.bind, EStateM.bind, get, getThe, MonadStateOf.get, EStateM.get,
      begins, allocating, pure, EStateM.pure, modify, modifyGet, MonadStateOf.modifyGet,
      EStateM.modifyGet]
  · exact changes.generators
  · rw [World.function?_changeFunction, changes.function?, changes.function?]
  · rw [World.functionSymbol_changeFunction _ _ _ (by intro function; rfl)]
    exact changes.functionSymbol reference
  · rw [World.blockCount_changeFunction, changes.blockCount]
  · rw [World.order_changeFunction, changes.order]
  · rw [World.routine?_changeFunction]
    exact changes.result other type held
  · rw [World.row_changeFunction, changes.row, inside.1]
    simp only [inside.2, and_true]

/-- The instructions that a return block gets once it is there. -/
theorem emit_returns (world : World) (exit : BlockRef) (slot : Operand) {result : IRType}
    (typed : slot.type = .pointer result) (blank : world.row exit = [])
    (inside : exit.place < world.blockCount exit.routine) :
    ∃ (load back : Instruction) (between final : World),
      Build.emit exit (.load slot) world = .ok (load.result exit.routine) between ∧
        Build.emit exit (.ret (load.result exit.routine)) between =
            .ok (back.result exit.routine) final ∧
          load.operation = .load slot ∧ back.operation = .ret (load.result exit.routine) ∧
            ChangesRow exit (fun _ => [load, back]) world final := by
  have checked : (Operation.load slot).check = .ok result := by
    simp only [Operation.check, typed]
  obtain ⟨loaded, between, loading⟩ := Build.emit_succeeds exit world checked nofun
  obtain ⟨load, loads, -, rfl, -, first⟩ := Build.emit_ok loading
  have first_row : between.row exit = [load] := by
    rw [first.row, if_pos ⟨rfl, inside⟩, blank]
    rfl
  have free : between.isTerminated exit = false := by
    rw [World.isTerminated_eq, first_row, List.any_cons, loads]
    rfl
  have unchecked : (Operation.ret (load.result exit.routine)).check = .ok .void := rfl
  obtain ⟨returned, final, returning⟩ := Build.emit_succeeds exit between unchecked fun _ => free
  obtain ⟨back, returns, -, rfl, -, second⟩ := Build.emit_ok returning
  refine ⟨load, back, between, final, loading, returning, loads, returns,
    IsEffect.trans first.toSameFrame second.toSameFrame, fun other => ?_⟩
  rw [second.row, first.blockCount, first_row, first.row]
  split <;> rfl

/-- Setting up the return block of a function that yields a value: the slot comes first, and then
the block that returns what the slot holds. -/
theorem setUpReturn_of_value {world : World} {reference : FunctionRef} {symbol : SymbolRef}
    {entry : BlockRef} {result : IRType} (stands : world.functionSymbol reference = symbol)
    (begins : (world.function reference).entry = some entry)
    (inside : entry.routine = symbol ∧ entry.place < world.blockCount symbol)
    (known : (world.routine? symbol).isSome)
    (yields : (world.routine symbol).result = result) (value : result ≠ .void)
    (missing : (world.function reference).exit = none) :
    ∃ front content slot? final,
      setUpReturn reference world = .ok ⟨symbol, world.blockCount symbol⟩ final ∧
        SetsUpReturn reference symbol entry front content slot? world final ∧
          ReturnsBy symbol (world.function reference).slot result front content slot? := by
  obtain ⟨slot, slotted, allocating, allocates, typed, slots⟩ :=
    createSlot_run reference begins inside value
  have slotted_stands := slots.stands.trans stands
  have slotted_known : (slotted.routine? symbol).isSome := by
    obtain ⟨routine, found⟩ := Option.isSome_iff_exists.mp known
    have held := slots.result symbol routine.result (by rw [found]; rfl)
    rw [← Option.isSome_map (f := Routine.result), held]
    rfl
  obtain ⟨appended, appending, adds⟩ :=
    appendNamed_run reference "return" slotted (slotted_stands ▸ slotted_known)
  rw [slotted_stands] at appending adds
  rw [slots.blockCount] at appending
  obtain ⟨exit, exit_def⟩ : ∃ exit : BlockRef, exit = ⟨symbol, world.blockCount symbol⟩ :=
    ⟨_, rfl⟩
  have exit_routine : exit.routine = symbol := exit_def ▸ rfl
  have exit_other : exit ≠ entry := by
    rintro rfl
    rw [exit_def] at inside
    exact Nat.lt_irrefl _ inside.2
  rw [← exit_def] at appending ⊢
  let entered := appended.changeFunction reference fun function =>
    { function with exit := some exit }
  have entered_row (place : BlockRef) : entered.row place = slotted.row place := by
    rw [World.row_changeFunction, adds.row]
  have entered_count (other : SymbolRef) : entered.blockCount other =
      if other = symbol then world.blockCount symbol + 1 else world.blockCount other := by
    rw [World.blockCount_changeFunction, adds.blockCount, slots.blockCount, slots.blockCount]
  obtain ⟨load, back, loaded, final, loading, returning, loads, returns, changes⟩ :=
    emit_returns entered exit (slot.result symbol) typed
      (by
        rw [entered_row, slots.row, if_neg exit_other]
        exact World.row_of_blockCount_le _ (exit_def ▸ Nat.le_refl _))
      (by
        rw [exit_routine, entered_count, if_pos rfl, exit_def]
        exact Nat.lt_succ_self _)
  rw [exit_routine] at loading returning returns
  have run : setUpReturn reference world = .ok exit final := by
    have yields : (world.routineOf reference).result = result := by
      rw [World.routineOf, stands, yields]
    simp only [setUpReturn, Bind.bind, EStateM.bind, get, getThe, MonadStateOf.get, EStateM.get,
      missing, yields, if_neg value, Functor.map, EStateM.map, allocating, appending, pure,
      EStateM.pure, modify, modifyGet, MonadStateOf.modifyGet, EStateM.modifyGet, loading,
      returning, entered]
  refine ⟨[slot], [load, back], some (slot.result symbol), final, run, ⟨?_, fun other => ?_,
    fun other => ?_, fun other => ?_, fun other type held => ?_, fun place => ?_⟩,
    .slot value slot load back allocates loads returns⟩
  · exact changes.generators.trans (adds.generators.trans slots.generators)
  · rw [changes.function?, World.function?_changeFunction, adds.function?, adds.function?,
      slots.function?, slots.function?, if_pos rfl, Option.map_map, ← exit_def]
    split <;> rfl
  · rw [changes.blockCount, entered_count]
  · rw [changes.order, World.order_changeFunction, adds.order, slots.order, slots.order,
      slots.blockCount]
  · refine changes.result other type ?_
    rw [World.routine?_changeFunction]
    exact adds.result other type (slots.result other type held)
  · rw [changes.row, ← exit_def, exit_routine, entered_count, if_pos rfl, entered_row, slots.row]
    have inside : exit.place < world.blockCount symbol + 1 := exit_def ▸ Nat.lt_succ_self _
    simp only [inside, and_true]
    rfl

/-- **Setting up the return block** of a function that has none always succeeds, and gives the next
block of the routine. -/
theorem setUpReturn_run {world : World} {reference : FunctionRef} {symbol : SymbolRef}
    {entry : BlockRef} {result : IRType} (isThere : (world.function? reference).isSome)
    (stands : world.functionSymbol reference = symbol)
    (begins : (world.function reference).entry = some entry)
    (inside : entry.routine = symbol ∧ entry.place < world.blockCount symbol)
    (yields : (world.routine? symbol).map Routine.result = some result)
    (missing : (world.function reference).exit = none) :
    ∃ front content slot? final,
      setUpReturn reference world = .ok ⟨symbol, world.blockCount symbol⟩ final ∧
        SetsUpReturn reference symbol entry front content slot? world final ∧
          ReturnsBy symbol (world.function reference).slot result front content slot? := by
  obtain ⟨routine, found⟩ : ∃ routine, world.routine? symbol = some routine := by
    rcases found : world.routine? symbol with _ | routine
    · rw [found] at yields
      cases yields
    · exact ⟨routine, rfl⟩
  have known : (world.routine? symbol).isSome := by rw [found]; rfl
  have result_eq : (world.routine symbol).result = result := by
    rw [found] at yields
    rw [World.routine, found]
    exact Option.some.inj yields
  by_cases value : result = .void
  · subst value
    obtain ⟨front, content, final, run, sets, returns⟩ :=
      setUpReturn_of_void stands inside known result_eq missing isThere
    exact ⟨front, content, _, final, run, sets, returns⟩
  · exact setUpReturn_of_value stands begins inside known result_eq value missing

/-- A return block that is there is not set up again. -/
theorem setUpReturn_of_exit {world : World} {reference : FunctionRef} {exit : BlockRef}
    (known : (world.function reference).exit = some exit) :
    setUpReturn reference world = .ok exit world := by
  simp only [setUpReturn, Bind.bind, EStateM.bind, get, getThe, MonadStateOf.get, EStateM.get,
    known, pure, EStateM.pure]

end Function

/-! ## Changes of no instruction -/

/-- **No instruction differs** between two worlds, and neither does a function or a generator. Blocks
may have come up and may be in another order. -/
structure SameRows (before after : World) : Prop where
  /-- The generators are the same. -/
  generators : after.generators = before.generators
  /-- What is recorded of functions is the same. -/
  function? (reference : FunctionRef) : after.function? reference = before.function? reference
  /-- The instructions are the same. -/
  row (place : BlockRef) : after.row place = before.row place

instance : IsEffect SameRows where
  refl _ := ⟨rfl, fun _ => rfl, fun _ => rfl⟩
  trans first second :=
    { generators := second.generators.trans first.generators
      function? := fun reference => (second.function? reference).trans (first.function? reference)
      row := fun place => (second.row place).trans (first.row place) }

/-- Where no code differs, no instruction does. -/
theorem SameCode.sameRows {before after : World} (same : SameCode before after) :
    SameRows before after :=
  ⟨same.generators, same.function?, same.row⟩

/-- A changed routine keeps all instructions if it has those of the routine that was there. -/
theorem SameRows.changeRoutine (world : World) (symbol : SymbolRef) {update : Routine → Routine}
    (instructions : ∀ routine, world.routine? symbol = some routine → ∀ place : Nat,
      (((update routine).blocks[place]?).getD (default : Block)).instructions =
        ((routine.blocks[place]?).getD (default : Block)).instructions) :
    SameRows world (world.changeRoutine symbol update) where
  generators := rfl
  function? reference := world.function?_changeRoutine symbol update reference
  row place := by
    simp only [World.row, World.block, World.routine, World.routine?_changeRoutine]
    split
    next same =>
      rw [same]
      rcases known : world.routine? symbol with _ | routine
      · rfl
      · exact instructions routine known place.place
    next => rfl

/-- One more block without instructions keeps all instructions. -/
theorem SameRows.appendBlock (world : World) (symbol : SymbolRef) (base : Value) (key : Key)
    (text : String) : SameRows world (world.changeRoutine symbol (·.appendBlock base key text)) := by
  refine .changeRoutine world symbol fun routine _ place => ?_
  simp only [Routine.appendBlock, List.getElem?_append]
  split
  · rfl
  next beyond =>
    rw [List.getElem?_eq_none (Nat.le_of_not_lt beyond)]
    rcases place - routine.blocks.length with _ | further <;> rfl

namespace Function

variable (reference : FunctionRef)

/-- Adding a block keeps all instructions. -/
theorem sameRows_appendNamed (base : String) : Leads SameRows (appendNamed reference base) :=
  fun world => .appendBlock world (world.functionSymbol reference) _ _ _

/-- Adding a block keeps all instructions, however it is named. -/
theorem sameRows_appendBlock (base : Value) : Leads SameRows (appendBlock reference base) := by
  have appended (world : World) (name : Name) (text : String) :
      Leads SameRows (Build.appendBlock (world.functionSymbol reference) name text) := by
    intro start
    exact .appendBlock start _ _ _ _
  have named : Leads SameCode (Build.nameOf base) := Build.leads_nameOf base
  have written : Leads SameCode (Build.plain base) := Build.leads_plain base
  refine (named.weaken fun _ _ => SameCode.sameRows).bind fun name => ?_
  refine Leads.get.bind fun seen => Leads.get.bind fun now => ?_
  dsimp only
  split
  · exact (written.weaken fun _ _ => SameCode.sameRows).bind fun text => appended seen name text
  · exact appended seen name ""

/-- Moving a block keeps all instructions. -/
theorem sameRows_moveAfter (moved anchor : Value) :
    Leads SameRows (moveAfter reference moved anchor) := by
  have compared : Leads SameCode (isSame moved anchor) := leads_isSame moved anchor
  have quoted : Leads SameCode (Build.quoted anchor) := Build.leads_quoted anchor
  refine (compared.weaken fun _ _ => SameCode.sameRows).bind fun same => ?_
  split
  · exact Leads.pure _
  refine Leads.get.bind fun seen => ?_
  dsimp only
  intro world
  rw [Build.after_get_bind]
  split
  · exact IsEffect.refl world
  next place inside =>
    -- The routine without the block has the instructions that the routine has.
    have without : SameRows world (world.changeRoutine (seen.functionSymbol reference) fun _ =>
        { world.routine (seen.functionSymbol reference) with
          order := (world.routine (seen.functionSymbol reference)).order.erase place }) :=
      .changeRoutine world _ fun routine known _ => by rw [World.routine, known]; rfl
    rw [Build.after_modify_bind]
    refine IsEffect.trans without ?_
    split
    · exact SameRows.changeRoutine _ _ fun _ _ _ => rfl
    · exact ((quoted.weaken fun _ _ => SameCode.sameRows).bind fun _ => Leads.throw _) _

end Function

end StructuredIR
