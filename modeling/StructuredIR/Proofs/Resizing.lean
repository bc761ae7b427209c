import StructuredIR.Proofs.Calculations

/-! # Casts within a kind

A cast brings a value to a type of its kind: integers are cut or extended by their widths,
floating-point numbers by their precisions, and pointers are read anew. Within each kind two types of
the same size are the same type, so what is neither equal nor narrower is wider.

* **`IRType.SameKind`** says that two types are both integers, both floating-point numbers or both
  pointers, and **`CastOperation.Resizes`** which conversion leads from one type to another.
* **`Generator.castBetween?_eq_some_iff`** and **`Generator.castBetween?_eq_none_iff`**: between
  different types the conversion that is chosen is the one that leads there, and none is chosen exactly
  across kinds.
* **`Generator.cast_decides`** is what a cast does with each value and type. -/

namespace StructuredIR

open Build (bind_eq_ok bind_eq_error)

/-! ## Kinds and sizes of types -/

/-- Two types are both integer types, both floating-point types or both pointer types. -/
def IRType.SameKind (source target : IRType) : Prop :=
  source.isInt = true ∧ target.isInt = true ∨ source.isFloat = true ∧ target.isFloat = true ∨
    source.isPointer = true ∧ target.isPointer = true

/-- **A conversion leads from one type to another** of its kind: a strictly narrower one, a strictly
wider one or, between pointers, any other one. -/
inductive CastOperation.Resizes : CastOperation → IRType → IRType → Prop where
  /-- To an integer of fewer bits. -/
  | trunc {source target : Nat} : target < source → Resizes .trunc (.int source) (.int target)
  /-- To an integer of more bits. -/
  | sext {source target : Nat} : source < target → Resizes .sext (.int source) (.int target)
  /-- To a less precise floating-point number. -/
  | fptrunc {source target : IRType} {finer coarser : Nat} :
      source.floatRank? = some finer → target.floatRank? = some coarser → coarser < finer →
        Resizes .fptrunc source target
  /-- To a more precise floating-point number. -/
  | fpext {source target : IRType} {coarser finer : Nat} :
      source.floatRank? = some coarser → target.floatRank? = some finer → coarser < finer →
        Resizes .fpext source target
  /-- To another pointer. -/
  | bitcast {source target : IRType} :
      source ≠ target → Resizes .bitcast (.pointer source) (.pointer target)

namespace IRType

/-- Floating-point types of the same precision are the same. -/
theorem eq_of_floatRank?_eq {left right : IRType} {rank : Nat}
    (known : left.floatRank? = some rank) (known' : right.floatRank? = some rank) :
    left = right := by
  cases left <;> cases known <;> cases right <;> cases known' <;> rfl

end IRType

namespace Generator

/-! ## Choosing a conversion -/

/-- Between floating-point types the precisions choose. -/
theorem castBetween?_of_floatRank? {source target : IRType} {rank rank' : Nat}
    (known : source.floatRank? = some rank) (known' : target.floatRank? = some rank') :
    castBetween? source target = some (if rank' < rank then .fptrunc else .fpext) := by
  cases source <;> cases known <;> cases target <;> cases known' <;> rfl

/-- What is chosen between different types leads from the one to the other. -/
theorem resizes_of_castBetween? {source target : IRType} (differ : source ≠ target)
    {operation : CastOperation} (chosen : castBetween? source target = some operation) :
    operation.Resizes source target := by
  unfold castBetween? at chosen
  split at chosen
  next sourceWidth targetWidth =>
    have widths : sourceWidth ≠ targetWidth := fun same => differ (congrArg IRType.int same)
    obtain rfl := Option.some.inj chosen
    split
    next narrower => exact .trunc narrower
    next wider => exact .sext (by omega)
  next source target =>
    obtain rfl := Option.some.inj chosen
    exact .bitcast fun same => differ (congrArg IRType.pointer same)
  next =>
    split at chosen
    next sourceRank targetRank known known' =>
      -- Types of one precision are the same, so what is not narrower is strictly wider.
      have ranks : sourceRank ≠ targetRank := fun same =>
        differ (IRType.eq_of_floatRank?_eq known (same ▸ known'))
      obtain rfl := Option.some.inj chosen
      split
      next narrower => exact .fptrunc known known' narrower
      next wider => exact .fpext known known' (by omega)
    next => cases chosen

/-- What leads from one type to another is chosen. -/
theorem castBetween?_of_resizes {source target : IRType} {operation : CastOperation}
    (resizes : operation.Resizes source target) : castBetween? source target = some operation := by
  cases resizes with
  | trunc narrower => exact congrArg some (if_pos narrower)
  | sext wider => exact congrArg some (if_neg (Nat.lt_asymm wider))
  | fptrunc known known' narrower =>
      rw [castBetween?_of_floatRank? known known', if_pos narrower]
  | fpext known known' wider =>
      rw [castBetween?_of_floatRank? known known', if_neg (Nat.lt_asymm wider)]
  | bitcast => rfl

/-- **Between different types a conversion is chosen exactly if it leads there.** -/
theorem castBetween?_eq_some_iff {source target : IRType} (differ : source ≠ target)
    {operation : CastOperation} :
    castBetween? source target = some operation ↔ operation.Resizes source target :=
  ⟨resizes_of_castBetween? differ, castBetween?_of_resizes⟩

/-- **No conversion is chosen exactly across kinds.** -/
theorem castBetween?_eq_none_iff (source target : IRType) :
    castBetween? source target = none ↔ ¬ source.SameKind target := by
  constructor
  · rintro missing (⟨int, int'⟩ | ⟨float, float'⟩ | ⟨pointer, pointer'⟩)
    · cases source <;> cases int
      cases target <;> cases int'
      cases missing
    · obtain ⟨rank, known⟩ := Option.isSome_iff_exists.mp float
      obtain ⟨rank', known'⟩ := Option.isSome_iff_exists.mp float'
      rw [castBetween?_of_floatRank? known known'] at missing
      cases missing
    · cases source <;> cases pointer
      cases target <;> cases pointer'
      cases missing
  · intro apart
    unfold castBetween?
    split
    · exact absurd (.inl ⟨rfl, rfl⟩) apart
    · exact absurd (.inr (.inr ⟨rfl, rfl⟩)) apart
    · split
      next known known' =>
        exact absurd (.inr (.inl ⟨Option.isSome_iff_exists.mpr ⟨_, known⟩,
          Option.isSome_iff_exists.mpr ⟨_, known'⟩⟩)) apart
      next => rfl

/-- Between different types of one kind there is exactly one conversion. -/
theorem existsUnique_resizes {source target : IRType} (differ : source ≠ target)
    (kind : source.SameKind target) :
    ∃! operation : CastOperation, operation.Resizes source target := by
  cases chosen : castBetween? source target with
  | none => exact absurd kind ((castBetween?_eq_none_iff source target).mp chosen)
  | some operation =>
      refine ⟨operation, (castBetween?_eq_some_iff differ).mp chosen, fun other resizes => ?_⟩
      rw [(castBetween?_eq_some_iff differ).mpr resizes] at chosen
      exact Option.some.inj chosen

end Generator

/-- A conversion leads to another type. -/
theorem CastOperation.Resizes.ne {operation : CastOperation} {source target : IRType}
    (resizes : operation.Resizes source target) : source ≠ target := by
  rintro rfl
  cases resizes with
  | trunc narrower | sext narrower => exact Nat.lt_irrefl _ narrower
  | fptrunc known known' narrower | fpext known known' narrower =>
      cases known.symm.trans known'
      exact Nat.lt_irrefl _ narrower
  | bitcast differ => exact differ rfl

namespace Generator

variable {place : GeneratorId} {world between : World} {value type : Value} {source : Operand}
  {target : IRType}

/-! ## Casting -/

/-- A cast of a generator that is not finished resizes what its value is coerced to. -/
theorem cast_eq_castOperand (unfinished : (world.generator place).isFinished = false)
    (coerced : coerce place value none world = .ok source between)
    (wanted : type.asType "cast" = .ok target) :
    cast place value type world =
      (do return .operand (← castOperand place source target) : Build Value) between := by
  rw [cast, operandUnlessFinished, unlessFinished_of_not_isFinished unfinished]
  simp only [bind, EStateM.bind, coerced, wanted]
  rfl

/-- An operand of the wanted type is given as it is. -/
theorem castOperand_of_eq (same : source.type = target) (world : World) :
    castOperand place source target world = .ok source world := by
  rw [castOperand, if_pos same]
  rfl

/-- An operand of another kind is refused. -/
theorem castOperand_of_not_sameKind (differ : source.type ≠ target)
    (apart : ¬ source.type.SameKind target) (world : World) :
    castOperand place source target world =
      .error (.rejected (.castKinds source.type.text target.text)) world := by
  rw [castOperand, if_neg differ, (castBetween?_eq_none_iff _ _).mpr apart]
  rfl

/-- An operand of another type of its kind is converted. -/
theorem castOperand_of_resizes {operation : CastOperation}
    (resizes : operation.Resizes source.type target) :
    castOperand place source target = emit place (.cast operation source target) := by
  have differ : source.type ≠ target := resizes.ne
  rw [castOperand, if_neg differ, castBetween?_of_resizes resizes]
  simp only [convert, convertAt, if_neg differ]
  rfl

/-- A generator that is at no block adds nothing. -/
theorem emit_of_no_block (nowhere : (world.generator place).block.block? = none)
    (operation : Operation) : emit place operation world = .error .missingAttribute world := by
  simp only [emit, position, bind, EStateM.bind, get, getThe, MonadStateOf.get, EStateM.get, nowhere,
    Build.present]
  rfl

/-- A conversion is added where a generator is, and has the type that it leads to. -/
theorem emit_cast (here : BlockRef) (positioned : (world.generator place).block = .operand (.block here))
    (operation : CastOperation) (source : Operand) (target : IRType) :
    ∃ (made : Instruction) (after : World), emit place (.cast operation source target) world =
        .ok (made.result here.routine) after ∧
      made.operation = .cast operation source target ∧ made.type = target ∧
        ChangesRow here (· ++ [made]) world after := by
  have checked : (Operation.cast operation source target).check = .ok target := rfl
  obtain ⟨value, after, run⟩ := Build.emit_succeeds here world checked fun ends => by cases ends
  obtain ⟨made, does, checked, rfl, -, changes⟩ := Build.emit_ok run
  cases checked
  exact ⟨made, after, (emit_of_block positioned _).trans run, does, rfl, changes⟩

/-- **A cast reaches its type or is refused.** A generator that is not finished casts what a value is
coerced to. An operand of the type is given as it is. To another type of its kind exactly one conversion
leads, and where the generator is, this conversion is added, which has the type, and nothing else; a
generator that is at no block cannot add it. Across kinds the cast is refused. Whatever is not
converted leaves the code as it is. -/
theorem cast_decides (unfinished : (world.generator place).isFinished = false)
    (coerced : coerce place value none world = .ok source between)
    (wanted : type.asType "cast" = .ok target) :
    SameCode world between ∧
    (source.type = target → cast place value type world = .ok (.operand source) between) ∧
    (source.type ≠ target → source.type.SameKind target →
      ∃ operation : CastOperation, operation.Resizes source.type target ∧
        (∀ other : CastOperation, other.Resizes source.type target → other = operation) ∧
        (∀ here, (world.generator place).block = .operand (.block here) →
          ∃ (made : Instruction) (after : World), cast place value type world =
              .ok (.operand (made.result here.routine)) after ∧
            made.operation = .cast operation source target ∧ made.type = target ∧
              ChangesRow here (· ++ [made]) world after) ∧
        ((world.generator place).block.block? = none →
          cast place value type world = .error .missingAttribute between)) ∧
    (source.type ≠ target → ¬ source.type.SameKind target →
      cast place value type world =
        .error (.rejected (.castKinds source.type.text target.text)) between) := by
  have casting := cast_eq_castOperand unfinished coerced wanted
  have same : SameCode world between := (leads_coerce place value none).of_ok coerced
  refine ⟨same, fun equal => ?_, fun differ kind => ?_, fun differ apart => ?_⟩
  · rw [casting]
    exact bind_eq_ok.mpr ⟨source, between, castOperand_of_eq equal between, rfl⟩
  · obtain ⟨operation, resizes, unique⟩ := existsUnique_resizes differ kind
    rw [casting, castOperand_of_resizes resizes]
    refine ⟨operation, resizes, unique, fun here positioned => ?_, fun nowhere => ?_⟩
    · rw [← same.generator place] at positioned
      obtain ⟨made, after, run, does, typed, changes⟩ :=
        emit_cast here positioned operation source target
      exact ⟨made, after, bind_eq_ok.mpr ⟨_, after, run, rfl⟩, does, typed, changes.behind same⟩
    · rw [← same.generator place] at nowhere
      exact bind_eq_error.mpr (.inl (emit_of_no_block nowhere _))
  · rw [casting]
    exact bind_eq_error.mpr (.inl (castOperand_of_not_sameKind differ apart between))

/-- A five is cast to an integer of 64 bits by an extension. -/
theorem cast_decides_five :
    (FunctionBody.oneFunction.generator 0).isFinished = false ∧
      coerce 0 (.integer 5) none FunctionBody.oneFunction =
        .ok (.integer (.int 32) 5) FunctionBody.oneFunction ∧
      (Value.type (.int 64)).asType "cast" = .ok (.int 64) ∧
      ∃ (made : Instruction) (after : World),
        cast 0 (.integer 5) (.type (.int 64)) FunctionBody.oneFunction =
          .ok (.operand (made.result FunctionBody.onlyBody.entry.routine)) after ∧
        made.operation = .cast .sext (.integer (.int 32) 5) (.int 64) ∧ made.type = .int 64 := by
  have unfinished : (FunctionBody.oneFunction.generator 0).isFinished = false := rfl
  have coerced : coerce 0 (.integer 5) none FunctionBody.oneFunction =
      .ok (.integer (.int 32) 5) FunctionBody.oneFunction := rfl
  have wanted : (Value.type (.int 64)).asType "cast" = .ok (.int 64) := rfl
  have widens : CastOperation.sext.Resizes (.int 32) (.int 64) := .sext (by decide)
  obtain ⟨-, -, converts, -⟩ := cast_decides unfinished coerced wanted
  obtain ⟨operation, -, unique, adds, -⟩ := converts (by decide) (.inl ⟨rfl, rfl⟩)
  obtain ⟨made, after, run, does, typed, -⟩ := adds _ rfl
  exact ⟨unfinished, coerced, wanted, made, after, run, unique _ widens ▸ does, typed⟩

end Generator

end StructuredIR
