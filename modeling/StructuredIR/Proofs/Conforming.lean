import StructuredIR.Proofs.Constants
import StructuredIR.Proofs.Operations

/-! # Types of coerced values

A coercion to a wanted type does not always give an operand of that type: what has a type keeps it, a
truth value is a single bit, and a row keeps its length. All other values take the wanted type or are
refused.

* **`World.conforms`** says whether a value takes a type that is wanted.
* **`Coercion.type_coerce_iff`**: what a value is coerced to is of the wanted type exactly if the
  value conforms to it.
* **`Coercion.coerce_anywhere`**: of the world, only what libraries have reported tells whether a value
  is refused; **`SameReports`** says that this is the same. -/

namespace StructuredIR

open Build (Leads bind_eq_ok get_eq_ok pure_eq_ok lift_eq_ok throw_ne_ok)

/-- Whether a type is the one of the arrays of a length. -/
def IRType.isArrayOf (size : Nat) : IRType → Bool
  | .array other _ => other == size
  | _ => false

/-- **Whether a value takes a type that is wanted.** What has a type keeps it, a truth value is a single
bit, and a row is as long as it is. All else takes the type, or is refused. -/
def World.conforms (world : World) (type : IRType) : Value → Bool
  | .operand known => known.type = type
  | .function reference => (world.routineOperand (world.functionSymbol reference)).type = type
  | .truth _ => type = .int 1
  | .list items | .tuple items => type.isArrayOf items.length
  | .resolution .. => type.isArrayOf 2
  | .liveRow row => type.isArrayOf (world.rowItems row).length
  | _ => true

/-- Whether a value is coerced as a row. -/
def Value.isRow : Value → Bool
  | .list _ | .tuple _ | .resolution .. | .liveRow _ => true
  | _ => false

/-! ## Worlds with the same reports -/

/-- **All libraries have reported the same** in two worlds. -/
def SameReports (before after : World) : Prop :=
  ∀ place, (after.library place).report = (before.library place).report

instance : IsEffect SameReports where
  refl _ _ := rfl
  trans first second place := (second place).trans (first place)

/-- A library may change that keeps its report. -/
theorem SameReports.changeLibrary (world : World) (place : LibraryId) (update : Library → Library)
    (report : ∀ library, (update library).report = library.report) :
    SameReports world (world.changeLibrary place update) := by
  intro other
  rw [World.library_changeLibrary]
  split
  next same => exact same.1 ▸ report _
  next => rfl

instance : AllowsTexts SameReports where
  held _ _ _ _ := rfl
  block world place _ := .changeLibrary world place.routine.owner _ fun _ => rfl
  global world symbol _ := .changeLibrary world symbol.owner _ fun _ => rfl

instance {place : LibraryId} : AllowsRoutinesIn place SameReports where
  changeRoutine world symbol _ _ _ _ := .changeLibrary world symbol.owner _ fun _ => rfl

/-- Generators report nothing. -/
instance : AllowsCode SameReports where
  aside libraries _ place := by rw [World.library, libraries, ← World.library]
  code place :=
    { intern := fun owner _ _ world => .changeLibrary world owner _ fun _ => rfl
      routine := fun name _ _ _ => by
        refine Leads.get.bind fun world => Leads.get.bind fun again => ?_
        refine (Leads.lift _).bind fun module => ?_
        exact (Leads.modify fun world => .changeLibrary world place _ fun _ => rfl).bind
          fun _ => Leads.pure _
      changeRoutine := AllowsRoutinesIn.changeRoutine
      emitFirst := fun world _ entry base operation _ _ =>
        Build.leads_emitFirst entry base operation world
      changeFunction := fun world reference _ _ _ _ =>
        .changeLibrary world reference.owner _ fun _ => rfl }

instance (pool : Option LibraryId) : AllowsPool pool SameReports where
  intern place text _ := Build.leads_internString place text

namespace Coercion

variable {pool : Option LibraryId} {operand : Operand} {world after : World}

/-- As many operands are made as there are values. -/
theorem length_coerceAll {values : List Value} {wanted : IRType} {operands : List Operand}
    (run : coerceAll pool values wanted world = .ok operands after) :
    operands.length = values.length := by
  induction values generalizing operands world after with
  | nil =>
      unfold coerceAll at run
      obtain ⟨rfl, -⟩ := pure_eq_ok.mp run
      rfl
  | cons value values ih =>
      unfold coerceAll at run
      obtain ⟨first, between, -, run⟩ := bind_eq_ok.mp run
      obtain ⟨rest, _, others, run⟩ := bind_eq_ok.mp run
      obtain ⟨rfl, -⟩ := pure_eq_ok.mp run
      exact congrArg (· + 1) (ih others)

/-- As many operands are made of the items of a row that changes as it has. -/
theorem length_coerceSingles {values : List Value} {wanted : IRType} {operands : List Operand}
    (run : coerceSingles pool values wanted world = .ok operands after) :
    operands.length = values.length := by
  induction values generalizing operands world after with
  | nil =>
      rw [coerceSingles, List.mapM_nil] at run
      obtain ⟨rfl, -⟩ := pure_eq_ok.mp run
      rfl
  | cons value values ih =>
      rw [coerceSingles, List.mapM_cons] at run
      obtain ⟨first, between, -, run⟩ := bind_eq_ok.mp run
      obtain ⟨rest, _, others, run⟩ := bind_eq_ok.mp run
      obtain ⟨rfl, -⟩ := pure_eq_ok.mp run
      exact congrArg (· + 1) (ih others)

/-- An array of some elements is of a wanted array type exactly if it is as long. -/
theorem type_arrayOf_iff {type element : IRType} {elements : List Operand} {size : Nat}
    (wanted : ∃ length, type = .array length element) (lengths : elements.length = size) :
    (arrayOf element elements).type = type ↔ type.isArrayOf size = true := by
  obtain ⟨length, rfl⟩ := wanted
  have own : (arrayOf element elements).type = .array elements.length element := rfl
  rw [own, lengths, IRType.array.injEq, and_iff_left rfl, IRType.isArrayOf, beq_iff_eq]
  exact eq_comm

/-- What a value that is no row is coerced to is of the wanted type exactly if the value conforms to
it. -/
theorem type_coerceSingle_iff {value : Value} {type : IRType}
    (run : coerceSingle pool value (some type) world = .ok operand after) :
    operand.type = type ↔ world.conforms type value = true := by
  cases value with
  | operand known =>
      obtain ⟨rfl, -⟩ := pure_eq_ok.mp run
      exact decide_eq_true_iff.symm
  | function reference =>
      obtain ⟨_, _, looked, run⟩ := bind_eq_ok.mp run
      obtain ⟨rfl, rfl⟩ := get_eq_ok.mp looked
      obtain ⟨rfl, -⟩ := pure_eq_ok.mp run
      exact decide_eq_true_iff.symm
  | truth value =>
      obtain rfl := ofTruth_eq_ok (lift_eq_ok.mp run).1
      exact eq_comm.trans decide_eq_true_iff.symm
  | integer value => exact iff_of_true ((matches_ofInteger (lift_eq_ok.mp run).1).2 type rfl) rfl
  | real value => exact iff_of_true ((matches_ofReal (lift_eq_ok.mp run).1).2 type rfl) rfl
  | none => exact iff_of_true ((matches_ofNone (lift_eq_ok.mp run).1).2 type rfl) rfl
  | text content | visibility known | policy known =>
      exact iff_of_true ((matches_ofPhrase run).2 type rfl) rfl
  | _ => exact (throw_ne_ok run).elim

/-- **What a value is coerced to is of the wanted type exactly if the value conforms to it.** -/
theorem type_coerce_iff {value : Value} {type : IRType}
    (run : coerce pool value (some type) world = .ok operand after) :
    operand.type = type ↔ world.conforms type value = true := by
  cases value with
  | list items | tuple items =>
      unfold coerce at run
      obtain ⟨element, _, elements, _, chosen, all, rfl⟩ := row_ok run
      exact type_arrayOf_iff (wantedElement_ok chosen type rfl) (length_coerceAll all)
  | resolution kind target =>
      unfold coerce at run
      obtain ⟨element, _, chosen, run⟩ := bind_eq_ok.mp run
      obtain ⟨first, _, -, run⟩ := bind_eq_ok.mp run
      obtain ⟨second, _, -, run⟩ := bind_eq_ok.mp run
      obtain ⟨rfl, -⟩ := pure_eq_ok.mp run
      exact type_arrayOf_iff (wantedElement_ok chosen type rfl) rfl
  | liveRow row =>
      unfold coerce at run
      obtain ⟨_, _, looked, run⟩ := bind_eq_ok.mp run
      obtain ⟨rfl, rfl⟩ := get_eq_ok.mp looked
      obtain ⟨element, _, chosen, run⟩ := bind_eq_ok.mp run
      obtain ⟨elements, _, all, run⟩ := bind_eq_ok.mp run
      obtain ⟨rfl, -⟩ := pure_eq_ok.mp run
      exact type_arrayOf_iff (wantedElement_ok chosen type rfl) (length_coerceSingles all)
  | _ =>
      unfold coerce at run
      exact type_coerceSingle_iff run

section

variable {value : Value} {wanted : Option IRType} {type : IRType}

/-- A value that is no row is coerced as a single one. -/
theorem coerce_of_not_isRow (single : value.isRow = false) (pool : Option LibraryId)
    (wanted : Option IRType) : coerce pool value wanted = coerceSingle pool value wanted := by
  unfold coerce
  cases value <;> first | rfl | cases single

/-- A row is coerced only to an array. -/
theorem isArray_of_isRow (row : value.isRow = true)
    (run : coerce pool value (some type) world = .ok operand after) :
    ∃ size element, type = .array size element := by
  unfold coerce at run
  cases value with
  | list items | tuple items =>
      obtain ⟨element, between, elements, _, chosen, -⟩ := row_ok run
      obtain ⟨size, same⟩ := wantedElement_ok chosen type rfl
      exact ⟨size, element, same⟩
  | resolution kind target =>
      obtain ⟨element, between, chosen, -⟩ := bind_eq_ok.mp run
      obtain ⟨size, same⟩ := wantedElement_ok chosen type rfl
      exact ⟨size, element, same⟩
  | liveRow row =>
      obtain ⟨_, _, -, run⟩ := bind_eq_ok.mp run
      obtain ⟨element, between, chosen, -⟩ := bind_eq_ok.mp run
      obtain ⟨size, same⟩ := wantedElement_ok chosen type rfl
      exact ⟨size, element, same⟩
  | _ => cases row

/-- What is coerced to an integer is no row. -/
theorem not_isRow_of_int {width : Nat}
    (run : coerce pool value (some (.int width)) world = .ok operand after) :
    value.isRow = false := by
  rw [← Bool.not_eq_true]
  intro row
  obtain ⟨size, element, same⟩ := isArray_of_isRow row run
  cases same

/-- A text is coerced only to a pointer, and only where there are strings. -/
theorem ofPhrase_ok {phrase : Phrase}
    (run : ofPhrase pool phrase wanted world = .ok operand after) :
    wanted.all IRType.isPointer = true ∧ ∃ place, pool = some place := by
  unfold ofPhrase at run
  split at run
  next pointer =>
    cases pool with
    | none => exact (throw_ne_ok run).elim
    | some place => exact ⟨pointer, place, rfl⟩
  next =>
    obtain ⟨_, _, thrown, _⟩ := bind_eq_ok.mp run
    exact (throw_ne_ok thrown).elim

/-- A text that is coerced in one world is coerced in every world. -/
theorem ofPhrase_anywhere {phrase : Phrase}
    (run : ofPhrase pool phrase wanted world = .ok operand after) (other : World) :
    ∃ made final, ofPhrase pool phrase wanted other = .ok made final := by
  obtain ⟨pointer, place, rfl⟩ := ofPhrase_ok run
  unfold ofPhrase
  rw [if_pos pointer]
  exact ⟨_, _, rfl⟩

/-- What is coerced to an integer needs nothing of the world, and leaves it as it is. -/
theorem after_coerce_int {width : Nat}
    (run : coerce pool value (some (.int width)) world = .ok operand after) : after = world := by
  rw [coerce_of_not_isRow (not_isRow_of_int run)] at run
  cases value with
  | operand known => exact (pure_eq_ok.mp run).2.symm
  | function reference =>
      obtain ⟨_, _, looked, run⟩ := bind_eq_ok.mp run
      obtain ⟨rfl, rfl⟩ := get_eq_ok.mp looked
      exact (pure_eq_ok.mp run).2.symm
  | truth value | integer value | real value | none => exact (lift_eq_ok.mp run).2.symm
  | text content | visibility known | policy known =>
      have run : ofPhrase pool _ (some (.int width)) world = .ok operand after := run
      cases (ofPhrase_ok run).1
  | _ => exact (throw_ne_ok run).elim

/-- A single value that is coerced in one world is coerced in every world. -/
theorem coerceSingle_anywhere (run : coerceSingle pool value wanted world = .ok operand after)
    (other : World) : ∃ made final, coerceSingle pool value wanted other = .ok made final := by
  cases value with
  | operand known => exact ⟨_, _, rfl⟩
  | function reference => exact ⟨_, _, rfl⟩
  | truth value | integer value | real value | none =>
      exact ⟨operand, other, lift_eq_ok.mpr ⟨(lift_eq_ok.mp run).1, rfl⟩⟩
  | text content | visibility known | policy known => exact ofPhrase_anywhere run other
  | _ => exact (throw_ne_ok run).elim

/-- Single values that are coerced in one world are coerced in every world. -/
theorem coerceSingles_anywhere {values : List Value} {element : IRType} {operands : List Operand}
    (run : coerceSingles pool values element world = .ok operands after) (other : World) :
    ∃ made final, coerceSingles pool values element other = .ok made final := by
  unfold coerceSingles at run ⊢
  induction values generalizing world after operands other with
  | nil => exact ⟨[], other, rfl⟩
  | cons value values ih =>
      rw [List.mapM_cons] at run ⊢
      obtain ⟨first, between, head, run⟩ := bind_eq_ok.mp run
      obtain ⟨rest, _, tail, -⟩ := bind_eq_ok.mp run
      obtain ⟨made, middle, headOther⟩ := coerceSingle_anywhere head other
      obtain ⟨mades, final, tailOther⟩ := ih tail middle
      exact ⟨_, _, bind_eq_ok.mpr ⟨made, middle, headOther,
        bind_eq_ok.mpr ⟨mades, final, tailOther, rfl⟩⟩⟩

/-- Operands are coerced in every world. -/
theorem coerceSingles_operands (operands : List Operand) (element : IRType) (world : World) :
    coerceSingles pool (operands.map .operand) element world = .ok operands world := by
  unfold coerceSingles
  induction operands with
  | nil => rfl
  | cons operand operands ih =>
      rw [List.map_cons, List.mapM_cons]
      exact bind_eq_ok.mpr ⟨operand, world, rfl, bind_eq_ok.mpr ⟨operands, world, ih, rfl⟩⟩

/-- The items of a row that changes are coerced in every world with the same reports if they are in
one. -/
theorem coerceSingles_rowItems {row : LiveRow} {element : IRType} {operands : List Operand}
    {start other : World} (same : SameReports start other)
    (run : coerceSingles pool (start.rowItems row) element world = .ok operands after) :
    ∃ made final, coerceSingles pool (other.rowItems row) element other = .ok made final := by
  cases row with
  | blocks routine =>
      have items : other.rowItems (.blocks routine) =
          ((other.blocks routine).map Operand.block).map Value.operand := (List.map_map ..).symm
      rw [items]
      exact ⟨_, other, coerceSingles_operands ..⟩
  | instructions block =>
      have items : other.rowItems (.instructions block) =
          ((other.block block).instructions.map
            fun instruction => instruction.result block.routine).map Value.operand :=
        (List.map_map ..).symm
      rw [items]
      exact ⟨_, other, coerceSingles_operands ..⟩
  | diagnostics place =>
      rw [World.rowItems, ← same place] at run
      exact coerceSingles_anywhere run other

mutual

/-- **A value that is coerced in one world is coerced in every world with the same reports.** -/
theorem coerce_anywhere {value : Value} {type : IRType} {operand : Operand} {world after other : World}
    (same : SameReports world other)
    (run : coerce pool value (some type) world = .ok operand after) :
    ∃ made final, coerce pool value (some type) other = .ok made final := by
  cases value with
  | list items | tuple items =>
      obtain ⟨size, element, rfl⟩ := isArray_of_isRow rfl run
      unfold coerce at run ⊢
      obtain ⟨chosen, _, elements, _, choosing, all, -⟩ := row_ok run
      obtain ⟨rfl, rfl⟩ := pure_eq_ok.mp choosing
      obtain ⟨made, final, allOther⟩ := coerceAll_anywhere same all
      exact ⟨_, _, bind_eq_ok.mpr ⟨element, other, rfl, bind_eq_ok.mpr ⟨made, final, allOther, rfl⟩⟩⟩
  | resolution kind target =>
      unfold coerce at run
      obtain ⟨element, between, -, run⟩ := bind_eq_ok.mp run
      obtain ⟨_, _, thrown, -⟩ := bind_eq_ok.mp run
      exact (throw_ne_ok thrown).elim
  | liveRow row =>
      obtain ⟨size, element, rfl⟩ := isArray_of_isRow rfl run
      unfold coerce at run ⊢
      obtain ⟨_, _, looked, run⟩ := bind_eq_ok.mp run
      obtain ⟨rfl, rfl⟩ := get_eq_ok.mp looked
      obtain ⟨chosen, _, choosing, run⟩ := bind_eq_ok.mp run
      obtain ⟨rfl, rfl⟩ := pure_eq_ok.mp choosing
      obtain ⟨elements, _, all, -⟩ := bind_eq_ok.mp run
      obtain ⟨made, final, allOther⟩ := coerceSingles_rowItems same all
      exact ⟨_, _, bind_eq_ok.mpr ⟨other, other, rfl, bind_eq_ok.mpr ⟨element, other, rfl,
        bind_eq_ok.mpr ⟨made, final, allOther, rfl⟩⟩⟩⟩
  | _ =>
      rw [coerce_of_not_isRow rfl] at run ⊢
      exact coerceSingle_anywhere run other

/-- Values that are coerced in one world are coerced in every world with the same reports. -/
theorem coerceAll_anywhere {values : List Value} {element : IRType} {operands : List Operand}
    {world after other : World} (same : SameReports world other)
    (run : coerceAll pool values element world = .ok operands after) :
    ∃ made final, coerceAll pool values element other = .ok made final := by
  cases values with
  | nil => exact ⟨[], other, by unfold coerceAll; rfl⟩
  | cons value values =>
      unfold coerceAll at run ⊢
      obtain ⟨first, between, head, run⟩ := bind_eq_ok.mp run
      obtain ⟨rest, _, tail, -⟩ := bind_eq_ok.mp run
      obtain ⟨made, middle, headOther⟩ := coerce_anywhere same head
      -- The rest is coerced behind texts that the first one has pooled, but pooling reports nothing.
      have sofar : SameReports world between := (leads_coerce pool value _).of_ok head
      have sofarOther : SameReports other middle := (leads_coerce pool value _).of_ok headOther
      obtain ⟨mades, final, tailOther⟩ := coerceAll_anywhere
        (fun place => by rw [sofarOther, sofar, same]) tail
      exact ⟨_, _, bind_eq_ok.mpr ⟨made, middle, headOther,
        bind_eq_ok.mpr ⟨mades, final, tailOther, rfl⟩⟩⟩

end

end

end Coercion

namespace Generator

variable {place : GeneratorId} {operand : Operand} {world after : World}

/-- What a generator coerces a value to is of the wanted type exactly if the value conforms to it. -/
theorem type_coerce_iff {value : Value} {type : IRType}
    (run : coerce place value (some type) world = .ok operand after) :
    operand.type = type ↔ world.conforms type value = true :=
  Coercion.type_coerce_iff (coerce_ok run)

end Generator

end StructuredIR
