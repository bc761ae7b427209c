import StructuredIR.Proofs.Emission
import StructuredIR.Script.Operations

/-! # Citations

Instructions and globals cite the routines whose addresses they use. Functions come in at two doors:
as what is called, and as values that are coerced to operands.

* **`Operand.Cites`** says that an operand is the address of a routine, or contains it;
  **`Value.Cites`** says it of the functions and operands that a value consists of.
* **`Operation.uses`** are the operands of an operation, apart from where it continues.
* **`Coercion.coerce_cites`**: a value that becomes an operand hands on what it cites, nothing more
  and nothing less. -/

namespace StructuredIR

open Build (bind_eq_ok get_eq_ok pure_eq_ok lift_eq_ok throw_ne_ok map_eq_ok)

/-! ## Operands -/

/-- **An operand cites a routine** if it is the routine's address, or a constant that contains it. -/
inductive Operand.Cites (symbol : SymbolRef) : Operand → Prop
  /-- The address of the routine. -/
  | routine (signature : IRType) : Cites symbol (.routine symbol signature)
  /-- A constant one of whose elements cites the routine. -/
  | aggregate {type : IRType} {elements : List Operand} {element : Operand} :
      element ∈ elements → Cites symbol element → Cites symbol (.aggregate type elements)
  /-- A vector each of whose elements cites the routine. -/
  | repeated {size : Nat} {type : IRType} {item : Operand} :
      Cites symbol item → Cites symbol (.repeated size type item)

namespace Operand

variable {symbol : SymbolRef}

@[simp] theorem cites_routine {other : SymbolRef} {signature : IRType} :
    (routine other signature).Cites symbol ↔ other = symbol := by
  constructor
  · intro cites
    cases cites
    rfl
  · rintro rfl
    exact .routine signature

@[simp] theorem cites_aggregate {type : IRType} {elements : List Operand} :
    (aggregate type elements).Cites symbol ↔ ∃ element ∈ elements, element.Cites symbol := by
  constructor
  · intro cites
    cases cites with
    | aggregate member cites => exact ⟨_, member, cites⟩
  · rintro ⟨element, member, cites⟩
    exact .aggregate member cites

@[simp] theorem cites_repeated {size : Nat} {type : IRType} {item : Operand} :
    (repeated size type item).Cites symbol ↔ item.Cites symbol := by
  constructor
  · intro cites
    cases cites with
    | repeated cites => exact cites
  · exact .repeated

/-- Whether an operand is neither the address of a routine nor made of other operands. -/
def isAtom : Operand → Bool
  | routine .. | aggregate .. | repeated .. => false
  | _ => true

/-- What is neither a routine nor made of other operands cites nothing. -/
@[simp] theorem not_cites_of_isAtom {operand : Operand} (atom : operand.isAtom = true) :
    ¬operand.Cites symbol := by
  intro cites
  cases cites <;> cases atom

/-- A number throughout cites nothing. -/
theorem not_cites_filled {value : Int} {type : IRType} {operand : Operand}
    (made : filled value type = .ok operand) : ¬operand.Cites symbol := by
  cases type with
  | void => cases made
  | vector size element =>
      unfold filled at made
      cases inner : filled value element with
      | error fault => simp [inner, Bind.bind, Except.bind] at made
      | ok item =>
          simp only [inner, Bind.bind, Except.bind, Pure.pure, Except.pure, Except.ok.injEq] at made
          subst made
          rw [cites_aggregate]
          rintro ⟨other, member, cites⟩
          rw [List.eq_of_mem_replicate member] at cites
          exact not_cites_filled inner cites
  | _ =>
      cases made
      exact not_cites_of_isAtom rfl

/-- A zero cites nothing. -/
theorem not_cites_zero {type : IRType} {operand : Operand} (made : zero type = .ok operand) :
    ¬operand.Cites symbol := by
  cases type with
  | void => cases made
  | vector size element =>
      unfold zero at made
      cases inner : zero element with
      | error fault => simp [inner, Bind.bind, Except.bind] at made
      | ok item =>
          simp only [inner, Bind.bind, Except.bind, Pure.pure, Except.pure, Except.ok.injEq] at made
          subst made
          rw [cites_repeated]
          exact not_cites_zero inner
  | _ =>
      cases made
      exact not_cites_of_isAtom rfl

end Operand

/-- The operands of an operation, apart from where it continues. -/
def Operation.uses : Operation → List Operand
  | .binary _ left right | .compareInt _ left right | .compareFloat _ left right => [left, right]
  | .cast _ value _ | .ret value => [value]
  | .alloca _ count => count.toList
  | .load pointer => [pointer]
  | .store value pointer => [value, pointer]
  | .elementAddress pointer indices => pointer :: indices
  | .extractElement vector index => [vector, index]
  | .insertElement vector element index => [vector, element, index]
  | .extractValue aggregate _ => [aggregate]
  | .insertValue aggregate element _ => [aggregate, element]
  | .call callee arguments => callee :: arguments
  | .branchIf condition _ _ => [condition]
  | .branch _ | .retVoid => []

/-- An operation works on its operands and on where it continues. -/
theorem Operation.mem_operands {operation : Operation} {value : Value} :
    value ∈ operation.operands ↔
      (∃ operand ∈ operation.uses, value = .operand operand) ∨ value ∈ operation.targets := by
  cases operation with
  | alloca allocated count => cases count <;> simp [operands, uses, targets]
  | _ => simp [operands, uses, targets, eq_comm]

/-! ## Values -/

/-- **A value cites a routine** if one of the functions and operands that it consists of does. -/
inductive Value.Cites (world : World) (symbol : SymbolRef) : Value → Prop
  /-- An operand that cites the routine. -/
  | operand {operand : Operand} : operand.Cites symbol → Cites world symbol (.operand operand)
  /-- A function that stands for the routine. -/
  | function {reference : FunctionRef} :
      world.functionSymbol reference = symbol → Cites world symbol (.function reference)
  /-- A list one of whose items cites the routine. -/
  | list {items : List Value} {item : Value} :
      item ∈ items → Cites world symbol item → Cites world symbol (.list items)
  /-- A fixed row one of whose items cites the routine. -/
  | tuple {items : List Value} {item : Value} :
      item ∈ items → Cites world symbol item → Cites world symbol (.tuple items)
  /-- What a name resolves to, if that cites the routine. -/
  | resolution {kind : SymbolKind} {target : Value} :
      Cites world symbol target → Cites world symbol (.resolution kind target)

namespace Value

variable {world : World} {symbol : SymbolRef}

@[simp] theorem cites_operand {operand : Operand} :
    (Value.operand operand).Cites world symbol ↔ operand.Cites symbol := by
  constructor
  · intro cites
    cases cites with
    | operand cites => exact cites
  · exact .operand

@[simp] theorem cites_function {reference : FunctionRef} :
    (Value.function reference).Cites world symbol ↔ world.functionSymbol reference = symbol := by
  constructor
  · intro cites
    cases cites with
    | function stands => exact stands
  · exact .function

@[simp] theorem cites_list {items : List Value} :
    (Value.list items).Cites world symbol ↔ ∃ item ∈ items, item.Cites world symbol := by
  constructor
  · intro cites
    cases cites with
    | list member cites => exact ⟨_, member, cites⟩
  · rintro ⟨item, member, cites⟩
    exact .list member cites

@[simp] theorem cites_tuple {items : List Value} :
    (Value.tuple items).Cites world symbol ↔ ∃ item ∈ items, item.Cites world symbol := by
  constructor
  · intro cites
    cases cites with
    | tuple member cites => exact ⟨_, member, cites⟩
  · rintro ⟨item, member, cites⟩
    exact .tuple member cites

@[simp] theorem cites_resolution {kind : SymbolKind} {target : Value} :
    (Value.resolution kind target).Cites world symbol ↔ target.Cites world symbol := by
  constructor
  · intro cites
    cases cites with
    | resolution cites => exact cites
  · exact .resolution

/-- Whether a value is neither an operand or a function nor made of other values that are. -/
def isAtom : Value → Bool
  | operand _ | function _ | list _ | tuple _ | resolution .. => false
  | _ => true

/-- What is neither an operand nor a function nor made of those cites nothing. -/
@[simp] theorem not_cites_of_isAtom {value : Value} (atom : value.isAtom = true) :
    ¬value.Cites world symbol := by
  intro cites
  cases cites <;> cases atom

/-- Only the routines that functions stand for decide what a value cites. -/
theorem Cites.congr {before after : World} {value : Value} (cites : value.Cites before symbol)
    (same : ∀ reference, after.functionSymbol reference = before.functionSymbol reference) :
    value.Cites after symbol := by
  induction cites with
  | operand cites => exact .operand cites
  | function stands => exact .function ((same _).trans stands)
  | list member _ ih => exact .list member ih
  | tuple member _ ih => exact .tuple member ih
  | resolution _ ih => exact .resolution ih

/-- Where no code differs, values cite the same. -/
theorem cites_sameCode {before after : World} (same : SameCode before after) (value : Value) :
    value.Cites after symbol ↔ value.Cites before symbol :=
  ⟨fun cites => cites.congr fun reference => (same.functionSymbol reference).symm,
    fun cites => cites.congr same.functionSymbol⟩

end Value

/-- The items of a row that changes cite nothing: they are blocks, results and diagnostics. -/
theorem World.not_cites_rowItems {world seen : World} {symbol : SymbolRef} {row : LiveRow}
    {item : Value} (member : item ∈ world.rowItems row) : ¬item.Cites seen symbol := by
  cases row <;>
  · simp only [rowItems, List.mem_map] at member
    obtain ⟨_, _, rfl⟩ := member
    first
      | exact fun cites => Operand.not_cites_of_isAtom rfl (Value.cites_operand.mp cites)
      | exact Value.not_cites_of_isAtom rfl

/-! ## Coercions -/

namespace Coercion

variable {symbol : SymbolRef} {wanted : Option IRType} {operand : Operand} {world after : World}

/-- Pooling a text changes no code. -/
local instance (pool : Option LibraryId) : AllowsPool pool SameCode where
  intern _ text _ := AllowsSymbols.intern _ text

theorem not_cites_ofTruth {value : Bool} (made : ofTruth value wanted = .ok operand) :
    ¬operand.Cites symbol := by
  unfold ofTruth at made
  split at made <;> cases made
  exact Operand.not_cites_of_isAtom rfl

theorem not_cites_ofInteger {value : Int} (made : ofInteger value wanted = .ok operand) :
    ¬operand.Cites symbol := by
  have atom : operand.isAtom = true := by
    unfold ofInteger at made
    dsimp only at made
    repeat' split at made
    all_goals cases made
    all_goals rfl
  exact Operand.not_cites_of_isAtom atom

theorem not_cites_ofReal {value : Double} (made : ofReal value wanted = .ok operand) :
    ¬operand.Cites symbol := by
  have atom : operand.isAtom = true := by
    unfold ofReal at made
    dsimp only at made
    split at made
    · cases made
      rfl
    · rcases integer : Value.integerOfReal value with fault | integer <;>
      · simp only [integer, Bind.bind, Except.bind] at made
        cases made
        try rfl
    · split at made <;> cases made
      rfl
    · split at made <;> cases made
      rfl
  exact Operand.not_cites_of_isAtom atom

theorem not_cites_ofNone (made : ofNone wanted = .ok operand) : ¬operand.Cites symbol := by
  unfold ofNone at made
  split at made <;> cases made
  exact Operand.not_cites_of_isAtom rfl

/-- The address of a pooled text cites nothing. -/
theorem not_cites_ofPhrase {pool : Option LibraryId} {phrase : Phrase}
    (run : ofPhrase pool phrase wanted world = .ok operand after) : ¬operand.Cites symbol := by
  unfold ofPhrase at run
  split at run
  · cases pool with
    | none => exact (throw_ne_ok run).elim
    | some place =>
        obtain ⟨text, _, _, run⟩ := bind_eq_ok.mp run
        obtain ⟨rfl, -⟩ := pure_eq_ok.mp run
        refine Operand.not_cites_of_isAtom ?_
        unfold pooled
        repeat' split
        all_goals rfl
  · obtain ⟨_, _, thrown, _⟩ := bind_eq_ok.mp run
    exact (throw_ne_ok thrown).elim

/-- A single value hands on what it cites. -/
theorem coerceSingle_cites {pool : Option LibraryId} {value : Value}
    (run : coerceSingle pool value wanted world = .ok operand after) :
    operand.Cites symbol ↔ value.Cites world symbol := by
  have neither (atom : value.isAtom = true) (plain : ¬operand.Cites symbol) :
      operand.Cites symbol ↔ value.Cites world symbol :=
    iff_of_false plain (Value.not_cites_of_isAtom atom)
  unfold coerceSingle at run
  split at run
  · obtain ⟨rfl, -⟩ := pure_eq_ok.mp run
    exact Value.cites_operand.symm
  · obtain ⟨_, _, looked, run⟩ := bind_eq_ok.mp run
    obtain ⟨rfl, -⟩ := get_eq_ok.mp looked
    obtain ⟨rfl, -⟩ := pure_eq_ok.mp run
    rw [World.routineOperand, Operand.cites_routine, Value.cites_function]
  · exact neither rfl (not_cites_ofTruth (lift_eq_ok.mp run).1)
  · exact neither rfl (not_cites_ofInteger (lift_eq_ok.mp run).1)
  · exact neither rfl (not_cites_ofReal (lift_eq_ok.mp run).1)
  · exact neither rfl (not_cites_ofNone (lift_eq_ok.mp run).1)
  · exact neither rfl (not_cites_ofPhrase run)
  · exact neither rfl (not_cites_ofPhrase run)
  · exact neither rfl (not_cites_ofPhrase run)
  · exact (throw_ne_ok run).elim

/-- Single values hand on what they cite. -/
theorem coerceSingles_cites {pool : Option LibraryId} {values : List Value} {wanted : IRType}
    {operands : List Operand} (run : coerceSingles pool values wanted world = .ok operands after) :
    (∃ operand ∈ operands, operand.Cites symbol) ↔ ∃ value ∈ values, value.Cites world symbol := by
  unfold coerceSingles at run
  induction values generalizing world operands with
  | nil =>
      rw [List.mapM_nil] at run
      obtain ⟨rfl, -⟩ := pure_eq_ok.mp run
      simp
  | cons value values ih =>
      rw [List.mapM_cons] at run
      obtain ⟨first, between, one, run⟩ := bind_eq_ok.mp run
      obtain ⟨rest, _, others, run⟩ := bind_eq_ok.mp run
      obtain ⟨rfl, rfl⟩ := pure_eq_ok.mp run
      have same : SameCode world between :=
        (leads_coerceSingle pool value (some wanted)).of_ok one
      have one : first.Cites symbol ↔ value.Cites world symbol := coerceSingle_cites one
      have others := ih others
      simp only [List.mem_cons, exists_eq_or_imp, one, others, Value.cites_sameCode same]

mutual

/-- **A value that becomes an operand hands on what it cites**, nothing more and nothing less. -/
theorem coerce_cites {pool : Option LibraryId} {value : Value} {wanted : Option IRType}
    {world after : World} {operand : Operand}
    (run : coerce pool value wanted world = .ok operand after) :
    operand.Cites symbol ↔ value.Cites world symbol := by
  cases value with
  | list items =>
      unfold coerce at run
      obtain ⟨element, between, chosen, run⟩ := bind_eq_ok.mp run
      obtain ⟨elements, _, all, run⟩ := bind_eq_ok.mp run
      obtain ⟨rfl, -⟩ := pure_eq_ok.mp run
      have same : SameCode world between :=
        (leads_wantedElement _ wanted (leads_coerceFirst pool items)).of_ok chosen
      rw [arrayOf, Operand.cites_aggregate, coerceAll_cites all, Value.cites_list]
      simp only [Value.cites_sameCode same]
  | tuple items =>
      unfold coerce at run
      obtain ⟨element, between, chosen, run⟩ := bind_eq_ok.mp run
      obtain ⟨elements, _, all, run⟩ := bind_eq_ok.mp run
      obtain ⟨rfl, -⟩ := pure_eq_ok.mp run
      have same : SameCode world between :=
        (leads_wantedElement _ wanted (leads_coerceFirst pool items)).of_ok chosen
      rw [arrayOf, Operand.cites_aggregate, coerceAll_cites all, Value.cites_tuple]
      simp only [Value.cites_sameCode same]
  | resolution kind target =>
      unfold coerce at run
      obtain ⟨element, between, chosen, run⟩ := bind_eq_ok.mp run
      obtain ⟨first, further, one, run⟩ := bind_eq_ok.mp run
      obtain ⟨second, _, other, run⟩ := bind_eq_ok.mp run
      obtain ⟨rfl, -⟩ := pure_eq_ok.mp run
      have same : SameCode world between :=
        (leads_wantedElement _ wanted (Build.Leads.map Operand.type
          (leads_coerceSingle pool (.symbolKind kind) none))).of_ok chosen
      have sameToo : SameCode between further :=
        (leads_coerceSingle pool (.symbolKind kind) (some element)).of_ok one
      have plain : ¬first.Cites symbol := by
        rw [coerceSingle_cites one]
        exact Value.not_cites_of_isAtom rfl
      rw [arrayOf, Operand.cites_aggregate, Value.cites_resolution]
      simp [plain, coerce_cites other, Value.cites_sameCode same, Value.cites_sameCode sameToo]
  | liveRow row =>
      unfold coerce at run
      obtain ⟨_, _, looked, run⟩ := bind_eq_ok.mp run
      obtain ⟨rfl, rfl⟩ := get_eq_ok.mp looked
      obtain ⟨element, between, chosen, run⟩ := bind_eq_ok.mp run
      obtain ⟨elements, _, all, run⟩ := bind_eq_ok.mp run
      obtain ⟨rfl, -⟩ := pure_eq_ok.mp run
      refine iff_of_false ?_ (Value.not_cites_of_isAtom rfl)
      rw [arrayOf, Operand.cites_aggregate, coerceSingles_cites all]
      rintro ⟨item, member, cites⟩
      exact World.not_cites_rowItems member cites
  | _ =>
      unfold coerce at run
      exact coerceSingle_cites run

/-- Values that become operands hand on what they cite. -/
theorem coerceAll_cites {pool : Option LibraryId} {values : List Value} {wanted : IRType}
    {world after : World} {operands : List Operand}
    (run : coerceAll pool values wanted world = .ok operands after) :
    (∃ operand ∈ operands, operand.Cites symbol) ↔ ∃ value ∈ values, value.Cites world symbol := by
  cases values with
  | nil =>
      unfold coerceAll at run
      obtain ⟨rfl, -⟩ := pure_eq_ok.mp run
      simp
  | cons value values =>
      unfold coerceAll at run
      obtain ⟨first, between, one, run⟩ := bind_eq_ok.mp run
      obtain ⟨rest, _, others, run⟩ := bind_eq_ok.mp run
      obtain ⟨rfl, rfl⟩ := pure_eq_ok.mp run
      have same : SameCode world between := (leads_coerce pool value (some wanted)).of_ok one
      simp only [List.mem_cons, exists_eq_or_imp, coerce_cites one, coerceAll_cites others,
        Value.cites_sameCode same]

end

end Coercion

end StructuredIR
