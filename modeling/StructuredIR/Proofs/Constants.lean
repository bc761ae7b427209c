import StructuredIR.Proofs.Coercions
import StructuredIR.Proofs.Returns.Funnel

/-! # Types of constants

Plain data becomes constants of the types that are wanted. A row becomes an array: its elements are
coerced to one element type, but a truth value stays a single bit, and a row inside a row keeps its own
length.

* **`Operand.WellTyped`** says that a constant has its type at every level: each element of an array
  has exactly the element type of the array.
* **`Value.Fits`** says that plain data fits a type: truth values stand where single bits are wanted,
  and rows are as long as the arrays.
* **`Coercion.coerce_wellTyped_iff`**: plain data becomes a well-typed constant of a type exactly if it
  fits the type. -/

namespace StructuredIR

open Build (bind_eq_ok get_eq_ok pure_eq_ok lift_eq_ok throw_ne_ok)

/-! ## Well-typed constants -/

/-- **A constant is well typed** if it has its type at every level. -/
inductive Operand.WellTyped : Operand → Prop
  /-- A number of an integer type. -/
  | integer (width : Nat) (value : Int) : WellTyped (.integer (.int width) value)
  /-- A number of a floating-point type. -/
  | real {type : IRType} (value : Double) : type.isFloat = true → WellTyped (.real type value)
  /-- The null pointer of a pointer type. -/
  | null (target : IRType) : WellTyped (.absent (.pointer target))
  /-- The address of a global. -/
  | address (symbol : SymbolRef) (valueType : IRType) : WellTyped (.global symbol valueType)
  /-- The address of a global as a pointer of another type. -/
  | addressAs (symbol : SymbolRef) (valueType : IRType) {target : IRType} :
      target.isPointer = true → WellTyped (.globalAs symbol valueType target)
  /-- An array whose elements are well typed and of the element type. -/
  | array {size : Nat} {element : IRType} {elements : List Operand} :
      elements.length = size → (∀ item ∈ elements, item.type = element) →
        (∀ item ∈ elements, WellTyped item) → WellTyped (.aggregate (.array size element) elements)

/-- An array is well typed exactly if its elements are, and are of its element type. -/
theorem Operand.wellTyped_arrayOf {element : IRType} {elements : List Operand} :
    (Coercion.arrayOf element elements).WellTyped ↔
      ∀ item ∈ elements, item.WellTyped ∧ item.type = element := by
  constructor
  · intro typed item member
    cases typed with
    | array _ types inner => exact ⟨inner item member, types item member⟩
  · intro typed
    exact .array rfl (fun item member => (typed item member).2)
      fun item member => (typed item member).1

/-! ## Plain data -/

/-- **Plain data**: truth values, numbers, texts, nothing at all, and rows of plain data. -/
inductive Value.IsPlain : Value → Prop
  /-- Nothing. -/
  | none : IsPlain .none
  /-- A truth value. -/
  | truth (value : Bool) : IsPlain (.truth value)
  /-- An integer. -/
  | integer (value : Int) : IsPlain (.integer value)
  /-- A floating-point number. -/
  | real (value : Double) : IsPlain (.real value)
  /-- A text. -/
  | text (content : String) : IsPlain (.text content)
  /-- A list of plain data. -/
  | list {items : List Value} : (∀ item ∈ items, IsPlain item) → IsPlain (.list items)
  /-- A fixed row of plain data. -/
  | tuple {items : List Value} : (∀ item ∈ items, IsPlain item) → IsPlain (.tuple items)

/-- **Plain data fits a type** if truth values stand where single bits are wanted, and rows are as long
as the arrays. All else takes the wanted type, or is refused. -/
inductive Value.Fits : Value → IRType → Prop
  /-- Nothing fits where it is not refused. -/
  | none (type : IRType) : Fits .none type
  /-- A truth value is a single bit. -/
  | truth (value : Bool) : Fits (.truth value) (.int 1)
  /-- An integer fits where it is not refused. -/
  | integer (value : Int) (type : IRType) : Fits (.integer value) type
  /-- A floating-point number fits where it is not refused. -/
  | real (value : Double) (type : IRType) : Fits (.real value) type
  /-- A text fits where it is not refused. -/
  | text (content : String) (type : IRType) : Fits (.text content) type
  /-- A list is an array of its length. -/
  | list {items : List Value} {element : IRType} :
      (∀ item ∈ items, Fits item element) → Fits (.list items) (.array items.length element)
  /-- A fixed row is an array of its length. -/
  | tuple {items : List Value} {element : IRType} :
      (∀ item ∈ items, Fits item element) → Fits (.tuple items) (.array items.length element)

namespace Value

theorem isPlain_list {items : List Value} :
    (list items).IsPlain ↔ ∀ item ∈ items, item.IsPlain := by
  constructor
  · intro plain
    cases plain with
    | list inner => exact inner
  · exact .list

theorem isPlain_tuple {items : List Value} :
    (tuple items).IsPlain ↔ ∀ item ∈ items, item.IsPlain := by
  constructor
  · intro plain
    cases plain with
    | tuple inner => exact inner
  · exact .tuple

@[simp] theorem fits_truth {value : Bool} {type : IRType} :
    (truth value).Fits type ↔ type = .int 1 := by
  constructor
  · intro fits
    cases fits
    rfl
  · rintro rfl
    exact .truth value

@[simp] theorem fits_list {items : List Value} {size : Nat} {element : IRType} :
    (list items).Fits (.array size element) ↔
      items.length = size ∧ ∀ item ∈ items, item.Fits element := by
  constructor
  · intro fits
    cases fits with
    | list inner => exact ⟨rfl, inner⟩
  · rintro ⟨rfl, inner⟩
    exact .list inner

@[simp] theorem fits_tuple {items : List Value} {size : Nat} {element : IRType} :
    (tuple items).Fits (.array size element) ↔
      items.length = size ∧ ∀ item ∈ items, item.Fits element := by
  constructor
  · intro fits
    cases fits with
    | tuple inner => exact ⟨rfl, inner⟩
  · rintro ⟨rfl, inner⟩
    exact .tuple inner

/-- The type of the constant that plain data becomes where no type is wanted: a row has the type of its
first item throughout. -/
def ownType? : Value → Option IRType
  | .truth _ => some (.int 1)
  | .integer _ => some (.int 32)
  | .real _ => some .double
  | .text content => some (.pointer (StringPool.constant content).valueType)
  | .list (first :: rest) => (ownType? first).map (.array (rest.length + 1))
  | .tuple (first :: rest) => (ownType? first).map (.array (rest.length + 1))
  | _ => Option.none

end Value

/-! ## Single values -/

namespace Coercion

variable {pool : Option LibraryId} {wanted : Option IRType} {operand : Operand} {world after : World}

/-- A constant that is well typed, and of the wanted type if there is one. -/
def Matches (wanted : Option IRType) (operand : Operand) : Prop :=
  operand.WellTyped ∧ ∀ type ∈ wanted, operand.type = type

theorem ofTruth_eq_ok {value : Bool} (made : ofTruth value wanted = .ok operand) :
    operand = .bit value := by
  unfold ofTruth at made
  split at made <;> cases made
  rfl

theorem matches_ofInteger {value : Int} (made : ofInteger value wanted = .ok operand) :
    Matches wanted operand := by
  unfold ofInteger at made
  dsimp only at made
  split at made
  next => cases made; exact ⟨.integer .., nofun⟩
  next => cases made; exact ⟨.integer .., fun type same => Option.some.inj same⟩
  next =>
    split at made <;> cases made
    exact ⟨.null _, fun type same => Option.some.inj same⟩
  next =>
    split at made
    next float =>
      split at made <;> cases made
      exact ⟨.real _ float, fun type same => Option.some.inj same⟩
    next => cases made

theorem matches_ofReal {value : Double} (made : ofReal value wanted = .ok operand) :
    Matches wanted operand := by
  unfold ofReal at made
  dsimp only at made
  split at made
  next => cases made; exact ⟨.real _ rfl, nofun⟩
  next =>
    cases whole : Value.integerOfReal value with
    | error fault => rw [whole] at made; cases made
    | ok whole' =>
        rw [whole] at made
        cases made
        exact ⟨.integer .., fun type same => Option.some.inj same⟩
  next =>
    split at made <;> cases made
    exact ⟨.null _, fun type same => Option.some.inj same⟩
  next =>
    split at made
    next float => cases made; exact ⟨.real _ float, fun type same => Option.some.inj same⟩
    next => cases made

theorem matches_ofNone (made : ofNone wanted = .ok operand) : Matches wanted operand := by
  unfold ofNone at made
  split at made <;> cases made
  exact ⟨.null _, fun type same => Option.some.inj same⟩

theorem matches_ofPhrase {phrase : Phrase}
    (run : ofPhrase pool phrase wanted world = .ok operand after) : Matches wanted operand := by
  unfold ofPhrase at run
  split at run
  next pointer =>
    cases pool with
    | none => exact (throw_ne_ok run).elim
    | some place =>
        obtain ⟨symbol, _, _, run⟩ := bind_eq_ok.mp run
        obtain ⟨rfl, -⟩ := pure_eq_ok.mp run
        -- A pooled text is an array of bytes: its address is taken as it is, or as a pointer of the
        -- wanted type.
        unfold pooled
        split
        next type =>
          split
          next same => exact ⟨.address .., fun type other => same.symm.trans (Option.some.inj other)⟩
          next => exact ⟨.addressAs _ _ pointer, fun type same => Option.some.inj same⟩
        next => exact ⟨.address .., nofun⟩
  next =>
    obtain ⟨_, _, thrown, _⟩ := bind_eq_ok.mp run
    exact (throw_ne_ok thrown).elim

/-- What matches whatever is wanted fits it. -/
theorem Matches.typed {value : Value} (matched : Matches wanted operand)
    (fits : ∀ type, value.Fits type) :
    (operand.WellTyped ↔ value.Fits operand.type) ∧
      ∀ type ∈ wanted, (operand.WellTyped ∧ operand.type = type ↔ value.Fits type) :=
  ⟨iff_of_true matched.1 (fits _),
    fun type given => iff_of_true ⟨matched.1, matched.2 type given⟩ (fits type)⟩

/-! ## Rows -/

/-- A row becomes the array of its elements. -/
theorem row_ok {value : Value} {items : List Value} (run : (do
      let element ← wantedElement value wanted (coerceFirst pool items)
      return arrayOf element (← coerceAll pool items element) : Build Operand) world =
        .ok operand after) :
    ∃ element between elements final,
      wantedElement value wanted (coerceFirst pool items) world = .ok element between ∧
        coerceAll pool items element between = .ok elements final ∧
          operand = arrayOf element elements := by
  obtain ⟨element, between, chosen, run⟩ := bind_eq_ok.mp run
  obtain ⟨elements, final, all, run⟩ := bind_eq_ok.mp run
  exact ⟨element, between, elements, final, chosen, all, (pure_eq_ok.mp run).1.symm⟩

/-- The element type of an array that is wanted is the one of the array. -/
theorem wantedElement_ok {value : Value} {first : Build IRType} {element : IRType}
    (run : wantedElement value wanted first world = .ok element after) :
    ∀ type ∈ wanted, ∃ size, type = .array size element := by
  intro type given
  obtain rfl : wanted = some type := given
  cases type with
  | array size inner =>
      obtain ⟨rfl, -⟩ := pure_eq_ok.mp run
      exact ⟨size, rfl⟩
  | _ => exact (throw_ne_ok run).elim

/-- A row fits the types that are as its array, if its items fit the element type. -/
theorem typed_arrayOf {value : Value} {items : List Value} {element : IRType}
    {elements : List Operand}
    (fits : ∀ size inner, value.Fits (.array size inner) ↔
      items.length = size ∧ ∀ item ∈ items, item.Fits inner)
    (chosen : ∀ type ∈ wanted, ∃ size, type = .array size element)
    (lengths : elements.length = items.length)
    (all : (∀ operand ∈ elements, operand.WellTyped ∧ operand.type = element) ↔
      ∀ item ∈ items, item.Fits element) :
    ((arrayOf element elements).WellTyped ↔ value.Fits (arrayOf element elements).type) ∧
      ∀ type ∈ wanted, ((arrayOf element elements).WellTyped ∧
        (arrayOf element elements).type = type ↔ value.Fits type) := by
  have own : (arrayOf element elements).type = .array items.length element := by
    rw [← lengths]
    rfl
  rw [own, Operand.wellTyped_arrayOf, all, fits]
  refine ⟨(and_iff_right rfl).symm, fun type given => ?_⟩
  obtain ⟨size, rfl⟩ := chosen type given
  rw [fits, IRType.array.injEq, and_comm, eq_self, and_true]

mutual

/-- **Plain data becomes a well-typed constant of a type exactly if it fits the type.** -/
theorem coerce_typed {value : Value} (plain : value.IsPlain) {wanted : Option IRType}
    {operand : Operand} {world after : World}
    (run : coerce pool value wanted world = .ok operand after) :
    (operand.WellTyped ↔ value.Fits operand.type) ∧
      ∀ type ∈ wanted, (operand.WellTyped ∧ operand.type = type ↔ value.Fits type) := by
  cases value with
  | list items =>
      have inner := Value.isPlain_list.mp plain
      unfold coerce at run
      obtain ⟨element, between, elements, _, chosen, all, rfl⟩ := row_ok run
      obtain ⟨lengths, fits⟩ := coerceAll_typed inner all
      exact typed_arrayOf (fun _ _ => Value.fits_list) (wantedElement_ok chosen) lengths fits
  | tuple items =>
      have inner := Value.isPlain_tuple.mp plain
      unfold coerce at run
      obtain ⟨element, between, elements, _, chosen, all, rfl⟩ := row_ok run
      obtain ⟨lengths, fits⟩ := coerceAll_typed inner all
      exact typed_arrayOf (fun _ _ => Value.fits_tuple) (wantedElement_ok chosen) lengths fits
  | truth value =>
      unfold coerce coerceSingle at run
      -- A truth value stays a single bit, whatever type is wanted.
      obtain rfl := ofTruth_eq_ok (lift_eq_ok.mp run).1
      have typed : (Operand.bit value).WellTyped := .integer ..
      refine ⟨iff_of_true typed (.truth value), fun type _ => ?_⟩
      rw [Value.fits_truth, and_iff_right typed]
      exact eq_comm
  | integer value =>
      unfold coerce coerceSingle at run
      exact (matches_ofInteger (lift_eq_ok.mp run).1).typed (.integer value)
  | real value =>
      unfold coerce coerceSingle at run
      exact (matches_ofReal (lift_eq_ok.mp run).1).typed (.real value)
  | none =>
      unfold coerce coerceSingle at run
      exact (matches_ofNone (lift_eq_ok.mp run).1).typed .none
  | text content =>
      unfold coerce coerceSingle at run
      exact (matches_ofPhrase run).typed (.text content)
  | _ => cases plain

/-- Plain data of one wanted type becomes as many well-typed constants of the type exactly if all of
it fits the type. -/
theorem coerceAll_typed {values : List Value} (plain : ∀ value ∈ values, value.IsPlain)
    {wanted : IRType} {operands : List Operand} {world after : World}
    (run : coerceAll pool values wanted world = .ok operands after) :
    operands.length = values.length ∧
      ((∀ operand ∈ operands, operand.WellTyped ∧ operand.type = wanted) ↔
        ∀ value ∈ values, value.Fits wanted) := by
  cases values with
  | nil =>
      unfold coerceAll at run
      obtain ⟨rfl, -⟩ := pure_eq_ok.mp run
      simp
  | cons value values =>
      unfold coerceAll at run
      obtain ⟨first, between, one, run⟩ := bind_eq_ok.mp run
      obtain ⟨rest, _, others, run⟩ := bind_eq_ok.mp run
      obtain ⟨rfl, rfl⟩ := pure_eq_ok.mp run
      -- Elements are coerced to a type that is wanted, so what fits is said about that type.
      have one := (coerce_typed (plain value List.mem_cons_self) one).2 wanted rfl
      obtain ⟨lengths, others⟩ :=
        coerceAll_typed (fun other member => plain other (List.mem_cons_of_mem _ member)) others
      refine ⟨by simp [lengths], ?_⟩
      rw [List.forall_mem_cons, List.forall_mem_cons, one, others]

end

/-! ## Own types -/

theorem ownType?_ofPhrase {content : String}
    (run : ofPhrase pool (.text content) none world = .ok operand after) :
    operand.type = .pointer (StringPool.constant content).valueType := by
  cases pool with
  | none => cases run
  | some place =>
      obtain ⟨symbol, _, _, run⟩ := bind_eq_ok.mp run
      obtain ⟨rfl, -⟩ := pure_eq_ok.mp run
      rfl

mutual

/-- Where no type is wanted, plain data becomes a constant of its own type. -/
theorem ownType?_coerce {value : Value} (plain : value.IsPlain) {operand : Operand}
    {world after : World} (run : coerce pool value none world = .ok operand after) :
    value.ownType? = some operand.type := by
  cases value with
  | list items =>
      have inner := Value.isPlain_list.mp plain
      unfold coerce at run
      obtain ⟨element, between, elements, _, chosen, all, rfl⟩ := row_ok run
      obtain ⟨first, rest, rfl, own⟩ := ownType?_coerceFirst inner chosen
      rw [Value.ownType?, own, arrayOf, (coerceAll_typed inner all).1]
      rfl
  | tuple items =>
      have inner := Value.isPlain_tuple.mp plain
      unfold coerce at run
      obtain ⟨element, between, elements, _, chosen, all, rfl⟩ := row_ok run
      obtain ⟨first, rest, rfl, own⟩ := ownType?_coerceFirst inner chosen
      rw [Value.ownType?, own, arrayOf, (coerceAll_typed inner all).1]
      rfl
  | truth value | integer value | real value =>
      unfold coerce coerceSingle at run
      cases (lift_eq_ok.mp run).1
      rfl
  | none =>
      unfold coerce coerceSingle at run
      cases (lift_eq_ok.mp run).1
  | text content =>
      unfold coerce coerceSingle at run
      rw [Value.ownType?, ownType?_ofPhrase run]
  | _ => cases plain

/-- The element type of a row where no type is wanted is the own type of its first item. -/
theorem ownType?_coerceFirst {items : List Value} (plain : ∀ item ∈ items, item.IsPlain)
    {element : IRType} {world after : World}
    (run : coerceFirst pool items world = .ok element after) :
    ∃ first rest, items = first :: rest ∧ first.ownType? = some element := by
  cases items with
  | nil =>
      unfold coerceFirst at run
      cases run
  | cons first rest =>
      unfold coerceFirst at run
      obtain ⟨operand, _, one, run⟩ := bind_eq_ok.mp run
      obtain ⟨rfl, -⟩ := pure_eq_ok.mp run
      exact ⟨first, rest, rfl, ownType?_coerce (plain first List.mem_cons_self) one⟩

end

/-! ## Coercions to constants -/

/-- **Plain data becomes a well-typed constant exactly if it fits**: of the wanted type if there is one,
and else of its own type. -/
theorem coerce_wellTyped_iff {value : Value} (plain : value.IsPlain)
    (run : coerce pool value wanted world = .ok operand after) :
    (∀ type ∈ wanted, (operand.WellTyped ∧ operand.type = type ↔ value.Fits type)) ∧
      (operand.WellTyped ↔ value.Fits operand.type) ∧
        (wanted = none → value.ownType? = some operand.type) := by
  have typed := coerce_typed plain run
  refine ⟨typed.2, typed.1, ?_⟩
  rintro rfl
  exact ownType?_coerce plain run

/-- The integers of a row of two become a well-typed array of two bytes. -/
theorem coerce_wellTyped_pair :
    (Value.list [.integer 1, .integer 300]).IsPlain ∧
      ∃ operand after, coerce none (.list [.integer 1, .integer 300]) (some (.array 2 (.int 8)))
        FunctionBody.oneFunction = .ok operand after ∧
          operand.WellTyped ∧ operand.type = .array 2 (.int 8) := by
  have plain : (Value.list [.integer 1, .integer 300]).IsPlain := by
    refine Value.isPlain_list.mpr fun item member => ?_
    rw [List.mem_pair] at member
    rcases member with rfl | rfl <;> exact .integer _
  have fits : (Value.list [.integer 1, .integer 300]).Fits (.array 2 (.int 8)) := by
    refine .list fun item member => ?_
    rw [List.mem_pair] at member
    rcases member with rfl | rfl <;> exact .integer _ _
  have run : coerce none (.list [.integer 1, .integer 300]) (some (.array 2 (.int 8)))
      FunctionBody.oneFunction = .ok (.aggregate (.array 2 (.int 8))
        [.integer (.int 8) 1, .integer (.int 8) 44]) FunctionBody.oneFunction := rfl
  exact ⟨plain, _, _, run, ((coerce_wellTyped_iff plain run).1 _ rfl).mpr fits⟩

/-- **A truth value in a row of numbers stays a single bit, and a row that is too long keeps its
length**: the one is not well typed, the other is not of the wanted type. -/
theorem coerce_misfits :
    (∃ operand after, coerce none (.list [.integer 1, .truth true]) none
      FunctionBody.oneFunction = .ok operand after ∧ ¬operand.WellTyped) ∧
    ∃ operand after, coerce none (.list [.integer 1, .integer 2, .integer 3])
      (some (.array 2 (.int 32))) FunctionBody.oneFunction = .ok operand after ∧
        operand.type ≠ .array 2 (.int 32) := by
  refine ⟨⟨_, _, rfl, fun typed => ?_⟩, ⟨_, _, rfl, by decide⟩⟩
  have bit := (Operand.wellTyped_arrayOf.mp typed (.bit true) (by simp)).2
  revert bit
  decide

end Coercion

end StructuredIR
