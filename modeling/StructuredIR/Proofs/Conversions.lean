import StructuredIR.Proofs.Library.Pooled

/-! # Repeated conversions

A conversion may come to a part of a value more than once: the first item of a row tells the type of all
items, and is converted again with them. It may also fail when it has pooled some texts. As a text is
pooled once and for all, neither can be told from what is there afterwards.

* **`Value.phrases`** are the texts in a value, in the order of occurrence.
* **`Build.Settles`** says that a step pools some texts, first to last, and that whatever is pooled then,
  it comes out as it did and changes nothing. **`Settles.bind`** is the rule for two steps, and
  **`Settles.absorb`** the one for texts that are converted twice.
* **`Coercion.settles_coerce`**: a conversion settles the texts of its value, by induction on the value.
* **`Coercion.coerceAs_repeatable`**: so a conversion only pools texts, and comes out the same again. -/

namespace StructuredIR

open Build (bind_eq_ok bind_eq_error get_eq_ok pure_eq_ok lift_eq_ok map_eq_ok)

/-! ## Texts of values -/

mutual

/-- The texts in a value, in the order of occurrence. -/
def Value.phrases : Value → List Phrase
  | .list items => Value.allPhrases items
  | .tuple items => Value.allPhrases items
  | .resolution _ target => target.phrases
  | value => value.phrase?.toList

/-- The texts in some values, in the order of occurrence. -/
def Value.allPhrases : List Value → List Phrase
  | [] => []
  | value :: values => value.phrases ++ Value.allPhrases values

end

/-- No item of a row that changes is a text. -/
theorem World.phrase?_rowItems (world : World) (row : LiveRow) :
    ∀ item ∈ world.rowItems row, item.phrase? = none := by
  intro item member
  cases row with
  | blocks _ | instructions _ | diagnostics _ =>
      obtain ⟨_, -, rfl⟩ := List.mem_map.mp member
      rfl

/-! ## Steps that settle texts -/

namespace Build

variable {place : LibraryId} {first second texts : List Phrase} {Result Next : Type}
  {step : Build Result}

/-- The way in which a step comes out. -/
def outcome (step : Build Result) (world : World) : Except Fault Result :=
  match step world with
  | .ok value _ => .ok value
  | .error fault _ => .error fault

/-- A step that succeeds comes out with what it gives. -/
theorem outcome_of_ok {world final : World} {value : Result} (run : step world = .ok value final) :
    step.outcome world = .ok value := by
  rw [outcome, run]

/-- A step that fails comes out with its fault. -/
theorem outcome_of_error {world final : World} {fault : Fault}
    (run : step world = .error fault final) : step.outcome world = .error fault := by
  rw [outcome, run]

/-- **A step settles some texts**: it pools them, or the first of them if it fails, and does nothing else.
Whatever is pooled then, it comes out as it did and changes nothing. -/
structure Settles (place : LibraryId) (texts : List Phrase) (step : Build Result) : Prop where
  /-- If the step succeeds, all texts are pooled. -/
  ok {world after : World} {value : Result} : step world = .ok value after →
    after = world.pooled place texts ∧
      ∀ more, step (after.pooled place more) = .ok value (after.pooled place more)
  /-- If it fails, the first of them are. -/
  error {world after : World} {fault : Fault} : step world = .error fault after →
    ∃ converted, converted <+: texts ∧ after = world.pooled place converted ∧
      ∀ more, step (after.pooled place more) = .error fault (after.pooled place more)

namespace Settles

/-- Giving a value settles no texts. -/
theorem pure (value : Result) : Settles place [] (pure value : Build Result) where
  ok run := by
    obtain ⟨rfl, rfl⟩ := pure_eq_ok.mp run
    exact ⟨(World.pooled_nil _ _).symm, fun _ => rfl⟩
  error run := nomatch run

/-- What fails settles any texts: it comes to none of them. -/
theorem throw (fault : Fault) : Settles place texts (throw fault : Build Result) where
  ok run := nomatch run
  error run := by
    cases run
    exact ⟨[], List.nil_prefix, (World.pooled_nil _ _).symm, fun _ => rfl⟩

/-- A check that looks at no world settles no texts. -/
theorem lift (check : Except Fault Result) : Settles place [] (liftM check : Build Result) := by
  cases check with
  | ok value => exact pure value
  | error fault => exact throw fault

/-- **Two steps settle the texts of one and then those of the other.** -/
theorem bind {next : Result → Build Next} (settles : Settles place first step)
    (settlesNext : ∀ value, Settles place second (next value)) :
    Settles place (first ++ second) (step >>= next) where
  ok run := by
    obtain ⟨value, between, run, runNext⟩ := bind_eq_ok.mp run
    obtain ⟨rfl, again⟩ := settles.ok run
    obtain ⟨rfl, againNext⟩ := (settlesNext value).ok runNext
    refine ⟨World.pooled_pooled .., fun more => bind_eq_ok.mpr ⟨value, _, ?_, againNext more⟩⟩
    have further := again (second ++ more)
    rwa [← World.pooled_pooled] at further
  error run := by
    rcases bind_eq_error.mp run with failed | ⟨value, between, run, failed⟩
    · obtain ⟨converted, front, same, again⟩ := settles.error failed
      exact ⟨converted, front.trans (List.prefix_append ..), same,
        fun more => bind_eq_error.mpr (.inl (again more))⟩
    · obtain ⟨rfl, again⟩ := settles.ok run
      obtain ⟨converted, front, rfl, againNext⟩ := (settlesNext value).error failed
      refine ⟨first ++ converted, (List.prefix_append_right_inj first).mpr front,
        World.pooled_pooled .., fun more => bind_eq_error.mpr (.inr ⟨value, _, ?_, againNext more⟩)⟩
      have further := again (converted ++ more)
      rwa [← World.pooled_pooled] at further

/-- A step whose result is changed settles the same texts. -/
theorem map (change : Result → Next) (settles : Settles place texts step) :
    Settles place texts (change <$> step) := by
  rw [map_eq_pure_bind, ← List.append_nil texts]
  exact settles.bind fun value => pure (change value)

/-- A step may look at the world if what follows does not depend on pooled texts. -/
theorem get_bind {next : World → Build Result}
    (same : ∀ world texts, next (world.pooled place texts) = next world)
    (settles : ∀ world, Settles place texts (next world)) :
    Settles place texts (get >>= next) where
  ok {world after value} run := by
    obtain ⟨rfl, again⟩ := (settles world).ok run
    refine ⟨rfl, fun more => ?_⟩
    rw [run_get_bind, same, same]
    exact again more
  error {world after fault} run := by
    obtain ⟨converted, front, rfl, again⟩ := (settles world).error run
    refine ⟨converted, front, rfl, fun more => ?_⟩
    rw [run_get_bind, same, same]
    exact again more

/-- **Texts that are settled twice are settled.** -/
theorem absorb (settles : Settles place (first ++ (first ++ second)) step) :
    Settles place (first ++ second) step where
  ok run := by
    obtain ⟨same, again⟩ := settles.ok run
    exact ⟨same.trans (World.pooled_twice ..), again⟩
  error {world after fault} run := by
    obtain ⟨converted, front, same, again⟩ := settles.error run
    -- The step fails in the first turn or in the second one; only then are texts pooled twice.
    rcases List.prefix_or_prefix_of_prefix front (List.prefix_append ..) with inFirst | ⟨rest, rfl⟩
    · exact ⟨converted, inFirst.trans (List.prefix_append ..), same, again⟩
    have further : rest <+: first ++ second := (List.prefix_append_right_inj first).mp front
    rcases List.prefix_or_prefix_of_prefix further (List.prefix_append ..) with known | ⟨new, rfl⟩
    · refine ⟨first, List.prefix_append .., same.trans ?_, again⟩
      exact World.pooled_of_subset _ _ known.subset
    · exact ⟨first ++ new, further, same.trans (World.pooled_twice ..), again⟩

/-- What is done for each of some items settles no texts if it does so for each. -/
theorem mapM_nil {Item : Type} {each : Item → Build Result} {items : List Item}
    (settles : ∀ item ∈ items, Settles place [] (each item)) :
    Settles place [] (items.mapM each) := by
  induction items with
  | nil => exact pure []
  | cons item items ih =>
      rw [List.mapM_cons]
      have rest := ih fun other member => settles other (List.mem_cons_of_mem item member)
      exact (settles item List.mem_cons_self).bind fun head => rest.bind fun tail =>
        pure (head :: tail)

/-- **A text that is asked for** is settled. -/
theorem internString (place : LibraryId) (text : Phrase) :
    Settles place [text] (internString place text) where
  ok {world after symbol} run := by
    rw [internString_eq] at run
    cases run
    refine ⟨rfl, fun more => ?_⟩
    -- Once more, the text adds nothing, and what it has is what it was given first.
    have known : [text] ⊆ [text] ++ more := List.subset_append_left ..
    rw [World.pooled_pooled, internString_eq, World.pooled_pooled,
      World.pooled_of_subset _ _ known]
    have given : ((world.pooled place ([text] ++ more)).library place).stock.given text =
        (world.library place).stock.given text := by
      by_cases inside : place < world.libraries.length
      · rw [World.library_pooled_self world inside]
        exact (world.library place).stock.given_pooled_asked text more
      · rw [World.pooled, world.changeLibrary_of_length_le (Nat.le_of_not_lt inside)]
    rw [given]
  error run := by
    rw [internString_eq] at run
    cases run

/-- **What a step settles is known of every world**: which texts it has pooled, and that it comes out the
same once more. -/
theorem again (settles : Settles place texts step) (world : World) :
    ∃ converted, converted <+: texts ∧ (step.succeeds world = true → converted = texts) ∧
      step.after world = world.pooled place converted ∧
      step (step.after world) = (liftM (step.outcome world) : Build Result) (step.after world) := by
  cases run : step world with
  | ok value final =>
      obtain ⟨same, repeats⟩ := settles.ok run
      have repeated : step final = .ok value final := by
        simpa only [World.pooled_nil] using repeats []
      rw [after_of_ok run, outcome_of_ok run]
      exact ⟨texts, List.prefix_refl texts, fun _ => rfl, same, repeated⟩
  | error fault final =>
      obtain ⟨converted, front, same, repeats⟩ := settles.error run
      have repeated : step final = .error fault final := by
        simpa only [World.pooled_nil] using repeats []
      rw [after_of_error run, outcome_of_error run]
      refine ⟨converted, front, fun succeeded => ?_, same, repeated⟩
      obtain ⟨value, ran⟩ := ok_of_succeeds succeeded
      cases run.symm.trans ran

end Settles

end Build

/-! ## Conversions -/

namespace Coercion

open Build (Settles)

variable {place : LibraryId}

/-- A text settles itself. -/
theorem settles_ofPhrase (phrase : Phrase) (wanted : Option IRType) :
    Settles place [phrase] (ofPhrase (some place) phrase wanted) := by
  unfold ofPhrase
  dsimp only
  split
  next => exact (Settles.internString place phrase).bind fun symbol => .pure _
  next => exact .throw (notCoercible phrase.value wanted)

/-- What chooses the type of the items of a row settles what looks at the first item does. -/
theorem settles_wantedElement {texts : List Phrase} (value : Value) (wanted : Option IRType)
    {first : Build IRType} (settles : Settles place texts first) :
    Settles place texts (wantedElement value wanted first) ∨
      Settles place [] (wantedElement value wanted first) := by
  cases wanted with
  | none => exact .inl settles
  | some type =>
      right
      cases type with
      | array size element => exact .pure element
      | _ => exact .throw (notCoercible value _)

/-- The type of the items of a row may be that of the first item, which is then converted once more. -/
theorem settles_row {texts more : List Phrase} {value : Value} {wanted : Option IRType}
    {first : Build IRType} {Result : Type} {next : IRType → Build Result}
    (settles : Settles place texts first)
    (settlesNext : ∀ element, Settles place (texts ++ more) (next element)) :
    Settles place (texts ++ more) (wantedElement value wanted first >>= next) := by
  rcases settles_wantedElement value wanted settles with looks | looks
  -- Where no type is wanted, the first item is converted twice.
  · exact (looks.bind settlesNext).absorb
  · exact looks.bind settlesNext

/-- A value that is no row settles itself if it is a text. -/
theorem settles_coerceSingle (value : Value) (wanted : Option IRType) :
    Settles place value.phrase?.toList (coerceSingle (some place) value wanted) := by
  cases value with
  | operand known => exact .pure known
  | function reference =>
      refine Settles.get_bind (fun world texts => ?_) fun world => .pure _
      simp only [World.routineOperand, World.functionSymbol_pooled, World.routine_pooled]
  | truth value | integer value | real value | none => exact .lift _
  | text content => exact settles_ofPhrase (.text content) wanted
  | visibility known => exact settles_ofPhrase (.visibility known) wanted
  | policy known => exact settles_ofPhrase (.policy known) wanted
  | _ => exact .throw (notCoercible _ wanted)

/-- The items of a row that changes settle nothing. -/
theorem settles_rowItem (world : World) (row : LiveRow) {item : Value}
    (member : item ∈ world.rowItems row) (wanted : Option IRType) :
    Settles place [] (coerceSingle (some place) item wanted) := by
  have settles : Settles place item.phrase?.toList (coerceSingle (some place) item wanted) :=
    settles_coerceSingle item wanted
  rwa [world.phrase?_rowItems row item member] at settles

/-- A row settles the texts of its items if its items do and so does what looks at the first one. -/
theorem settles_items {items : List Value} {texts more : List Phrase} {first : Build IRType}
    {all : IRType → Build (List Operand)} (value : Value) (wanted : Option IRType)
    (front : Value.allPhrases items = texts ++ more) (settles : Settles place texts first)
    (settlesAll : ∀ element, Settles place (Value.allPhrases items) (all element)) :
    Settles place (Value.allPhrases items)
      (do
        let element ← wantedElement value wanted first
        return arrayOf element (← all element)) := by
  rw [front] at settlesAll ⊢
  refine settles_row settles fun element => ?_
  rw [← List.append_nil (texts ++ more)]
  exact (settlesAll element).bind fun elements => .pure _

mutual

/-- **A conversion settles the texts of its value.** -/
theorem settles_coerce (value : Value) (wanted : Option IRType) :
    Settles place value.phrases (coerce (some place) value wanted) := by
  cases value with
  | list items =>
      obtain ⟨texts, more, front, first⟩ := settles_coerceFirst items
      unfold coerce Value.phrases
      exact settles_items _ wanted front first (settles_coerceAll items)
  | tuple items =>
      obtain ⟨texts, more, front, first⟩ := settles_coerceFirst items
      unfold coerce Value.phrases
      exact settles_items _ wanted front first (settles_coerceAll items)
  | resolution kind target =>
      have inner := settles_coerce target
      have symbolKind (wanted : Option IRType) :
          Settles place [] (coerceSingle (some place) (.symbolKind kind) wanted) :=
        settles_coerceSingle (.symbolKind kind) wanted
      unfold coerce Value.phrases
      have rest (element : IRType) : Settles place ([] ++ target.phrases) (do
          let first ← coerceSingle (some place) (.symbolKind kind) (some element)
          return arrayOf element [first, ← coerce (some place) target (some element)]) :=
        (symbolKind _).bind fun head => (inner _).map fun tail => arrayOf element [head, tail]
      exact settles_row ((symbolKind none).map _) rest
  | liveRow row =>
      -- The row is what it holds now. Texts that are pooled change none of its items, and none is a text.
      unfold coerce Value.phrases
      refine Settles.get_bind (fun world texts => by rw [World.rowItems_pooled]) fun world => ?_
      have rest (element : IRType) : Settles place ([] ++ []) (do
          return arrayOf element (← coerceSingles (some place) (world.rowItems row) element)) :=
        (Settles.mapM_nil fun item member => settles_rowItem world row member _).map
          (arrayOf element)
      refine settles_row ?_ rest
      cases items : world.rowItems row with
      | nil => exact .throw _
      | cons first others =>
          have member : first ∈ world.rowItems row := items ▸ List.mem_cons_self
          exact (settles_rowItem world row member none).map _
  | _ =>
      unfold coerce Value.phrases
      exact settles_coerceSingle _ wanted

/-- Looking at the first of some values settles its texts. -/
theorem settles_coerceFirst (values : List Value) :
    ∃ texts more, Value.allPhrases values = texts ++ more ∧
      Settles place texts (coerceFirst (some place) values) := by
  cases values with
  | nil => exact ⟨[], _, (List.nil_append _).symm, .throw _⟩
  | cons value values =>
      have first := settles_coerce value none
      refine ⟨value.phrases, Value.allPhrases values, rfl, ?_⟩
      unfold coerceFirst
      exact first.map Operand.type

/-- Some values settle their texts one after the other. -/
theorem settles_coerceAll (values : List Value) (wanted : IRType) :
    Settles place (Value.allPhrases values) (coerceAll (some place) values wanted) := by
  cases values with
  | nil =>
      unfold coerceAll
      exact .pure []
  | cons value values =>
      have first := settles_coerce value (some wanted)
      have rest := settles_coerceAll values wanted
      unfold coerceAll Value.allPhrases
      exact first.bind fun head => rest.map (head :: ·)

end

/-- A conversion to a type that is given as a value settles the texts of its value. -/
theorem settles_coerceAs (value type : Value) :
    Settles place value.phrases (coerceAs (some place) value type) := by
  unfold coerceAs
  split
  next => exact settles_coerce value none
  next =>
      have converts : Settles place ([] ++ value.phrases) (do
          coerce (some place) value (some (← type.asType "convert"))) :=
        (Settles.lift _).bind fun wanted => settles_coerce value (some wanted)
      exact converts

/-- **A conversion is repeatable** that has converted some texts, the first ones of a value. -/
structure Repeatable (place : LibraryId) (conversion : Build Operand) (phrases texts : List Phrase)
    (world : World) : Prop where
  /-- The texts come first in the value. -/
  front : texts <+: phrases
  /-- They are all texts of the value, unless the conversion fails. -/
  all : conversion.succeeds world = true → texts = phrases
  /-- The conversion pools the texts, and changes nothing else. -/
  after : conversion.after world = world.pooled place texts
  /-- All that was declared and reported is as before. -/
  declarations : KeepsDeclarations world (conversion.after world)
  /-- The texts that were missing come behind the others, in the order of first occurrence. -/
  keys : ((conversion.after world).library place).pool.entries.keys =
    (world.library place).pool.entries.keys ++
      ((texts.map Phrase.content).removeAll (world.library place).pool.entries.keys).eraseDups
  /-- Once more, the conversion gives the same operand or fails in the same way, and changes nothing. -/
  again : conversion (conversion.after world) =
    (liftM (conversion.outcome world) : Build Operand) (conversion.after world)

/-- **Conversions only pool texts, and can be repeated**, whatever the value and the type are, and whether
or not the value can be converted. -/
theorem coerceAs_repeatable (value type : Value) {world : World}
    (inside : place < world.libraries.length) :
    ∃ texts, Repeatable place (coerceAs (some place) value type) value.phrases texts world := by
  obtain ⟨texts, front, all, after, again⟩ := (settles_coerceAs value type).again world
  have only : PoolsOnly place world (world.pooled place texts) := ⟨texts, IsEffect.refl _⟩
  refine ⟨texts, front, all, after, ?_, ?_, again⟩
  · rw [after]
    exact only.keepsDeclarations
  · rw [after, World.library_pooled_self world inside]
    exact (world.library place).stock.keys_pooled texts

/-- A list with two texts, one of which is new, and a number that is no address. -/
theorem coerceAs_repeatable_refused :
    0 < Script.overwritten.libraries.length ∧
      (coerceAs (some 0) (.list [.text "b", .text "c", .integer 7]) .none).succeeds
        Script.overwritten = false ∧
      ∃ texts, Repeatable 0 (coerceAs (some 0) (.list [.text "b", .text "c", .integer 7]) .none)
        [.text "b", .text "c"] texts Script.overwritten :=
  have inside : 0 < Script.overwritten.libraries.length := by decide +kernel
  ⟨inside, by decide +kernel, coerceAs_repeatable _ _ inside⟩

end Coercion

end StructuredIR
