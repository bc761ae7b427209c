import StructuredIR.Proofs.Texts

/-! # Effects of coercions

Values become operands by steps that change nothing but the texts that are kept and the string
pool of a library; calls may also declare what they call in the module of a library. Everything that
generators do before an instruction exists then leads only where an effect permits this.

* **`AllowsPool`** says that an effect permits texts to be pooled in a library, if there is one, and
  **`AllowsSymbolsIn`** that it permits routines to be declared there as well; **`AllowsSymbols`**
  says this of all libraries.
* **`AllowsPoolAt`** and **`AllowsSymbolsAt`** say it of the library that a generator works for, and
  **`While`** is an effect for as long as a generator is what it is. -/

namespace StructuredIR

open Build (Leads)

/-- An effect that permits texts to be pooled in a library, if there is one. -/
class AllowsPool (pool : Option LibraryId) (Effect : World → World → Prop) : Prop
    extends AllowsNewTexts Effect where
  /-- A text may be pooled. -/
  intern (place : LibraryId) (text : Phrase) :
    place ∈ pool → Leads Effect (Build.internString place text)

/-- An effect that permits texts to be pooled and routines to be declared in a library. -/
class AllowsSymbolsIn (place : LibraryId) (Effect : World → World → Prop) : Prop
    extends AllowsPool (some place) Effect where
  /-- A routine may be declared. -/
  routine (name : Name) (result : IRType) (parameters : List IRType) (isVariadic : Bool) :
    Leads Effect
      (Build.declareSymbol place name (.routine (.declare result parameters isVariadic)))

/-- An effect that permits texts to be pooled and routines to be declared. -/
class AllowsSymbols (Effect : World → World → Prop) : Prop extends AllowsNewTexts Effect where
  /-- A text may be pooled. -/
  intern (place : LibraryId) (text : Phrase) : Leads Effect (Build.internString place text)
  /-- A routine may be declared. -/
  routine (place : LibraryId) (name : Name) (result : IRType) (parameters : List IRType)
    (isVariadic : Bool) :
    Leads Effect
      (Build.declareSymbol place name (.routine (.declare result parameters isVariadic)))

section

variable {Effect : World → World → Prop}

instance [AllowsNewTexts Effect] : AllowsPool none Effect where
  intern _ _ := nofun

instance (place : LibraryId) [AllowsSymbols Effect] : AllowsSymbolsIn place Effect where
  intern _ text _ := AllowsSymbols.intern _ text
  routine := AllowsSymbols.routine place

/-! ## Symbols -/

@[grind .]
theorem Build.leads_internString (place : LibraryId) [AllowsPool (some place) Effect]
    (text : Phrase) : Leads Effect (internString place text) :=
  (inferInstance : AllowsPool (some place) Effect).intern place text rfl

variable (place : LibraryId) [AllowsSymbolsIn place Effect]

/-- A routine that is not there yet is declared. -/
@[grind .]
theorem Build.leads_ensureRoutine (name : Name) (result : IRType) (parameters : List IRType)
    (isVariadic : Bool) :
    Leads Effect (ensureRoutine place name (.declare result parameters isVariadic)) := by
  have declared : Leads Effect (declareSymbol place name
      (.routine (.declare result parameters isVariadic))) :=
    AllowsSymbolsIn.routine name result parameters isVariadic
  grind -linarith [ensureRoutine]

@[grind .]
theorem Function.leads_callee (reference : FunctionRef) :
    Leads Effect (callee place reference) := by
  grind -linarith [callee]

end

/-! ## Operands of values -/

namespace Coercion

variable {Effect : World → World → Prop}

@[grind .]
theorem leads_ofPhrase (pool : Option LibraryId) [AllowsPool pool Effect] (phrase : Phrase) (wanted : Option IRType) :
    Leads Effect (ofPhrase pool phrase wanted) := by
  unfold ofPhrase
  split <;> grind -linarith

@[grind .]
theorem leads_wantedElement [IsEffect Effect] (value : Value) (wanted : Option IRType) {first : Build IRType}
    (leads : Leads Effect first) : Leads Effect (wantedElement value wanted first) := by
  unfold wantedElement
  split <;> grind -linarith

@[grind .]
theorem leads_coerceSingle (pool : Option LibraryId) [AllowsPool pool Effect] (value : Value) (wanted : Option IRType) :
    Leads Effect (coerceSingle pool value wanted) := by
  unfold coerceSingle
  split <;> grind -linarith

@[grind .]
theorem leads_coerceSingles (pool : Option LibraryId) [AllowsPool pool Effect] (values : List Value) (wanted : IRType) :
    Leads Effect (coerceSingles pool values wanted) :=
  Leads.mapM (fun value => leads_coerceSingle pool value (some wanted)) values

mutual

/-- Coercing a value pools texts and does nothing else. -/
theorem leads_coerce (pool : Option LibraryId) [AllowsPool pool Effect] (value : Value) (wanted : Option IRType) :
    Leads Effect (coerce pool value wanted) := by
  cases value with
  | list items =>
      have first := leads_coerceFirst pool items
      have all := leads_coerceAll pool items
      unfold coerce
      grind -linarith
  | tuple items =>
      have first := leads_coerceFirst pool items
      have all := leads_coerceAll pool items
      unfold coerce
      grind -linarith
  | resolution kind target =>
      have inner := leads_coerce pool target
      unfold coerce
      grind -linarith
  | liveRow row =>
      unfold coerce
      refine Leads.get.bind fun world => ?_
      refine (leads_wantedElement _ wanted ?_).bind fun element => ?_
      · split <;> grind -linarith
      · grind -linarith
  | _ =>
      unfold coerce
      grind -linarith

theorem leads_coerceFirst (pool : Option LibraryId) [AllowsPool pool Effect] (values : List Value) :
    Leads Effect (coerceFirst pool values) := by
  cases values with
  | nil => grind -linarith [coerceFirst]
  | cons value values =>
      have first := leads_coerce pool value
      unfold coerceFirst
      grind -linarith

theorem leads_coerceAll (pool : Option LibraryId) [AllowsPool pool Effect] (values : List Value) (wanted : IRType) :
    Leads Effect (coerceAll pool values wanted) := by
  cases values with
  | nil => grind -linarith [coerceAll]
  | cons value values =>
      have first := leads_coerce pool value
      have rest := leads_coerceAll pool values wanted
      unfold coerceAll
      grind -linarith

end

attribute [grind .] leads_coerce

@[grind .]
theorem leads_coerceAs (pool : Option LibraryId) [AllowsPool pool Effect] (value type : Value) :
    Leads Effect (coerceAs pool value type) := by
  unfold coerceAs
  split <;> grind -linarith

end Coercion

/-! ## Operands of generators -/

/-- An effect that permits texts to be pooled in the library that a generator works for. -/
class AllowsPoolAt (place : GeneratorId) (Effect : World → World → Prop) : Prop
    extends AllowsNewTexts Effect where
  /-- A text may be pooled. -/
  intern (world : World) (text : Phrase) :
    Effect world ((Build.internString (world.generator place).function.owner text).after world)

/-- An effect that permits texts to be pooled and routines to be declared in the library that a
generator works for. -/
class AllowsSymbolsAt (place : GeneratorId) (Effect : World → World → Prop) : Prop
    extends AllowsPoolAt place Effect where
  /-- A routine may be declared. -/
  routine (world : World) (name : Name) (result : IRType) (parameters : List IRType)
    (isVariadic : Bool) :
    Effect world ((Build.declareSymbol (world.generator place).function.owner name
      (.routine (.declare result parameters isVariadic))).after world)

/-- **An effect for as long as a generator is what it is**, which it then stays. -/
def While (place : GeneratorId) (generator : Generator) (Effect : World → World → Prop)
    (before after : World) : Prop :=
  before.generator place = generator → Effect before after ∧ after.generator place = generator

/-- Declaring a symbol leaves the generators as they are. -/
theorem Build.generators_declareSymbol (place : LibraryId) (name : Name) (content : Content)
    (world : World) : ((declareSymbol place name content).after world).generators =
      world.generators := by
  rcases declared : (world.library place).module.declare name.key ⟨name.shown, content⟩
    with fault | module
  all_goals
    simp only [Build.after, Build.declareSymbol, bind, EStateM.bind, get, getThe,
      MonadStateOf.get, EStateM.get, declared]
    rfl

section

variable {Effect : World → World → Prop} {place : GeneratorId} {generator : Generator}
  {Result Next : Type}

/-- What leaves the generators as they are stays with a generator. -/
theorem While.of_generators {before after : World} (permitted : Effect before after)
    (same : after.generators = before.generators) : While place generator Effect before after :=
  fun here => ⟨permitted, by rw [World.generator, same, ← World.generator, here]⟩

/-- What leads where an effect permits as long as a generator is what it is leads there. -/
theorem leads_of_while (place : GeneratorId) {step : Build Result}
    (leads : ∀ generator, Leads (While place generator Effect) step) : Leads Effect step :=
  fun world => (leads (world.generator place) world rfl).1

instance [IsEffect Effect] : IsEffect (While place generator Effect) where
  refl world here := ⟨IsEffect.refl world, here⟩
  trans first second here :=
    have ⟨permitted, there⟩ := first here
    ⟨IsEffect.trans permitted (second there).1, (second there).2⟩

instance [AllowsNewTexts Effect] : AllowsNewTexts (While place generator Effect) where
  held other text soFar new here :=
    have ⟨permitted, there⟩ := soFar here
    ⟨AllowsNewTexts.held other text permitted new, there⟩
  block other text soFar new here :=
    have ⟨permitted, there⟩ := soFar here
    ⟨AllowsNewTexts.block other text permitted new, there⟩
  global symbol text soFar new here :=
    have ⟨permitted, there⟩ := soFar here
    ⟨AllowsNewTexts.global symbol text permitted new, there⟩

instance [AllowsPoolAt place Effect] :
    AllowsPool (some generator.function.owner) (While place generator Effect) where
  intern owner text same world here := by
    obtain rfl : generator.function.owner = owner := Option.some.inj same
    subst here
    exact While.of_generators (AllowsPoolAt.intern world text) rfl rfl

instance [AllowsSymbolsAt place Effect] :
    AllowsSymbolsIn generator.function.owner (While place generator Effect) where
  routine name result parameters isVariadic world here := by
    subst here
    exact While.of_generators
      (AllowsSymbolsAt.routine world name result parameters isVariadic)
      (Build.generators_declareSymbol ..) rfl

instance [AllowsPoolAt place Effect] : AllowsPoolAt place (While place generator Effect) where
  intern world text := .of_generators (AllowsPoolAt.intern world text) rfl

instance [AllowsSymbolsAt place Effect] :
    AllowsSymbolsAt place (While place generator Effect) where
  routine world name result parameters isVariadic :=
    .of_generators (AllowsSymbolsAt.routine world name result parameters isVariadic)
      (Build.generators_declareSymbol ..)

instance [AllowsSymbols Effect] : AllowsSymbolsAt place Effect where
  intern world text := AllowsSymbols.intern _ text world
  routine world name result parameters isVariadic :=
    AllowsSymbols.routine _ name result parameters isVariadic world

end

namespace Generator

variable {Effect : World → World → Prop}

/-- A generator knows the library that it works for. -/
theorem while_library {place : GeneratorId} {generator : Generator} {Result : Type}
    {next : LibraryId → Build Result}
    (leads : Leads (While place generator Effect) (next generator.function.owner)) :
    Leads (While place generator Effect) (library place >>= next) := by
  intro world here
  subst here
  exact leads world rfl

local grind_pattern while_library => Leads (While place generator Effect) (library place >>= next)

@[grind .]
theorem leads_knownIndex [AllowsNewTexts Effect] (index : Value) :
    Leads Effect (knownIndex index) := by
  unfold knownIndex
  split <;> grind -linarith

@[grind .]
theorem leads_heapFunction (place : LibraryId) [AllowsSymbolsIn place Effect] (name : String)
    (parameter result : IRType) : Leads Effect (heapFunction place name parameter result) := by
  unfold heapFunction
  refine Leads.get.bind fun world => ?_
  split <;> grind -linarith

@[grind .]
theorem leads_library [IsEffect Effect] (place : GeneratorId) : Leads Effect (library place) := by
  grind -linarith [library]

@[grind .]
theorem leads_position [IsEffect Effect] (place : GeneratorId) : Leads Effect (position place) := by
  grind -linarith [position]

@[grind .]
theorem leads_isVoid [IsEffect Effect] (place : GeneratorId) : Leads Effect (isVoid place) := by
  grind -linarith [isVoid]

@[grind .]
theorem leads_lookUpGlobal [AllowsNewTexts Effect] (place : GeneratorId) (name : Value) :
    Leads Effect (lookUpGlobal place name) := by
  grind -linarith [lookUpGlobal]

variable (place : GeneratorId) [AllowsPoolAt place Effect]

@[grind .]
theorem leads_coerce (value : Value) (wanted : Option IRType) :
    Leads Effect (coerce place value wanted) := by
  refine leads_of_while place fun generator => ?_
  grind -linarith [coerce]

@[grind .]
theorem leads_coerceEach (values : List Value) : Leads Effect (coerceEach place values) := by
  induction values with
  | nil => grind -linarith [coerceEach]
  | cons value values ih => grind -linarith [coerceEach]

@[grind .]
theorem leads_coercePointer (operation : String) (value : Value) :
    Leads Effect (coercePointer place operation value) := by
  grind -linarith [coercePointer]

@[grind .]
theorem leads_coercePair (left right : Value) : Leads Effect (coercePair place left right) := by
  unfold coercePair
  split <;> grind -linarith

@[grind .]
theorem leads_coerceArgument (value : Value) (parameter : IRType) :
    Leads Effect (coerceArgument place value parameter) := by
  unfold coerceArgument
  split <;> grind -linarith

@[grind .]
theorem leads_coerceArguments (parameters : List IRType) (values : List Value) :
    Leads Effect (coerceArguments place parameters values) := by
  induction parameters generalizing values with
  | nil => grind -linarith [coerceArguments]
  | cons parameter parameters ih =>
      cases values with
      | nil => grind -linarith [coerceArguments]
      | cons value values => grind -linarith [coerceArguments]

@[grind .]
theorem leads_coerceIndices (indices : List Value) : Leads Effect (coerceIndices place indices) := by
  induction indices with
  | nil => grind -linarith [coerceIndices]
  | cons index indices ih => grind -linarith [coerceIndices]

end Generator

end StructuredIR
