import StructuredIR.Proofs.Evaluation
import StructuredIR.Proofs.Libraries

/-! # Effects of scripts

All operations that scripts know by their names lead only where an effect permits declarations, as
long as the callbacks do; so do steps, **`Script.leads_perform`**, and whole scripts,
**`Script.leads_runScript`**.

**`Script.Reaches`** relates a world to those to which every such effect leads, and
**`Script.Reachable`** holds of those that are reached from the world in which scripts begin. The
worlds that scripts leave behind are among them, and so are those in the midst of a step: a callback
may stop wherever it is called. **`Script.Attainable`** says the same of effects that permit only what
scripts do as they do it, so fewer worlds are attainable. -/

namespace StructuredIR

open Build (Leads)

section

variable {Effect : World → World → Prop} [AllowsScripts Effect]

/-! ## Operations by name -/

@[grind .]
theorem Program.leads_emitAll (places : List LibraryId) : Leads Effect (emitAll places) := by
  induction places with
  | nil => grind -linarith [emitAll]
  | cons place places ih => grind -linarith [emitAll]

namespace Script

/-- A call whose callbacks lead only where an effect permits. -/
def Call.LeadsTo (Effect : World → World → Prop) (call : Call) : Prop :=
  ∀ value, (call.interpret value).LeadsTo Effect

variable {call : Call} {verb : String} {action : Build Value}

omit [AllowsScripts Effect] in
theorem Call.LeadsTo.callback? (callbacks : call.LeadsTo Effect) (position : Nat)
    (name : String) : ∀ known ∈ call.callback? position name, known.LeadsTo Effect := by
  intro known given
  unfold Call.callback? callbackOf at given
  split at given
  · cases given
  · cases given
    exact callbacks _

omit [AllowsScripts Effect] in
theorem Call.LeadsTo.namedCallback? (callbacks : call.LeadsTo Effect) (name : String) :
    ∀ known ∈ call.namedCallback? name, known.LeadsTo Effect := by
  intro known given
  obtain ⟨value, -, given⟩ := Option.bind_eq_some_iff.mp given
  unfold callbackOf at given
  split at given
  · cases given
  · cases given
    exact callbacks _

section

variable {Effect : World → World → Prop} [AllowsNewTexts Effect]

@[grind .]
theorem leads_name (position : Nat) (name : String) : Leads Effect (call.name position name) :=
  Build.leads_nameOf _

@[grind .]
theorem leads_noResult {action : Build Unit} (leads : Leads Effect action) :
    Leads Effect (noResult action) := by
  grind -linarith [noResult]

@[grind .]
theorem leads_functionResult {action : Build FunctionRef} (leads : Leads Effect action) :
    Leads Effect (functionResult action) := by
  grind -linarith [functionResult]

@[grind .]
theorem leads_globalResult (place : LibraryId) {action : Build GlobalEntry}
    (leads : Leads Effect action) : Leads Effect (globalResult place action) := by
  grind -linarith [globalResult]

end

/-! ### Generators -/

theorem leads_onBlocks? (callbacks : call.LeadsTo Effect) {place : GeneratorId}
    (known : onBlocks? call place verb = some action) : Leads Effect action := by
  unfold onBlocks? at known
  split at known
  case h_4 =>
    cases known
    exact Generator.leads_openBlock place _ _ (callbacks.callback? 1 "body")
  case h_8 =>
    cases known
    exact Generator.leads_conditional place _ _ (callbacks.callback? 1 "then_body")
      (callbacks.callback? 2 "else_body")
  case h_9 =>
    cases known
    exact Generator.leads_loop place _ _ ⟨callbacks.callback? 1 "compare",
      callbacks.callback? 2 "increment", callbacks.callback? 4 "body"⟩
  all_goals cases known <;> grind -linarith

theorem leads_onFunctions? (callbacks : call.LeadsTo Effect) {place : GeneratorId}
    (known : onFunctions? call place verb = some action) : Leads Effect action := by
  unfold onFunctions? at known
  split at known <;> cases known
  · exact Generator.leads_call place callbacks _ _
  all_goals grind -linarith

/-- **All operations of generators** lead where an effect permits that things are built. -/
theorem leads_onGenerator? (callbacks : call.LeadsTo Effect) {place : GeneratorId}
    (known : onGenerator? call place verb = some action) : Leads Effect action := by
  simp only [onGenerator?, Option.orElse_eq_orElse, Option.orElse_eq_or, Option.or_eq_some_iff]
    at known
  rcases known with known | ⟨-, known | ⟨-, known | ⟨-, known | ⟨-, known⟩⟩⟩⟩
  · exact leads_onNumbers? known
  · exact leads_onTypes? known
  · exact leads_onMemory? known
  · exact leads_onBlocks? callbacks known
  · exact leads_onFunctions? callbacks known

/-! ### Libraries -/

section

variable {Effect : World → World → Prop} {place : LibraryId} [AllowsLibrary place Effect]

theorem leads_onDeclarations? (callbacks : call.LeadsTo Effect)
    (known : onDeclarations? call place verb = some action) : Leads Effect action := by
  unfold onDeclarations? at known
  split at known <;> cases known
  · exact leads_functionResult
      (Library.leads_define place _ _ _ (callbacks.callback? 3 "body"))
  · grind -linarith
  · grind -linarith
  · grind -linarith
  · grind -linarith
  · grind -linarith
  · exact (callbacks _ _).bind fun _ => Leads.pure _
  · grind -linarith

theorem leads_onVisibility? (callbacks : call.LeadsTo Effect)
    (known : onVisibility? call place verb = some action) : Leads Effect action := by
  unfold onVisibility? at known
  split at known <;> cases known
  · exact leads_noResult
      (Library.leads_setVisibility place _ _ (callbacks.callback? 2 "body"))
  all_goals grind -linarith

theorem leads_onDeclared?
    (known : onDeclared? call place verb = some action) : Leads Effect action := by
  unfold onDeclared? at known
  split at known
  case h_7 =>
    cases known
    exact Leads.get.bind fun _ => Leads.bind Build.leads_aside fun _ => Leads.pure _
  case h_8 =>
    cases known
    split <;> grind -linarith
  case h_9 =>
    cases known
    refine leads_noResult ((leads_flag call 0 "stream" false).bind fun flag => ?_)
    have printed : Leads Effect (do
        let text ← Build.printModule place
        modify (·.write (text ++ "\n")) : Build PUnit) :=
      (Build.leads_printModule place).bind fun _ => Build.leads_aside
    split
    · exact Leads.bind (Leads.throw _) fun _ => printed
    · exact printed
  all_goals cases known <;> grind -linarith

/-- **All operations of libraries** lead where an effect permits the library to declare
things. -/
theorem leads_onLibrary? (callbacks : call.LeadsTo Effect)
    (known : onLibrary? call place verb = some action) : Leads Effect action := by
  simp only [onLibrary?, Option.orElse_eq_orElse, Option.orElse_eq_or, Option.or_eq_some_iff]
    at known
  rcases known with known | ⟨-, known | ⟨-, known⟩⟩
  · exact leads_onDeclarations? callbacks known
  · exact leads_onVisibility? callbacks known
  · exact leads_onDeclared? known

end

/-! ### Functions and fragments -/

theorem leads_onFunction? {Effect : World → World → Prop} {reference : FunctionRef}
    [AllowsLibrary reference.owner Effect]
    (known : onFunction? call reference verb = some action) : Leads Effect action := by
  have relinked (visibility : Value) : Leads Effect (Function.relink reference visibility) :=
    Function.leads_relink reference visibility
  have entered : Leads Effect (Generator.atEntry reference) :=
    AllowsLibrary.atEntry reference rfl
  unfold onFunction? at known
  split at known <;> cases known <;> grind -linarith

theorem leads_onFragment? (callbacks : call.LeadsTo Effect) {place : FragmentId}
    (known : onFragment? call place verb = some action) : Leads Effect action := by
  unfold onFragment? at known
  split at known <;> cases known
  · exact Leads.bind (Leads.modify fun world =>
      AllowsScripts.changeFragment world place _) fun _ => Leads.pure _
  · exact Generator.leads_expand callbacks _ _ _
  · grind -linarith

/-! ### Registries, programs and symbol tables -/

theorem leads_onRegistry? {place : RegistryId}
    (known : onRegistry? call place verb = some action) : Leads Effect action := by
  unfold onRegistry? at known
  split at known <;> cases known
  · split <;> grind -linarith
  all_goals grind -linarith

theorem leads_createLibrary (callbacks : call.LeadsTo Effect) (registry : Value) :
    Leads Effect (createLibrary call registry) :=
  (Library.leads_create _ _ _ registry _ (callbacks.namedCallback? "body")).bind fun _ =>
    Leads.pure _

theorem leads_onProgram? (callbacks : call.LeadsTo Effect) {registry : RegistryId}
    (known : onProgram? call registry verb = some action) : Leads Effect action := by
  unfold onProgram? at known
  split at known <;> cases known
  · exact leads_createLibrary callbacks _
  · grind -linarith
  · grind -linarith [Program.emit]

@[grind .]
theorem leads_infoOf? (place : TableId) (name : Value) : Leads Effect (infoOf? place name) := by
  grind -linarith [infoOf?]

theorem leads_onTable? {place : TableId} (known : onTable? call place verb = some action) :
    Leads Effect action := by
  unfold onTable? at known
  split at known <;> cases known
  · refine leads_noResult ?_
    split
    · exact (Build.leads_nameOf _).bind fun _ => Build.leads_aside
    · exact Leads.throw _
  · refine (leads_infoOf? place _).bind fun info => ?_
    split <;> grind -linarith
  all_goals grind -linarith

theorem leads_onSymbolInfo? {info : SymbolInfo} (known : onSymbolInfo? info verb = some action) :
    Leads Effect action := by
  unfold onSymbolInfo? at known
  split at known <;> cases known <;> grind -linarith

/-! ### Reports and types -/

@[grind .]
theorem leads_diagnosticsOf (report : Report) (items : Value) :
    Leads Effect (diagnosticsOf report items) := by
  unfold diagnosticsOf
  split
  · exact Leads.pure _
  · refine Leads.get.bind fun world => ?_
    split
    · exact Leads.throw _
    · exact Leads.mapM (fun item => by split <;> grind) _

@[grind .]
theorem leads_formatReport (report : Report) (color : Bool) (items : Value) :
    Leads Effect (formatReport report color items) := by
  grind -linarith [formatReport]

theorem leads_onReport? {place : LibraryId} (known : onReport? call place verb = some action) :
    Leads Effect action := by
  unfold onReport? at known
  split at known <;> cases known
  · grind -linarith
  · grind -linarith
  · grind -linarith
  · refine leads_noResult ((leads_flag call 1 "use_color" false).bind fun color => ?_)
    refine Leads.get.bind fun world => ?_
    refine (leads_formatReport _ color _).bind fun text => ?_
    have written : Leads Effect (modify (·.write (text ++ "\n")) : Build PUnit) :=
      Build.leads_aside
    split
    · refine (leads_flag call 0 "stream" false).bind fun flag => ?_
      split
      · exact Leads.bind (Leads.throw _) fun _ => written
      · exact written
    · exact Leads.pure _

theorem leads_onType? {type : IRType} (known : onType? type verb = some action) :
    Leads Effect action := by
  unfold onType? at known
  split at known <;> cases known
  split <;> grind -linarith

/-! ### All operations -/

theorem leads_construct? (callbacks : call.LeadsTo Effect)
    (known : construct? call verb = some action) : Leads Effect action := by
  unfold construct? at known
  split at known <;> cases known
  · grind -linarith
  · exact leads_createLibrary callbacks _
  · grind -linarith
  · exact Leads.get.bind fun _ => Leads.bind Build.leads_aside fun _ => Leads.pure _
  · grind -linarith
  · grind -linarith

/-- **All operations on values** lead where an effect permits declarations. -/
theorem leads_onTarget? (callbacks : call.LeadsTo Effect) {target : Value}
    (known : onTarget? call target verb = some action) : Leads Effect action := by
  unfold onTarget? at known
  split at known
  · exact leads_onGenerator? callbacks known
  · exact leads_onLibrary? callbacks known
  · exact leads_onFunction? known
  · exact leads_onFragment? callbacks known
  · exact leads_onRegistry? known
  · exact leads_onProgram? callbacks known
  · exact leads_onTable? known
  · exact leads_onSymbolInfo? known
  · exact leads_onReport? known
  · exact leads_onType? known
  · cases known

theorem leads_onAnything? {target : Value} {asked : String}
    (known : onAnything? call target asked verb = some action) : Leads Effect action := by
  unfold onAnything? at known
  split at known <;> cases known <;> grind -linarith

/-! ## Steps -/

variable {interpret : Value → Callback} {scope : ScopeId} {standing : Value}

/-- **What a step says** leads only where an effect permits declarations, provided that the
callbacks do. -/
theorem leads_perform (callbacks : ∀ value, (interpret value).LeadsTo Effect) (step : Step) :
    Leads Effect (perform interpret scope standing step) := by
  unfold perform
  dsimp only
  split
  all_goals
    refine Leads.bind (by grind) fun target => ?_
    refine (leads_evaluateAll scope target step.positional).bind fun positional => ?_
    refine (leads_evaluateNamed scope target step.named).bind fun named => ?_
    have given : Call.LeadsTo Effect ⟨interpret, positional, named⟩ := callbacks
    split
    next action known =>
      simp only [Option.orElse_eq_orElse, Option.orElse_eq_or, Option.or_eq_some_iff] at known
      rcases known with known | ⟨-, known | ⟨-, known⟩⟩
      · exact leads_onAnything? known
      · exact leads_construct? given known
      · exact leads_onTarget? given known
    next => exact (leads_attributeOf target step.verb).bind fun value => callbacks value _

/-! ### What scripts keep -/

@[grind .]
theorem leads_operandView (operand : Operand) : Leads Effect (Build.operandView operand) := by
  unfold Build.operandView
  split <;> grind -linarith

@[grind .]
theorem leads_flatView (value : Value) : Leads Effect (Build.flatView value) := by
  unfold Build.flatView
  split <;> grind -linarith [Build.symbolInfoView]

@[grind .]
theorem leads_flatEntries (entries : List (Value × Value)) :
    Leads Effect (Build.flatEntries entries) := by
  induction entries with
  | nil => grind -linarith [Build.flatEntries]
  | cons entry entries ih => grind -linarith [Build.flatEntries]

mutual

/-- Viewing a value writes nothing but texts. -/
theorem leads_view (value : Value) : Leads Effect (Build.view value) := by
  cases value with
  | list items =>
      have inner := leads_viewAll items
      unfold Build.view
      grind -linarith
  | tuple items =>
      have inner := leads_viewAll items
      unfold Build.view
      grind -linarith
  | dictionary entries =>
      have inner := leads_viewEntries entries
      unfold Build.view
      grind -linarith
  | resolution kind target =>
      have inner := leads_view target
      unfold Build.view
      grind -linarith
  | _ =>
      unfold Build.view
      grind -linarith

theorem leads_viewAll (values : List Value) : Leads Effect (Build.viewAll values) := by
  cases values with
  | nil => grind -linarith [Build.viewAll]
  | cons value values =>
      have first := leads_view value
      have rest := leads_viewAll values
      unfold Build.viewAll
      grind -linarith

theorem leads_viewEntries (entries : List (Value × Value)) :
    Leads Effect (Build.viewEntries entries) := by
  cases entries with
  | nil => grind -linarith [Build.viewEntries]
  | cons entry entries =>
      obtain ⟨key, value⟩ := entry
      have first := leads_view value
      have rest := leads_viewEntries entries
      unfold Build.viewEntries
      grind -linarith

end

theorem leads_record (verb : String) (result : Except Fault View) :
    Leads Effect (record verb result) :=
  Build.leads_aside

theorem leads_noteShown (value : Value) : Leads Effect (noteShown value) := by
  unfold noteShown
  split
  · refine Build.leads_aside (fun world => ?_) (fun world => ?_) (fun world => ?_)
      fun world => ?_ <;> split <;> rfl
  · exact Leads.pure _

theorem leads_bindResult (scope : ScopeId) (step : Step) (value : Value) :
    Leads Effect (bindResult scope step value) := by
  unfold bindResult
  split <;> grind -linarith

/-- A step leads where what it says does. -/
theorem leads_runStep (callbacks : ∀ value, (interpret value).LeadsTo Effect)
    (isOutermost : Bool) (step : Step) :
    Leads Effect (runStep interpret scope standing isOutermost step) := by
  unfold runStep
  refine (leads_perform callbacks step).attempt.bind fun outcome => ?_
  cases outcome with
  | ok value =>
      refine (leads_view value).attempt.bind fun view => ?_
      refine (leads_record step.verb view).bind fun _ => ?_
      exact (leads_noteShown value).bind fun _ => leads_bindResult scope step value
  | error fault =>
      refine (leads_record step.verb _).bind fun _ => ?_
      have bound : Leads Effect (bindResult scope step .none) := leads_bindResult scope step .none
      grind -linarith

/-! ### Bodies -/

theorem leads_openScope (scope : Scope) : Leads Effect (openScope scope) :=
  Leads.get.bind fun _ => Leads.bind Build.leads_aside fun _ => Leads.pure _

theorem leads_runBody (callbacks : ∀ value, (interpret value).LeadsTo Effect) (closure : Closure)
    (arguments : List Value) : Leads Effect (runBody interpret closure arguments) := by
  unfold runBody
  dsimp only
  split
  -- With a wrong number of arguments it fails before anything is done.
  on_goal 2 => refine Leads.bind (Leads.throw _) fun _ => ?_
  all_goals
    refine (leads_openScope _).bind fun scope => ?_
    refine (Leads.forM (leads_runStep callbacks false) _).bind fun _ => ?_
    split <;> grind -linarith

@[grind .]
theorem leads_runType (type : IRType) (arguments : List Value) :
    Leads Effect (runType type arguments) := by
  unfold runType
  split <;> grind -linarith

theorem leads_runMethod (callbacks : ∀ value, (interpret value).LeadsTo Effect)
    (receiver : Value) (name : String) (arguments : List Value) :
    Leads Effect (runMethod interpret receiver name arguments) := by
  have given : Call.LeadsTo Effect ⟨interpret, arguments, []⟩ := callbacks
  unfold runMethod
  refine Leads.get.bind fun world => Leads.ite (Leads.pure _) ?_
  split
  next signature action _ known =>
    have leads := leads_onTarget? given known
    grind -linarith
  next => exact Leads.throw _

/-- Values are called at every depth by steps that lead only where an effect permits. -/
theorem leads_interpret (depth : Nat) (value : Value) :
    (Script.interpret depth value).LeadsTo Effect := by
  induction depth generalizing value with
  | zero => exact fun _ => Leads.throw _
  | succ depth ih =>
      intro arguments
      change Leads Effect (runValue (Script.interpret depth) value arguments)
      unfold runValue
      split
      · exact leads_runBody ih _ arguments
      · exact leads_runType _ arguments
      · exact leads_runMethod ih _ _ arguments
      · exact Leads.throw _

/-- **Scripts** lead only where an effect permits declarations. -/
theorem leads_runScript (steps : List Step) : Leads Effect (runScript steps) := by
  have final (places : List LibraryId) : Leads Effect (finalLibraries places) := by
    induction places with
    | nil => exact Leads.pure _
    | cons place places ih =>
        refine (Build.leads_printModule place).attempt.bind fun text => ?_
        exact Leads.get.bind fun world => ih.bind fun rest => Leads.pure _
  refine (Leads.forM (leads_runStep (leads_interpret maximalDepth) true) steps).bind fun _ => ?_
  exact Leads.get.bind fun world => final _

end Script

end

/-! ## Reachable worlds -/

namespace Script

/-- **Scripts may lead from one world to another**: every effect that permits what scripts do leads
there. -/
def Reaches (before after : World) : Prop :=
  ∀ (Effect : World → World → Prop) [AllowsDeclarations Effect], Effect before after

/-- **A world that can be reached** from the world in which scripts begin. -/
def Reachable (world : World) : Prop :=
  Reaches initialWorld world

variable {world : World}

instance : IsEffect Reaches where
  refl world := fun _ => IsEffect.refl world
  trans first second := fun Effect _ => IsEffect.trans (first Effect) (second Effect)

/-- What only does what scripts can do leads where scripts may lead. -/
theorem leads_reaches {Result : Type} {step : Build Result}
    (leads : ∀ (Effect : World → World → Prop) [AllowsDeclarations Effect], Leads Effect step) :
    Leads Reaches step :=
  fun world Effect _ => leads Effect world

/-- Scripts begin in a world that can be reached. -/
theorem reachable_initialWorld : Reachable initialWorld :=
  fun _ => IsEffect.refl initialWorld

namespace Reachable

/-- What scripts lead to from a world that can be reached can be reached. -/
theorem reaches {after : World} (reachable : Reachable world) (further : Reaches world after) :
    Reachable after :=
  IsEffect.trans reachable further

/-- What only does what scripts can do leads on to worlds that can be reached. -/
theorem after {Result : Type} {step : Build Result} (reachable : Reachable world)
    (leads : ∀ (Effect : World → World → Prop) [AllowsDeclarations Effect], Leads Effect step) :
    Reachable (step.after world) :=
  reachable.reaches (leads_reaches leads world)

/-- A step leads on to worlds that can be reached, whatever its callbacks do of what scripts can do.
They may stop at any time, so the worlds in the midst of a step can be reached. -/
theorem perform (reachable : Reachable world) {interpret : Value → Callback}
    (callbacks : ∀ (Effect : World → World → Prop) [AllowsDeclarations Effect] (value : Value),
      (interpret value).LeadsTo Effect) (scope : ScopeId) (standing : Value) (step : Step) :
    Reachable ((perform interpret scope standing step).after world) :=
  reachable.after fun Effect _ => leads_perform (callbacks Effect) step

/-- A step of a script leads on to a world that can be reached. -/
theorem runStep (reachable : Reachable world) (depth : Nat) (scope : ScopeId) (standing : Value)
    (isOutermost : Bool) (step : Step) :
    Reachable ((runStep (interpret depth) scope standing isOutermost step).after world) :=
  reachable.after fun _ _ => leads_runStep (leads_interpret depth) isOutermost step

/-- What holds where scripts begin, and is kept by what scripts do, holds of every world that can be
reached. -/
theorem holds {Property : World → Prop} [AllowsDeclarations (Preserves Property)]
    (reachable : Reachable world) (initial : Property initialWorld) : Property world :=
  reachable (Preserves Property) initial

end Reachable

/-- **Every script** leads to a world that can be reached. -/
theorem reachable_runScript (steps : List Step) :
    Reachable ((runScript steps).after initialWorld) :=
  reachable_initialWorld.after fun _ _ => leads_runScript steps

end Script

/-! ## Attainable worlds -/

namespace Script

/-- Scripts lead from one world to another by what they do, as they do it. -/
def Attains (before after : World) : Prop :=
  ∀ (Effect : World → World → Prop) [AllowsScripts Effect], Effect before after

/-- **A world that scripts attain** from the world in which they begin. -/
def Attainable (world : World) : Prop :=
  Attains initialWorld world

variable {world : World}

instance : IsEffect Attains where
  refl world := fun _ => IsEffect.refl world
  trans first second := fun Effect _ => IsEffect.trans (first Effect) (second Effect)

/-- Scripts begin in a world that they attain. -/
theorem attainable_initialWorld : Attainable initialWorld :=
  fun _ => IsEffect.refl initialWorld

namespace Attainable

/-- A world that scripts attain can be reached. -/
theorem reachable (attainable : Attainable world) : Reachable world :=
  fun Effect _ => attainable Effect

/-- What only does what scripts do leads on to worlds that they attain. -/
theorem after {Result : Type} {step : Build Result} (attainable : Attainable world)
    (leads : ∀ (Effect : World → World → Prop) [AllowsScripts Effect], Leads Effect step) :
    Attainable (step.after world) :=
  IsEffect.trans attainable fun Effect _ => leads Effect world

/-- A step leads on to worlds that scripts attain, whatever its callbacks do of what scripts do. They
may stop at any time, so the worlds in the midst of a step are attained. -/
theorem perform (attainable : Attainable world) {interpret : Value → Callback}
    (callbacks : ∀ (Effect : World → World → Prop) [AllowsScripts Effect] (value : Value),
      (interpret value).LeadsTo Effect) (scope : ScopeId) (standing : Value) (step : Step) :
    Attainable ((perform interpret scope standing step).after world) :=
  attainable.after fun Effect _ => leads_perform (callbacks Effect) step

/-- What holds where scripts begin, and is kept by what they do, holds of every world that they
attain. -/
theorem holds {Property : World → Prop} [AllowsScripts (Preserves Property)]
    (attainable : Attainable world) (initial : Property initialWorld) : Property world :=
  attainable (Preserves Property) initial

end Attainable

/-- **Every script** leads to a world that scripts attain. -/
theorem attainable_runScript (steps : List Step) :
    Attainable ((runScript steps).after initialWorld) :=
  attainable_initialWorld.after fun _ _ => leads_runScript steps

end Script

end StructuredIR
