import StructuredIR.Proofs.Declarations
import StructuredIR.Proofs.Library.Choices

/-! # Effects of the operations of libraries

Every operation of a library leads only where an effect permits the library to declare things,
whether or not it fails: **`Library.leads_define`**, **`Library.leads_declareGlobal`**,
**`Library.leads_setVisibility`** and **`Library.leads_importFrom`** among them. New libraries come up
where an effect permits what scripts do, **`Library.leads_create`**. -/

namespace StructuredIR

open Build (Leads bind_eq_ok get_eq_ok pure_eq_ok throw_ne_ok)

/-! ## Registries and warnings -/

section

variable {Effect : World → World → Prop} [AllowsAside Effect]

namespace Registry

@[grind .]
theorem leads_create : Leads Effect create :=
  Leads.get.bind fun _ => Leads.bind Build.leads_aside fun _ => Leads.pure _

@[grind .]
theorem leads_requireFree (place : RegistryId) (name : Phrase) :
    Leads Effect (requireFree place name) := by
  grind -linarith [requireFree]

@[grind .]
theorem leads_enter (place : RegistryId) (name : Phrase) (library : LibraryId) :
    Leads Effect (enter place name library) :=
  Build.leads_aside

@[grind .]
theorem leads_register (place : RegistryId) (library : LibraryId) :
    Leads Effect (register place library) := by
  grind -linarith [register]

@[grind .]
theorem leads_unregister (place : RegistryId) (key : Key) :
    Leads Effect (unregister place key) :=
  Leads.get.bind fun _ => Leads.bind Build.leads_aside fun _ => Leads.pure _

end Registry

namespace Library

/-! ### Libraries -/

@[grind .]
theorem leads_makeUpName : Leads Effect makeUpName :=
  Leads.get.bind fun _ => Leads.bind Build.leads_aside fun _ => Leads.pure _

@[grind .]
theorem leads_note (report : Report) (echo : Value) (cause : Cause) :
    Leads Effect (note report echo cause) :=
  Build.leads_note report echo _ _

@[grind .]
theorem leads_chooseName (report : Report) (echo name : Value) :
    Leads Effect (chooseName report echo name) := by
  unfold chooseName
  split <;> grind -linarith

omit [AllowsAside Effect] in
@[grind .]
theorem leads_tryKey [AllowsNewTexts Effect] (value : Value) : Leads Effect (Build.tryKey value) := by
  unfold Build.tryKey
  split
  · exact Leads.pure _
  · refine Leads.tryCatch ?_ fun fault => ?_ <;> grind -linarith

@[grind .]
theorem leads_chooseVisibility (report : Report) (echo visibility : Value) :
    Leads Effect (chooseVisibility report echo visibility) := by
  unfold chooseVisibility
  refine (leads_tryKey visibility).bind fun _ => ?_
  split <;> grind -linarith

@[grind .]
theorem leads_choosePolicy (report : Report) (echo policy : Value) :
    Leads Effect (choosePolicy report echo policy) := by
  unfold choosePolicy
  refine (leads_tryKey policy).bind fun _ => ?_
  split <;> grind -linarith

end Library

end

/-- A library may record a warning. -/
@[grind .]
theorem Build.leads_warnOf {Effect : World → World → Prop} (place : LibraryId) [AllowsReport place Effect] (code message : String) :
    Leads Effect (warnOf place code message) :=
  Leads.get.bind fun _ => (leads_note _ _ code message).bind fun report =>
    Leads.modify fun world => AllowsReport.changeReport world report

@[grind .]
theorem Build.leads_warn {Effect : World → World → Prop} (place : LibraryId) [AllowsReport place Effect] (cause : Cause) :
    Leads Effect (warn place cause) :=
  leads_warnOf place _ _

/-! ## Names -/

/-- A change of a global that changes nothing. -/
theorem Module.changeGlobal_id (module : Module) (place : Nat) :
    module.changeGlobal place id = module := by
  refine congrArg (Module.mk module.name)
    ((congrArg (module.symbols.modify place) (funext fun entry => ?_)).trans (List.modify_id ..))
  obtain ⟨key, name, content⟩ := entry
  cases content <;> rfl

theorem World.changeGlobal_id (world : World) (symbol : SymbolRef) :
    world.changeGlobal symbol id = world :=
  world.changeLibrary_self _
    (congrArg (fun module => { world.library symbol.owner with module })
      (Module.changeGlobal_id (world.library symbol.owner).module symbol.place))

namespace Library

section

variable {Effect : World → World → Prop}

@[grind .]
theorem leads_requireFree [AllowsNewTexts Effect] {Entry : Type} (place : LibraryId) (kind : String)
    (name : Name) (entries : Dictionary Key Entry) :
    Leads Effect (requireFree place kind name entries) := by
  grind -linarith [requireFree]

/-- A name that is not refused is free. -/
theorem requireFree_ok {Entry : Type} {place : LibraryId} {kind : String} {name : Name}
    {entries : Dictionary Key Entry} {world after : World} {value : Unit}
    (run : requireFree place kind name entries world = .ok value after) :
    name.key ∉ entries.keys := by
  intro known
  unfold requireFree at run
  rw [if_pos ((Dictionary.holds_iff entries name.key).mpr known)] at run
  obtain ⟨_, _, -, run⟩ := bind_eq_ok.mp run
  obtain ⟨_, _, -, run⟩ := bind_eq_ok.mp run
  exact throw_ne_ok run

@[grind .]
theorem leads_symbolName [AllowsNewTexts Effect] (library : Library) (name : Value) :
    Leads Effect (symbolName library name) := by
  unfold symbolName
  split <;> grind -linarith

@[grind .]
theorem leads_importName (place : LibraryId) [AllowsReport place Effect] (kind : String)
    (name : Name) (source : Library) (entries taken : List Key) :
    Leads Effect (importName place kind name source entries taken) := by
  unfold importName
  refine (Build.leads_plain _).bind fun plain => ?_
  dsimp only
  refine (Build.leads_plain _).bind fun imported => ?_
  split <;> grind -linarith

/-- A name that is imported is free. -/
theorem importName_free {place : LibraryId} {kind : String} {name imported : Name}
    {source : Library} {entries taken : List Key} {world after : World}
    (run : importName place kind name source entries taken world = .ok (some imported) after) :
    imported.key ∉ entries := by
  obtain ⟨causes, chosen, -⟩ := importName_ok run
  cases chosen with
  | free _ _ notHeld => exact notHeld

end

/-! ## What stays free -/

/-- The globals that a library lists are the same. -/
def SameGlobals (place : LibraryId) (before after : World) : Prop :=
  (after.library place).globals = (before.library place).globals

section

variable {place : LibraryId}

/-- A change of a library that keeps what it lists. -/
theorem SameGlobals.changeLibrary (world : World) (other : LibraryId) {update : Library → Library}
    (same : ∀ library, (update library).globals = library.globals) :
    SameGlobals place world (world.changeLibrary other update) := by
  rw [SameGlobals, World.library_changeLibrary]
  split
  next here => rw [same, here.1]
  next => rfl

instance : IsEffect (SameGlobals place) where
  refl _ := rfl
  trans first second := second.trans first

instance : AllowsTexts (SameGlobals place) where
  held _ _ _ := rfl
  block world _ _ := .changeLibrary world _ fun _ => rfl
  global world _ _ := .changeLibrary world _ fun _ => rfl

instance : AllowsReport place (SameGlobals place) where
  aside libraries _ _ _ := by rw [SameGlobals, World.library, libraries, ← World.library]
  changeReport world _ := .changeLibrary world _ fun _ => rfl

instance : AllowsPool (some place) (SameGlobals place) where
  intern _ _ _ world := .changeLibrary world _ fun _ => rfl

end

end Library

/-! ## Declarations -/

/-- A function may be given another visibility. -/
theorem Function.leads_relink {Effect : World → World → Prop} (reference : FunctionRef)
    [AllowsLibrary reference.owner Effect] (visibility : Value) :
    Leads Effect (relink reference visibility) := by
  intro world
  unfold relink
  rw [Build.after_get_bind]
  split
  next => exact IsEffect.refl world
  next key function there =>
    split
    next => exact IsEffect.refl world
    next => exact AllowsLibrary.relinkFunction world reference key function visibility rfl there

namespace Library

section

variable {Effect : World → World → Prop} (place : LibraryId) [AllowsLibrary place Effect]

/-! ### Functions and fragments -/

@[grind .]
theorem leads_declareFunction (name : Name) (parameters result : Value)
    {symbolName : Build Value} (visibility : Visibility) (isDeclaration : Bool)
    (naming : Leads Effect symbolName) :
    Leads Effect
      (declareFunction place name parameters result symbolName visibility isDeclaration) := by
  unfold declareFunction
  refine Leads.get.bind fun world => (leads_requireFree place _ name _).bind fun _ => ?_
  refine Leads.get.bind fun seen => (Leads.lift _).bind fun signature => ?_
  refine (Leads.lift _).bind fun result => naming.bind fun shown => ?_
  refine (Build.leads_nameOf shown).bind fun symbol => ?_
  exact AllowsLibrary.addFunction name.key _ _ _ _ _ _

/-- A function that has been declared is in the library. -/
theorem declareFunction_owner {name : Name} {parameters result : Value} {symbolName : Build Value}
    {visibility : Visibility} {isDeclaration : Bool} {world after : World} {reference : FunctionRef}
    (run : declareFunction place name parameters result symbolName visibility isDeclaration world =
      .ok reference after) : reference.owner = place := by
  obtain ⟨_, _, -, run⟩ := bind_eq_ok.mp run
  obtain ⟨_, _, -, run⟩ := bind_eq_ok.mp run
  obtain ⟨_, _, -, run⟩ := bind_eq_ok.mp run
  obtain ⟨_, _, -, run⟩ := bind_eq_ok.mp run
  obtain ⟨_, _, -, run⟩ := bind_eq_ok.mp run
  obtain ⟨_, _, -, run⟩ := bind_eq_ok.mp run
  obtain ⟨_, _, -, run⟩ := bind_eq_ok.mp run
  obtain ⟨_, _, -, run⟩ := bind_eq_ok.mp run
  obtain ⟨_, _, -, run⟩ := bind_eq_ok.mp run
  obtain ⟨_, _, -, run⟩ := bind_eq_ok.mp run
  obtain ⟨rfl, -⟩ := pure_eq_ok.mp run
  rfl

theorem leads_define (name parameters result : Value) {body : Option Callback}
    (callback : ∀ known ∈ body, known.LeadsTo Effect) :
    Leads Effect (define place name parameters result body) := by
  unfold define
  refine (Build.leads_nameOf name).bind fun name => Leads.get.bind fun world => ?_
  refine (leads_declareFunction place name _ _ _ _ (leads_symbolName _ _)).bindFrom ?_
  intro _ reference between run
  have owner := declareFunction_owner place run
  cases body with
  | none => exact IsEffect.refl between
  | some body =>
      exact (AllowsLibrary.atEntry reference owner).bind (fun _ =>
        (callback body rfl _).bind fun _ => Leads.pure _) between

@[grind .]
theorem leads_declareExternal (name parameters result : Value) :
    Leads Effect (declareExternal place name parameters result) := by
  grind -linarith [declareExternal]

@[grind .]
theorem leads_declareFragment (name body : Value) :
    Leads Effect (declareFragment place name body) := by
  unfold declareFragment
  refine (Build.leads_nameOf name).bind fun name => Leads.get.bind fun world => ?_
  dsimp only
  refine (leads_requireFree place _ name _).bind fun _ => ?_
  exact AllowsLibrary.addEntry name.key _

/-! ### Globals -/

omit [AllowsLibrary place Effect] in
/-- An external global is asked for and entered as it is. -/
theorem externalGlobal_bind (key : Key) (name : Name) (type : Value) :
    (do
      let entry ← externalGlobal place name type
      enterGlobal place key entry
      return entry : Build GlobalEntry) =
    (do
      let target ← type.asType "global"
      addGlobal place key name target id name.shown .isPublic) := by
  have unchanged (symbol : SymbolRef) :
      (modify (·.changeGlobal symbol id) : Build PUnit) = pure ⟨⟩ :=
    funext fun world => congrArg (EStateM.Result.ok PUnit.unit) (world.changeGlobal_id symbol)
  simp only [externalGlobal, addGlobal, unchanged, bind_assoc, pure_bind]

omit [AllowsLibrary place Effect] in
/-- A defined global is asked for, changed and entered. -/
theorem definedGlobal_bind (key : Key) (name : Name) (value : Value) :
    (do
      let entry ← definedGlobal place name value
      enterGlobal place key entry
      return entry : Build GlobalEntry) =
    (do
      let initial ← Coercion.coerce (some place) value none
      let library := (← get).library place
      let symbolName ← Build.nameOf (← symbolName library name.shown)
      addGlobal place key symbolName initial.type (fun global =>
        { global with
          initial := some initial
          isPrivate := global.isPrivate || library.visibility == .isPrivate })
        name.shown library.visibility) := by
  simp only [definedGlobal, addGlobal, bind_assoc, pure_bind]

@[grind .]
theorem leads_declareGlobal (name valueOrType : Value) :
    Leads Effect (declareGlobal place name valueOrType) := by
  unfold declareGlobal
  refine (Build.leads_nameOf name).bind fun name => ?_
  intro world
  rw [Build.after_get_bind]
  refine Build.permitted_bind (leads_requireFree place _ name _ world) fun _ seen run => ?_
  -- The name stays free until the global is entered.
  have free : name.key ∉ (seen.library place).globals.keys := by
    have same : SameGlobals place world seen := (leads_requireFree place _ name _).of_ok run
    rw [same]
    exact requireFree_ok run
  split
  · rw [externalGlobal_bind]
    refine Build.permitted_bind (Leads.lift _ seen) fun target first run => ?_
    obtain rfl : seen = first := (Build.lift_eq_ok.mp run).2
    exact AllowsLibrary.addGlobal seen _ _ _ _ _ _ free (fun _ => rfl) fun _ => by simp
  · rw [definedGlobal_bind]
    refine Build.permitted_bind (Coercion.leads_coerce _ _ _ seen) fun initial first run => ?_
    have firstSame : SameGlobals place seen first := (Coercion.leads_coerce _ _ _).of_ok run
    rw [Build.after_get_bind]
    refine Build.permitted_bind (leads_symbolName _ _ first) fun shown second run => ?_
    have secondSame : SameGlobals place first second := (leads_symbolName _ _).of_ok run
    refine Build.permitted_bind (Build.leads_nameOf _ second) fun named third run => ?_
    have thirdSame : SameGlobals place second third := (Build.leads_nameOf _).of_ok run
    have same : SameGlobals place seen third :=
      IsEffect.trans firstSame (IsEffect.trans secondSame thirdSame)
    exact AllowsLibrary.addGlobal third _ _ _ _ _ _ (by rwa [same]) (fun _ => rfl) fun _ => rfl

@[grind .]
theorem leads_declareConstant (name valueOrType : Value) :
    Leads Effect (declareConstant place name valueOrType) :=
  (leads_declareGlobal place name valueOrType).bind fun entry =>
    Leads.bind (Leads.modify fun world =>
      AllowsLibrary.fixGlobal world ⟨place, entry.symbol⟩ rfl) fun _ => Leads.pure _

/-! ## Visibility -/

@[grind .]
theorem leads_setDefault (visibility : Visibility) : Leads Effect (setDefault place visibility) :=
  Leads.modify fun world => AllowsLibrary.changeDefault world visibility

@[grind .]
theorem leads_warnExternal (name : Name) : Leads Effect (warnExternal place name) := by
  grind -linarith [warnExternal]

@[grind .]
theorem leads_relinkFunction (name : Name) (visibility : Visibility) :
    Leads Effect (relinkFunction place name visibility) := by
  have relinked (function : Nat) : Leads Effect
      (Function.relink ⟨place, function⟩ (.visibility visibility)) :=
    Function.leads_relink ⟨place, function⟩ (.visibility visibility)
  unfold relinkFunction
  refine Leads.get.bind fun world => ?_
  split <;> grind -linarith

@[grind .]
theorem leads_relinkFragment (name : Name) (visibility : Visibility) :
    Leads Effect (relinkFragment place name visibility) := by
  intro world
  unfold relinkFragment
  rw [Build.after_get_bind]
  split
  next => exact IsEffect.refl world
  next fragment known => exact AllowsLibrary.relinkFragment world _ fragment visibility known

@[grind .]
theorem leads_relinkGlobal (name : Name) (visibility : Visibility) :
    Leads Effect (relinkGlobal place name visibility) := by
  intro world
  unfold relinkGlobal
  rw [Build.after_get_bind]
  split
  next => exact IsEffect.refl world
  next entry known =>
    rw [Build.after_get_bind]
    dsimp only
    split
    next => exact ((leads_warnExternal place name).bind fun _ => Leads.pure true) world
    next => exact AllowsLibrary.relinkGlobal world _ entry visibility known

@[grind .]
theorem leads_relink (name : Value) (visibility : Visibility) :
    Leads Effect (relink place name visibility) := by
  grind -linarith [relink]

@[grind .]
theorem leads_relinkAll (visibility : Visibility) (names : List Value) :
    Leads Effect (relinkAll place visibility names) := by
  have each : Leads Effect (names.forM fun name => relink place name visibility) :=
    Leads.forM (fun name => leads_relink place name visibility) names
  unfold relinkAll
  split
  · exact (leads_setDefault place visibility).bind fun _ => each
  · exact each

theorem leads_withDefault (visibility : Visibility) {body : Callback}
    (callback : body.LeadsTo Effect) : Leads Effect (withDefault place visibility body) := by
  unfold withDefault
  refine Leads.get.bind fun world => (leads_setDefault place visibility).bind fun _ => ?_
  refine Leads.bind (Leads.tryCatch ?_ fun fault => ?_) fun _ => leads_setDefault place _
  · exact (callback _).bind fun _ => Leads.pure _
  · exact (leads_setDefault place _).bind fun _ => Leads.throw _

theorem leads_setVisibility (visibility name : Value) {body : Option Callback}
    (callback : ∀ known ∈ body, known.LeadsTo Effect) :
    Leads Effect (setVisibility place visibility name body) := by
  unfold setVisibility
  refine (leads_tryKey visibility).bind fun _ => ?_
  split
  · grind -linarith
  · split
    · exact leads_withDefault place _ (callback _ rfl)
    · grind -linarith
    · grind -linarith

/-! ## Import -/

omit [AllowsLibrary place Effect] in
@[grind .]
theorem leads_importSource [AllowsNewTexts Effect] (source : Value) :
    Leads Effect (importSource place source) := by
  unfold importSource
  split
  · exact Leads.pure _
  · refine Leads.get.bind fun world => ?_
    split <;> grind -linarith
  · exact Leads.reject _

@[grind .]
theorem leads_importFunction (taken : List Key) (entry : Key × FunctionRef) :
    Leads Effect (importFunction place taken entry) := by
  unfold importFunction
  refine Leads.get.bind fun world => (leads_importName place _ _ _ _ taken).bind fun name => ?_
  split
  next imported =>
    refine Leads.get.bind fun seen => ?_
    have added : Leads Effect (do
        let _ ← addFunction place imported.key imported.shown
          ⟨(seen.routineOf entry.2).parameterTypes, (seen.routineOf entry.2).isVariadic⟩
          (seen.routineOf entry.2).result
          ⟨seen.symbolName (seen.functionSymbol entry.2), symbolKey seen (seen.functionSymbol entry.2)⟩
          .isPublic true) :=
      (AllowsLibrary.addFunction imported.key _ _ _ _ _ _).bind fun _ => Leads.pure _
    simpa only [addFunction, bind_assoc] using added
  next => exact Leads.pure _

@[grind .]
theorem leads_importFragment (source : LibraryId) (taken : List Key)
    (entry : Key × FragmentId) : Leads Effect (importFragment place source taken entry) := by
  unfold importFragment
  refine Leads.get.bind fun world => (leads_importName place _ _ _ _ taken).bind fun name => ?_
  split
  · exact AllowsLibrary.addEntry _ _
  · exact Leads.pure _

@[grind .]
theorem leads_importGlobal (source : LibraryId) (taken : List Key) (entry : Key × GlobalEntry) :
    Leads Effect (importGlobal place source taken entry) := by
  intro world
  unfold importGlobal
  rw [Build.after_get_bind]
  refine Build.permitted_bind (leads_importName place _ _ _ _ taken world) fun choice seen run => ?_
  cases choice with
  | none => exact IsEffect.refl seen
  | some imported =>
      have same : SameGlobals place world seen := (leads_importName place _ _ _ _ _).of_ok run
      have free : imported.key ∉ (seen.library place).globals.keys := by
        rw [same]
        exact importName_free run
      let symbol : SymbolRef := ⟨source, entry.2.symbol⟩
      let global := (seen.global? symbol).getD default
      let fix (declared : Global) : Global := { declared with isConstant := global.isConstant }
      have added : Effect seen ((addGlobal place imported.key
          ⟨seen.symbolName symbol, symbolKey seen symbol⟩ global.valueType fix imported.shown
            .isPublic >>= fun _ => pure ()).after seen) :=
        Build.permitted_bind
          (AllowsLibrary.addGlobal seen imported.key _ _ fix _ _ free (fun _ => rfl) fun _ => by
            simp [fix])
          fun _ between _ => IsEffect.refl between
      dsimp only
      rw [Build.after_get_bind]
      simpa only [addGlobal, bind_assoc, pure_bind, bind_pure_unit] using added

@[grind .]
theorem leads_importFrom (source : Value) : Leads Effect (importFrom place source) := by
  unfold importFrom
  refine (leads_importSource place source).bind fun source => Leads.get.bind fun world => ?_
  split
  · exact Build.leads_rejectThen _ _
  · refine (Leads.forM (leads_importFunction place _) _).bind fun _ => Leads.get.bind fun _ => ?_
    refine (Leads.forM (leads_importFragment place source _) _).bind fun _ => ?_
    refine Leads.get.bind fun _ => ?_
    refine (Leads.forM (leads_importGlobal place source _) _).bind fun _ => ?_
    refine Leads.get.bind fun _ => Leads.forM (fun pooled => ?_) _
    exact (Build.leads_internString place _).bind fun _ => Leads.pure _

end

/-! ## Libraries and fragments that come up -/

section

variable {Effect : World → World → Prop} [AllowsScripts Effect]

/-- A library without declarations may come up. -/
theorem leads_add (name : Phrase) (visibility : Visibility) (policy : NamePolicy)
    (registry : Option RegistryId) (report : Report) (echo : Value) :
    Leads Effect (add (.empty name visibility policy registry report echo)) :=
  Leads.get.bind fun _ =>
    Leads.bind (Leads.modify fun world =>
      AllowsScripts.addLibrary world name visibility policy registry report echo) fun _ =>
        Leads.pure _

@[grind .]
theorem leads_addFragment (fragment : Fragment) : Leads Effect (addFragment fragment) :=
  Leads.get.bind fun _ =>
    Leads.bind (Leads.modify fun world => AllowsScripts.addFragment world fragment) fun _ =>
      Leads.pure _

theorem leads_create (name visibility policy registry echo : Value) {body : Option Callback}
    (callback : ∀ known ∈ body, known.LeadsTo Effect) :
    Leads Effect (create name visibility policy registry echo body) := by
  have added (name : Phrase) (visibility : Visibility) (policy : NamePolicy)
      (registry : Option RegistryId) (report : Report) (echo : Value) :
      Leads Effect (add (.empty name visibility policy registry report echo)) :=
    leads_add name visibility policy registry report echo
  have run (place : LibraryId) (known : Callback) (given : body = some known) :
      Leads Effect (known.run [.library place]) := callback known given _
  unfold create
  refine (leads_chooseName _ echo name).bind fun chosen => ?_
  dsimp only
  refine (leads_chooseVisibility _ echo visibility).bind fun seen => ?_
  refine (leads_choosePolicy _ echo policy).bind fun named => ?_
  refine (Leads.lift _).bind fun registry => ?_
  cases registry <;> cases body <;> grind -linarith

end

end Library

end StructuredIR
