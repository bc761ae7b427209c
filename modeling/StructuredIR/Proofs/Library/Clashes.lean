import StructuredIR.Proofs.Library.Aliases
import StructuredIR.Proofs.Library.Outlines

/-! # Clashes of imported symbols

An import asks for each symbol that it enters in the module of the importing library, under the key
that the symbol has in the module of the source. It fails if a symbol of the other kind is there.

* **`Build.Ends`** says how a step ends: it completes with what is good, or it fails in one way, for a
  reason.
* **`Library.Clash`** is a symbol that the source shows under a name that is free, but whose key stands
  for a symbol of the other kind.
* **`Library.importFrom_ends`**: an import completes, or it fails at a clash.
* **`Library.importFrom_completes`**: without a clash of kinds, names that collide are only warned of.
* **`Library.importFrom_fails_mixed`**: a global that has the key of a function makes an import fail. -/

namespace StructuredIR

open Build (Leads bind_eq_ok get_eq_ok pure_eq_ok modify_eq_ok)

/-! ## How steps end -/

namespace Build

variable {Result Next : Type} {fault : Fault} {Reason : Prop}

/-- **How a step ends**: it completes with what is good, or it fails in one way, for a reason. -/
inductive Ends (fault : Fault) (Reason : Prop) (Good : Result → World → Prop) (step : Build Result)
    (world : World) : Prop
  /-- It completes. -/
  | completes {value : Result} {after : World} (run : step world = .ok value after)
      (good : Good value after)
  /-- It fails. -/
  | fails {after : World} (run : step world = .error fault after) (reason : Reason)

namespace Ends

variable {Good : Result → World → Prop} {Better : Next → World → Prop} {step : Build Result}
  {next : Result → Build Next} {world : World}

/-- What is done after a step that completes. -/
theorem ok_bind {value : Result} {between : World} (run : step world = .ok value between)
    (ends : Ends fault Reason Better (next value) between) :
    Ends fault Reason Better (step >>= next) world := by
  cases ends with
  | fails rest reason => exact .fails (bind_eq_error.mpr (.inr ⟨_, _, run, rest⟩)) reason
  | completes rest better => exact .completes (bind_eq_ok.mpr ⟨_, _, run, rest⟩) better

/-- A step after another one ends as it does, or the first one fails. -/
theorem bind (first : Ends fault Reason Good step world)
    (second : ∀ value between, step world = .ok value between → Good value between →
      Ends fault Reason Better (next value) between) :
    Ends fault Reason Better (step >>= next) world := by
  cases first with
  | fails run reason => exact .fails (bind_eq_error.mpr (.inl run)) reason
  | completes run good => exact ok_bind run (second _ _ run good)

/-- What is done from the world on that is looked at. -/
theorem get_bind {next : World → Build Next} (ends : Ends fault Reason Better (next world) world) :
    Ends fault Reason Better (get >>= next) world := by
  cases ends with
  | fails run reason => exact .fails run reason
  | completes run better => exact .completes run better

/-- A step that ends well for less ends well. -/
theorem imp {Also : Prop} {Well : Result → World → Prop} (ends : Ends fault Reason Good step world)
    (reason : Reason → Also)
    (well : ∀ value after, step world = .ok value after → Good value after → Well value after) :
    Ends fault Also Well step world := by
  cases ends with
  | fails run known => exact .fails run (reason known)
  | completes run good => exact .completes run (well _ _ run good)

/-- What is done to each of some items completes if each step does, from where the others lead. -/
theorem forM {Item : Type} {each : Item → Build PUnit} {Invariant : World → Prop}
    {items : List Item}
    (step : ∀ item ∈ items, ∀ world, Invariant world →
      Ends fault Reason (fun _ => Invariant) (each item) world)
    {world : World} (holds : Invariant world) :
    Ends fault Reason (fun _ => Invariant) (items.forM each) world := by
  induction items generalizing world with
  | nil => exact .completes rfl holds
  | cons item items ih =>
      refine (step item (List.mem_cons_self ..) world holds).bind fun _ between _ kept => ?_
      exact ih (fun other member => step other (List.mem_cons_of_mem _ member)) kept

/-- A step that does not succeed fails in the one way. -/
theorem error_after {step : Build PUnit} {Good : PUnit → World → Prop}
    (ends : Ends fault Reason Good step world) (failed : step.succeeds world = false) :
    step world = .error fault (step.after world) := by
  cases ends with
  | completes run =>
      rw [succeeds, run] at failed
      cases failed
  | fails run => rw [after_of_error run, run]

end Ends

/-- A warning can always be recorded. -/
theorem warn_completes (place : LibraryId) (cause : Cause) (world : World) :
    ∃ after, warn place cause world = .ok () after := by
  unfold warn warnOf note
  by_cases echoed : world.isTruthy (world.library place).echo <;>
    simp only [bind, EStateM.bind, get, getThe, MonadStateOf.get, EStateM.get, echoed] <;>
    exact ⟨_, rfl⟩

end Build

/-! ## Modules in order -/

/-- A symbol that is there once one has changed was there before, maybe as another kind. -/
theorem Kind.mem_modify {symbols : Dictionary Key Kind} {place : Nat} {update : Kind → Kind}
    {key : Key} {kind : Kind}
    (member : (key, kind) ∈ symbols.modify place fun entry => (entry.1, update entry.2)) :
    ∃ known, (key, known) ∈ symbols ∧ (kind = known ∨ kind = update known) := by
  obtain ⟨index, found⟩ := List.mem_iff_getElem?.mp member
  rw [List.getElem?_modify] at found
  obtain ⟨old, there, changed⟩ := Option.map_eq_some_iff.mp found
  have listed := List.mem_of_getElem? there
  split at changed
  next =>
    cases changed
    exact ⟨old.2, listed, .inr rfl⟩
  next =>
    cases changed
    exact ⟨kind, listed, .inl rfl⟩

namespace Outline

/-- **The module of an outline is in order**: no two symbols have the same name, every symbol has one,
and every global can hold something. -/
structure Orderly (outline : Outline) : Prop where
  /-- No two symbols have the same key. -/
  keys : outline.symbols.keys.Nodup
  /-- No symbol is without a name. -/
  named : .text "" ∉ outline.symbols.keys
  /-- Globals have types of values. -/
  types {key : Key} {type : IRType} {isPrivate : Bool} :
    (key, .global type isPrivate) ∈ outline.symbols → type ≠ .void

/-- Changing a symbol keeps the keys. -/
theorem keys_changeKind (outline : Outline) (place : Nat) (update : Kind → Kind) :
    (outline.changeKind place update).symbols.keys = outline.symbols.keys := by
  refine List.ext_getElem? fun index => ?_
  simp only [changeKind, Dictionary.keys, List.getElem?_map, List.getElem?_modify]
  split <;> cases outline.symbols[index]? <;> rfl

namespace Orderly

variable {outline : Outline} (orderly : outline.Orderly)

include orderly

/-- A symbol is declared under a free name. -/
theorem declare {key : Key} {kind : Kind} (named : key ≠ .text "")
    (free : key ∉ outline.symbols.keys)
    (holds : ∀ type isPrivate, kind = .global type isPrivate → type ≠ .void) (pooled : List Nat) :
    Orderly { outline with symbols := outline.symbols ++ [(key, kind)], pooled } where
  keys := Dictionary.nodup_keys_append orderly.keys free kind
  named claimed := by
    dsimp only at claimed
    rw [Dictionary.keys_append, List.mem_append] at claimed
    rcases claimed with known | new
    · exact orderly.named known
    · exact named (List.mem_singleton.mp new).symm
  types member := by
    rcases List.mem_append.mp member with known | new
    · exact orderly.types known
    · cases List.mem_singleton.mp new
      exact holds _ _ rfl

/-- A symbol changes that stays of its type. -/
theorem changeKind (place : Nat) {update : Kind → Kind}
    (same : ∀ kind type isPrivate, update kind = .global type isPrivate →
      ∃ known, kind = .global type known)
    (functions : List (Nat × Bool)) (globals : Dictionary Key (Nat × Bool)) :
    Orderly { outline.changeKind place update with functions, globals } where
  keys := by
    dsimp only
    rw [keys_changeKind]
    exact orderly.keys
  named := by
    dsimp only
    rw [keys_changeKind]
    exact orderly.named
  types member := by
    obtain ⟨kind, known, rfl | changed⟩ := Kind.mem_modify member
    · exact orderly.types known
    · obtain ⟨_, rfl⟩ := same kind _ _ changed.symm
      exact orderly.types known

end Orderly

/-- **Modules are in order whatever scripts do.** -/
theorem isKept_orderly : IsKept Orderly where
  empty := ⟨.nil, nofun, nofun⟩
  step step orderly := by
    have routine (link : Bool) (kind : Kind) (type : IRType) (isPrivate : Bool)
        (same : kind.linkRoutine link = .global type isPrivate) :
        ∃ known, kind = .global type known := by
      cases kind with
      | routine => cases same
      | global => exact ⟨_, same⟩
    have global (link : Bool → Bool) (kind : Kind) (type : IRType) (isPrivate : Bool)
        (same : kind.linkGlobal link = .global type isPrivate) :
        ∃ known, kind = .global type known := by
      cases kind with
      | routine => cases same
      | global valueType known =>
          cases same
          exact ⟨known, rfl⟩
    cases step with
    | declare named free isPublic =>
        refine orderly.declare named free (fun type isPrivate same => ?_) _
        rcases isPublic with known | ⟨valueType, holds, known⟩ <;> rw [known] at same <;> cases same
        exact holds
    | pool named free holds =>
        refine orderly.declare named free (fun type isPrivate same => ?_) _
        cases same
        exact holds
    | enterFunction => exact orderly.changeKind _ (routine _) _ _
    | relinkFunction => exact orderly.changeKind _ (routine _) _ _
    | enterGlobal => exact orderly.changeKind _ (global _) _ _
    | relinkGlobal => exact orderly.changeKind _ (global _) _ _

end Outline

/-! ## What a module holds -/

namespace Kind

/-- Whether a symbol is a routine. -/
def isRoutine : Kind → Bool
  | .routine _ => true
  | .global .. => false

@[simp]
theorem isRoutine_linkRoutine (kind : Kind) (isPrivate : Bool) :
    (kind.linkRoutine isPrivate).isRoutine = kind.isRoutine := by
  cases kind <;> rfl

end Kind

namespace Module

variable {module : Module} {key : Key}

/-- **A module holds a key**: a routine has it, or a global. -/
def Holds (module : Module) (isRoutine : Bool) (key : Key) : Prop :=
  ∃ kind, (key, kind) ∈ module.kinds ∧ kind.isRoutine = isRoutine

/-- A key is not that of a routine and a global. -/
theorem Holds.unique (nodup : module.kinds.keys.Nodup) {first second : Bool}
    (one : module.Holds first key) (other : module.Holds second key) : first = second := by
  obtain ⟨kind, one, rfl⟩ := one
  obtain ⟨_, other, rfl⟩ := other
  rw [Dictionary.eq_of_mem nodup one other]

/-- A key that is there is found at a place. -/
theorem placeOf?_of_mem_keys (member : key ∈ module.symbols.keys) :
    ∃ place, module.symbols.placeOf? key = some place ∧ module.key? place = some key := by
  cases found : module.symbols.placeOf? key with
  | some place => exact ⟨place, rfl, Dictionary.placeOf?_eq_some found⟩
  | none =>
      obtain ⟨entry, among, same⟩ := List.mem_map.mp member
      have missing := List.findIdx?_eq_none_iff.mp found entry among
      simp [same] at missing

/-- A key that no routine is found under is free or that of a global. -/
theorem holds_of_routineNamed? (missing : module.routineNamed? key = none)
    (member : key ∈ module.symbols.keys) : module.Holds false key := by
  obtain ⟨place, found, at_place⟩ := placeOf?_of_mem_keys member
  simp only [routineNamed?, found] at missing
  split at missing
  next => cases missing
  next absent =>
    obtain ⟨⟨known, name, content⟩, listed, rfl⟩ := Option.map_eq_some_iff.mp at_place
    have among : (known, content.kind) ∈ module.kinds :=
      List.mem_map_of_mem (List.mem_of_getElem? listed)
    cases content with
    | routine routine => simp [routine?, symbol?, listed] at absent
    | global global => exact ⟨_, among, rfl⟩

/-- A key that no global is found under is free or that of a routine. -/
theorem holds_of_globalNamed? (missing : module.globalNamed? key = none)
    (member : key ∈ module.symbols.keys) : module.Holds true key := by
  obtain ⟨place, found, at_place⟩ := placeOf?_of_mem_keys member
  simp only [globalNamed?, found] at missing
  split at missing
  next => cases missing
  next absent =>
    obtain ⟨⟨known, name, content⟩, listed, rfl⟩ := Option.map_eq_some_iff.mp at_place
    have among : (known, content.kind) ∈ module.kinds :=
      List.mem_map_of_mem (List.mem_of_getElem? listed)
    cases content with
    | global global => simp [global?, symbol?, listed] at absent
    | routine routine => exact ⟨_, among, rfl⟩

/-- A key that is held is among the keys. -/
theorem Holds.mem_keys {isRoutine : Bool} (held : module.Holds isRoutine key) :
    key ∈ module.kinds.keys := by
  obtain ⟨kind, member, -⟩ := held
  exact List.mem_map_of_mem member

/-- A key that is held is a name. -/
theorem Holds.named {isRoutine : Bool} (held : module.Holds isRoutine key)
    (named : .text "" ∉ module.kinds.keys) : key ≠ .text "" := by
  rintro rfl
  exact named held.mem_keys

/-- A global among the kinds is there. -/
theorem global?_of_kinds {place : Nat} {type : IRType} {isPrivate : Bool}
    (found : module.kinds[place]? = some (key, .global type isPrivate)) :
    ∃ global, module.global? place = some global ∧ global.valueType = type := by
  rw [kinds, List.getElem?_map] at found
  obtain ⟨⟨known, name, content⟩, listed, same⟩ := Option.map_eq_some_iff.mp found
  cases content with
  | routine routine => cases same
  | global global =>
      cases same
      exact ⟨global, by simp [global?, symbol?, listed], rfl⟩

/-- The key of a symbol among the kinds. -/
theorem key?_of_kinds {place : Nat} {kind : Kind}
    (found : module.kinds[place]? = some (key, kind)) : module.key? place = some key := by
  rw [kinds, List.getElem?_map] at found
  obtain ⟨entry, listed, same⟩ := Option.map_eq_some_iff.mp found
  cases same
  rw [key?, listed, Option.map_some]

/-- A module without its kept texts has the same kinds of symbols. -/
@[simp]
theorem kinds_bare (module : Module) : module.bare.kinds = module.kinds := by
  rw [kinds, kinds, bare, List.map_map]
  refine List.map_congr_left fun entry _ => ?_
  obtain ⟨key, name, content⟩ := entry
  cases content <;> rfl

end Module

/-- Recording warnings keeps the kinds of the symbols. -/
theorem Noted.kinds {place : LibraryId} {causes : List Cause} {before after : World}
    (noted : Noted place causes before after) (other : LibraryId) :
    (after.library other).module.kinds = (before.library other).module.kinds := by
  obtain ⟨report, same⟩ := noted.library other
  have same := congrArg (fun library => library.module.kinds) same
  simpa [Library.bare] using same

/-- Other libraries have the same kinds of symbols. -/
theorem World.Grows.kinds {place other : LibraryId} {taken : List Key} {before after : World}
    (grows : World.Grows place taken before after) (elsewhere : other ≠ place) :
    (after.library other).module.kinds = (before.library other).module.kinds := by
  have same := congrArg (fun library => library.module.kinds) (grows.others other elsewhere)
  simpa [Library.bare] using same

/-! ## What is declared -/

/-- **No symbol is new in the module of a library but one**: a routine or a global with a key. -/
def Declares (place : LibraryId) (key : Key) (isRoutine : Bool) (before after : World) : Prop :=
  ∀ kind known, (after.library place).module.Holds kind known →
    (before.library place).module.Holds kind known ∨ kind = isRoutine ∧ known = key

namespace Declares

variable {place : LibraryId} {key : Key} {isRoutine : Bool} {before middle after : World}

/-- Nothing is new where the kinds of the symbols stay. -/
theorem of_kinds
    (same : (after.library place).module.kinds = (before.library place).module.kinds) :
    Declares place key isRoutine before after :=
  fun _ _ held => .inl (by rwa [Module.Holds, ← same])

theorem trans (first : Declares place key isRoutine before middle)
    (second : Declares place key isRoutine middle after) :
    Declares place key isRoutine before after :=
  fun kind known held => (second kind known held).elim (first kind known) .inr

/-- A module changes. -/
theorem changeModule (world : World) (place : LibraryId) {update : Module → Module}
    (declares : ∀ kind known, (update (world.library place).module).Holds kind known →
      (world.library place).module.Holds kind known ∨ kind = isRoutine ∧ known = key) :
    Declares place key isRoutine world (world.changeModule place update) := by
  rcases Nat.lt_or_ge place world.libraries.length with inside | beyond
  · have changed : ((world.changeModule place update).library place).module =
        update (world.library place).module := by
      rw [World.changeModule, World.library_changeLibrary, if_pos ⟨rfl, inside⟩]
    exact fun kind known held => declares kind known (changed ▸ held)
  · rw [World.changeModule, World.changeLibrary_of_length_le world beyond]
    exact .of_kinds rfl

/-- A symbol is declared. -/
theorem append (world : World) (place : LibraryId) (symbol : Symbol) :
    Declares place key symbol.content.kind.isRoutine world (world.changeModule place fun _ =>
      (world.library place).module.append key symbol) := by
  refine changeModule world place fun kind known ⟨found, member, same⟩ => ?_
  rw [Module.kinds_append] at member
  rcases List.mem_append.mp member with there | new
  · exact .inl ⟨found, there, same⟩
  · cases List.mem_singleton.mp new
    exact .inr ⟨same.symm, rfl⟩

/-- Marking a global as constant declares nothing. -/
theorem markGlobal (world : World) (symbol : Nat) (isConstant : Bool) :
    Declares place key isRoutine world (world.changeGlobal ⟨place, symbol⟩ fun global =>
      { global with isConstant }) := by
  have same : ((world.library place).module.changeGlobal symbol fun global =>
      { global with isConstant }).kinds = (world.library place).module.kinds :=
    Module.kinds_changeGlobal _ _ (fun _ => rfl) fun _ => rfl
  exact changeModule world place fun kind known ⟨found, member, kept⟩ =>
    .inl ⟨found, same ▸ member, kept⟩

/-- Linking a routine declares nothing. -/
theorem linkRoutine (world : World) (symbol : Nat) (isPrivate : Bool) :
    Declares place key isRoutine world (world.changeRoutine ⟨place, symbol⟩ fun routine =>
      { routine with isPrivate }) := by
  refine changeModule world place fun kind known ⟨found, member, same⟩ => .inl ?_
  rw [Module.kinds_linkRoutine] at member
  obtain ⟨old, there, rfl | rfl⟩ := Kind.mem_modify member
  · exact ⟨found, there, same⟩
  · exact ⟨old, there, by rwa [Kind.isRoutine_linkRoutine] at same⟩

end Declares

/-! ## One symbol -/

namespace Build

variable {place : LibraryId} {name : Name} {world : World}

/-- A symbol is declared unless its name is held, as long as it has one. -/
theorem declareSymbol_ends (content : Content) (named : name.key ≠ .text "") :
    Ends .duplicateName (name.key ∈ (world.library place).module.symbols.keys)
      (fun symbol after => symbol.owner = place ∧
        after = world.changeModule place fun _ =>
          (world.library place).module.append name.key ⟨name.shown, content⟩)
      (declareSymbol place name content) world := by
  by_cases held : name.key ∈ (world.library place).module.symbols.keys
  · have refused : (world.library place).module.declare name.key ⟨name.shown, content⟩ =
        .error .duplicateName := by
      rw [Module.declare, if_pos (.inr ((Dictionary.holds_iff _ _).mpr held))]
    have run : declareSymbol place name content world = .error .duplicateName world := by
      simp only [declareSymbol, bind, EStateM.bind, get, getThe, MonadStateOf.get, EStateM.get,
        refused]
      rfl
    exact .fails run held
  · have free : ¬(name.key = .text "" ∨
        (world.library place).module.symbols.holds name.key = true) := by
      rw [Dictionary.holds_iff]
      exact not_or.mpr ⟨named, held⟩
    have declared : (world.library place).module.declare name.key ⟨name.shown, content⟩ =
        .ok ((world.library place).module.append name.key ⟨name.shown, content⟩) := by
      rw [Module.declare, if_neg free]
      rfl
    let symbol : SymbolRef := ⟨place, (world.library place).module.symbols.length⟩
    have run : declareSymbol place name content world = .ok symbol (world.changeModule place fun _ =>
        (world.library place).module.append name.key ⟨name.shown, content⟩) := by
      simp only [declareSymbol, bind, EStateM.bind, get, getThe, MonadStateOf.get, EStateM.get,
        declared]
      rfl
    exact .completes run ⟨rfl, rfl⟩

/-- A routine can be asked for unless a global has its name. -/
theorem ensureRoutine_ends (result : IRType) (parameters : List IRType) (isVariadic : Bool)
    (named : name.key ≠ .text "") :
    Ends .duplicateName ((world.library place).module.Holds false name.key)
      (fun symbol after => symbol.owner = place ∧ Declares place name.key true world after)
      (ensureRoutine place name (.declare result parameters isVariadic)) world := by
  unfold ensureRoutine
  refine .get_bind ?_
  split
  next symbol found => exact .completes rfl ⟨rfl, .of_kinds rfl⟩
  next missing =>
    refine (declareSymbol_ends _ named).imp (Module.holds_of_routineNamed? missing) ?_
    rintro symbol _ - ⟨owner, rfl⟩
    exact ⟨owner, .append world place _⟩

/-- A global that can hold something can be asked for unless a routine has its name. -/
theorem ensureGlobal_ends {valueType : IRType} (holds : valueType ≠ .void)
    (named : name.key ≠ .text "") :
    Ends .duplicateName ((world.library place).module.Holds true name.key)
      (fun symbol after => symbol.owner = place ∧ Declares place name.key false world after)
      (ensureGlobal place name valueType) world := by
  unfold ensureGlobal
  refine .get_bind ?_
  split
  next symbol found => exact .completes rfl ⟨rfl, .of_kinds rfl⟩
  next missing =>
    dsimp only
    rw [if_neg holds]
    refine (declareSymbol_ends _ named).imp (Module.holds_of_globalNamed? missing) ?_
    rintro symbol _ - ⟨owner, rfl⟩
    exact ⟨owner, .append world place _⟩

end Build

/-- An external function can be created unless a global has the name of its routine. -/
theorem Function.create_ends {place : LibraryId} {symbolName : Name} {world : World} (name : Value)
    (signature : Signature) (result : IRType) (visibility : Visibility)
    (named : symbolName.key ≠ .text "") :
    Build.Ends .duplicateName ((world.library place).module.Holds false symbolName.key)
      (fun _ after => Declares place symbolName.key true world after)
      (create place name signature result symbolName visibility true) world := by
  refine (Build.ensureRoutine_ends _ _ _ named).bind fun symbol between _ ⟨owner, declares⟩ => ?_
  obtain ⟨_, symbol⟩ := symbol
  obtain rfl : place = _ := owner.symm
  exact .completes rfl (declares.trans (.linkRoutine between symbol _))

/-- A value that is a phrase. -/
theorem Value.exists_phrase {value : Value} (isPhrase : value.phrase?.isSome) :
    ∃ phrase : Phrase, value = phrase.value := by
  cases value <;> simp only [phrase?, Option.isSome_some, Option.isSome_none, Bool.false_eq_true]
    at isPhrase
  case text content => exact ⟨.text content, rfl⟩
  case visibility known => exact ⟨.visibility known, rfl⟩
  case policy known => exact ⟨.policy known, rfl⟩

namespace Library

/-- The name that the policy gives to a phrase is a phrase. -/
theorem aliasFor_phrase {name : Name} {phrase : Phrase} (text : name.shown = phrase.value)
    (source : Library) (plain : String) (isTaken : Bool) :
    ∃ given : Phrase, (aliasFor source name plain isTaken).1.shown = given.value := by
  have qualified : ∃ given : Phrase,
      (Name.ofText (source.name.plain ++ "_" ++ plain)).shown = given.value := ⟨.text _, rfl⟩
  unfold aliasFor
  cases source.policy with
  | plain => exact ⟨phrase, text⟩
  | qualified => exact qualified
  | smart =>
      cases isTaken with
      | false => exact ⟨phrase, text⟩
      | true => exact qualified

/-- **A name that is a phrase can be chosen**, whatever the policy is. -/
theorem importName_completes {name : Name} {phrase : Phrase} (text : name.shown = phrase.value)
    (place : LibraryId) (kind : String) (source : Library) (held taken : List Key) (world : World) :
    ∃ choice after, importName place kind name source held taken world = .ok choice after := by
  obtain ⟨given, shown⟩ := aliasFor_phrase text source phrase.plain (taken.contains name.key)
  obtain ⟨⟨imported, isAlias⟩, decided⟩ :
      ∃ decision, aliasFor source name phrase.plain (taken.contains name.key) = decision := ⟨_, rfl⟩
  have shown : imported.shown = given.value := by rwa [decided] at shown
  -- Names are written without a change; what is left are at most two warnings.
  have written : importName place kind name source held taken = (do
      if isAlias then
        Build.warn place (.importRenamed kind phrase.plain source.name.plain given.plain)
      if taken.contains imported.key || held.contains imported.key then
        Build.warn place (.importCollision kind given.plain source.name.plain)
        return none
      return some imported) := by
    simp only [importName, text, Build.plain_phrase, pure_bind, decided, shown]
  have second (world : World) : ∃ choice after, (do
      if taken.contains imported.key || held.contains imported.key then
        Build.warn place (.importCollision kind given.plain source.name.plain)
        return none
      return some imported : Build (Option Name)) world = .ok choice after := by
    split
    next =>
      obtain ⟨after, warned⟩ := Build.warn_completes place _ world
      exact ⟨none, after, bind_eq_ok.mpr ⟨_, _, warned, rfl⟩⟩
    next => exact ⟨some imported, world, rfl⟩
  rw [written]
  cases isAlias with
  | false => exact second world
  | true =>
      obtain ⟨between, warned⟩ := Build.warn_completes place
        (.importRenamed kind phrase.plain source.name.plain given.plain) world
      obtain ⟨choice, after, rest⟩ := second between
      exact ⟨choice, after, bind_eq_ok.mpr ⟨_, _, warned, rest⟩⟩

/-! ## What an import asks for -/

/-- A symbol of a kind is shown under a name that is free. -/
def IsFree (source : Library) (kind : String) (taken : List Key) (name : Name) : Prop :=
  ∃ imported importedPlain renames,
    source.Wants kind name taken imported importedPlain renames ∧ imported.key ∉ taken

/-- A name that is chosen is free. -/
theorem Chooses.isFree {source : Library} {kind : String} {taken held : List Key}
    {name imported : Name} {causes : List Cause}
    (chosen : source.Chooses kind name taken held (some imported) causes) :
    source.IsFree kind taken name := by
  cases chosen with
  | free wants notTaken => exact ⟨_, _, _, wants, notTaken⟩

section

variable {place source : LibraryId} {taken : List Key} {start world : World}

/-- **Importing a function** completes unless a global has the key of its routine. -/
theorem importFunction_ends {entry : Key × FunctionRef} {phrase : Phrase}
    (grows : World.Grows place taken start world) (elsewhere : entry.2.owner ≠ place)
    (text : (start.function entry.2).name = phrase.value)
    (named : symbolKey start (start.functionSymbol entry.2) ≠ .text "") :
    Build.Ends .duplicateName
      ((start.library entry.2.owner).IsFree Table.functions.kind taken (functionName start entry) ∧
        (world.library place).module.Holds false (symbolKey start (start.functionSymbol entry.2)))
      (fun _ => Declares place (symbolKey start (start.functionSymbol entry.2)) true world)
      (importFunction place taken entry) world := by
  have text : (⟨(world.function entry.2).name, entry.1⟩ : Name).shown = phrase.value :=
    grows.function elsewhere ▸ text
  obtain ⟨choice, middle, choosing⟩ := importName_completes text place "function"
    (world.library entry.2.owner) (world.library place).functions.keys taken world
  obtain ⟨causes, chosen, noted⟩ := importName_ok choosing
  unfold importFunction
  refine .get_bind (.ok_bind choosing ?_)
  cases choice with
  | none => exact .completes rfl (.of_kinds (noted.kinds place))
  | some imported =>
      have free := (chosen.earlier grows elsewhere).isFree
      rw [grows.function elsewhere] at free
      have forwards : World.Grows place taken start middle := IsEffect.trans grows (.of_noted noted)
      refine .get_bind ?_
      dsimp only
      rw [forwards.functionKey elsewhere]
      refine ((Function.create_ends _ _ _ _ named).imp ?_ fun _ _ _ => id).bind
        fun function between _ declares => ?_
      · intro held
        rw [Module.Holds, noted.kinds] at held
        exact ⟨free, held⟩
      · refine .completes rfl (.trans (.of_kinds (noted.kinds place)) (declares.trans (.of_kinds ?_)))
        rw [World.library_changeLibrary]
        split <;> rfl

/-- **Importing a fragment** completes, and declares no symbol. -/
theorem importFragment_ends {Reason : Prop} {entry : Key × FragmentId} {phrase : Phrase}
    (grows : World.Grows place taken start world) (there : entry.2 < start.fragments.length)
    (text : (start.fragment entry.2).name = phrase.value) :
    Build.Ends .duplicateName Reason
      (fun _ after => (after.library place).module.kinds = (world.library place).module.kinds)
      (importFragment place source taken entry) world := by
  have text : (⟨(world.fragment entry.2).name, entry.1⟩ : Name).shown = phrase.value :=
    grows.fragment there ▸ text
  obtain ⟨choice, middle, choosing⟩ := importName_completes text place "macro"
    (world.library source) (world.library place).fragments.keys taken world
  obtain ⟨causes, chosen, noted⟩ := importName_ok choosing
  unfold importFragment
  refine .get_bind (.ok_bind choosing ?_)
  cases choice with
  | none => exact .completes rfl (noted.kinds place)
  | some imported =>
      refine .completes rfl (Eq.trans ?_ (noted.kinds place))
      rw [World.library_changeLibrary]
      split <;> rfl

/-- **Importing a global** completes unless a routine has its key. -/
theorem importGlobal_ends {entry : Key × GlobalEntry} {phrase : Phrase} {key : Key} {type : IRType}
    {isPrivate : Bool} (grows : World.Grows place taken start world) (elsewhere : source ≠ place)
    (text : entry.2.name = phrase.value)
    (there : (start.library source).module.kinds[entry.2.symbol]? =
      some (key, .global type isPrivate))
    (named : key ≠ .text "") (holds : type ≠ .void) :
    Build.Ends .duplicateName
      ((start.library source).IsFree Table.globals.kind taken (globalName entry) ∧
        (world.library place).module.Holds true key)
      (fun _ => Declares place key false world)
      (importGlobal place source taken entry) world := by
  obtain ⟨choice, middle, choosing⟩ := importName_completes
    (show (⟨entry.2.name, entry.1⟩ : Name).shown = phrase.value from text) place "global"
    (world.library source) (world.library place).globals.keys taken world
  obtain ⟨causes, chosen, noted⟩ := importName_ok choosing
  unfold importGlobal
  refine .get_bind (.ok_bind choosing ?_)
  cases choice with
  | none => exact .completes rfl (.of_kinds (noted.kinds place))
  | some imported =>
      have free := (chosen.earlier grows elsewhere).isFree
      have forwards : World.Grows place taken start middle := IsEffect.trans grows (.of_noted noted)
      -- The global of the source is what it was.
      have there : (middle.library source).module.kinds[entry.2.symbol]? =
          some (key, .global type isPrivate) := by rwa [forwards.kinds elsewhere]
      have known : symbolKey middle ⟨source, entry.2.symbol⟩ = key :=
        symbolKey_eq (Module.key?_of_kinds there)
      obtain ⟨global, found, rfl⟩ := Module.global?_of_kinds there
      have found : middle.global? ⟨source, entry.2.symbol⟩ = some global := found
      refine .get_bind ?_
      dsimp only
      rw [known, found, Option.getD_some]
      refine ((Build.ensureGlobal_ends holds named).imp ?_ fun _ _ _ => id).bind
        fun symbol between _ ⟨owner, declares⟩ => ?_
      · intro held
        rw [Module.Holds, noted.kinds] at held
        exact ⟨free, held⟩
      · obtain ⟨_, symbol⟩ := symbol
        obtain rfl : place = _ := owner.symm
        refine .completes rfl (.trans (.of_kinds (noted.kinds place))
          (declares.trans (.trans (.markGlobal between symbol global.isConstant) (.of_kinds ?_))))
        rw [World.library_changeLibrary]
        split <;> rfl

end

/-! ## What is shown is there -/

section

variable {source : LibraryId} {world : World}

/-- The routine of a function that is shown is there. -/
theorem holds_of_mem_shownReferences {entry : Key × FunctionRef} {includePrivate : Bool}
    (grounded : (world.library source).Grounded world.fragments.length)
    (member : entry ∈ shownReferences world source includePrivate) :
    (world.library source).module.Holds true (symbolKey world (world.functionSymbol entry.2)) := by
  obtain ⟨⟨⟨key, function⟩, index⟩, shown, rfl⟩ := List.mem_map.mp member
  have listed : (world.library source).functions[index]? = some (key, function) :=
    List.mk_mem_zipIdx_iff_getElem?.mp (List.mem_of_mem_filter shown)
  have symbol : world.functionSymbol ⟨source, index⟩ = ⟨source, function.symbol⟩ := by
    simp [World.functionSymbol, World.function, listed]
  obtain ⟨routine, found⟩ := Option.isSome_iff_exists.mp
    (grounded.functions _ (List.mem_of_getElem? listed))
  obtain ⟨name, among⟩ := Module.kinds_of_routine? _ found
  rw [symbol, symbolKey_eq (Module.key?_of_kinds among)]
  exact ⟨_, List.mem_of_getElem? among, rfl⟩

/-- A global that is shown is there. -/
theorem kinds_of_mem_shownGlobals {entry : Key × GlobalEntry} {includePrivate : Bool}
    (grounded : (world.library source).Grounded world.fragments.length)
    (member : entry ∈ (world.library source).shownGlobals includePrivate) :
    ∃ key type isPrivate, (world.library source).module.kinds[entry.2.symbol]? =
      some (key, .global type isPrivate) := by
  obtain ⟨global, found⟩ := Option.isSome_iff_exists.mp
    (grounded.globals _ (List.mem_of_mem_filter member))
  obtain ⟨key, among⟩ := Module.kinds_of_global? _ found
  exact ⟨key, _, _, among⟩

end

/-! ## Whole imports -/

/-- **A clash of kinds**: the source shows a symbol under a name that is free, but a symbol of the
other kind has its key in the module of the importing library. -/
inductive Clash (place source : LibraryId) (world : World) : Prop
  /-- A global has the key of a function's routine. -/
  | function {entry : Key × FunctionRef} (shown : entry ∈ shownReferences world source false)
      (free : (world.library source).IsFree Table.functions.kind
        (world.library place).takenNames (functionName world entry))
      (held : (world.library place).module.Holds false
        (symbolKey world (world.functionSymbol entry.2)))
  /-- A routine has the key of a global. -/
  | global {entry : Key × GlobalEntry}
      (shown : entry ∈ (world.library source).shownGlobals false)
      (free : (world.library source).IsFree Table.globals.kind
        (world.library place).takenNames (globalName entry))
      (held : (world.library place).module.Holds true
        (symbolKey world ⟨source, entry.2.symbol⟩))

/-- **How far an import is**: the library has grown, and each symbol of its module was there or comes
from the source. -/
structure Merges (place source : LibraryId) (start world : World) : Prop where
  /-- The library has grown. -/
  grows : World.Grows place (start.library place).takenNames start world
  /-- No symbol is from elsewhere. -/
  holds {isRoutine : Bool} {key : Key} : (world.library place).module.Holds isRoutine key →
    (start.library place).module.Holds isRoutine key ∨
      (start.library source).module.Holds isRoutine key

namespace Merges

variable {place source : LibraryId} {start world after : World}

/-- An import starts without anything from the source. -/
theorem refl (world : World) : Merges place source world world :=
  ⟨IsEffect.refl world, .inl⟩

/-- A symbol of the source is declared. -/
theorem declare {key : Key} {isRoutine : Bool} (merges : Merges place source start world)
    (grows : World.Grows place (start.library place).takenNames world after)
    (declares : Declares place key isRoutine world after)
    (held : (start.library source).module.Holds isRoutine key) :
    Merges place source start after where
  grows := IsEffect.trans merges.grows grows
  holds {kind known} holds := by
    rcases declares kind known holds with there | ⟨rfl, rfl⟩
    · exact merges.holds there
    · exact .inr held

/-- A symbol of the source can only clash with what was there. -/
theorem clash {key : Key} {isRoutine : Bool} (merges : Merges place source start world)
    (nodup : (start.library source).module.kinds.keys.Nodup)
    (held : (start.library source).module.Holds isRoutine key)
    (clashes : (world.library place).module.Holds (!isRoutine) key) :
    (start.library place).module.Holds (!isRoutine) key := by
  rcases merges.holds clashes with there | other
  · exact there
  · cases isRoutine <;> cases held.unique nodup other

end Merges

section

variable {place source : LibraryId} {start world : World}

/-- **Importing the functions of a library** completes unless there is a clash. -/
theorem importFunctions_ends (grounded : start.Grounded) (distinct : source ≠ place)
    (inside : place < start.libraries.length)
    (orderly : (start.library source).outline.Orderly)
    (texts : ∀ entry ∈ shownReferences start source false,
      (functionName start entry).shown.phrase?.isSome) :
    Build.Ends .duplicateName (Clash place source start) (fun _ => Merges place source start)
      ((shownReferences start source false).forM
        (importFunction place (start.library place).takenNames)) start := by
  refine .forM (fun entry member world merges => ?_) (.refl start)
  obtain rfl := owner_of_mem_shownReferences member
  have held := holds_of_mem_shownReferences (grounded entry.2.owner) member
  obtain ⟨phrase, text⟩ := Value.exists_phrase (texts entry member)
  refine (importFunction_ends merges.grows distinct text (held.named orderly.named)).imp ?_ ?_
  · rintro ⟨free, clashes⟩
    exact .function member free (merges.clash orderly.keys held clashes)
  · intro _ after run declares
    have step := importFunction_step run merges.grows distinct (merges.grows.length ▸ inside)
    exact merges.declare step.grows declares held

/-- **Importing the fragments of a library** completes. -/
theorem importFragments_ends {Reason : Prop} (grounded : start.Grounded) (distinct : source ≠ place)
    (inside : place < start.libraries.length)
    (texts : ∀ entry ∈ shownFragments start source false,
      (fragmentName start entry).shown.phrase?.isSome)
    (merges : Merges place source start world) :
    Build.Ends .duplicateName Reason (fun _ => Merges place source start)
      ((shownFragments start source false).forM
        (importFragment place source (start.library place).takenNames)) world := by
  refine .forM (fun entry member world merges => ?_) merges
  obtain ⟨listed, isPublic⟩ := List.mem_filter.mp member
  have there := (grounded source).fragments entry listed
  obtain ⟨phrase, text⟩ := Value.exists_phrase (texts entry member)
  refine (importFragment_ends merges.grows there text).imp id ?_
  intro _ after run same
  have step := importFragment_step run merges.grows distinct (merges.grows.length ▸ inside) there
    (by simpa using isPublic)
  refine ⟨IsEffect.trans merges.grows step.grows, fun holds => ?_⟩
  rw [Module.Holds, same] at holds
  exact merges.holds holds

/-- **Importing the globals of a library** completes unless there is a clash. -/
theorem importGlobals_ends (grounded : start.Grounded) (distinct : source ≠ place)
    (inside : place < start.libraries.length)
    (orderly : (start.library source).outline.Orderly)
    (texts : ∀ entry ∈ (start.library source).shownGlobals false,
      (globalName entry).shown.phrase?.isSome)
    (merges : Merges place source start world) :
    Build.Ends .duplicateName (Clash place source start) (fun _ => Merges place source start)
      (((start.library source).shownGlobals false).forM
        (importGlobal place source (start.library place).takenNames)) world := by
  refine .forM (fun entry member world merges => ?_) merges
  obtain ⟨key, type, isPrivate, there⟩ := kinds_of_mem_shownGlobals (grounded source) member
  have held : (start.library source).module.Holds false key :=
    ⟨_, List.mem_of_getElem? there, rfl⟩
  obtain ⟨phrase, text⟩ := Value.exists_phrase (texts entry member)
  refine (importGlobal_ends merges.grows distinct text there (held.named orderly.named)
    (orderly.types (List.mem_of_getElem? there))).imp ?_ ?_
  · rintro ⟨free, clashes⟩
    refine .global member free ?_
    rw [symbolKey_eq (Module.key?_of_kinds there)]
    exact merges.clash orderly.keys held clashes
  · intro _ after run declares
    have step := importGlobal_step run merges.grows distinct (merges.grows.length ▸ inside)
    exact merges.declare step.grows declares held

end

/-- **How an import ends**: it completes, or it fails at a clash. -/
theorem importFrom_ends {place source : LibraryId} {before : World}
    (attainable : Script.Attainable before) (inside : place < before.libraries.length)
    (distinct : source ≠ place)
    (texts : ∀ name ∈ shownNames before source, name.shown.phrase?.isSome) :
    Build.Ends .duplicateName (Clash place source before) (fun _ _ => True)
      (importFrom place (.library source)) before := by
  have grounded := attainable.reachable.grounded
  have orderly := attainable.outline Outline.isKept_orderly source
  simp only [shownNames, List.forall_mem_append, List.forall_mem_map] at texts
  obtain ⟨⟨functionTexts, fragmentTexts⟩, globalTexts⟩ := texts
  have found : importSource place (.library source) before = .ok source before := rfl
  unfold importFrom
  refine .ok_bind found (.get_bind ?_)
  rw [if_neg distinct]
  refine (importFunctions_ends grounded distinct inside orderly functionTexts).bind
    fun _ first _ merges => .get_bind ?_
  rw [merges.grows.shownFragments_elsewhere distinct (grounded source)]
  refine (importFragments_ends grounded distinct inside fragmentTexts merges).bind
    fun _ second _ merges => .get_bind ?_
  rw [merges.grows.shownGlobals_elsewhere distinct]
  refine (importGlobals_ends grounded distinct inside orderly globalTexts merges).bind
    fun _ third _ merges => .get_bind ?_
  exact .forM (fun _ _ _ (_ : True) => .completes rfl trivial) trivial

/-- **An import is soft unless kinds clash**: it completes, nothing that was there changes its meaning,
and each symbol of the source is entered or left out with a warning. -/
theorem importFrom_completes {place source : LibraryId} {before : World}
    (attainable : Script.Attainable before) (inside : place < before.libraries.length)
    (distinct : source ≠ place)
    (texts : ∀ name ∈ shownNames before source, name.shown.phrase?.isSome)
    (apart : ¬Clash place source before) :
    ∃ after, importFrom place (.library source) before = .ok () after ∧
      KeepsMeaning place before after ∧
        ∃ added causes, Books place source before after added causes := by
  cases importFrom_ends attainable inside distinct texts with
  | fails run clash => exact (apart clash).elim
  | @completes _ after run =>
      have grounded := attainable.reachable.grounded
      obtain ⟨other, added, functionCauses, fragmentCauses, globalCauses, known, account⟩ :=
        importFrom_ok run grounded inside
      cases known
      exact ⟨after, run, keepsMeaning_of_grows account.grows (grounded place), added, _,
        account.books⟩

/-- Nothing that the first library shows has the key of a symbol of the other kind in the second one, so
the import completes, although names collide. -/
theorem importFrom_completes_colliding :
    Script.Attainable Script.colliding ∧ 1 < Script.colliding.libraries.length ∧
      (∀ name ∈ shownNames Script.colliding 0, name.shown.phrase?.isSome) ∧
      ¬Clash 1 0 Script.colliding ∧
        ∃ after, importFrom 1 (.library 0) Script.colliding = .ok () after ∧
          KeepsMeaning 1 Script.colliding after ∧
            ∃ added causes, Books 1 0 Script.colliding after added causes := by
  have inside : 1 < Script.colliding.libraries.length := by decide +kernel
  have texts : ∀ name ∈ shownNames Script.colliding 0, name.shown.phrase?.isSome := by
    decide +kernel
  have routines : ∀ entry ∈ (Script.colliding.library 1).module.kinds,
      entry.2.isRoutine = true := by
    decide +kernel
  have globals : ∀ entry ∈ (Script.colliding.library 0).shownGlobals false,
      symbolKey Script.colliding ⟨0, entry.2.symbol⟩ ∉
        (Script.colliding.library 1).module.kinds.keys := by
    decide +kernel
  have apart : ¬Clash 1 0 Script.colliding := by
    intro clash
    cases clash with
    | function shown free held =>
        obtain ⟨kind, member, isGlobal⟩ := held
        exact Bool.false_ne_true (isGlobal.symm.trans (routines _ member))
    | global shown free held =>
        exact globals _ shown held.mem_keys
  exact ⟨Script.attainable_colliding, inside, texts, apart,
    importFrom_completes Script.attainable_colliding inside (by decide) texts apart⟩

end Library

/-! ## A global and a function with one symbol -/

namespace Script

/-- A library with an external global, and another one with an external function of the same name. -/
def declareMixed : Build Unit := do
  let source ← Library.create (.text "src") (.visibility .isPublic) (.policy .smart) .none .none
    none
  let _ ← Library.declareGlobal source (.text "x") (.text "i32")
  let importer ← Library.create (.text "app") (.visibility .isPublic) (.policy .smart) .none .none
    none
  let _ ← Library.declareExternal importer (.text "x") (.tuple []) (.type .void)

/-- The world with the two libraries. -/
def mixed : World :=
  declareMixed.after initialWorld

theorem attainable_mixed : Attainable mixed :=
  attainable_initialWorld.after fun _ _ =>
    (Library.leads_create _ _ _ _ _ nofun).bind fun source =>
      (Library.leads_declareGlobal source _ _).bind fun _ =>
        (Library.leads_create _ _ _ _ _ nofun).bind fun importer =>
          (Library.leads_declareExternal importer _ _ _).bind fun _ => .pure _

end Script

/-- **An import can fail**: it announces an alias for the global, whose key is that of the function, and
enters nothing. -/
theorem Library.importFrom_fails_mixed :
    Script.Attainable Script.mixed ∧ 1 < Script.mixed.libraries.length ∧
      ∃ after, importFrom 1 (.library 0) Script.mixed = .error .duplicateName after ∧
        (after.library 1).takenNames = (Script.mixed.library 1).takenNames ∧
        (after.library 1).report = (Script.mixed.library 1).report.noted
          [.importRenamed "global" "x" "src" "src_x"] := by
  have inside : 1 < Script.mixed.libraries.length := by decide +kernel
  have texts : ∀ name ∈ shownNames Script.mixed 0, name.shown.phrase?.isSome := by
    decide +kernel
  have failed := (importFrom_ends Script.attainable_mixed inside (by decide) texts).error_after
    (by decide +kernel)
  exact ⟨Script.attainable_mixed, inside, _, failed, by decide +kernel, by decide +kernel⟩

end StructuredIR
