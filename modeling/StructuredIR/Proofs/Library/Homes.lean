import StructuredIR.Proofs.Library.Grounded

/-! # What belongs to libraries

Libraries share nothing that changes: the entry of a function is a block of the library that lists the
function, and no fragment is listed by two libraries.

* **`World.Homes`** says so of a world.
* **`Script.Attainable.homes`**: so it is in every world that scripts attain. What they take from other
  libraries is copied. -/

namespace StructuredIR

open Build (Leads bind_eq_ok get_eq_ok modify_eq_ok pure_eq_ok)

/-- **Libraries share nothing that changes.** -/
structure World.Homes (world : World) : Prop where
  /-- The entry of a function is a block of its library. -/
  entry (place : LibraryId) : ∀ listed ∈ (world.library place).functions, ∀ block,
    listed.2.entry = some block → block.routine.owner = place
  /-- The fragments that a library lists are there. -/
  inside (place : LibraryId) :
    ∀ listed ∈ (world.library place).fragments, listed.2 < world.fragments.length
  /-- No other library lists them. -/
  apart {place other : LibraryId} : place ≠ other →
    ∀ listed ∈ (world.library place).fragments, ∀ known ∈ (world.library other).fragments,
      listed.2 ≠ known.2

namespace World.Homes

variable {world after : World}

/-- The entry of a function is a block of its library. -/
theorem function (homes : world.Homes) {reference : FunctionRef} {block : BlockRef}
    (begins : (world.function reference).entry = some block) :
    block.routine.owner = reference.owner := by
  rw [World.function] at begins
  rcases listed : (world.library reference.owner).functions[reference.place]? with _ | entry
  · rw [listed] at begins
    cases begins
  · rw [listed] at begins
    exact homes.entry _ entry (List.mem_of_getElem? listed) block begins

/-- What libraries list decides, as long as no fragment goes. -/
theorem of_same (homes : world.Homes)
    (functions : ∀ place, (after.library place).functions = (world.library place).functions)
    (fragments : ∀ place, (after.library place).fragments = (world.library place).fragments)
    (length : world.fragments.length ≤ after.fragments.length) : after.Homes where
  entry place listed member := homes.entry place listed (functions place ▸ member)
  inside place listed member :=
    (homes.inside place listed (fragments place ▸ member)).trans_le length
  apart different listed member known memberToo :=
    homes.apart different listed (fragments _ ▸ member) known (fragments _ ▸ memberToo)

/-- A library may change that lists the same. -/
theorem changeLibrary (homes : world.Homes) (place : LibraryId) {update : Library → Library}
    (functions : (update (world.library place)).functions = (world.library place).functions)
    (fragments : (update (world.library place)).fragments = (world.library place).fragments) :
    (world.changeLibrary place update).Homes := by
  refine homes.of_same (fun other => ?_) (fun other => ?_) (Nat.le_refl _)
  all_goals
    rw [library_changeLibrary]
    split
    next here => rw [here.1]; assumption
    next => rfl

/-- The functions of a library may change if their entries are still its own. -/
theorem changeFunctions (homes : world.Homes) (place : LibraryId) {update : Library → Library}
    (entry : ∀ listed ∈ (update (world.library place)).functions, ∀ block,
      listed.2.entry = some block → block.routine.owner = place)
    (fragments : (update (world.library place)).fragments = (world.library place).fragments) :
    (world.changeLibrary place update).Homes where
  entry other listed member block begins := by
    rw [library_changeLibrary] at member
    split at member
    next here =>
      rw [here.1]
      exact entry listed member block begins
    next => exact homes.entry other listed member block begins
  inside other listed member := by
    refine homes.inside other listed ?_
    rw [library_changeLibrary] at member
    split at member
    next here => rwa [here.1, ← fragments]
    next => exact member
  apart different listed member known memberToo := by
    have same (other : LibraryId) : ((world.changeLibrary place update).library other).fragments =
        (world.library other).fragments := by
      rw [library_changeLibrary]
      split
      next here => rw [here.1]; exact fragments
      next => rfl
    rw [same] at member memberToo
    exact homes.apart different listed member known memberToo

/-- What is declared in a module belongs to no one else. -/
theorem declareSymbol (homes : world.Homes) (place : LibraryId) (name : Name) (content : Content) :
    ((Build.declareSymbol place name content).after world).Homes := by
  cases run : Build.declareSymbol place name content world with
  | ok symbol after =>
      rw [Build.after_of_ok run, (Build.declareSymbol_ok run).2]
      exact homes.changeLibrary place rfl rfl
  | error fault after =>
      rw [Build.after_of_error run, Build.declareSymbol_error run]
      exact homes

/-- What a body records of a function leaves its entry as it is. -/
theorem changeFunction (homes : world.Homes) (reference : FunctionRef)
    {update : Function → Function} (entry : ∀ function, (update function).entry = function.entry) :
    (world.changeFunction reference update).Homes := by
  refine homes.changeFunctions reference.owner (fun listed member block begins => ?_) rfl
  obtain ⟨place, inside, rfl⟩ := List.getElem_of_mem member
  simp only [List.length_modify] at inside
  simp only [List.getElem_modify] at begins
  refine homes.entry _ _ (List.getElem_mem inside) block ?_
  split at begins
  · rwa [entry] at begins
  · exact begins

/-- A fragment that has just come up may be entered. -/
theorem addEntry (homes : world.Homes) (place : LibraryId) (key : Key) (fragment : Fragment) :
    ((Library.addEntry place key fragment).after world).Homes := by
  have entered : (Library.addEntry place key fragment).after world =
      ({ world with fragments := world.fragments ++ [fragment] } : World).changeLibrary place
        fun library =>
          { library with fragments := library.fragments.enter key world.fragments.length } := rfl
  have length : ((Library.addEntry place key fragment).after world).fragments.length =
      world.fragments.length + 1 := by
    rw [entered]
    exact List.length_append
  -- What is listed afterwards was listed before, or is the new fragment in its library.
  have among {other : LibraryId} {listed : Key × FragmentId}
      (member : listed ∈ (((Library.addEntry place key fragment).after world).library
        other).fragments) :
      other = place ∧ listed.2 = world.fragments.length ∨
        listed ∈ (world.library other).fragments := by
    rw [entered, library_changeLibrary] at member
    split at member
    next here =>
      obtain ⟨rfl, -⟩ := here
      rcases Dictionary.mem_enter member with same | known
      · exact .inl ⟨rfl, same⟩
      · exact .inr known
    next => exact .inr member
  refine ⟨fun other listed member => ?_, fun other listed member => ?_,
    fun different listed member known memberToo => ?_⟩
  · refine homes.entry other listed ?_
    rw [entered, library_changeLibrary] at member
    split at member
    next here => rwa [here.1]
    next => exact member
  · rw [length]
    rcases among member with ⟨-, same⟩ | known
    · exact same ▸ Nat.lt_succ_self _
    · exact Nat.lt_succ_of_lt (homes.inside other listed known)
  · rcases among member with ⟨rfl, same⟩ | before <;>
      rcases among memberToo with ⟨rfl, sameToo⟩ | beforeToo
    · exact (different rfl).elim
    · rw [same]
      exact (Nat.ne_of_lt (homes.inside _ known beforeToo)).symm
    · rw [sameToo]
      exact Nat.ne_of_lt (homes.inside _ listed before)
    · exact homes.apart different listed before known beforeToo

end World.Homes

/-- A function that is created begins in the library that it is created in. -/
theorem Function.create_entry {place : LibraryId} {name : Value} {signature : Signature}
    {result : IRType} {symbolName : Name} {visibility : Visibility} {isDeclaration : Bool}
    {world after : World} {function : Function} {block : BlockRef}
    (run : create place name signature result symbolName visibility isDeclaration world =
      .ok function after) (begins : function.entry = some block) : block.routine.owner = place := by
  obtain ⟨symbol, between, asking, rest⟩ := bind_eq_ok.mp run
  obtain ⟨rfl, -⟩ := Build.ensureRoutine_there asking
  split at rest
  · obtain ⟨_, _, linking, rest⟩ := bind_eq_ok.mp rest
    obtain ⟨rfl, rfl⟩ := pure_eq_ok.mp rest
    cases begins
  · obtain ⟨entry, _, adding, rest⟩ := bind_eq_ok.mp rest
    obtain ⟨_, _, linking, rest⟩ := bind_eq_ok.mp rest
    obtain ⟨rfl, rfl⟩ := pure_eq_ok.mp rest
    cases begins
    rw [Build.appendNamed_ok adding]

instance : AllowsTexts (Preserves World.Homes) where
  held _ _ _ homes := ⟨homes.entry, homes.inside, homes.apart⟩
  block _ place _ homes := homes.changeLibrary place.routine.owner rfl rfl
  global _ symbol _ homes := homes.changeLibrary symbol.owner rfl rfl

instance {place : LibraryId} : AllowsRoutinesIn place (Preserves World.Homes) where
  changeRoutine _ symbol _ _ _ _ homes := homes.changeLibrary symbol.owner rfl rfl

instance : AllowsCode (Preserves World.Homes) where
  aside libraries fragments homes :=
    homes.of_same (fun place => by rw [World.library, libraries]; rfl)
      (fun place => by rw [World.library, libraries]; rfl) (fragments ▸ Nat.le_refl _)
  code place :=
    { intern := fun owner _ _ world homes => homes.changeLibrary owner rfl rfl
      routine := fun name _ _ _ world homes => homes.declareSymbol place name _
      changeRoutine := AllowsRoutinesIn.changeRoutine
      emitFirst := fun world _ entry base operation _ _ =>
        Build.leads_emitFirst entry base operation world
      changeFunction := fun world reference update _ heading _ homes =>
        homes.changeFunction reference fun function =>
          (congrArg Function.entry (heading function) :) }

namespace Library

/-- A function is created and entered. -/
theorem keepsHomes_addFunction (place : LibraryId) (key : Key) (name : Value)
    (signature : Signature) (result : IRType) (symbolName : Name) (visibility : Visibility)
    (isDeclaration : Bool) :
    Leads (Preserves World.Homes) (addFunction place key name signature result symbolName visibility
      isDeclaration) := by
  have linked (symbol : SymbolRef) (visibility : Value) :
      Leads (Preserves World.Homes) (Function.link symbol visibility) :=
    Leads.modify fun world homes => homes.changeLibrary symbol.owner rfl rfl
  have created : Leads (Preserves World.Homes) (Function.create place name signature result
      symbolName visibility isDeclaration) := by
    grind -linarith [Function.create]
  refine created.bindFrom fun start function between run homes => ?_
  refine homes.changeFunctions place (fun listed member block begins => ?_) rfl
  rcases List.mem_append.mp member with known | new
  · exact homes.entry place listed known block begins
  · obtain rfl := List.mem_singleton.mp new
    exact Function.create_entry run begins

end Library

instance : AllowsScripts (Preserves World.Homes) where
  addLibrary world name visibility policy registry report echo homes := by
    have listed (place : LibraryId) :
        (World.library { world with
          libraries := world.libraries ++ [.empty name visibility policy registry report echo] }
            place).functions = (world.library place).functions ∧
        (World.library { world with
          libraries := world.libraries ++ [.empty name visibility policy registry report echo] }
            place).fragments = (world.library place).fragments := by
      rw [World.library_append]
      split
      next here =>
        rw [here, World.library_of_length_le _ (Nat.le_refl _)]
        exact ⟨rfl, rfl⟩
      next => exact ⟨rfl, rfl⟩
    exact homes.of_same (fun place => (listed place).1) (fun place => (listed place).2)
      (Nat.le_refl _)
  addFragment _ _ homes := homes.of_same (fun _ => rfl) (fun _ => rfl) (by simp)
  changeFragment _ _ _ homes :=
    homes.of_same (fun _ => rfl) (fun _ => rfl) (List.length_modify ..).ge
  library place :=
    { changeReport := fun world _ homes => homes.changeLibrary place rfl rfl
      changeDefault := fun world _ homes => homes.changeLibrary place rfl rfl
      atEntry := fun reference _ => Generator.leads_atEntry reference
      addFunction := Library.keepsHomes_addFunction place
      relinkFunction := fun world reference key function visibility _ _ homes => by
        have changed : (world.changeFunction reference fun function =>
          { function with visibility }).Homes := homes.changeFunction reference fun _ => rfl
        exact changed.changeLibrary place rfl rfl
      addEntry := fun key fragment world homes => homes.addEntry place key fragment
      relinkFragment := fun _ _ _ _ _ homes =>
        homes.of_same (fun _ => rfl) (fun _ => rfl) (List.length_modify ..).ge
      addGlobal := fun world key symbolName valueType update name visibility _ _ _ => by
        have declared : Leads (Preserves World.Homes) (Build.declareSymbol place symbolName
            (.global (.external valueType))) := fun world homes => homes.declareSymbol place _ _
        have asked : Leads (Preserves World.Homes)
            (Build.ensureGlobal place symbolName valueType) := by
          grind -linarith [Build.ensureGlobal]
        refine Build.permitted_bind (asked world) fun symbol between _ homes => ?_
        exact (homes.changeLibrary symbol.owner rfl rfl).changeLibrary place rfl rfl
      fixGlobal := fun world symbol _ homes => homes.changeLibrary symbol.owner rfl rfl
      relinkGlobal := fun world key entry visibility _ homes =>
        (homes.changeLibrary place rfl rfl).changeLibrary place rfl rfl }

/-- **In every world that scripts attain**, libraries share nothing that changes. -/
theorem Script.Attainable.homes {world : World} (attainable : Script.Attainable world) :
    world.Homes :=
  attainable.holds
    ⟨fun _ _ member => (List.not_mem_nil member).elim,
      fun _ _ member => (List.not_mem_nil member).elim,
      fun _ _ member => (List.not_mem_nil member).elim⟩

end StructuredIR
