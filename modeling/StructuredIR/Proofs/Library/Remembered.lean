import StructuredIR.Proofs.Scripts

/-! # Libraries forget nothing

Whatever scripts do, a name that is listed in a library stays listed, and a text that is pooled stays
pooled. **`World.Remembers`** says so of two worlds, and **`Script.Reaches.remembers`** that it holds
of every world and every one that scripts lead to from there. -/

namespace StructuredIR

open Build (Leads)

/-- **A library remembers what it was**: its names are still listed and its texts are still pooled. -/
structure Library.Remembers (before after : Library) : Prop where
  /-- The names of functions are still listed. -/
  functions : before.functions.keys ⊆ after.functions.keys
  /-- The names of fragments are still listed. -/
  fragments : before.fragments.keys ⊆ after.fragments.keys
  /-- The names of globals are still listed. -/
  globals : before.globals.keys ⊆ after.globals.keys
  /-- The texts are still pooled. -/
  strings : before.pool.entries.keys ⊆ after.pool.entries.keys

/-- **All libraries remember what they were.** -/
structure World.Remembers (before after : World) : Prop where
  /-- There are no fewer libraries. -/
  length : before.libraries.length ≤ after.libraries.length
  /-- Each library remembers what it was. -/
  library (place : LibraryId) : (before.library place).Remembers (after.library place)

namespace Library.Remembers

variable {before middle after : Library}

theorem refl (library : Library) : library.Remembers library :=
  ⟨List.Subset.refl _, List.Subset.refl _, List.Subset.refl _, List.Subset.refl _⟩

theorem trans (first : before.Remembers middle) (second : middle.Remembers after) :
    before.Remembers after :=
  ⟨List.Subset.trans first.functions second.functions,
    List.Subset.trans first.fragments second.fragments,
    List.Subset.trans first.globals second.globals,
    List.Subset.trans first.strings second.strings⟩

/-- A library with the same tables and the same pool remembers what it was. -/
theorem of_eq (functions : after.functions = before.functions)
    (fragments : after.fragments = before.fragments) (globals : after.globals = before.globals)
    (pool : after.pool = before.pool) : before.Remembers after := by
  constructor <;> simp [*]

/-- Names that were taken are still taken. -/
theorem takenNames (remembers : before.Remembers after) :
    before.takenNames ⊆ after.takenNames := by
  intro key member
  simp only [Library.takenNames, List.mem_append] at member ⊢
  exact member.imp (Or.imp (fun found => remembers.functions found) fun found =>
    remembers.fragments found) fun found => remembers.globals found

end Library.Remembers

/-- The keys of a dictionary are still there when something has been entered. -/
theorem Dictionary.keys_subset_enter {Key Entry : Type} [DecidableEq Key]
    (dictionary : Dictionary Key Entry) (key : Key) (value : Entry) :
    dictionary.keys ⊆ (dictionary.enter key value).keys := by
  unfold enter
  split
  · rw [keys_change]
    exact List.Subset.refl _
  · simp [keys]

/-- Changing the entry at a place keeps the keys. -/
theorem Dictionary.keys_modify {Key Entry : Type} (dictionary : Dictionary Key Entry) (place : Nat)
    (update : Entry → Entry) :
    keys (dictionary.modify place fun entry => (entry.1, update entry.2)) = dictionary.keys := by
  refine List.ext_getElem? fun index => ?_
  simp only [keys, List.getElem?_map, List.getElem?_modify]
  split
  · cases dictionary[index]? <;> rfl
  · simp

namespace World.Remembers

/-- Nothing is forgotten when a library that forgets nothing changes. -/
theorem of_changeLibrary (world : World) (place : LibraryId) {update : Library → Library}
    (remembers : (world.library place).Remembers (update (world.library place))) :
    world.Remembers (world.changeLibrary place update) := by
  refine ⟨(world.length_changeLibrary place update).ge, fun other => ?_⟩
  rw [library_changeLibrary]
  split
  next same => rwa [same.1]
  next => exact .refl _

/-- Nothing is forgotten when a module changes. -/
theorem of_changeModule (world : World) (place : LibraryId) (update : Module → Module) :
    world.Remembers (world.changeModule place update) :=
  of_changeLibrary world place (.of_eq rfl rfl rfl rfl)

instance : IsEffect World.Remembers where
  refl _ := ⟨le_rfl, fun _ => .refl _⟩
  trans first second :=
    ⟨first.length.trans second.length, fun place => (first.library place).trans
      (second.library place)⟩

/-- Nothing is forgotten when a symbol is declared. -/
theorem leads_declareSymbol (place : LibraryId) (name : Name) (content : Content) :
    Leads World.Remembers (Build.declareSymbol place name content) := by
  intro world
  cases run : Build.declareSymbol place name content world with
  | ok symbol after =>
      rw [Build.after_of_ok run, (Build.declareSymbol_ok run).2]
      exact of_changeModule world place _
  | error fault after =>
      rw [Build.after_of_error run, Build.declareSymbol_error run]
      exact IsEffect.refl world

end World.Remembers

instance : AllowsTexts World.Remembers where
  held world _ _ := ⟨le_rfl, fun _ => .refl _⟩
  block world place _ := by
    unfold World.changeBlock
    exact .of_changeModule world place.routine.owner _
  global world symbol _ := .of_changeModule world symbol.owner _

instance : AllowsDeclarations World.Remembers where
  intern place text world := by
    refine .of_changeLibrary world place ⟨List.Subset.refl _, List.Subset.refl _,
      List.Subset.refl _, ?_⟩
    dsimp only [StringPool.intern]
    split
    · exact List.Subset.refl _
    · simp [Dictionary.keys]
  routine place name _ _ _ := World.Remembers.leads_declareSymbol place name _
  aside {before after} libraries _ := by
    refine ⟨libraries ▸ le_rfl, fun place => ?_⟩
    have same : after.library place = before.library place := by
      rw [World.library, World.library, libraries]
    exact same ▸ .refl _
  changeRoutine world symbol _ := .of_changeModule world symbol.owner _
  changeFunction world reference update _ := by
    refine .of_changeLibrary world _ ⟨?_, List.Subset.refl _, List.Subset.refl _,
      List.Subset.refl _⟩
    rw [Dictionary.keys_modify]
    exact List.Subset.refl _
  changeReport world place _ := .of_changeLibrary world place (.of_eq rfl rfl rfl rfl)
  addLibrary world library _ _ _ := by
    refine ⟨by simp, fun place => ?_⟩
    rw [World.library_append]
    split
    next same =>
      rw [World.library_of_length_le world same.ge]
      exact ⟨nofun, nofun, nofun, nofun⟩
    next => exact .refl _
  changeDefault world place _ := .of_changeLibrary world place (.of_eq rfl rfl rfl rfl)
  global' place name _ := World.Remembers.leads_declareSymbol place name _
  changeGlobal world symbol _ := .of_changeModule world symbol.owner _
  addFragment world _ := ⟨le_rfl, fun _ => .refl _⟩
  changeFragment world _ _ := ⟨le_rfl, fun _ => .refl _⟩
  enterFunction world place key function _ := by
    refine .of_changeLibrary world place ⟨?_, List.Subset.refl _, List.Subset.refl _,
      List.Subset.refl _⟩
    simp [Dictionary.keys]
  enterFragment world place key fragment _ :=
    .of_changeLibrary world place ⟨List.Subset.refl _, Dictionary.keys_subset_enter _ _ _,
      List.Subset.refl _, List.Subset.refl _⟩
  enterGlobal world place key entry _ :=
    .of_changeLibrary world place ⟨List.Subset.refl _, List.Subset.refl _,
      Dictionary.keys_subset_enter _ _ _, List.Subset.refl _⟩
  changeEntry world place key _ := by
    refine .of_changeLibrary world place ⟨List.Subset.refl _, List.Subset.refl _, ?_,
      List.Subset.refl _⟩
    rw [Dictionary.keys_change]
    exact List.Subset.refl _

/-- **Nothing is forgotten**, whatever scripts do. -/
theorem Script.Reaches.remembers {before after : World} (reaches : Script.Reaches before after) :
    before.Remembers after :=
  reaches World.Remembers

end StructuredIR
