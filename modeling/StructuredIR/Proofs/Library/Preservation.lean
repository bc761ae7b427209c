import StructuredIR.Proofs.Library.Imports

/-! # Imports preserve what a library means

* **`Library.mem_takenNames_of_resolve`**: a name that stands for something is taken.
* **`Library.KeepsMeaning`** says that names still stand for what they stood for, that what was listed
  is still listed, and that the symbols of the module mean what they meant.
* **`Library.importFrom_keepsMeaning`**: a completed import keeps the meaning of the importing
  library, in every world that can be reached. -/

namespace StructuredIR

namespace Library

variable {place : LibraryId} {before after world : World}

/-- What is shown of some entries has keys of these. -/
theorem mem_keys_of_shown {Entry : Type} {dictionary : Dictionary Key Entry} {key : Key}
    {entry : Entry} {shows : Key × Entry → Bool}
    (found : Dictionary.get? (dictionary.filter shows) key = some entry) :
    key ∈ dictionary.keys :=
  List.mem_map.mpr ⟨_, List.mem_of_mem_filter (Dictionary.mem_of_get?_eq_some found), rfl⟩

/-- The functions that are shown have keys of functions. -/
theorem mem_keys_of_shownReferences {key : Key} {includePrivate : Bool}
    (shown : key ∈ (shownReferences world place includePrivate).keys) :
    key ∈ (world.library place).functions.keys := by
  obtain ⟨_, member, rfl⟩ := List.mem_map.mp shown
  obtain ⟨_, among, rfl⟩ := List.mem_map.mp member
  have listed := List.fst_mem_of_mem_zipIdx (List.mem_of_mem_filter among)
  exact List.mem_map_of_mem listed

/-- **A name that stands for something is taken.** -/
theorem mem_takenNames_of_resolve {key : Key} {includePrivate : Bool}
    (found : resolve world place key includePrivate ≠ .notFound) :
    key ∈ (world.library place).takenNames := by
  simp only [takenNames, List.mem_append]
  unfold resolve at found
  split at found
  next fragment known => exact .inl (.inr (mem_keys_of_shown known))
  next reference _ known =>
    exact .inl (.inl (mem_keys_of_shownReferences (Dictionary.mem_keys_of_get?_eq_some known)))
  next entry _ _ known => exact .inr (mem_keys_of_shown known)
  next => exact (found rfl).elim

/-- **A library keeps what it means**: its names still stand for what they stood for, what it lists
is still listed, and the symbols of its module have kept their types, initial values and bodies. -/
structure KeepsMeaning (place : LibraryId) (before after : World) : Prop where
  /-- A name that stood for something stands for the same. -/
  resolution (key : Key) (includePrivate : Bool) :
    resolve before place key includePrivate ≠ .notFound →
      resolve after place key includePrivate = resolve before place key includePrivate
  /-- The functions are still listed. -/
  functions : (before.library place).functions <+: (after.library place).functions
  /-- The fragments are still listed. -/
  fragments : (before.library place).fragments <+: (after.library place).fragments
  /-- The fragments themselves are the same. -/
  bodies : before.fragments <+: after.fragments
  /-- The globals are still listed. -/
  globals : (before.library place).globals <+: (after.library place).globals
  /-- The strings are still pooled. -/
  strings : (before.library place).pool.entries <+: (after.library place).pool.entries
  /-- The symbols of the module mean what they meant. -/
  module : (before.library place).module.Grows (after.library place).module

/-- What is extended begins as it did. -/
theorem isPrefix_of_extends {Key Entry : Type} {taken : List Key}
    {before after : Dictionary Key Entry} (extends' : Dictionary.Extends taken before after) :
    before <+: after := by
  obtain ⟨added, rfl, -⟩ := extends'
  exact List.prefix_append ..

/-- A library that grows, with nothing new under names that were taken, keeps what it means. -/
theorem keepsMeaning_of_grows
    (grows : World.Grows place (before.library place).takenNames before after)
    (grounded : (before.library place).Grounded before.fragments.length) :
    KeepsMeaning place before after where
  resolution _ includePrivate found :=
    grows.resolve grounded (mem_takenNames_of_resolve found) includePrivate
  functions := isPrefix_of_extends grows.library.functions
  fragments := isPrefix_of_extends grows.library.fragments
  bodies := grows.fragments
  globals := isPrefix_of_extends grows.library.globals
  strings := grows.library.pool
  module := grows.library.module

/-- **A completed import keeps what the importing library means**, in every world that can be
reached, whatever the source shows and whatever its policy is. -/
theorem importFrom_keepsMeaning {value : Value} (reachable : Script.Reachable before)
    (inside : place < before.libraries.length)
    (run : importFrom place value before = .ok () after) : KeepsMeaning place before after := by
  obtain ⟨source, added, functionCauses, fragmentCauses, globalCauses, -, account⟩ :=
    importFrom_ok run reachable.grounded inside
  exact keepsMeaning_of_grows account.grows (reachable.grounded place)

end Library

/-! ## Two libraries that collide -/

namespace Script

/-- A library with two functions, a fragment, a global and a string, and another one that has a
function of the same name as the first. -/
def declareColliding : Build Unit := do
  let source ← Library.create (.text "src") (.visibility .isPublic) (.policy .smart) .none .none
    none
  let _ ← Library.define source (.text "f") (.tuple []) (.type (.int 32)) none
  let _ ← Library.define source (.text "g") (.tuple []) (.type (.int 32)) none
  let _ ← Library.declareFragment source (.text "src_f") .none
  let _ ← Library.declareGlobal source (.text "c") (.integer 7)
  let _ ← Build.internString source (.text "hello")
  let importer ← Library.create (.text "app") (.visibility .isPublic) (.policy .smart) .none .none
    none
  let _ ← Library.define importer (.text "f") (.tuple []) (.type .double) none

/-- The world with the two libraries. -/
def colliding : World :=
  declareColliding.after initialWorld

theorem leads_declareColliding {Effect : World → World → Prop} [AllowsScripts Effect] :
    Build.Leads Effect declareColliding :=
  (Library.leads_create _ _ _ _ _ nofun).bind fun source =>
    (Library.leads_define source _ _ _ nofun).bind fun _ =>
    (Library.leads_define source _ _ _ nofun).bind fun _ =>
    (Library.leads_declareFragment source _ _).bind fun _ =>
    (Library.leads_declareGlobal source _ _).bind fun _ =>
    (Build.leads_internString source _).bind fun _ =>
    (Library.leads_create _ _ _ _ _ nofun).bind fun importer =>
    (Library.leads_define importer _ _ _ nofun).bind fun _ => .pure _

theorem attainable_colliding : Attainable colliding :=
  attainable_initialWorld.after fun _ _ => leads_declareColliding

theorem reachable_colliding : Reachable colliding :=
  attainable_colliding.reachable

/-- The world after the second library has imported the first one. -/
def collided : World :=
  (Library.importFrom 1 (.library 0)).after colliding

theorem importFrom_colliding :
    Library.importFrom 1 (.library 0) colliding = .ok () collided :=
  Build.ok_after (by decide +kernel)

end Script

/-- The two libraries can be reached, the import completes, and the function of the importing
library is still what its name stands for. -/
theorem Library.importFrom_keepsMeaning_colliding :
    Script.Reachable Script.colliding ∧ 1 < Script.colliding.libraries.length ∧
      Library.importFrom 1 (.library 0) Script.colliding = .ok () Script.collided ∧
        KeepsMeaning 1 Script.colliding Script.collided := by
  have inside : 1 < Script.colliding.libraries.length := by decide +kernel
  exact ⟨Script.reachable_colliding, inside, Script.importFrom_colliding,
    importFrom_keepsMeaning Script.reachable_colliding inside Script.importFrom_colliding⟩

end StructuredIR
