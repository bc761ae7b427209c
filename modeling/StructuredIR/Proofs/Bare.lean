import StructuredIR.Proofs.Symbols
import StructuredIR.Proofs.Texts

/-! # Worlds without the texts that they keep

Writing texts keeps some of them, and warnings may also be written to the error stream. Nothing of
what is declared depends on this.

* **`World.bare`** is a world without kept texts and without what was written.
* **`SameBare`** says that two worlds are the same up to that; writing texts leads nowhere else.
* **`Noted place causes`** says that all that differs besides is that a library has recorded warnings
  with some causes; so does **`Build.warn`**. -/

namespace StructuredIR

open Build (Leads bind_eq_ok get_eq_ok pure_eq_ok modify_eq_ok)

/-! ## Bare worlds -/

/-- A block without its kept text. -/
def Block.bare (block : Block) : Block :=
  { block with printed := none }

/-- A routine without kept texts. -/
def Routine.bare (routine : Routine) : Routine :=
  { routine with blocks := routine.blocks.map Block.bare }

/-- A global without its kept text. -/
def Global.bare (global : Global) : Global :=
  { global with printed := none }

/-- A symbol's content without kept texts. -/
def Content.bare : Content → Content
  | .global known => .global known.bare
  | .routine known => .routine known.bare

/-- A symbol without kept texts. -/
def Symbol.bare (symbol : Symbol) : Symbol :=
  { symbol with content := symbol.content.bare }

/-- A module without kept texts. -/
def Module.bare (module : Module) : Module :=
  { module with symbols := module.symbols.map fun entry => (entry.1, entry.2.bare) }

/-- A library without kept texts. -/
def Library.bare (library : Library) : Library :=
  { library with module := library.module.bare }

/-- **A world without the texts that it keeps**, and without what was written. -/
def World.bare (world : World) : World :=
  { world with
    libraries := world.libraries.map Library.bare
    held := world.held.map fun held => { held with text := none }
    errorOutput := "" }

/-- **Nothing but texts differs** between two worlds. -/
def SameBare (before after : World) : Prop :=
  after.bare = before.bare

instance : IsEffect SameBare where
  refl _ := rfl
  trans first second := second.trans first

namespace Module

variable (module : Module)

@[simp]
theorem keys_bare : module.bare.symbols.keys = module.symbols.keys := by
  simp [bare, Dictionary.keys, Function.comp_def]

@[simp]
theorem length_bare : module.bare.symbols.length = module.symbols.length :=
  List.length_map ..

/-- A bare module has the symbols without kept texts. -/
theorem symbol?_bare (place : Nat) :
    module.bare.symbol? place = (module.symbol? place).map Symbol.bare := by
  simp [bare, symbol?, Function.comp_def]

theorem routine?_bare (place : Nat) :
    module.bare.routine? place = (module.routine? place).map Routine.bare := by
  rw [routine?_eq, symbol?_bare, routine?_eq]
  rcases module.symbol? place with _ | ⟨name, content⟩
  · rfl
  · cases content <;> rfl

theorem global?_bare (place : Nat) :
    module.bare.global? place = (module.global? place).map Global.bare := by
  rw [global?_eq, symbol?_bare, global?_eq]
  rcases module.symbol? place with _ | ⟨name, content⟩
  · rfl
  · cases content <;> rfl

/-- What only changes a content up to kept texts changes a module up to kept texts. -/
theorem bare_change (place : Nat) {update : Content → Content}
    (same : ∀ content, (update content).bare = content.bare) :
    (module.change place update).bare = module.bare := by
  rw [bare, bare, change]
  congr 1
  refine List.ext_getElem? fun index => ?_
  simp only [List.getElem?_map, List.getElem?_modify]
  split
  · cases module.symbols[index]? with
    | none => rfl
    | some entry => simp [Symbol.bare, same]
  · rw [id_map']

end Module

namespace World

variable (world : World)

/-- A bare world has the libraries without kept texts. -/
theorem library_bare (place : LibraryId) :
    world.bare.library place = (world.library place).bare := by
  simp only [library, bare, List.getElem?_map]
  cases world.libraries[place]? <;> rfl

/-- Making a world bare commutes with a change of a library that looks at no kept texts. -/
theorem bare_changeLibrary (place : LibraryId) {update : Library → Library}
    (bareUpdate : Library → Library)
    (commutes : ∀ library, (update library).bare = bareUpdate library.bare) :
    (world.changeLibrary place update).bare = world.bare.changeLibrary place bareUpdate := by
  simp only [bare, changeLibrary, World.mk.injEq, and_true]
  refine List.ext_getElem? fun index => ?_
  simp only [List.getElem?_map, List.getElem?_modify]
  split
  · cases world.libraries[index]? with
    | none => rfl
    | some library => exact congrArg some (commutes library)
  · simp

/-- A change of a library that keeps all but texts. -/
theorem sameBare_changeLibrary (place : LibraryId) {update : Library → Library}
    (same : ∀ library, (update library).bare = library.bare) :
    SameBare world (world.changeLibrary place update) := by
  rw [SameBare, world.bare_changeLibrary place id same, changeLibrary,
    List.modify_id]

end World

/-- A library with a module that differs in texts only. -/
theorem Library.bare_withModule (library : Library) {module : Module}
    (same : module.bare = library.module.bare) :
    ({ library with module } : Library).bare = library.bare := by
  simp only [Library.bare, same]

instance : AllowsTexts SameBare where
  held world place text := by
    simp only [SameBare, World.bare, World.keepText, World.mk.injEq, true_and, and_true]
    refine List.ext_getElem? fun index => ?_
    simp only [List.getElem?_map, List.getElem?_modify]
    split
    · cases world.held[index]? <;> rfl
    · rw [id_map']
  block world place text := by
    refine world.sameBare_changeLibrary _ fun library =>
      library.bare_withModule (Module.bare_change _ _ fun content => ?_)
    cases content with
    | global known => rfl
    | routine routine =>
        simp only [Content.bare, Routine.bare, Routine.changeBlock]
        congr 2
        refine List.ext_getElem? fun index => ?_
        simp only [List.getElem?_map, List.getElem?_modify]
        split
        · cases routine.blocks[index]? <;> rfl
        · rw [id_map']
  global world symbol text := by
    refine world.sameBare_changeLibrary _ fun library =>
      library.bare_withModule (Module.bare_change _ _ fun content => ?_)
    cases content <;> rfl

/-! ## Recorded warnings -/

/-- The report with warnings of some causes recorded. -/
def Report.noted (causes : List Cause) (report : Report) : Report :=
  { report with
    items := report.items ++ causes.map fun cause =>
      report.warning cause.code.text cause.message }

/-- The library with warnings of some causes recorded. -/
def Library.noted (causes : List Cause) (library : Library) : Library :=
  { library with report := library.report.noted causes }

/-- **All that differs**, texts aside, is that a library has recorded warnings of some causes. -/
def Noted (place : LibraryId) (causes : List Cause) (before after : World) : Prop :=
  after.bare = (before.changeLibrary place (Library.noted causes)).bare

namespace World

variable (world : World)

/-- Changes of a library that give the same are the same. -/
theorem changeLibrary_congr (place : LibraryId) {first second : Library → Library}
    (same : first (world.library place) = second (world.library place)) :
    world.changeLibrary place first = world.changeLibrary place second := by
  simp only [changeLibrary, World.mk.injEq, and_true]
  refine List.ext_getElem? fun index => ?_
  simp only [List.getElem?_modify]
  split
  next here =>
    subst here
    cases found : world.libraries[place]? with
    | none => rfl
    | some library =>
        simp only [World.library, found, Option.getD_some] at same
        exact congrArg some same
  next => rfl

/-- A change of a library that gives the same library changes nothing. -/
theorem changeLibrary_self (place : LibraryId) {update : Library → Library}
    (same : update (world.library place) = world.library place) :
    world.changeLibrary place update = world := by
  have congr : world.changeLibrary place update = world.changeLibrary place id :=
    world.changeLibrary_congr place same
  rw [congr, changeLibrary, List.modify_id]

/-- Two changes of a library one after the other are one change. -/
theorem changeLibrary_changeLibrary (place : LibraryId) (first second : Library → Library) :
    (world.changeLibrary place first).changeLibrary place second =
      world.changeLibrary place (second ∘ first) := by
  simp only [changeLibrary, List.modify_modify_eq]

/-- A world with recorded warnings is bare if it was before. -/
theorem bare_noted (place : LibraryId) (causes : List Cause) :
    (world.changeLibrary place (Library.noted causes)).bare =
      world.bare.changeLibrary place (Library.noted causes) :=
  world.bare_changeLibrary place _ fun _ => rfl

end World

@[simp]
theorem Report.noted_nil (report : Report) : report.noted [] = report := by
  simp [noted]

/-- Warnings are recorded one after the other. -/
theorem Report.noted_noted (report : Report) (first second : List Cause) :
    (report.noted first).noted second = report.noted (first ++ second) := by
  simp [noted, warning]

theorem Library.noted_noted (first second : List Cause) :
    Library.noted second ∘ Library.noted first = Library.noted (first ++ second) := by
  funext library
  simp [noted, Report.noted_noted]

/-- Where only texts differ, no warning was recorded. -/
theorem SameBare.noted {before after : World} (same : SameBare before after)
    (place : LibraryId) : Noted place [] before after := by
  have nothing : Library.noted [] = id := by
    funext library
    simp [Library.noted]
  rw [Noted, nothing, World.changeLibrary, List.modify_id]
  exact same

namespace Noted

variable {place : LibraryId} {causes more : List Cause} {before middle after : World}

/-- Warnings are recorded one after the other. -/
theorem trans (first : Noted place causes before middle) (second : Noted place more middle after) :
    Noted place (causes ++ more) before after := by
  rw [Noted, World.bare_noted] at first second ⊢
  rw [second, first, World.changeLibrary_changeLibrary, Library.noted_noted]

/-- What differs of a bare library is its report. -/
theorem bareLibrary (noted : Noted place causes before after) (other : LibraryId) :
    (after.library other).bare =
      ((before.changeLibrary place (Library.noted causes)).library other).bare := by
  rw [← World.library_bare, ← World.library_bare, noted]

/-- Only the report of a library differs, and texts. -/
theorem library (noted : Noted place causes before after) (other : LibraryId) :
    ∃ report, (after.library other).bare = { (before.library other).bare with report } := by
  have same := noted.bareLibrary other
  rw [World.library_changeLibrary] at same
  split at same
  next here =>
    obtain ⟨rfl, -⟩ := here
    exact ⟨_, same⟩
  next => exact ⟨(before.library other).report, same⟩

theorem functions (noted : Noted place causes before after) (other : LibraryId) :
    (after.library other).functions = (before.library other).functions := by
  obtain ⟨report, same⟩ := noted.library other
  exact (congrArg Library.functions same :)

theorem fragments (noted : Noted place causes before after) (other : LibraryId) :
    (after.library other).fragments = (before.library other).fragments := by
  obtain ⟨report, same⟩ := noted.library other
  exact (congrArg Library.fragments same :)

theorem globals (noted : Noted place causes before after) (other : LibraryId) :
    (after.library other).globals = (before.library other).globals := by
  obtain ⟨report, same⟩ := noted.library other
  exact (congrArg Library.globals same :)

/-- The fragments of the world are the same. -/
theorem fragmentList (noted : Noted place causes before after) :
    after.fragments = before.fragments := by
  have same : after.bare.fragments =
      (before.changeLibrary place (Library.noted causes)).bare.fragments := by rw [noted]
  exact same

/-- There are as many libraries. -/
theorem length (noted : Noted place causes before after) :
    after.libraries.length = before.libraries.length := by
  have same : after.bare.libraries.length =
      (before.changeLibrary place (Library.noted causes)).bare.libraries.length := by rw [noted]
  simpa [World.bare] using same

/-- The warnings are behind those that were there. -/
theorem report (noted : Noted place causes before after)
    (inside : place < before.libraries.length) :
    (after.library place).report = (before.library place).report.noted causes := by
  have same := noted.bareLibrary place
  rw [World.library_changeLibrary, if_pos ⟨rfl, inside⟩] at same
  exact (congrArg Library.report same :)

end Noted

/-- **A warning** is recorded, and nothing else changes. -/
theorem Build.warn_ok {place : LibraryId} {cause : Cause} {world after : World} {value : Unit}
    (run : warn place cause world = .ok value after) : Noted place [cause] world after := by
  obtain ⟨_, _, looked, run⟩ := bind_eq_ok.mp run
  obtain ⟨rfl, rfl⟩ := get_eq_ok.mp looked
  obtain ⟨report, between, noting, run⟩ := bind_eq_ok.mp run
  obtain rfl := modify_eq_ok.mp run
  have made : report = (world.library place).report.record
        ((world.library place).report.warning cause.code.text cause.message) ∧
      SameBare world between := by
    obtain ⟨_, _, looked, noting⟩ := bind_eq_ok.mp noting
    obtain ⟨rfl, rfl⟩ := get_eq_ok.mp looked
    split at noting
    · obtain ⟨_, _, writing, noting⟩ := bind_eq_ok.mp noting
      obtain rfl := modify_eq_ok.mp writing
      obtain ⟨rfl, rfl⟩ := pure_eq_ok.mp noting
      exact ⟨rfl, rfl⟩
    · obtain ⟨rfl, rfl⟩ := pure_eq_ok.mp noting
      exact ⟨rfl, rfl⟩
  obtain ⟨rfl, same⟩ := made
  rw [Noted, World.bare_noted, ← same]
  rw [between.bare_changeLibrary place (fun library =>
    { library with
      report := (world.library place).report.record
        ((world.library place).report.warning cause.code.text cause.message) }) fun _ => rfl]
  refine between.bare.changeLibrary_congr place ?_
  have known : (between.bare.library place).report = (world.library place).report := by
    rw [same, World.library_bare]
    rfl
  simp only [Library.noted, Report.noted, known, List.map_cons, List.map_nil]
  rfl

end StructuredIR
