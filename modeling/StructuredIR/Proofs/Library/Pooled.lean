import StructuredIR.Proofs.Coercions
import StructuredIR.Proofs.Emission
import StructuredIR.Proofs.Library.Allocation

/-! # What pooling changes

A library whose pool is asked for texts gets a constant for each new one and is otherwise what it was.

* **`Stock.pooled`** is a stock that was asked for some texts, and **`Stock.keys_pooled`** tells what it
  then lists: the texts that were missing come behind the others, in the order of first occurrence.
* **`World.pooled`** is a world in which a library has pooled some texts. All that worlds hold besides is
  as before, and pooling the same texts again changes nothing.
* **`PoolsOnly`** is the effect of pooling texts and keeping texts that were written. -/

namespace StructuredIR

open Build (Leads bind_eq_ok get_eq_ok pure_eq_ok modify_eq_ok)

/-! ## Stocks that are asked for texts -/

namespace Stock

variable {stock : Stock} {text : Phrase} {texts : List Phrase}

/-- What is left when some texts have been asked for. -/
def pooled (stock : Stock) (texts : List Phrase) : Stock :=
  texts.foldl asked stock

/-- Texts are asked for one after the other. -/
theorem pooled_pooled (stock : Stock) (first second : List Phrase) :
    (stock.pooled first).pooled second = stock.pooled (first ++ second) :=
  (List.foldl_append ..).symm

/-- A pooled text adds nothing. -/
theorem asked_eq_self (known : text.content ∈ stock.pool.entries.keys) : stock.asked text = stock :=
  (stock.allocates text).known known

/-- Pooled texts add nothing. -/
theorem pooled_eq_self (known : ∀ text ∈ texts, text.content ∈ stock.pool.entries.keys) :
    stock.pooled texts = stock := by
  induction texts with
  | nil => rfl
  | cons text texts ih =>
      rw [pooled, List.foldl_cons, asked_eq_self (known text List.mem_cons_self)]
      exact ih fun other member => known other (List.mem_cons_of_mem text member)

/-- A text that is missing comes behind the others. -/
theorem keys_asked (stock : Stock) (text : Phrase) :
    (stock.asked text).pool.entries.keys =
      stock.pool.entries.keys ++ [text.content].removeAll stock.pool.entries.keys := by
  by_cases known : text.content ∈ stock.pool.entries.keys
  · rw [asked_eq_self known]
    simp [List.removeAll, known]
  · have missing : [text.content].removeAll stock.pool.entries.keys = [text.content] := by
      simp [List.removeAll, known]
    rw [missing, (asked_new (Dictionary.get?_eq_none.mpr known)).1]
    exact Dictionary.keys_append ..

/-- **The texts that are missing come behind the others**, in the order of first occurrence. -/
theorem keys_pooled (stock : Stock) (texts : List Phrase) :
    (stock.pooled texts).pool.entries.keys =
      stock.pool.entries.keys ++
        ((texts.map Phrase.content).removeAll stock.pool.entries.keys).eraseDups := by
  -- The texts behind the first one meet a pool that has it, so the stock varies in the induction.
  induction texts generalizing stock with
  | nil => exact (List.append_nil _).symm
  | cons text texts ih =>
      rw [pooled, List.foldl_cons, ← pooled, ih, keys_asked]
      by_cases known : text.content ∈ stock.pool.entries.keys
      · simp [List.removeAll, known]
      · simp [List.removeAll, known, List.eraseDups_cons, List.filter_filter, Bool.and_comm,
          Bool.beq_eq_decide_eq]

/-- A text is pooled once it has been asked for. -/
theorem mem_keys_pooled {key : String} :
    key ∈ (stock.pooled texts).pool.entries.keys ↔
      key ∈ stock.pool.entries.keys ∨ key ∈ texts.map Phrase.content := by
  rw [keys_pooled, List.mem_append, List.mem_eraseDups]
  by_cases known : key ∈ stock.pool.entries.keys <;> simp [List.removeAll, known]

/-- What a text has is what it is given when it is asked for. -/
theorem get?_asked (stock : Stock) (text : Phrase) :
    ∃ pooled, (stock.asked text).pool.entries.get? text.content = some pooled ∧
      pooled.place = stock.given text := by
  cases found : stock.pool.entries.get? text.content with
  | some pooled =>
      obtain ⟨same, given⟩ := asked_known found
      exact ⟨pooled, same.symm ▸ found, given.symm⟩
  | none =>
      obtain ⟨same, given⟩ := asked_new found
      refine ⟨⟨text, stock.module.symbols.length⟩, ?_, given.symm⟩
      rw [same]
      exact (Dictionary.get?_append_of_not_mem (Dictionary.get?_eq_none.mp found)).trans
        (by simp [Dictionary.get?])

/-- A text keeps what it has. -/
theorem get?_pooled {key : String} {pooled : PooledText}
    (found : stock.pool.entries.get? key = some pooled) (texts : List Phrase) :
    (stock.pooled texts).pool.entries.get? key = some pooled := by
  induction texts generalizing stock with
  | nil => exact found
  | cons text texts ih =>
      have still : (stock.asked text).pool.entries.get? key = some pooled := by
        cases missing : stock.pool.entries.get? text.content with
        | some _ => rwa [(asked_known missing).1]
        | none =>
            rw [(asked_new missing).1, Dictionary.get?, List.lookup_append, ← Dictionary.get?, found,
              Option.some_or]
      exact ih still

/-- **A text that was asked for is given the same again.** -/
theorem given_pooled_asked (stock : Stock) (text : Phrase) (more : List Phrase) :
    ((stock.asked text).pooled more).given text = stock.given text := by
  obtain ⟨pooled, found, place⟩ := stock.get?_asked text
  rw [(asked_known (get?_pooled found more)).2, place]

/-- What is declared for texts comes behind what is there: a constant for each new text. -/
theorem symbols_pooled (stock : Stock) (texts : List Phrase) :
    ∃ added, (stock.pooled texts).module.symbols = stock.module.symbols ++ added ∧
      ∀ entry ∈ added, ∃ text, entry.2.content = .global (StringPool.constant text) := by
  induction texts generalizing stock with
  | nil => exact ⟨[], (List.append_nil _).symm, nofun⟩
  | cons text texts ih =>
      obtain ⟨added, same, constants⟩ := ih (stock.asked text)
      cases missing : stock.pool.entries.get? text.content with
      | some _ =>
          rw [(asked_known missing).1] at same
          refine ⟨added, ?_, constants⟩
          rwa [pooled, List.foldl_cons, (asked_known missing).1]
      | none =>
          have grown := congrArg (fun stock => stock.module.symbols) (asked_new missing).1
          let name := stock.pool.nextName stock.module.symbols.keys
          let constant : Symbol := ⟨.text name, .global (StringPool.constant text.content)⟩
          refine ⟨(.text name, constant) :: added, same.trans ?_, fun entry member => ?_⟩
          · rw [grown, Module.append, List.append_assoc]
            rfl
          · rcases List.mem_cons.mp member with rfl | further
            · exact ⟨text.content, rfl⟩
            · exact constants entry further

/-- Pooling declares no routine. -/
theorem routine?_pooled (stock : Stock) (texts : List Phrase) (place : Nat) :
    (stock.pooled texts).module.routine? place = stock.module.routine? place := by
  obtain ⟨added, same, constants⟩ := stock.symbols_pooled texts
  simp only [Module.routine?_eq, Module.symbol?, same, List.getElem?_append]
  split
  next => rfl
  next beyond =>
    rw [List.getElem?_eq_none (Nat.le_of_not_lt beyond)]
    cases found : added[place - stock.module.symbols.length]? with
    | none => rfl
    | some entry =>
        obtain ⟨text, content⟩ := constants entry (List.mem_of_getElem? found)
        simp [content]

/-- The stock without kept texts. -/
def bare (stock : Stock) : Stock :=
  { stock with module := stock.module.bare }

/-- Pooling looks at no kept texts. -/
theorem bare_pooled (stock : Stock) (texts : List Phrase) :
    (stock.pooled texts).bare = stock.bare.pooled texts := by
  induction texts generalizing stock with
  | nil => rfl
  | cons text texts ih =>
      have asked_bare : (stock.asked text).bare = stock.bare.asked text := by
        cases found : stock.pool.entries.get? text.content with
        | some _ =>
            have foundToo : stock.bare.pool.entries.get? text.content = some _ := found
            rw [(asked_known found).1, (asked_known foundToo).1]
        | none =>
            have foundToo : stock.bare.pool.entries.get? text.content = none := found
            rw [(asked_new found).1, (asked_new foundToo).1]
            simp [bare, Module.append, Module.bare, Symbol.bare, Content.bare, Global.bare,
              StringPool.constant, Dictionary.keys, Function.comp_def]
      rw [pooled, List.foldl_cons, ← pooled, ih, asked_bare]
      rfl

end Stock

/-! ## Libraries -/

namespace Library

/-- The pool of a library, with its module. -/
def stock (library : Library) : Stock :=
  ⟨library.pool, library.module⟩

/-- The library with some texts pooled. -/
def pooled (texts : List Phrase) (library : Library) : Library :=
  { library with
    pool := (library.stock.pooled texts).pool
    module := (library.stock.pooled texts).module }

theorem pooled_pooled (first second : List Phrase) (library : Library) :
    pooled second (pooled first library) = pooled (first ++ second) library := by
  simp only [pooled, ← Stock.pooled_pooled]
  rfl

end Library

/-! ## Worlds -/

namespace World

variable (world : World) (place : LibraryId)

/-- The world in which a library has pooled some texts. -/
def pooled (texts : List Phrase) : World :=
  world.changeLibrary place (Library.pooled texts)

@[simp]
theorem pooled_nil : world.pooled place [] = world :=
  world.changeLibrary_self place rfl

/-- Texts are pooled one after the other. -/
theorem pooled_pooled (first second : List Phrase) :
    (world.pooled place first).pooled place second = world.pooled place (first ++ second) := by
  rw [pooled, pooled, changeLibrary_changeLibrary]
  congr 1
  exact funext fun library => Library.pooled_pooled first second library

/-- There are as many libraries. -/
@[simp]
theorem length_pooled (texts : List Phrase) :
    (world.pooled place texts).libraries.length = world.libraries.length :=
  world.length_changeLibrary place _

/-- The library itself has pooled the texts, if it is there. -/
theorem library_pooled_self {place : LibraryId} (inside : place < world.libraries.length)
    (texts : List Phrase) :
    (world.pooled place texts).library place = Library.pooled texts (world.library place) := by
  rw [pooled, library_changeLibrary, if_pos ⟨rfl, inside⟩]

/-- What of libraries is no pool and no module is as before. -/
theorem library_pooled_congr {View : Type} (view : Library → View)
    (same : ∀ texts library, view (Library.pooled texts library) = view library)
    (texts : List Phrase) (other : LibraryId) :
    view ((world.pooled place texts).library other) = view (world.library other) := by
  rw [pooled, library_changeLibrary]
  split
  next here => rw [same, here.1]
  next => rfl

@[simp]
theorem routine?_pooled (texts : List Phrase) (symbol : SymbolRef) :
    (world.pooled place texts).routine? symbol = world.routine? symbol :=
  world.library_pooled_congr place (fun library => library.module.routine? symbol.place)
    (fun texts library => library.stock.routine?_pooled texts symbol.place) texts symbol.owner

@[simp]
theorem functionSymbol_pooled (texts : List Phrase) (reference : FunctionRef) :
    (world.pooled place texts).functionSymbol reference = world.functionSymbol reference := by
  have same := world.library_pooled_congr place Library.functions (fun _ _ => rfl) texts reference.owner
  rw [functionSymbol, function, same]
  rfl

@[simp]
theorem routine_pooled (texts : List Phrase) (symbol : SymbolRef) :
    (world.pooled place texts).routine symbol = world.routine symbol := by
  rw [routine, routine?_pooled, routine]

/-- The items of a row are as before. -/
@[simp]
theorem rowItems_pooled (texts : List Phrase) (row : LiveRow) :
    (world.pooled place texts).rowItems row = world.rowItems row := by
  cases row with
  | blocks symbol => simp only [rowItems, blocks, routine_pooled]
  | instructions block => simp only [rowItems, World.block, routine_pooled]
  | diagnostics other =>
      rw [rowItems, world.library_pooled_congr place Library.report (fun _ _ => rfl)]
      rfl

/-- **Pooling the same texts again changes nothing.** -/
theorem pooled_of_subset {first second : List Phrase} (subset : second ⊆ first) :
    world.pooled place (first ++ second) = world.pooled place first := by
  rw [← pooled_pooled]
  by_cases inside : place < world.libraries.length
  · refine changeLibrary_self _ place ?_
    rw [library_pooled_self world inside, Library.pooled]
    have same : (Library.pooled first (world.library place)).stock.pooled second =
        (Library.pooled first (world.library place)).stock := by
      refine Stock.pooled_eq_self fun text member => ?_
      exact Stock.mem_keys_pooled.mpr (.inr (List.mem_map_of_mem (subset member)))
    rw [same]
    rfl
  · exact changeLibrary_of_length_le _ (by simpa using inside) _

/-- Texts that are pooled twice may as well be pooled once. -/
theorem pooled_twice (first second : List Phrase) :
    world.pooled place (first ++ (first ++ second)) = world.pooled place (first ++ second) := by
  rw [← List.append_assoc, ← pooled_pooled, pooled_of_subset _ _ (List.Subset.refl _), pooled_pooled]

/-- A bare world has the routines without kept texts. -/
theorem routine?_bare (symbol : SymbolRef) :
    world.bare.routine? symbol = (world.routine? symbol).map Routine.bare := by
  rw [routine?, library_bare]
  exact Module.routine?_bare ..

/-- Making a world bare commutes with pooling. -/
theorem bare_pooled (texts : List Phrase) :
    (world.pooled place texts).bare = world.bare.pooled place texts := by
  refine world.bare_changeLibrary place _ fun library => ?_
  have same := library.stock.bare_pooled texts
  have pool : (library.stock.pooled texts).pool = (library.stock.bare.pooled texts).pool :=
    (congrArg Stock.pool same :)
  have module : (library.stock.pooled texts).module.bare = (library.stock.bare.pooled texts).module :=
    (congrArg Stock.module same :)
  simp only [Library.bare, Library.pooled, pool, module]
  rfl

end World

/-- **A text that is asked for** is pooled. -/
theorem Build.internString_eq (place : LibraryId) (text : Phrase) (world : World) :
    internString place text world =
      .ok ⟨place, (world.library place).stock.given text⟩ (world.pooled place [text]) :=
  congrArg (EStateM.Result.ok _) (world.changeLibrary_congr place rfl)

/-! ## The effect of pooling texts -/

/-- **All that differs**, kept texts aside, is that a library has pooled some texts. -/
def PoolsOnly (place : LibraryId) (before after : World) : Prop :=
  ∃ texts, SameBare (before.pooled place texts) after

/-- Where only texts differ that are kept, none was pooled. -/
theorem SameBare.poolsOnly {before after : World} (same : SameBare before after)
    (place : LibraryId) : PoolsOnly place before after :=
  ⟨[], by rwa [World.pooled_nil]⟩

instance {place : LibraryId} : IsEffect (PoolsOnly place) where
  refl world := (IsEffect.refl world : SameBare world world).poolsOnly place
  trans {before middle after} first second := by
    obtain ⟨texts, first⟩ := first
    obtain ⟨more, second⟩ := second
    refine ⟨texts ++ more, ?_⟩
    rw [SameBare, World.bare_pooled] at first second ⊢
    rw [second, first, World.pooled_pooled]

instance {place : LibraryId} : AllowsTexts (PoolsOnly place) where
  held world other text := (AllowsTexts.held world other text : SameBare _ _).poolsOnly place
  block world other text := (AllowsTexts.block world other text : SameBare _ _).poolsOnly place
  global world symbol text := (AllowsTexts.global world symbol text : SameBare _ _).poolsOnly place

instance {place : LibraryId} : AllowsPool (some place) (PoolsOnly place) where
  intern other text same world := by
    obtain rfl : place = other := Option.some.inj same
    rw [Build.after_of_ok (Build.internString_eq place text world)]
    exact ⟨[text], IsEffect.refl _⟩

/-- **All declarations are kept**: what libraries list, who sees it and what has been reported, and the
symbols of modules, behind which there may be further constants that hold texts. -/
structure KeepsDeclarations (before after : World) : Prop where
  /-- The libraries list the same functions, with the same visibilities. -/
  functions (other : LibraryId) : (after.library other).functions = (before.library other).functions
  /-- They list the same fragments. -/
  fragments (other : LibraryId) : (after.library other).fragments = (before.library other).fragments
  /-- They list the same globals, with the same visibilities. -/
  globals (other : LibraryId) : (after.library other).globals = (before.library other).globals
  /-- The fragments are the same, with the same visibilities. -/
  fragmentList : after.fragments = before.fragments
  /-- What is declared from now on is seen by the same. -/
  visibility (other : LibraryId) :
    (after.library other).visibility = (before.library other).visibility
  /-- The same has been reported. -/
  report (other : LibraryId) : (after.library other).report = (before.library other).report
  /-- The symbols are the same, with the same linkages; further ones hold texts. -/
  symbols (other : LibraryId) : ∃ added,
    (after.library other).module.bare.symbols =
        (before.library other).module.bare.symbols ++ added ∧
      ∀ entry ∈ added, ∃ text, entry.2.content = .global (StringPool.constant text)

namespace PoolsOnly

variable {place : LibraryId} {before after : World}

/-- What of libraries is no pool and no module is as before. -/
theorem library_congr {View : Type} (only : PoolsOnly place before after) (view : Library → View)
    (pooled : ∀ texts library, view (Library.pooled texts library) = view library)
    (bare : ∀ library, view library.bare = view library) (other : LibraryId) :
    view (after.library other) = view (before.library other) := by
  obtain ⟨texts, same⟩ := only
  rw [← bare, ← World.library_bare, same, World.library_bare, bare]
  exact before.library_pooled_congr place view pooled texts other

/-- **Pooling keeps all declarations.** -/
theorem keepsDeclarations (only : PoolsOnly place before after) :
    KeepsDeclarations before after where
  functions := only.library_congr Library.functions (fun _ _ => rfl) fun _ => rfl
  fragments := only.library_congr Library.fragments (fun _ _ => rfl) fun _ => rfl
  globals := only.library_congr Library.globals (fun _ _ => rfl) fun _ => rfl
  fragmentList := (congrArg World.fragments only.choose_spec :)
  visibility := only.library_congr Library.visibility (fun _ _ => rfl) fun _ => rfl
  report := only.library_congr Library.report (fun _ _ => rfl) fun _ => rfl
  symbols other := by
    obtain ⟨texts, same⟩ := only
    have grown : (after.library other).module.bare.symbols =
        ((before.bare.pooled place texts).library other).module.symbols := by
      rw [← World.bare_pooled, ← same, World.library_bare]
      rfl
    have bare : (before.library other).module.bare = (before.bare.library other).module := by
      rw [World.library_bare]
      rfl
    rw [grown, bare, World.pooled, World.library_changeLibrary]
    split
    next here =>
      rw [here.1]
      exact (before.bare.library place).stock.symbols_pooled texts
    next => exact ⟨[], (List.append_nil _).symm, nofun⟩

/-- The generators are as before. -/
theorem generators (only : PoolsOnly place before after) : after.generators = before.generators :=
  (congrArg World.generators only.choose_spec :)

/-- The routines are as before, with their blocks and instructions and the names that they give. -/
theorem routine?_bare (only : PoolsOnly place before after) (symbol : SymbolRef) :
    (after.routine? symbol).map Routine.bare = (before.routine? symbol).map Routine.bare := by
  obtain ⟨texts, same⟩ := only
  rw [← World.routine?_bare, same, World.routine?_bare, World.routine?_pooled]

end PoolsOnly

end StructuredIR
