import StructuredIR.Proofs.Library.Gains
import StructuredIR.Proofs.Library.Ledger

/-! # Imports

What a completed import does: the symbols of the source are gone through kind by kind, and each is
entered or left out.

* **`Library.ImportStep`** is what becomes of one symbol; **`importFunction_step`**,
  **`importFragment_step`** and **`importGlobal_step`** say that this is what happens.
* **`Library.forM_gains`** goes through all symbols of a kind.
* **`Library.Import`** is the account of a whole import, and **`Library.importFrom_ok`** says that a
  completed import has one. -/

namespace StructuredIR

open Build (bind_eq_ok get_eq_ok pure_eq_ok modify_eq_ok throw_ne_ok)

namespace Library

/-! ## Copies -/

/-- **The copy of a function**: a public declaration whose routine has the key of the original. -/
structure FunctionCopy (place : LibraryId) (original : FunctionRef) (world : World)
    (function : Function) : Prop where
  /-- It has no body. -/
  isDeclaration : function.isDeclaration
  /-- It is public. -/
  isPublic : function.visibility.isPublic
  /-- Its routine has the key of the original. -/
  key : (world.library place).module.key? function.symbol =
    some (symbolKey world (world.functionSymbol original))

/-- **The copy of a fragment**: a public fragment with the same body. -/
structure FragmentCopy (original : FragmentId) (world : World) (fragment : FragmentId) :
    Prop where
  /-- It is there. -/
  inside : fragment < world.fragments.length
  /-- It is public. -/
  isPublic : (world.fragment fragment).visibility.isPublic
  /-- It has the body of the original. -/
  body : (world.fragment fragment).body = (world.fragment original).body

/-- **The copy of a global**: a public entry whose global has the key of the original. -/
structure GlobalCopy (place source : LibraryId) (original : GlobalEntry) (world : World)
    (entry : GlobalEntry) : Prop where
  /-- It is public. -/
  isPublic : entry.visibility = .isPublic
  /-- Its global has the key of the original. -/
  key : (world.library place).module.key? entry.symbol =
    some (symbolKey world ⟨source, original.symbol⟩)

section

variable {place source : LibraryId} {taken : List Key} {before after : World}

theorem FunctionCopy.grows {original : FunctionRef} {function : Function}
    (copy : FunctionCopy place original before function)
    (grows : World.Grows place taken before after) (elsewhere : original.owner ≠ place) :
    FunctionCopy place original after function := by
  refine ⟨copy.isDeclaration, copy.isPublic, ?_⟩
  rw [grows.functionKey elsewhere]
  exact grows.library.module.key? copy.key

theorem FragmentCopy.grows {original fragment : FragmentId}
    (copy : FragmentCopy original before fragment) (grows : World.Grows place taken before after)
    (there : original < before.fragments.length) : FragmentCopy original after fragment where
  inside := copy.inside.trans_le grows.fragments.length_le
  isPublic := by rw [grows.fragment copy.inside]; exact copy.isPublic
  body := by rw [grows.fragment copy.inside, grows.fragment there]; exact copy.body

theorem GlobalCopy.grows {original entry : GlobalEntry}
    (copy : GlobalCopy place source original before entry)
    (grows : World.Grows place taken before after) (elsewhere : source ≠ place) :
    GlobalCopy place source original after entry := by
  refine ⟨copy.isPublic, ?_⟩
  rw [grows.symbolKey elsewhere]
  exact grows.library.module.key? copy.key

end

/-! ## One symbol -/

/-- **What becomes of one symbol**: a copy of it is entered under the name that is chosen, or it is
left out; the warnings are recorded. -/
inductive ImportStep {Entry : Type} (table : Table Entry) (place : LibraryId) (source : Library)
    (taken : List Key) (name : Name) (Copies : World → Entry → Prop) (before after : World) :
    Prop
  /-- A copy is entered. -/
  | entered {imported : Name} {entry : Entry} {causes : List Cause}
      (chosen : source.Chooses table.kind name taken
        (table.entries (before.library place).tables).keys (some imported) causes)
      (copies : Copies after entry)
      (gains : World.Gains place taken (table.only [(imported.key, entry)]) causes before after)
  /-- The symbol is left out. -/
  | leftOut {causes : List Cause}
      (chosen : source.Chooses table.kind name taken
        (table.entries (before.library place).tables).keys none causes)
      (noted : Noted place causes before after)
      (same : name.shown.IsSteady → SameUnreported before after)

/-- A library grows by what becomes of a symbol. -/
theorem ImportStep.grows {Entry : Type} {table : Table Entry} {place : LibraryId} {source : Library}
    {taken : List Key} {name : Name} {Copies : World → Entry → Prop} {before after : World}
    (step : ImportStep table place source taken name Copies before after) :
    World.Grows place taken before after := by
  cases step with
  | entered _ _ gains => exact gains.grows
  | leftOut _ noted => exact .of_noted noted

section

variable {place source : LibraryId} {taken : List Key} {start world after : World}

/-- What is chosen for a library whose name and policy stay is chosen for it as it was. -/
theorem Chooses.earlier {kind : String} {name : Name} {held : List Key} {choice : Option Name}
    {causes : List Cause}
    (chosen : (world.library source).Chooses kind name taken held choice causes)
    (grows : World.Grows place taken start world) (elsewhere : source ≠ place) :
    (start.library source).Chooses kind name taken held choice causes :=
  have same := (grows.others source elsewhere).symm
  chosen.of_same (congrArg Library.policy same :) (congrArg Library.name same :)

/-- A name that is chosen is free. -/
theorem Chooses.notTaken {source : Library} {kind : String} {name imported : Name}
    {held : List Key} {causes : List Cause}
    (chosen : source.Chooses kind name taken held (some imported) causes) :
    imported.key ∉ taken ∧ imported.key ∉ held := by
  cases chosen with
  | free _ notTaken notHeld => exact ⟨notTaken, notHeld⟩

/-- What is chosen once warnings have been recorded, a copy being made and then entered. -/
theorem ImportStep.of_noted {Entry : Type} {table : Table Entry} {source : Library}
    {name imported : Name} {Copies : World → Entry → Prop} {entry : Entry} {causes : List Cause} {middle : World}
    (chosen : source.Chooses table.kind name taken
      (table.entries (world.library place).tables).keys (some imported) causes)
    (noted : Noted place causes world middle) (inside : place < world.libraries.length)
    (gains : World.Gains place taken (table.only [(imported.key, entry)]) [] middle after)
    (copies : Copies after entry) :
    ImportStep table place source taken name Copies world after := by
  refine .entered chosen copies ?_
  simpa only [List.append_nil, Tables.empty_append] using
    (World.Gains.of_noted noted inside).trans gains

/-- **Importing a function.** -/
theorem importFunction_step {entry : Key × FunctionRef}
    (run : importFunction place taken entry world = .ok () after)
    (grows : World.Grows place taken start world) (elsewhere : entry.2.owner ≠ place)
    (inside : place < world.libraries.length) :
    ImportStep Table.functions place (start.library entry.2.owner) taken
      ⟨(start.function entry.2).name, entry.1⟩ (FunctionCopy place entry.2) world after := by
  obtain ⟨_, _, looked, run⟩ := bind_eq_ok.mp run
  obtain ⟨rfl, rfl⟩ := get_eq_ok.mp looked
  obtain ⟨choice, middle, choosing, run⟩ := bind_eq_ok.mp run
  obtain ⟨causes, chosen, noted⟩ := importName_ok choosing
  have chosen := chosen.earlier grows elsewhere
  rw [grows.function elsewhere] at chosen
  cases choice with
  | none =>
      obtain ⟨-, rfl⟩ := pure_eq_ok.mp run
      refine .leftOut chosen noted fun steady => ?_
      exact (leads_importName_unreported _ _ _ _ _ (grows.function elsewhere ▸ steady)).of_ok choosing
  | some imported =>
      obtain ⟨_, _, looked, run⟩ := bind_eq_ok.mp run
      obtain ⟨rfl, rfl⟩ := get_eq_ok.mp looked
      obtain ⟨function, between, creating, run⟩ := bind_eq_ok.mp run
      obtain ⟨reference, final, entering, run⟩ := bind_eq_ok.mp run
      obtain ⟨-, rfl⟩ := pure_eq_ok.mp run
      obtain ⟨_, _, looked, entering⟩ := bind_eq_ok.mp entering
      obtain ⟨rfl, rfl⟩ := get_eq_ok.mp looked
      obtain ⟨_, _, changing, entering⟩ := bind_eq_ok.mp entering
      obtain rfl := modify_eq_ok.mp changing
      obtain ⟨-, rfl⟩ := pure_eq_ok.mp entering
      have insideMiddle : place < middle.libraries.length := noted.length ▸ inside
      obtain ⟨isDeclaration, isPublic, key, created⟩ :=
        Function.create_gains taken creating insideMiddle
      have entered := World.Gains.of_enterFunction (created.grows.length ▸ insideMiddle)
        chosen.notTaken.1 function
      have copy : FunctionCopy place entry.2 between function :=
        ⟨isDeclaration, isPublic, by rw [key, created.grows.functionKey elsewhere]⟩
      exact .of_noted chosen noted inside (created.andThen entered)
        (copy.grows entered.grows elsewhere)

/-- **Importing a fragment.** -/
theorem importFragment_step {entry : Key × FragmentId}
    (run : importFragment place source taken entry world = .ok () after)
    (grows : World.Grows place taken start world) (elsewhere : source ≠ place)
    (inside : place < world.libraries.length) (there : entry.2 < start.fragments.length)
    (isPublic : (start.fragment entry.2).visibility.isPublic) :
    ImportStep Table.fragments place (start.library source) taken
      ⟨(start.fragment entry.2).name, entry.1⟩ (FragmentCopy entry.2) world after := by
  obtain ⟨_, _, looked, run⟩ := bind_eq_ok.mp run
  obtain ⟨rfl, rfl⟩ := get_eq_ok.mp looked
  obtain ⟨choice, middle, choosing, run⟩ := bind_eq_ok.mp run
  obtain ⟨causes, chosen, noted⟩ := importName_ok choosing
  have chosen := chosen.earlier grows elsewhere
  rw [grows.fragment there] at chosen
  cases choice with
  | none =>
      obtain ⟨-, rfl⟩ := pure_eq_ok.mp run
      refine .leftOut chosen noted fun steady => ?_
      exact (leads_importName_unreported _ _ _ _ _ (grows.fragment there ▸ steady)).of_ok choosing
  | some imported =>
      obtain ⟨fragment, between, adding, entering⟩ := bind_eq_ok.mp run
      obtain rfl := modify_eq_ok.mp entering
      have insideMiddle : place < middle.libraries.length := noted.length ▸ inside
      obtain ⟨new, made, added⟩ := addFragment_gains taken place adding
      have unheld : imported.key ∉ (between.library place).fragments.keys := by
        have same : (between.library place).fragments = (middle.library place).fragments :=
          added.entries_of_empty Table.fragments
        rw [same, noted.fragments place]
        exact chosen.notTaken.2
      have entered := World.Gains.of_enterFragment (added.grows.length ▸ insideMiddle)
        chosen.notTaken.1 unheld fragment
      have thereMiddle : entry.2 < middle.fragments.length := by
        rw [noted.fragmentList]
        exact there.trans_le grows.fragments.length_le
      have original : between.fragment entry.2 = world.fragment entry.2 := by
        rw [added.grows.fragment thereMiddle, World.fragment, noted.fragmentList, World.fragment]
      have copy : FragmentCopy entry.2 between fragment := by
        refine ⟨new, ?_, ?_⟩
        · rw [made, grows.fragment there]
          exact isPublic
        · rw [made, original]
      exact .of_noted chosen noted inside (added.andThen entered)
        (copy.grows entered.grows (thereMiddle.trans_le added.grows.fragments.length_le))

/-- **Importing a global.** -/
theorem importGlobal_step {entry : Key × GlobalEntry}
    (run : importGlobal place source taken entry world = .ok () after)
    (grows : World.Grows place taken start world) (elsewhere : source ≠ place)
    (inside : place < world.libraries.length) :
    ImportStep Table.globals place (start.library source) taken ⟨entry.2.name, entry.1⟩
      (GlobalCopy place source entry.2) world after := by
  obtain ⟨_, _, looked, run⟩ := bind_eq_ok.mp run
  obtain ⟨rfl, rfl⟩ := get_eq_ok.mp looked
  obtain ⟨choice, middle, choosing, run⟩ := bind_eq_ok.mp run
  obtain ⟨causes, chosen, noted⟩ := importName_ok choosing
  have chosen := chosen.earlier grows elsewhere
  cases choice with
  | none =>
      obtain ⟨-, rfl⟩ := pure_eq_ok.mp run
      refine .leftOut chosen noted fun steady => ?_
      exact (leads_importName_unreported _ _ _ _ _ steady).of_ok choosing
  | some imported =>
      obtain ⟨_, _, looked, run⟩ := bind_eq_ok.mp run
      obtain ⟨rfl, rfl⟩ := get_eq_ok.mp looked
      obtain ⟨declared, between, asking, run⟩ := bind_eq_ok.mp run
      obtain ⟨_, marked, changing, entering⟩ := bind_eq_ok.mp run
      obtain rfl := modify_eq_ok.mp entering
      have insideMiddle : place < middle.libraries.length := noted.length ▸ inside
      obtain ⟨owner, key, asked⟩ := Build.ensureGlobal_gains taken asking insideMiddle
      have marking : World.Gains place taken .empty [] between marked := by
        rw [← modify_eq_ok.mp changing]
        exact .of_mark owner (asked.grows.length ▸ insideMiddle) _
      have declaring := asked.andThen marking
      have unheld : imported.key ∉ (marked.library place).globals.keys := by
        have same : (marked.library place).globals = (middle.library place).globals :=
          declaring.entries_of_empty Table.globals
        rw [same, noted.globals place]
        exact chosen.notTaken.2
      have entered := World.Gains.of_enterGlobal (declaring.grows.length ▸ insideMiddle)
        chosen.notTaken.1 unheld ⟨imported.shown, declared.place, .isPublic⟩
      have copy : GlobalCopy place source entry.2 marked
          ⟨imported.shown, declared.place, .isPublic⟩ := by
        have same : symbolKey marked ⟨source, entry.2.symbol⟩ =
            symbolKey middle ⟨source, entry.2.symbol⟩ := declaring.grows.symbolKey elsewhere
        exact ⟨rfl, same ▸ marking.grows.library.module.key? key⟩
      exact .of_noted chosen noted inside (declaring.andThen entered)
        (copy.grows entered.grows elsewhere)

end

/-! ## All symbols of a kind -/

/-- **Importing symbols of one kind**: there is a ledger of what happens, and that is what the library
gains. If nothing is entered, only warnings are recorded. -/
theorem forM_gains {Item Entry : Type} {each : Item → Build PUnit} {table : Table Entry}
    {place : LibraryId} {source : Library} {taken : List Key} {nameOf : Item → Name}
    {Copies : Item → World → Entry → Prop} {start : World} {items : List Item}
    (step : ∀ item ∈ items, ∀ {world next : World}, World.Grows place taken start world →
      each item world = .ok () next →
        ImportStep table place source taken (nameOf item) (Copies item) world next)
    (stable : ∀ item ∈ items, ∀ {world next : World} {entry : Entry},
      World.Grows place taken start world → World.Grows place taken world next →
        Copies item world entry → Copies item next entry)
    {before after : World} (grows : World.Grows place taken start before)
    (inside : place < before.libraries.length) (run : items.forM each before = .ok () after) :
    ∃ added causes,
      Ledger source table.kind taken nameOf (fun item => Copies item after)
        (table.entries (before.library place).tables).keys items added causes ∧
      World.Gains place taken (table.only added) causes before after ∧
      (added = [] → Noted place causes before after ∧
        ((∀ item ∈ items, (nameOf item).shown.IsSteady) → SameUnreported before after)) := by
  induction items generalizing before with
  | nil =>
      obtain ⟨-, rfl⟩ := pure_eq_ok.mp run
      have nothing : SameBare before before := IsEffect.refl before
      exact ⟨[], [], .done, table.only_nil ▸ .refl _, fun _ =>
        ⟨nothing.noted place, fun _ => IsEffect.refl _⟩⟩
  | cons item items ih =>
      obtain ⟨_, between, first, rest⟩ := bind_eq_ok.mp run
      have become := step item (List.mem_cons_self ..) grows first
      have forwards := become.grows
      obtain ⟨added, causes, ledger, gains, idle⟩ :=
        ih (fun item member => step item (List.mem_cons_of_mem _ member))
          (fun item member => stable item (List.mem_cons_of_mem _ member))
          (IsEffect.trans grows forwards) (forwards.length ▸ inside) rest
      cases become with
      | @entered imported entry causes' chosen copies gained =>
          have copied : Copies item after entry :=
            stable item (List.mem_cons_self ..) (IsEffect.trans grows forwards) gains.grows copies
          rw [gained.tables, table.entries_append, table.entries_only] at ledger
          have held : (table.entries (before.library place).tables ++ [(imported.key, entry)]).keys =
              (table.entries (before.library place).tables).keys ++ [imported.key] := by
            simp [Dictionary.keys]
          rw [held] at ledger
          refine ⟨_, _, .entered chosen copied ledger, ?_, nofun⟩
          have whole := table.only_append [(imported.key, entry)] added
          exact whole ▸ gained.trans gains
      | @leftOut causes' chosen noted same =>
          have gained : World.Gains place taken .empty causes' before between :=
            .of_noted noted inside
          rw [gained.entries_of_empty] at ledger
          refine ⟨_, _, .leftOut chosen ledger, ?_, fun nothing =>
            ⟨noted.trans (idle nothing).1, fun steady => ?_⟩⟩
          · simpa only [Tables.empty_append] using gained.trans gains
          · obtain ⟨first, others⟩ := List.forall_mem_cons.mp steady
            exact IsEffect.trans (same first) ((idle nothing).2 others)

/-! ## Pooled strings -/

/-- The texts of a library's pool. -/
def pooledTexts (library : Library) : List String :=
  library.pool.entries.entries.map fun pooled => pooled.shown.content

/-- **What pooling texts does**: they are in the pool then, behind those that were there, and nothing
else that is listed or reported changes. -/
structure Pools (place : LibraryId) (taken : List Key) (texts : List String) (before after : World) :
    Prop where
  /-- The tables are the same. -/
  tables : (after.library place).tables = (before.library place).tables
  /-- The report is the same. -/
  report : (after.library place).report = (before.library place).report
  /-- The texts are in the pool. -/
  keys (text : String) : text ∈ (after.library place).pool.entries.keys ↔
    text ∈ (before.library place).pool.entries.keys ∨ text ∈ texts
  /-- The library has grown. -/
  grows : World.Grows place taken before after
  /-- Nothing changes if the texts were in the pool. -/
  idle : (∀ text ∈ texts, text ∈ (before.library place).pool.entries.keys) → after = before

/-- Pooling a text. -/
theorem internString_pools {place : LibraryId} {text : Phrase} (taken : List Key)
    {before after : World} {symbol : SymbolRef}
    (run : Build.internString place text before = .ok symbol after)
    (inside : place < before.libraries.length) :
    Pools place taken [text.content] before after := by
  obtain ⟨pool, module, same, rfl⟩ : ∃ pool module,
      ((before.library place).pool.intern (before.library place).module text).2 = (pool, module) ∧
        before.changeLibrary place (fun library => { library with pool, module }) = after := by
    cases run
    exact ⟨_, _, rfl, rfl⟩
  rw [StringPool.intern] at same
  cases found : (before.library place).pool.entries.get? text.content with
  | some pooled =>
      rw [found] at same
      cases same
      rw [before.changeLibrary_self place rfl]
      refine ⟨rfl, rfl, fun other => ?_, IsEffect.refl _, fun _ => rfl⟩
      have known := Dictionary.mem_keys_of_get?_eq_some found
      grind
  | none =>
      rw [found] at same
      cases same
      have missing := Dictionary.get?_eq_none.mp found
      refine ⟨?_, ?_, ?_, .of_changeLibrary before
        ⟨.refl _, .refl _, .refl _, List.prefix_append .., .append _ _ _⟩,
        fun known => (missing (known _ (List.mem_singleton_self _))).elim⟩
      all_goals simp [World.library_changeLibrary, inside, tables, Dictionary.keys]

namespace Pools

variable {place : LibraryId} {taken : List Key} {texts more : List String}
variable {before middle after : World}

theorem refl (world : World) : Pools place taken [] world world :=
  ⟨rfl, rfl, by simp, IsEffect.refl _, fun _ => rfl⟩

theorem trans (first : Pools place taken texts before middle)
    (second : Pools place taken more middle after) :
    Pools place taken (texts ++ more) before after where
  tables := second.tables.trans first.tables
  report := second.report.trans first.report
  keys text := by rw [second.keys, first.keys, List.mem_append, or_assoc]
  grows := IsEffect.trans first.grows second.grows
  idle known := by
    have same := first.idle fun text member => known text (List.mem_append_left _ member)
    subst same
    exact second.idle fun text member => known text (List.mem_append_right _ member)

end Pools

/-- Pooling the texts of a pool. -/
theorem forM_pools {place : LibraryId} {taken : List Key} {pooled : List PooledText}
    {before after : World} (inside : place < before.libraries.length)
    (run : (pooled.forM fun known => do
      let _ ← Build.internString place known.shown : Build PUnit) before = .ok () after) :
    Pools place taken (pooled.map fun known => known.shown.content) before after := by
  induction pooled generalizing before with
  | nil =>
      obtain ⟨-, rfl⟩ := pure_eq_ok.mp run
      exact .refl _
  | cons known pooled ih =>
      obtain ⟨_, between, first, rest⟩ := bind_eq_ok.mp run
      obtain ⟨_, _, interning, done⟩ := bind_eq_ok.mp first
      obtain ⟨-, rfl⟩ := pure_eq_ok.mp done
      have pooling := internString_pools taken interning inside
      exact pooling.trans (ih (pooling.grows.length ▸ inside) rest)

/-! ## Whole imports -/

/-- The name of a function with the key under which it is listed. -/
def functionName (world : World) (entry : Key × FunctionRef) : Name :=
  ⟨(world.function entry.2).name, entry.1⟩

/-- The name of a fragment with the key under which it is listed. -/
def fragmentName (world : World) (entry : Key × FragmentId) : Name :=
  ⟨(world.fragment entry.2).name, entry.1⟩

/-- The name of a global with the key under which it is listed. -/
def globalName (entry : Key × GlobalEntry) : Name :=
  ⟨entry.2.name, entry.1⟩

/-- The names of all that a library shows. -/
def shownNames (world : World) (place : LibraryId) : List Name :=
  (shownReferences world place false).map (functionName world) ++
    (shownFragments world place false).map (fragmentName world) ++
    ((world.library place).shownGlobals false).map globalName

/-- **The account of an import**: what was entered, and the causes of the warnings, kind by kind. -/
structure Import (place source : LibraryId) (before after : World) (added : Tables)
    (functionCauses fragmentCauses globalCauses : List Cause) : Prop where
  /-- A library does not import itself. -/
  distinct : source ≠ place
  /-- The functions were gone through. -/
  functions : Ledger (before.library source) Table.functions.kind
    (before.library place).takenNames (functionName before)
    (fun entry => FunctionCopy place entry.2 after) (before.library place).functions.keys
    (shownReferences before source false) added.functions functionCauses
  /-- The fragments were gone through. -/
  fragments : Ledger (before.library source) Table.fragments.kind
    (before.library place).takenNames (fragmentName before)
    (fun entry => FragmentCopy entry.2 after) (before.library place).fragments.keys
    (shownFragments before source false) added.fragments fragmentCauses
  /-- The globals were gone through. -/
  globals : Ledger (before.library source) Table.globals.kind
    (before.library place).takenNames globalName
    (fun entry => GlobalCopy place source entry.2 after) (before.library place).globals.keys
    ((before.library source).shownGlobals false) added.globals globalCauses
  /-- What was entered is listed behind what was. -/
  tables : (after.library place).tables = (before.library place).tables ++ added
  /-- The warnings were recorded. -/
  report : (after.library place).report =
    (before.library place).report.noted (functionCauses ++ fragmentCauses ++ globalCauses)
  /-- The texts were pooled. -/
  pool (text : String) : text ∈ (after.library place).pool.entries.keys ↔
    text ∈ (before.library place).pool.entries.keys ∨ text ∈ pooledTexts (before.library source)
  /-- The library has grown. -/
  grows : World.Grows place (before.library place).takenNames before after
  /-- If nothing was entered and no text was new, only warnings were recorded. -/
  idle : added = .empty →
    (∀ text ∈ pooledTexts (before.library source),
      text ∈ (before.library place).pool.entries.keys) →
    Noted place (functionCauses ++ fragmentCauses ++ globalCauses) before after ∧
      ((∀ name ∈ shownNames before source, name.shown.IsSteady) → SameUnreported before after)

end Library

namespace World.Grows

variable {place source : LibraryId} {taken : List Key} {before after : World}

/-- Another library shows the same fragments. -/
theorem shownFragments_elsewhere (grows : World.Grows place taken before after)
    (elsewhere : source ≠ place) (grounded : (before.library source).Grounded before.fragments.length)
    (includePrivate : Bool) :
    Library.shownFragments after source includePrivate =
      Library.shownFragments before source includePrivate := by
  have same : (after.library source).fragments = (before.library source).fragments :=
    (congrArg Library.fragments (grows.others source elsewhere) :)
  rw [Library.shownFragments, Library.shownFragments, same]
  refine List.filter_congr fun entry member => ?_
  rw [grows.fragment (grounded.fragments entry member)]

/-- Another library shows the same globals. -/
theorem shownGlobals_elsewhere (grows : World.Grows place taken before after)
    (elsewhere : source ≠ place) (includePrivate : Bool) :
    (after.library source).shownGlobals includePrivate =
      (before.library source).shownGlobals includePrivate := by
  have same : (after.library source).globals = (before.library source).globals :=
    (congrArg Library.globals (grows.others source elsewhere) :)
  rw [Library.shownGlobals, Library.shownGlobals, same]

/-- Another library has the same pool. -/
theorem pool_elsewhere (grows : World.Grows place taken before after) (elsewhere : source ≠ place) :
    (after.library source).pool = (before.library source).pool :=
  (congrArg Library.pool (grows.others source elsewhere) :)

end World.Grows

namespace Library

/-- The functions that a library shows are its own. -/
theorem owner_of_mem_shownReferences {world : World} {place : LibraryId} {includePrivate : Bool}
    {entry : Key × FunctionRef} (member : entry ∈ shownReferences world place includePrivate) :
    entry.2.owner = place := by
  obtain ⟨_, -, rfl⟩ := List.mem_map.mp member
  rfl

/-- Finding the library to import changes nothing. -/
theorem importSource_ok {place source : LibraryId} {value : Value} {world after : World}
    (run : importSource place value world = .ok source after) : after = world := by
  have leads : Build.Leads Unchanged (importSource place value) := by
    unfold importSource
    split
    · exact .pure _
    · refine Build.Leads.get.bind fun seen => ?_
      split
      · exact .pure _
      · exact .reject _
    · exact .reject _
  exact leads.of_ok run

section

variable {place source : LibraryId} {taken : List Key} {start before after : World}

/-- Importing the functions of a library. -/
theorem importFunctions_gains (grows : World.Grows place taken start before)
    (distinct : source ≠ place) (inside : place < start.libraries.length)
    (run : (shownReferences start source false).forM (importFunction place taken) before =
      .ok () after) :
    ∃ added causes,
      Ledger (start.library source) Table.functions.kind taken (functionName start)
        (fun entry => FunctionCopy place entry.2 after) (before.library place).functions.keys
        (shownReferences start source false) added causes ∧
      World.Gains place taken (Table.functions.only added) causes before after ∧
      (added = [] → Noted place causes before after ∧
        ((∀ entry ∈ shownReferences start source false,
          (functionName start entry).shown.IsSteady) → SameUnreported before after)) := by
  have owned (entry) (member : entry ∈ shownReferences start source false) :
      entry.2.owner = source := owner_of_mem_shownReferences member
  refine forM_gains (fun entry member world next grows run => ?_)
    (fun entry member world next function _ grows copy => ?_) grows (grows.length ▸ inside) run
  · rw [← owned entry member] at distinct ⊢
    exact importFunction_step run grows distinct (grows.length ▸ inside)
  · exact copy.grows grows (owned entry member ▸ distinct)

/-- Importing the fragments of a library. -/
theorem importFragments_gains (grows : World.Grows place taken start before)
    (distinct : source ≠ place) (inside : place < start.libraries.length)
    (grounded : (start.library source).Grounded start.fragments.length)
    (run : (shownFragments start source false).forM (importFragment place source taken) before =
      .ok () after) :
    ∃ added causes,
      Ledger (start.library source) Table.fragments.kind taken (fragmentName start)
        (fun entry => FragmentCopy entry.2 after) (before.library place).fragments.keys
        (shownFragments start source false) added causes ∧
      World.Gains place taken (Table.fragments.only added) causes before after ∧
      (added = [] → Noted place causes before after ∧
        ((∀ entry ∈ shownFragments start source false,
          (fragmentName start entry).shown.IsSteady) → SameUnreported before after)) := by
  have listed (entry) (member : entry ∈ shownFragments start source false) :
      entry.2 < start.fragments.length ∧ (start.fragment entry.2).visibility.isPublic := by
    obtain ⟨there, isPublic⟩ := List.mem_filter.mp member
    exact ⟨grounded.fragments entry there, by simpa using isPublic⟩
  refine forM_gains (fun entry member world next grows run => ?_)
    (fun entry member world next fragment earlier grows copy => ?_) grows (grows.length ▸ inside)
    run
  · exact importFragment_step run grows distinct (grows.length ▸ inside) (listed entry member).1
      (listed entry member).2
  · exact copy.grows grows ((listed entry member).1.trans_le earlier.fragments.length_le)

/-- Importing the globals of a library. -/
theorem importGlobals_gains (grows : World.Grows place taken start before)
    (distinct : source ≠ place) (inside : place < start.libraries.length)
    (run : ((start.library source).shownGlobals false).forM (importGlobal place source taken)
      before = .ok () after) :
    ∃ added causes,
      Ledger (start.library source) Table.globals.kind taken globalName
        (fun entry => GlobalCopy place source entry.2 after) (before.library place).globals.keys
        ((start.library source).shownGlobals false) added causes ∧
      World.Gains place taken (Table.globals.only added) causes before after ∧
      (added = [] → Noted place causes before after ∧
        ((∀ entry ∈ (start.library source).shownGlobals false,
          (globalName entry).shown.IsSteady) → SameUnreported before after)) :=
  forM_gains
    (fun _ _ _ _ grows run => importGlobal_step run grows distinct (grows.length ▸ inside))
    (fun _ _ _ _ _ _ grows copy => copy.grows grows distinct) grows (grows.length ▸ inside) run

end

/-- **A completed import has an account.** -/
theorem importFrom_ok {place : LibraryId} {value : Value} {before after : World}
    (run : importFrom place value before = .ok () after) (grounded : before.Grounded)
    (inside : place < before.libraries.length) :
    ∃ source added functionCauses fragmentCauses globalCauses,
      importSource place value before = .ok source before ∧
        Import place source before after added functionCauses fragmentCauses globalCauses := by
  obtain ⟨source, found, known, run⟩ := bind_eq_ok.mp run
  obtain rfl : before = found := (importSource_ok known).symm
  obtain ⟨_, _, looked, run⟩ := bind_eq_ok.mp run
  obtain ⟨rfl, rfl⟩ := get_eq_ok.mp looked
  dsimp only at run
  split at run
  next => exact (throw_ne_ok (bind_eq_ok.mp run).choose_spec.choose_spec.1).elim
  next distinct =>
  -- The functions come first.
  obtain ⟨_, first, importing, run⟩ := bind_eq_ok.mp run
  obtain ⟨functions, functionCauses, functionLedger, gained, idle⟩ :=
    importFunctions_gains (IsEffect.refl before) distinct inside importing
  -- The source shows the same fragments as it did.
  obtain ⟨_, _, looked, run⟩ := bind_eq_ok.mp run
  obtain ⟨rfl, rfl⟩ := get_eq_ok.mp looked
  obtain ⟨_, second, importing, run⟩ := bind_eq_ok.mp run
  rw [gained.grows.shownFragments_elsewhere distinct (grounded source)] at importing
  obtain ⟨fragments, fragmentCauses, fragmentLedger, gainedSecond, idleSecond⟩ :=
    importFragments_gains gained.grows distinct inside (grounded source) importing
  have gainedTwice := gained.trans gainedSecond
  -- So it does with its globals.
  obtain ⟨_, _, looked, run⟩ := bind_eq_ok.mp run
  obtain ⟨rfl, rfl⟩ := get_eq_ok.mp looked
  obtain ⟨_, third, importing, run⟩ := bind_eq_ok.mp run
  rw [gainedTwice.grows.shownGlobals_elsewhere distinct] at importing
  obtain ⟨globals, globalCauses, globalLedger, gainedThird, idleThird⟩ :=
    importGlobals_gains gainedTwice.grows distinct inside importing
  have gainedAll := gainedTwice.trans gainedThird
  -- Its pool comes last.
  obtain ⟨_, _, looked, run⟩ := bind_eq_ok.mp run
  obtain ⟨rfl, rfl⟩ := get_eq_ok.mp looked
  rw [gainedAll.grows.pool_elsewhere distinct] at run
  have pooling : Pools place (before.library place).takenNames
      (pooledTexts (before.library source)) third after :=
    forM_pools (gainedAll.grows.length ▸ inside) run
  have sinceThird : World.Grows place (before.library place).takenNames third after :=
    pooling.grows
  have sinceSecond : World.Grows place (before.library place).takenNames second after :=
    IsEffect.trans gainedThird.grows sinceThird
  have sinceFirst : World.Grows place (before.library place).takenNames first after :=
    IsEffect.trans gainedSecond.grows sinceSecond
  have heldFragments : (first.library place).fragments = (before.library place).fragments := by
    have same := congrArg Tables.fragments gained.tables
    simpa [Table.functions, tables] using same
  have heldGlobals : (second.library place).globals = (before.library place).globals := by
    have same := congrArg Tables.globals gainedTwice.tables
    simpa [Table.functions, Table.fragments, tables] using same
  rw [heldFragments] at fragmentLedger
  rw [heldGlobals] at globalLedger
  refine ⟨source, ⟨functions, fragments, globals⟩, functionCauses, fragmentCauses, globalCauses,
    known, distinct, ?_, ?_, ?_, ?_, ?_, ?_, IsEffect.trans gained.grows sinceFirst, ?_⟩
  · refine functionLedger.imp fun entry member function copy => copy.grows sinceFirst ?_
    rwa [owner_of_mem_shownReferences member]
  · refine fragmentLedger.imp fun entry member fragment copy => copy.grows sinceSecond ?_
    have there := (grounded source).fragments entry (List.mem_of_mem_filter member)
    exact there.trans_le gainedTwice.grows.fragments.length_le
  · exact globalLedger.imp fun entry member global copy => copy.grows sinceThird distinct
  · rw [pooling.tables, gainedAll.tables]
    ext1 <;> simp [Table.functions, Table.fragments, Table.globals]
  · rw [pooling.report, gainedAll.report]
  · intro text
    rw [pooling.keys, gainedAll.pool]
  · intro nothing pooled
    have nothing := Tables.ext_iff.mp nothing
    have same := pooling.idle fun text member => by
      rw [gainedAll.pool]
      exact pooled text member
    rw [same]
    refine ⟨((idle nothing.1).1.trans (idleSecond nothing.2.1).1).trans (idleThird nothing.2.2).1,
      fun steady => ?_⟩
    simp only [shownNames, List.forall_mem_append, List.forall_mem_map] at steady
    exact IsEffect.trans ((idle nothing.1).2 steady.1.1)
      (IsEffect.trans ((idleSecond nothing.2.1).2 steady.1.2) ((idleThird nothing.2.2).2 steady.2))

end Library

end StructuredIR
