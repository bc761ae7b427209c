import StructuredIR.Proofs.Library.Imports
import StructuredIR.Proofs.Library.Remembered

/-! # Repeated imports

A library may import the same source again and again.

* **`Library.ImportedTimes`** says that a source has been imported a number of times, and that in
  between scripts did what they wanted but left the source as it was.
* **`Library.Settled`** says that all that a source has to give is known: its names, the names behind
  its own that they may be given, and its texts.
* **`ImportedTimes.settled`**: so it is after two imports, and after one unless aliases are given only
  to names that are taken.
* **`CompletesImport.idle`**: an import of a settled source records warnings and does nothing else. -/

namespace StructuredIR

namespace Library

variable {importer source : LibraryId} {start before between after : World}

/-! ## Imports of one source -/

/-- **A completed import** of a source. -/
def CompletesImport (importer source : LibraryId) (before after : World) : Prop :=
  ∃ value, importSource importer value before = .ok source before ∧
    importFrom importer value before = .ok () after

/-- A source shows the same, under the same names and with the same policy. -/
structure ShowsSame (source : LibraryId) (before after : World) : Prop where
  /-- It has the same name. -/
  name : (after.library source).name = (before.library source).name
  /-- It has the same policy. -/
  policy : (after.library source).policy = (before.library source).policy
  /-- The names of what it shows are the same. -/
  names : shownNames after source = shownNames before source
  /-- Its pool has the same texts. -/
  texts : pooledTexts (after.library source) = pooledTexts (before.library source)

/-- **Scripts go on and leave a source as it is.** -/
structure Undisturbed (source : LibraryId) (before after : World) : Prop where
  /-- Scripts lead on. -/
  reaches : Script.Reaches before after
  /-- The source shows the same. -/
  shows : ShowsSame source before after

/-- **A source has been imported a number of times**, undisturbed in between. -/
inductive ImportedTimes (importer source : LibraryId) (start : World) : Nat → World → Prop
  /-- It has not been imported. -/
  | never : ImportedTimes importer source start 0 start
  /-- It has been imported once more. -/
  | again {count : Nat} {before between after : World}
      (earlier : ImportedTimes importer source start count before)
      (undisturbed : Undisturbed source before between)
      (completes : CompletesImport importer source between after) :
      ImportedTimes importer source start (count + 1) after

namespace ShowsSame

theorem trans (first : ShowsSame source before between) (second : ShowsSame source between after) :
    ShowsSame source before after :=
  ⟨second.name.trans first.name, second.policy.trans first.policy,
    second.names.trans first.names, second.texts.trans first.texts⟩

/-- The names behind the name of the source are the same. -/
theorem qualified (shows : ShowsSame source before after) (plain : String) :
    (after.library source).qualified plain = (before.library source).qualified plain := by
  rw [Library.qualified, Library.qualified, shows.name]

/-- Another library shows the same when a library grows. -/
theorem of_grows {taken : List Key} (grows : World.Grows importer taken before after)
    (elsewhere : source ≠ importer)
    (grounded : (before.library source).Grounded before.fragments.length) :
    ShowsSame source before after where
  name := (congrArg Library.name (grows.others source elsewhere) :)
  policy := (congrArg Library.policy (grows.others source elsewhere) :)
  texts := by rw [pooledTexts, pooledTexts, grows.pool_elsewhere elsewhere]
  names := by
    have listed : (after.library source).functions = (before.library source).functions :=
      (congrArg Library.functions (grows.others source elsewhere) :)
    have references : shownReferences after source false = shownReferences before source false := by
      rw [shownReferences, shownReferences, listed]
    rw [shownNames, shownNames, references, grows.shownFragments_elsewhere elsewhere grounded,
      grows.shownGlobals_elsewhere elsewhere]
    -- What is shown is the same, and so are the names of what is shown.
    congr 2
    · refine List.map_congr_left fun entry member => ?_
      rw [functionName, functionName, grows.function]
      rwa [owner_of_mem_shownReferences member]
    · refine List.map_congr_left fun entry member => ?_
      have there := grounded.fragments entry (List.mem_of_mem_filter member)
      rw [fragmentName, fragmentName, grows.fragment there]

end ShowsSame

namespace CompletesImport

/-- An import does what scripts can do. -/
theorem reaches (completes : CompletesImport importer source before after) :
    Script.Reaches before after := by
  obtain ⟨value, -, run⟩ := completes
  exact (Script.leads_reaches fun _ _ => leads_importFrom importer value).of_ok run

/-- A completed import of a source has an account. -/
theorem account (completes : CompletesImport importer source before after)
    (reachable : Script.Reachable before) (inside : importer < before.libraries.length) :
    ∃ added functionCauses fragmentCauses globalCauses,
      Import importer source before after added functionCauses fragmentCauses globalCauses := by
  obtain ⟨value, known, run⟩ := completes
  obtain ⟨other, added, functionCauses, fragmentCauses, globalCauses, found, account⟩ :=
    importFrom_ok run reachable.grounded inside
  rw [known] at found
  cases found
  exact ⟨added, functionCauses, fragmentCauses, globalCauses, account⟩

/-- An import leaves its source as it is. -/
theorem undisturbed (completes : CompletesImport importer source before after)
    (reachable : Script.Reachable before) (inside : importer < before.libraries.length) :
    Undisturbed source before after := by
  obtain ⟨_, _, _, _, account⟩ := completes.account reachable inside
  exact ⟨completes.reaches, .of_grows account.grows account.distinct (reachable.grounded source)⟩

end CompletesImport

namespace Undisturbed

theorem refl (world : World) : Undisturbed source world world :=
  ⟨IsEffect.refl world, rfl, rfl, rfl, rfl⟩

theorem trans (first : Undisturbed source before between)
    (second : Undisturbed source between after) : Undisturbed source before after :=
  ⟨IsEffect.trans first.reaches second.reaches, first.shows.trans second.shows⟩

/-- Names that were taken are still taken. -/
theorem takenNames (undisturbed : Undisturbed source before after) :
    (before.library importer).takenNames ⊆ (after.library importer).takenNames :=
  (undisturbed.reaches.remembers.library importer).takenNames

/-- The importing library is still there. -/
theorem inside (undisturbed : Undisturbed source before after)
    (inside : importer < before.libraries.length) : importer < after.libraries.length :=
  inside.trans_le undisturbed.reaches.remembers.length

end Undisturbed

/-- All imports of a source leave it as it is. -/
theorem ImportedTimes.undisturbed {count : Nat}
    (imported : ImportedTimes importer source start count after)
    (reachable : Script.Reachable start) (inside : importer < start.libraries.length) :
    Undisturbed source start after := by
  induction imported with
  | never => exact .refl start
  | again _ further completes ih =>
      have until' := ih.trans further
      exact until'.trans (completes.undisturbed (reachable.reaches until'.reaches)
        (until'.inside inside))

/-! ## Known names -/

/-- **The names of a source are taken** in a library, unless the policy replaces all of them. -/
def NamesTaken (importer source : LibraryId) (world : World) : Prop :=
  (world.library source).policy ≠ .qualified → ∀ name ∈ shownNames world source,
    name.key ∈ (world.library importer).takenNames

/-- **The names behind the name of a source are taken** in a library, unless the policy gives none of
them. -/
def AliasesTaken (importer source : LibraryId) (world : World) : Prop :=
  (world.library source).policy ≠ .plain → ∀ name ∈ shownNames world source,
    ∀ plain, name.shown.Spells plain →
      ((world.library source).qualified plain).key ∈ (world.library importer).takenNames

/-- **The texts of a source are pooled** in a library. -/
def TextsPooled (importer source : LibraryId) (world : World) : Prop :=
  ∀ text ∈ pooledTexts (world.library source), text ∈ (world.library importer).pool.entries.keys

/-- **All that a source has to give is known.** -/
structure Settled (importer source : LibraryId) (world : World) : Prop where
  /-- Its names are taken. -/
  names : NamesTaken importer source world
  /-- So are the names behind its own. -/
  aliases : AliasesTaken importer source world
  /-- Its texts are pooled. -/
  texts : TextsPooled importer source world

namespace Undisturbed

/-- The names of a source stay taken. -/
theorem namesTaken (undisturbed : Undisturbed source before after)
    (taken : NamesTaken importer source before) : NamesTaken importer source after := by
  intro keeps name member
  rw [undisturbed.shows.policy] at keeps
  rw [undisturbed.shows.names] at member
  exact undisturbed.takenNames (taken keeps name member)

/-- The names behind the name of a source stay taken. -/
theorem aliasesTaken (undisturbed : Undisturbed source before after)
    (taken : AliasesTaken importer source before) : AliasesTaken importer source after := by
  intro replaces name member plain spelled
  rw [undisturbed.shows.policy] at replaces
  rw [undisturbed.shows.names] at member
  rw [undisturbed.shows.qualified]
  exact undisturbed.takenNames (taken replaces name member plain spelled)

/-- The texts of a source stay pooled. -/
theorem textsPooled (undisturbed : Undisturbed source before after)
    (pooled : TextsPooled importer source before) : TextsPooled importer source after := by
  intro text member
  rw [undisturbed.shows.texts] at member
  exact (undisturbed.reaches.remembers.library importer).strings (pooled text member)

/-- A source stays settled. -/
theorem settled (undisturbed : Undisturbed source before after)
    (settled : Settled importer source before) : Settled importer source after :=
  ⟨undisturbed.namesTaken settled.names, undisturbed.aliasesTaken settled.aliases,
    undisturbed.textsPooled settled.texts⟩

end Undisturbed

/-! ## What an import makes known -/

section

variable {added : Tables} {functionCauses fragmentCauses globalCauses : List Cause}

/-- The names that are taken after an import are those that were taken before and those that were
entered. -/
theorem Import.mem_takenNames
    (account : Import importer source before after added functionCauses fragmentCauses
      globalCauses) {key : Key} :
    key ∈ (after.library importer).takenNames ↔
      key ∈ (before.library importer).takenNames ∨ key ∈ added.keys := by
  have listed (library : Library) : library.takenNames = library.tables.keys := rfl
  rw [listed, listed, account.tables]
  simp only [Tables.keys, Tables.functions_append, Tables.fragments_append, Tables.globals_append,
    Dictionary.keys, List.map_append, List.mem_append]
  tauto

/-- **The names that an import gives are taken afterwards.** -/
theorem Import.gives
    (account : Import importer source before after added functionCauses fragmentCauses
      globalCauses) :
    ∀ name ∈ shownNames before source, ∃ kind imported importedPlain renames,
      (before.library source).Wants kind name (before.library importer).takenNames imported
        importedPlain renames ∧ imported.key ∈ (after.library importer).takenNames := by
  have held {key : Key} {known new : List Key}
      (member : key ∈ (before.library importer).takenNames ∨ key ∈ known ++ new)
      (listed : known ⊆ (before.library importer).takenNames) (entered : new ⊆ added.keys) :
      key ∈ (after.library importer).takenNames := by
    rw [account.mem_takenNames]
    rcases member with taken | member
    · exact .inl taken
    · exact (List.mem_append.mp member).imp (fun found => listed found) fun found => entered found
  intro name member
  simp only [shownNames, List.mem_append, List.mem_map] at member
  -- The ledger of its kind holds each name that is shown.
  rcases member with (⟨entry, shown, rfl⟩ | ⟨entry, shown, rfl⟩) | ⟨entry, shown, rfl⟩
  · obtain ⟨imported, importedPlain, renames, wants, known⟩ := account.functions.holds entry shown
    exact ⟨_, imported, importedPlain, renames, wants,
      held known (by simp [takenNames]) (by simp [Tables.keys])⟩
  · obtain ⟨imported, importedPlain, renames, wants, known⟩ := account.fragments.holds entry shown
    exact ⟨_, imported, importedPlain, renames, wants,
      held known (by simp [takenNames]) (by simp [Tables.keys])⟩
  · obtain ⟨imported, importedPlain, renames, wants, known⟩ := account.globals.holds entry shown
    exact ⟨_, imported, importedPlain, renames, wants,
      held known (by simp [takenNames]) (by simp [Tables.keys])⟩

end

namespace CompletesImport

/-- **After an import the names of the source are taken.** -/
theorem namesTaken (completes : CompletesImport importer source before after)
    (reachable : Script.Reachable before) (inside : importer < before.libraries.length) :
    NamesTaken importer source after := by
  obtain ⟨_, _, _, _, account⟩ := completes.account reachable inside
  have shows := (completes.undisturbed reachable inside).shows
  intro keeps name member
  rw [shows.policy] at keeps
  rw [shows.names] at member
  obtain ⟨kind, imported, importedPlain, renames, wants, known⟩ := account.gives name member
  obtain ⟨plain, -, -, decided⟩ := wants.byPolicy
  cases policy : (before.library source).policy <;> simp only [policy] at decided keeps
  · by_cases taken : name.key ∈ (before.library importer).takenNames
    · exact account.mem_takenNames.mpr (.inl taken)
    · rw [if_neg taken] at decided
      rwa [← decided.1]
  · rwa [← decided.1]
  · exact (keeps rfl).elim

/-- **After an import the names behind the name of the source are taken**, if all names that are shown
were taken before or get such a name anyway. -/
theorem aliasesTaken (completes : CompletesImport importer source before after)
    (reachable : Script.Reachable before) (inside : importer < before.libraries.length)
    (steady : ∀ name ∈ shownNames before source, name.shown.IsSteady)
    (taken : (before.library source).policy = .smart → NamesTaken importer source before) :
    AliasesTaken importer source after := by
  obtain ⟨_, _, _, _, account⟩ := completes.account reachable inside
  have shows := (completes.undisturbed reachable inside).shows
  intro replaces name member plain spelled
  rw [shows.policy] at replaces
  rw [shows.names] at member
  rw [shows.qualified]
  obtain ⟨kind, imported, importedPlain, renames, wants, known⟩ := account.gives name member
  obtain ⟨spelling, spelledToo, -, decided⟩ := wants.byPolicy
  -- A steady name is always spelled the same, so it gets the name that was given.
  obtain ⟨_, _, run⟩ := spelled
  obtain ⟨_, _, runToo⟩ := spelledToo
  obtain rfl := (steady name member).eq_of_ok run runToo
  cases policy : (before.library source).policy <;> simp only [policy] at decided replaces
  · rw [if_pos (taken policy (by simp [policy]) name member)] at decided
    rwa [← decided.1]
  · exact (replaces rfl).elim
  · rwa [← decided.1]

/-- **After an import the texts of the source are pooled.** -/
theorem textsPooled (completes : CompletesImport importer source before after)
    (reachable : Script.Reachable before) (inside : importer < before.libraries.length) :
    TextsPooled importer source after := by
  obtain ⟨_, _, _, _, account⟩ := completes.account reachable inside
  intro text member
  rw [(completes.undisturbed reachable inside).shows.texts] at member
  exact (account.pool text).mpr (.inr member)

end CompletesImport

/-- **A source is settled** once it has been imported twice, or once if its policy does not ask whether
names are taken. -/
theorem ImportedTimes.settled {count : Nat}
    (imported : ImportedTimes importer source start count after)
    (reachable : Script.Reachable start) (inside : importer < start.libraries.length)
    (steady : ∀ name ∈ shownNames start source, name.shown.IsSteady)
    (often : 2 ≤ count ∨ 1 ≤ count ∧ (start.library source).policy ≠ .smart) :
    Settled importer source after := by
  cases imported with
  | never => omega
  | @again count before between _ earlier further completes =>
      have until' := (earlier.undisturbed reachable inside).trans further
      have reached := reachable.reaches until'.reaches
      have there := until'.inside inside
      rw [← until'.shows.names] at steady
      rw [← until'.shows.policy] at often
      refine ⟨completes.namesTaken reached there, ?_, completes.textsPooled reached there⟩
      refine completes.aliasesTaken reached there steady fun smart => further.namesTaken ?_
      -- Under the smart policy there was an import before the last one.
      cases earlier with
      | never => simp [smart] at often
      | again earliest before' first =>
          have earlier := (earliest.undisturbed reachable inside).trans before'
          exact first.namesTaken (reachable.reaches earlier.reaches) (earlier.inside inside)

/-! ## Imports of a settled source -/

/-- A settled source gives names that are taken. -/
theorem Settled.taken (settled : Settled importer source world) {kind : String}
    {name imported : Name} {importedPlain : String} {renames : List Cause}
    (member : name ∈ shownNames world source)
    (wants : (world.library source).Wants kind name (world.library importer).takenNames imported
      importedPlain renames) :
    imported.key ∈ (world.library importer).takenNames := by
  obtain ⟨plain, spelled, -, decided⟩ := wants.byPolicy
  have names := settled.names
  have aliases := settled.aliases
  simp only [NamesTaken, AliasesTaken] at names aliases
  cases policy : (world.library source).policy <;> simp only [policy] at decided names aliases
  · rw [if_pos (names nofun name member)] at decided
    rw [decided.1]
    exact aliases nofun name member plain spelled
  · rw [decided.1]
    exact names nofun name member
  · rw [decided.1]
    exact aliases nofun name member plain spelled

/-- Nothing is entered if all names that are given are taken. -/
theorem Ledger.eq_nil {Item Entry : Type} {source : Library} {kind : String}
    {taken held : List Key} {nameOf : Item → Name} {Copies : Item → Entry → Prop}
    {items : List Item} {added : Dictionary Key Entry} {causes : List Cause}
    (ledger : Ledger source kind taken nameOf Copies held items added causes)
    (known : ∀ item ∈ items, ∀ imported importedPlain renames,
      source.Wants kind (nameOf item) taken imported importedPlain renames →
        imported.key ∈ taken) : added = [] := by
  induction ledger with
  | done => rfl
  | entered chosen _ _ _ =>
      cases chosen with
      | free wants notTaken =>
          exact (notTaken (known _ (List.mem_cons_self ..) _ _ _ wants)).elim
  | leftOut _ _ ih => exact ih fun item member => known item (List.mem_cons_of_mem _ member)

/-- **An import of a settled source** records warnings about what is left out and about aliases, and
does nothing else. -/
theorem CompletesImport.idle (completes : CompletesImport importer source before after)
    (reachable : Script.Reachable before) (inside : importer < before.libraries.length)
    (steady : ∀ name ∈ shownNames before source, name.shown.IsSteady)
    (settled : Settled importer source before) :
    ∃ causes, (∀ cause ∈ causes, ∃ kind, Cause.IsImportOf kind cause) ∧
      Noted importer causes before after ∧ SameUnreported before after := by
  obtain ⟨added, functionCauses, fragmentCauses, globalCauses, account⟩ :=
    completes.account reachable inside
  have nothing : added = .empty := by
    have functions (entry) (shown : entry ∈ shownReferences before source false) :
        functionName before entry ∈ shownNames before source := by
      simp only [shownNames, List.mem_append, List.mem_map]
      exact .inl (.inl ⟨entry, shown, rfl⟩)
    have fragments (entry) (shown : entry ∈ shownFragments before source false) :
        fragmentName before entry ∈ shownNames before source := by
      simp only [shownNames, List.mem_append, List.mem_map]
      exact .inl (.inr ⟨entry, shown, rfl⟩)
    have globals (entry) (shown : entry ∈ (before.library source).shownGlobals false) :
        globalName entry ∈ shownNames before source := by
      simp only [shownNames, List.mem_append, List.mem_map]
      exact .inr ⟨entry, shown, rfl⟩
    refine Tables.ext ?_ ?_ ?_
    · exact account.functions.eq_nil fun entry shown _ _ _ => settled.taken (functions entry shown)
    · exact account.fragments.eq_nil fun entry shown _ _ _ => settled.taken (fragments entry shown)
    · exact account.globals.eq_nil fun entry shown _ _ _ => settled.taken (globals entry shown)
  obtain ⟨noted, same⟩ := account.idle nothing settled.texts
  refine ⟨_, fun cause member => ?_, noted, same steady⟩
  rcases List.mem_append.mp member with member | found
  · rcases List.mem_append.mp member with found | found
    · exact ⟨_, account.functions.isImportOf cause found⟩
    · exact ⟨_, account.fragments.isImportOf cause found⟩
  · exact ⟨_, account.globals.isImportOf cause found⟩

end Library

end StructuredIR
