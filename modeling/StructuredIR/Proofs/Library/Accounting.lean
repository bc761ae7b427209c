import StructuredIR.Proofs.Library.Preservation

/-! # The books of an import

* **`Library.Balances`** says of the symbols of one kind that each was entered or left out with a
  warning, that what was entered corresponds to symbols that the source shows, and that nothing was
  entered twice or over something else.
* **`Library.Books`** says so of all kinds of symbols, and that the strings of the source are pooled.
* **`Library.importFrom_books`**: a completed import loses and duplicates nothing. -/

namespace StructuredIR

namespace Library

/-- **The books of one kind of symbols balance** after an import that gave warnings with some
causes: `shown` is what the source shows, `added` is what was entered in the table. -/
structure Balances {Item Entry : Type} (table : Table Entry) (source before after : Library)
    (causes : List Cause) (nameOf : Item → Name) (Copies : Item → Entry → Prop) (shown : List Item)
    (added : Dictionary Key Entry) : Prop where
  /-- What was entered stands behind what was listed before. -/
  entries : table.entries after.tables = table.entries before.tables ++ added
  /-- Each symbol was entered, or it was left out with a warning. -/
  total : added.length + causes.countP (Cause.isCollisionOf table.kind) = shown.length
  /-- What was entered corresponds to symbols that are shown, and is named by the policy. -/
  corresponds : ∃ kept, List.Sublist kept shown ∧
    List.Forall₂ (fun item entry =>
      source.Names table.kind before.takenNames causes (nameOf item) entry.1 ∧
        Copies item entry.2) kept added
  /-- Nothing was entered under a key that was taken. -/
  fresh : ∀ key ∈ added.keys, key ∉ before.takenNames
  /-- Nothing was entered twice. -/
  nodup : added.keys.Nodup

/-- Each entry that was added is a copy of a symbol that is shown. -/
theorem Balances.copy {Item Entry : Type} {table : Table Entry} {source before after : Library}
    {causes : List Cause} {nameOf : Item → Name} {Copies : Item → Entry → Prop}
    {shown : List Item} {added : Dictionary Key Entry}
    (balances : Balances table source before after causes nameOf Copies shown added) :
    ∀ entry ∈ added, ∃ item ∈ shown,
      source.Names table.kind before.takenNames causes (nameOf item) entry.1 ∧
        Copies item entry.2 := by
  obtain ⟨kept, sublist, pairs⟩ := balances.corresponds
  intro entry member
  obtain ⟨place, inside, rfl⟩ := List.getElem_of_mem member
  have within : place < kept.length := pairs.length_eq ▸ inside
  exact ⟨kept[place], sublist.subset (List.getElem_mem within),
    (List.forall₂_iff_get.mp pairs).2 place within inside⟩

/-- **The books of an import**: those of all kinds of symbols balance, with the warnings that were
recorded, and the texts of the source are in the pool. -/
structure Books (place source : LibraryId) (before after : World) (added : Tables)
    (causes : List Cause) : Prop where
  /-- The warnings were recorded. -/
  report : (after.library place).report = (before.library place).report.noted causes
  /-- The books of the functions balance. -/
  functions : Balances Table.functions (before.library source) (before.library place)
    (after.library place) causes (functionName before)
    (fun entry => FunctionCopy place entry.2 after) (shownReferences before source false)
    added.functions
  /-- The books of the fragments balance. -/
  fragments : Balances Table.fragments (before.library source) (before.library place)
    (after.library place) causes (fragmentName before) (fun entry => FragmentCopy entry.2 after)
    (shownFragments before source false) added.fragments
  /-- The books of the globals balance. -/
  globals : Balances Table.globals (before.library source) (before.library place)
    (after.library place) causes globalName (fun entry => GlobalCopy place source entry.2 after)
    ((before.library source).shownGlobals false) added.globals
  /-- The texts of the source are pooled. -/
  strings (text : String) : text ∈ (after.library place).pool.entries.keys ↔
    text ∈ (before.library place).pool.entries.keys ∨ text ∈ pooledTexts (before.library source)

/-- Warnings about symbols of another kind say nothing about collisions of this kind. -/
theorem countP_isCollisionOf_of_other {kind other : String} {causes : List Cause}
    (about : ∀ cause ∈ causes, cause.IsImportOf other) (different : other ≠ kind) :
    causes.countP (Cause.isCollisionOf kind) = 0 := by
  refine List.countP_eq_zero.mpr fun cause member => ?_
  cases about cause member with
  | collision name source => simp [Cause.isCollisionOf, different]
  | renamed name source newName => simp [Cause.isCollisionOf]

/-- A ledger balances the books, if no other warnings are about collisions of its kind. -/
theorem Ledger.balances {Item Entry : Type} {table : Table Entry} {source before after : Library}
    {nameOf : Item → Name} {Copies : Item → Entry → Prop} {shown : List Item}
    {added : Dictionary Key Entry} {causes all : List Cause}
    (ledger : Ledger source table.kind before.takenNames nameOf Copies
      (table.entries before.tables).keys shown added causes)
    (entries : table.entries after.tables = table.entries before.tables ++ added)
    (among : causes ⊆ all)
    (count : all.countP (Cause.isCollisionOf table.kind) =
      causes.countP (Cause.isCollisionOf table.kind)) :
    Balances table source before after all nameOf Copies shown added where
  entries := entries
  total := by rw [count, ledger.length_add_collisions]
  corresponds := by
    obtain ⟨kept, sublist, pairs⟩ := ledger.corresponds
    exact ⟨kept, sublist, pairs.imp fun item entry pair => ⟨pair.1.mono among, pair.2⟩⟩
  fresh key member := (ledger.free key member).1
  nodup := ledger.keys_nodup

/-- An account of an import gives its books. -/
theorem Import.books {place source : LibraryId} {before after : World} {added : Tables}
    {functionCauses fragmentCauses globalCauses : List Cause}
    (account : Import place source before after added functionCauses fragmentCauses globalCauses) :
    Books place source before after added (functionCauses ++ fragmentCauses ++ globalCauses) := by
  have functions := account.functions.isImportOf
  have fragments := account.fragments.isImportOf
  have globals := account.globals.isImportOf
  have apart : Table.functions.kind ≠ Table.fragments.kind := by decide
  have further : Table.functions.kind ≠ Table.globals.kind := by decide
  have last : Table.fragments.kind ≠ Table.globals.kind := by decide
  refine ⟨account.report, ?_, ?_, ?_, account.pool⟩
  · refine account.functions.balances (congrArg Tables.functions account.tables) (by simp) ?_
    simp only [List.countP_append, countP_isCollisionOf_of_other fragments apart.symm,
      countP_isCollisionOf_of_other globals further.symm, Nat.add_zero]
  · refine account.fragments.balances (congrArg Tables.fragments account.tables) (by simp) ?_
    simp only [List.countP_append, countP_isCollisionOf_of_other functions apart,
      countP_isCollisionOf_of_other globals last.symm, Nat.add_zero, Nat.zero_add]
  · refine account.globals.balances (congrArg Tables.globals account.tables) (by simp) ?_
    simp only [List.countP_append, countP_isCollisionOf_of_other functions further,
      countP_isCollisionOf_of_other fragments last, Nat.zero_add]

/-- **A completed import loses and duplicates nothing**, in every world that can be reached: its
books balance. -/
theorem importFrom_books {place : LibraryId} {value : Value} {before after : World}
    (reachable : Script.Reachable before) (inside : place < before.libraries.length)
    (run : importFrom place value before = .ok () after) :
    ∃ source added causes, importSource place value before = .ok source before ∧
      source ≠ place ∧ Books place source before after added causes := by
  obtain ⟨source, added, functionCauses, fragmentCauses, globalCauses, known, account⟩ :=
    importFrom_ok run reachable.grounded inside
  exact ⟨source, added, _, known, account.distinct, account.books⟩

/-- The books of the import of a library that collides balance. -/
theorem importFrom_books_colliding :
    Script.Reachable Script.colliding ∧ 1 < Script.colliding.libraries.length ∧
      importFrom 1 (.library 0) Script.colliding = .ok () Script.collided ∧
        ∃ added causes, Books 1 0 Script.colliding Script.collided added causes := by
  have inside : 1 < Script.colliding.libraries.length := by decide +kernel
  obtain ⟨source, added, causes, known, -, books⟩ :=
    importFrom_books Script.reachable_colliding inside Script.importFrom_colliding
  cases known
  exact ⟨Script.reachable_colliding, inside, Script.importFrom_colliding, added, causes, books⟩

end Library

end StructuredIR
