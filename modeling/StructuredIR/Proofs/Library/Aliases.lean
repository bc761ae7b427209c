import StructuredIR.Proofs.Library.Accounting

/-! # What imported names stand for

An import enters nothing under a name that was taken, so only what the same import entered can stand
in the way of an imported symbol.

* **`Library.Shows`** says what the name of each imported symbol stands for, and when: a fragment
  always, a function if no fragment was entered under the same name, and a global if neither was.
* **`Library.importFrom_shows`**: that is so after every completed import.
* **`Library.importFrom_hides_alias`**: an alias that an import announces can be hidden by a fragment
  that goes by that name in the source. -/

namespace StructuredIR

/-! ## Dictionaries -/

namespace Dictionary

variable {Key Entry : Type} [DecidableEq Key]

/-- An entry is found under its key if no other one has the key. -/
theorem get?_eq_some_of_mem {dictionary : Dictionary Key Entry} (nodup : dictionary.keys.Nodup)
    {key : Key} {entry : Entry} (member : (key, entry) ∈ dictionary) :
    dictionary.get? key = some entry := by
  induction dictionary with
  | nil => cases member
  | cons first rest ih =>
      obtain ⟨known, value⟩ := first
      obtain ⟨missing, nodup⟩ := List.nodup_cons.mp nodup
      rcases List.mem_cons.mp member with same | found
      · cases same
        simp [get?]
      · have different : key ≠ known := by
          rintro rfl
          exact missing (List.mem_map.mpr ⟨_, found, rfl⟩)
        have apart : (key == known) = false := by simpa using different
        have further : get? ((known, value) :: rest) key = get? rest key := by
          simp [get?, List.lookup_cons, apart]
        rw [further]
        exact ih nodup found

/-- A key stands for one entry if no key is there twice. -/
theorem eq_of_mem {dictionary : Dictionary Key Entry}
    (nodup : dictionary.keys.Nodup) {key : Key} {first second : Entry}
    (one : (key, first) ∈ dictionary) (other : (key, second) ∈ dictionary) : first = second :=
  Option.some.inj ((get?_eq_some_of_mem nodup one).symm.trans (get?_eq_some_of_mem nodup other))

/-- What is found behind entries that do not have the key. -/
theorem get?_append_of_not_mem {first second : Dictionary Key Entry} {key : Key}
    (missing : key ∉ first.keys) : get? (first ++ second) key = second.get? key := by
  rw [get?, get?, List.lookup_append]
  have nothing : first.lookup key = none := get?_eq_none.mpr missing
  rw [nothing, Option.none_or]

omit [DecidableEq Key] in
/-- The keys of what is shown are among the keys. -/
theorem keys_filter_subset (dictionary : Dictionary Key Entry) (shows : Key × Entry → Bool) :
    Dictionary.keys (dictionary.filter shows) ⊆ dictionary.keys :=
  List.map_subset _ (List.filter_subset_self _)

/-- What is found in what is shown of entries of which the first ones do not have the key and the
others are all shown. -/
theorem get?_filter_append {first second : Dictionary Key Entry} {shows : Key × Entry → Bool}
    {key : Key} (missing : key ∉ first.keys) (shown : ∀ entry ∈ second, shows entry) :
    get? ((first ++ second).filter shows) key = second.get? key := by
  rw [List.filter_append, get?_append_of_not_mem fun member =>
    missing (keys_filter_subset first shows member), List.filter_eq_self.mpr shown]

end Dictionary

namespace Library

/-- **What imported names stand for**: an imported fragment always goes by its name, an imported
function unless a fragment was entered under that name too, and an imported global unless a fragment
or a function was. -/
structure Shows (place : LibraryId) (before after : World) (added : Tables) : Prop where
  /-- Fragments go by their names. -/
  fragment (key : Key) (fragment : FragmentId) (includePrivate : Bool) :
    (key, fragment) ∈ added.fragments →
      resolve after place key includePrivate = .fragment fragment
  /-- So do functions, unless a fragment has the name. -/
  function (key : Key) (function : Function) (index : Nat) (includePrivate : Bool) :
    added.functions[index]? = some (key, function) →
      (resolve after place key includePrivate =
        .function ⟨place, (before.library place).functions.length + index⟩ ↔
          key ∉ added.fragments.keys)
  /-- So do globals, unless a fragment or a function has the name. -/
  global (key : Key) (entry : GlobalEntry) (includePrivate : Bool) :
    (key, entry) ∈ added.globals →
      (resolve after place key includePrivate = .global (globalOperand after place entry) ↔
        key ∉ added.fragments.keys ∧ key ∉ added.functions.keys)

/-! ## References -/

/-- References to functions from a place on, by their keys. -/
def references (place : LibraryId) (start : Nat) (functions : Dictionary Key Function) :
    Dictionary Key FunctionRef :=
  (functions.zipIdx start).map fun entry => (entry.1.1, ⟨place, entry.2⟩)

/-- References have the keys of their functions. -/
theorem keys_references (place : LibraryId) (start : Nat) (functions : Dictionary Key Function) :
    (references place start functions).keys = functions.keys := by
  have firsts : (functions.zipIdx start).map Prod.fst = functions := List.zipIdx_map_fst ..
  rw [Dictionary.keys, Dictionary.keys, references, List.map_map]
  conv_rhs => rw [← firsts, List.map_map]
  rfl

/-- The reference to a function. -/
theorem mem_references {place : LibraryId} {start index : Nat} {key : Key} {function : Function}
    {functions : Dictionary Key Function} (found : functions[index]? = some (key, function)) :
    (key, ⟨place, start + index⟩) ∈ references place start functions := by
  refine List.mem_map.mpr ⟨((key, function), start + index), ?_, rfl⟩
  exact List.mk_add_mem_zipIdx_iff_getElem?.mpr found

section

variable {place source : LibraryId} {before after : World} {added : Tables} {causes : List Cause}

namespace Books

/-- What is found among the shown fragments under a name that was not taken. -/
theorem fragment? (books : Books place source before after added causes) {key : Key}
    (fresh : key ∉ (before.library place).takenNames) (includePrivate : Bool) :
    (shownFragments after place includePrivate).get? key = added.fragments.get? key := by
  have same : (after.library place).fragments = (before.library place).fragments ++ added.fragments :=
    books.fragments.entries
  rw [shownFragments, same]
  refine Dictionary.get?_filter_append (fun member => fresh ?_) fun entry member => ?_
  · simp only [takenNames, List.mem_append]
    exact .inl (.inr member)
  · obtain ⟨_, -, -, copy⟩ := books.fragments.copy entry member
    simp [copy.isPublic]

/-- What is found among the shown functions under a name that was not taken. -/
theorem reference? (books : Books place source before after added causes) {key : Key}
    (fresh : key ∉ (before.library place).takenNames) (includePrivate : Bool) :
    (shownReferences after place includePrivate).get? key =
      (references place (before.library place).functions.length added.functions).get? key := by
  have same : (after.library place).functions = (before.library place).functions ++ added.functions :=
    books.functions.entries
  rw [shownReferences, same, List.zipIdx_append, List.filter_append, List.map_append, Nat.zero_add]
  rw [Dictionary.get?_append_of_not_mem, List.filter_eq_self.mpr]
  · rfl
  · rintro ⟨⟨known, function⟩, index⟩ member
    obtain ⟨_, -, -, copy⟩ := books.functions.copy _ (List.fst_mem_of_mem_zipIdx member)
    simp [copy.isPublic]
  · intro (member : key ∈ (shownReferences before place includePrivate).keys)
    refine fresh ?_
    simp only [takenNames, List.mem_append]
    exact .inl (.inl (mem_keys_of_shownReferences member))

/-- What is found among the shown globals under a name that was not taken. -/
theorem global? (books : Books place source before after added causes) {key : Key}
    (fresh : key ∉ (before.library place).takenNames) (includePrivate : Bool) :
    ((after.library place).shownGlobals includePrivate).get? key = added.globals.get? key := by
  have same : (after.library place).globals = (before.library place).globals ++ added.globals :=
    books.globals.entries
  rw [shownGlobals, same]
  refine Dictionary.get?_filter_append (fun member => fresh ?_) fun entry member => ?_
  · simp only [takenNames, List.mem_append]
    exact .inr member
  · obtain ⟨_, -, -, copy⟩ := books.globals.copy entry member
    simp [copy.isPublic]

end Books

/-- **What imported names stand for**, once the books of an import balance. -/
theorem Books.shows (books : Books place source before after added causes) :
    Shows place before after added where
  fragment key fragment includePrivate member := by
    have fresh := books.fragments.fresh key (List.mem_map.mpr ⟨_, member, rfl⟩)
    have found := Dictionary.get?_eq_some_of_mem books.fragments.nodup member
    rw [resolve, books.fragment? fresh, found]
  function key function index includePrivate found := by
    have member := List.mem_of_getElem? found
    have fresh := books.functions.fresh key (List.mem_map.mpr ⟨_, member, rfl⟩)
    have nodup := books.functions.nodup
    rw [← keys_references place (before.library place).functions.length] at nodup
    have reference := Dictionary.get?_eq_some_of_mem nodup (mem_references found)
    rw [resolve, books.fragment? fresh, books.reference? fresh, reference,
      ← Dictionary.get?_eq_none]
    cases added.fragments.get? key <;> simp
  global key entry includePrivate member := by
    have fresh := books.globals.fresh key (List.mem_map.mpr ⟨_, member, rfl⟩)
    have found := Dictionary.get?_eq_some_of_mem books.globals.nodup member
    rw [resolve, books.fragment? fresh, books.reference? fresh, books.global? fresh, found,
      ← Dictionary.get?_eq_none, ← keys_references place (before.library place).functions.length,
      ← Dictionary.get?_eq_none]
    cases added.fragments.get? key with
    | some fragment => simp
    | none =>
        cases (references place (before.library place).functions.length added.functions).get? key
          <;> simp

end

/-- **What an imported name stands for after a completed import**: the copy that was entered under it,
unless a symbol of a kind that is looked up before was entered under the same name. -/
theorem importFrom_shows {place : LibraryId} {value : Value} {before after : World}
    (reachable : Script.Reachable before) (inside : place < before.libraries.length)
    (run : importFrom place value before = .ok () after) :
    ∃ source added causes, importSource place value before = .ok source before ∧
      source ≠ place ∧ Books place source before after added causes ∧
        Shows place before after added := by
  obtain ⟨source, added, functionCauses, fragmentCauses, globalCauses, known, account⟩ :=
    importFrom_ok run reachable.grounded inside
  exact ⟨source, added, _, known, account.distinct, account.books, account.books.shows⟩

/-- What is imported from a library that collides is shown accordingly. -/
theorem importFrom_shows_colliding :
    Script.Reachable Script.colliding ∧ 1 < Script.colliding.libraries.length ∧
      importFrom 1 (.library 0) Script.colliding = .ok () Script.collided ∧
        ∃ added causes, Books 1 0 Script.colliding Script.collided added causes ∧
          Shows 1 Script.colliding Script.collided added := by
  have inside : 1 < Script.colliding.libraries.length := by decide +kernel
  obtain ⟨source, added, causes, known, -, books, shows'⟩ :=
    importFrom_shows Script.reachable_colliding inside Script.importFrom_colliding
  cases known
  exact ⟨Script.reachable_colliding, inside, Script.importFrom_colliding, added, causes, books,
    shows'⟩

/-- **An alias can be hidden**: in the source, a name stands for a function, which is imported under
an alias, but a fragment goes by the alias afterwards. -/
theorem importFrom_hides_alias :
    Script.Reachable Script.colliding ∧
      importFrom 1 (.library 0) Script.colliding = .ok () Script.collided ∧
      resolve Script.colliding 0 (.text "f") false = .function ⟨0, 0⟩ ∧
      (Script.collided.library 1).functions.keys =
        [.text "f", .text "src_f", .text "g"] ∧
      symbolKey Script.collided (Script.collided.functionSymbol ⟨1, 1⟩) =
        symbolKey Script.colliding (Script.colliding.functionSymbol ⟨0, 0⟩) ∧
      resolve Script.collided 1 (.text "src_f") true = .fragment 1 := by
  have noFragment : (shownFragments Script.colliding 0 false).get? (.text "f") = none := by
    decide +kernel
  have function : (shownReferences Script.colliding 0 false).get? (.text "f") = some ⟨0, 0⟩ := by
    decide +kernel
  have hidden : (shownFragments Script.collided 1 true).get? (.text "src_f") = some 1 := by
    decide +kernel
  refine ⟨Script.reachable_colliding, Script.importFrom_colliding, ?_, ?_, ?_, ?_⟩
  · rw [resolve, noFragment, function]
  · decide +kernel
  · decide +kernel
  · rw [resolve, hidden]

end Library

end StructuredIR
