import StructuredIR.Library.Resolution
import StructuredIR.Proofs.Bare
import StructuredIR.Proofs.Library.Grounded

/-! # How libraries grow

What an import does to a library is to add to it.

* **`Dictionary.Extends taken`** says that entries were added behind those that were there, none of
  them under a taken key.
* **`Symbol.Means`** says that a symbol has kept its name, its type, its initial value and its body.
* **`World.Grows place taken`** says that a library has grown like that, and that nothing else has
  changed, texts aside.
* **`World.Grows.resolve`**: what a taken name stands for stays the same. -/

namespace StructuredIR

/-! ## Dictionaries -/

namespace Dictionary

variable {Key Entry : Type}

/-- **A dictionary extends another one**: entries were added behind those that were there, none of
them under a taken key. -/
def Extends (taken : List Key) (before after : Dictionary Key Entry) : Prop :=
  ∃ added, after = before ++ added ∧ ∀ entry ∈ added, entry.1 ∉ taken

namespace Extends

variable {taken : List Key} {before middle after : Dictionary Key Entry}

theorem refl (dictionary : Dictionary Key Entry) : Extends taken dictionary dictionary :=
  ⟨[], (List.append_nil _).symm, nofun⟩

theorem of_eq (same : after = before) : Extends taken before after := by
  rw [same]
  exact refl before

theorem trans (first : Extends taken before middle) (second : Extends taken middle after) :
    Extends taken before after := by
  obtain ⟨added, rfl, fresh⟩ := first
  obtain ⟨more, rfl, freshToo⟩ := second
  refine ⟨added ++ more, List.append_assoc .., fun entry member => ?_⟩
  rcases List.mem_append.mp member with found | found
  · exact fresh entry found
  · exact freshToo entry found

/-- What is found under a taken key stays the same. -/
theorem get?_eq [DecidableEq Key] (extends' : Extends taken before after) {key : Key}
    (known : key ∈ taken) : get? after key = get? before key := by
  obtain ⟨added, rfl, fresh⟩ := extends'
  have missing : added.lookup key = none := by
    rw [List.lookup_eq_none_iff]
    intro entry member
    rw [bne_iff_ne]
    rintro rfl
    exact fresh entry member known
  rw [get?, get?, List.lookup_append, missing, Option.or_none]

/-- What is shown is extended, as long as the same is shown of what was there. -/
theorem filter (extends' : Extends taken before after) {shows later : Key × Entry → Bool}
    (same : ∀ entry ∈ before, later entry = shows entry) :
    Extends taken (before.filter shows) (after.filter later) := by
  obtain ⟨added, rfl, fresh⟩ := extends'
  refine ⟨added.filter later, ?_, fun entry member =>
    fresh entry (List.mem_of_mem_filter member)⟩
  rw [List.filter_append, List.filter_congr same]

end Extends

/-- The entries of two dictionaries one behind the other. -/
theorem entries_append (first second : Dictionary Key Entry) :
    entries (first ++ second) = first.entries ++ second.entries :=
  List.map_append ..

/-- The keys of two dictionaries one behind the other. -/
theorem keys_append (first second : Dictionary Key Entry) :
    keys (first ++ second) = first.keys ++ second.keys :=
  List.map_append ..

/-- What is entered has a key. -/
theorem mem_entries {dictionary : Dictionary Key Entry} {entry : Entry} :
    entry ∈ dictionary.entries ↔ ∃ key, (key, entry) ∈ dictionary := by
  simp [entries]

/-- No key is there twice behind one that is free. -/
theorem nodup_keys_append {dictionary : Dictionary Key Entry} (nodup : dictionary.keys.Nodup)
    {key : Key} (free : key ∉ dictionary.keys) (value : Entry) :
    (keys (dictionary ++ [(key, value)])).Nodup := by
  rw [keys_append]
  refine List.nodup_append.mpr ⟨nodup, List.nodup_singleton _, ?_⟩
  rintro other member new single rfl
  obtain rfl : other = key := List.mem_singleton.mp single
  exact free member

/-- What is found under a key was entered there. -/
theorem mem_of_get?_eq_some [DecidableEq Key] {dictionary : Dictionary Key Entry} {key : Key}
    {value : Entry} (found : dictionary.get? key = some value) : (key, value) ∈ dictionary := by
  obtain ⟨front, back, rfl, -⟩ := List.lookup_eq_some_iff.mp found
  simp

/-- What is found under a key has that key. -/
theorem mem_keys_of_get?_eq_some [DecidableEq Key] {dictionary : Dictionary Key Entry} {key : Key}
    {value : Entry} (found : dictionary.get? key = some value) : key ∈ dictionary.keys :=
  List.mem_map.mpr ⟨_, mem_of_get?_eq_some found, rfl⟩

/-- Nothing is found under a key that there is not. -/
theorem get?_eq_none [DecidableEq Key] {dictionary : Dictionary Key Entry} {key : Key} :
    dictionary.get? key = none ↔ key ∉ dictionary.keys := by
  simp only [get?, List.lookup_eq_none_iff, keys, List.mem_map, bne_iff_ne, ne_eq, not_exists,
    not_and]
  exact ⟨fun missing entry member same => missing entry member same.symm,
    fun missing entry member same => missing entry member same.symm⟩

/-- An entry under a free key comes behind the others. -/
theorem enter_of_free [DecidableEq Key] {dictionary : Dictionary Key Entry} {key : Key}
    (free : key ∉ dictionary.keys) (value : Entry) :
    dictionary.enter key value = dictionary ++ [(key, value)] := by
  rw [enter, if_neg (by rwa [holds_iff])]

end Dictionary

/-! ## Symbols -/

/-- **Two contents mean the same**: a global of one type that starts with one value, or a routine of
one signature with one body. Names that are free, visibility and kept texts aside. -/
def Content.Means : Content → Content → Prop
  | .global known, .global later =>
      later.valueType = known.valueType ∧ later.initial = known.initial
  | .routine known, .routine later =>
      later.result = known.result ∧ later.parameters = known.parameters ∧
        later.isVariadic = known.isVariadic ∧ later.order = known.order ∧
        later.blocks.map Block.bare = known.blocks.map Block.bare
  | _, _ => False

/-- A symbol of the same name that means the same. -/
def Symbol.Means (known later : Symbol) : Prop :=
  later.name = known.name ∧ known.content.Means later.content

theorem Content.Means.refl (content : Content) : content.Means content := by
  cases content <;> simp [Means]

theorem Content.Means.trans {first second third : Content} (left : first.Means second)
    (right : second.Means third) : first.Means third := by
  cases first <;> cases second <;> cases third <;> simp_all [Means]

/-- Contents that differ in texts only mean the same. -/
theorem Content.Means.of_bare {known later : Content} (same : later.bare = known.bare) :
    known.Means later := by
  cases known <;> cases later <;>
    simp_all [Means, Content.bare, Global.bare, Routine.bare]

theorem Symbol.Means.refl (symbol : Symbol) : symbol.Means symbol :=
  ⟨rfl, Content.Means.refl _⟩

theorem Symbol.Means.trans {first second third : Symbol} (left : first.Means second)
    (right : second.Means third) : first.Means third :=
  ⟨right.1.trans left.1, left.2.trans right.2⟩

/-- **A module that grows** keeps what its symbols mean. -/
def Module.Grows (before after : Module) : Prop :=
  ∀ (place : Nat) (key : Key) (symbol : Symbol), before.symbols[place]? = some (key, symbol) →
    ∃ later, after.symbols[place]? = some (key, later) ∧ symbol.Means later

namespace Module.Grows

variable {before middle after : Module}

theorem refl (module : Module) : module.Grows module :=
  fun _ _ symbol found => ⟨symbol, found, Symbol.Means.refl symbol⟩

theorem trans (first : before.Grows middle) (second : middle.Grows after) :
    before.Grows after := by
  intro place key symbol found
  obtain ⟨between, foundBetween, means⟩ := first place key symbol found
  obtain ⟨later, foundLater, meansLater⟩ := second place key between foundBetween
  exact ⟨later, foundLater, means.trans meansLater⟩

/-- A module that differs in texts only. -/
theorem of_bare (same : after.bare = before.bare) : before.Grows after := by
  intro place key symbol found
  have bare : (after.symbols[place]?).map (fun entry => (entry.1, entry.2.bare)) =
      (before.symbols[place]?).map fun entry => (entry.1, entry.2.bare) := by
    have symbols := congrArg (fun module => module.symbols[place]?) same
    simpa [Module.bare] using symbols
  rw [found] at bare
  obtain ⟨⟨other, later⟩, foundLater, equal⟩ := Option.map_eq_some_iff.mp bare
  simp only [Prod.mk.injEq] at equal
  obtain ⟨rfl, equal⟩ := equal
  exact ⟨later, foundLater, (congrArg Symbol.name equal :),
    Content.Means.of_bare (congrArg Symbol.content equal :)⟩

/-- One more symbol. -/
theorem append (module : Module) (key : Key) (symbol : Symbol) :
    module.Grows (module.append key symbol) := by
  intro place known symbol found
  obtain ⟨inside, -⟩ := List.getElem?_eq_some_iff.mp found
  exact ⟨symbol, by rwa [Module.append, List.getElem?_append_left inside], Symbol.Means.refl symbol⟩

/-- A symbol that changes but means the same. -/
theorem change (module : Module) (place : Nat) {update : Content → Content}
    (means : ∀ content : Content, content.Means (update content)) :
    module.Grows (module.change place update) := by
  intro other key symbol found
  by_cases same : place = other
  · subst same
    refine ⟨{ symbol with content := update symbol.content }, ?_, rfl, means _⟩
    simp [Module.change, found]
  · exact ⟨symbol, by simp [Module.change, same, found], Symbol.Means.refl symbol⟩

/-- A global that was there has kept its type. -/
theorem valueType (grows : before.Grows after) {place : Nat}
    (there : (before.global? place).isSome) :
    (after.global? place).map Global.valueType = (before.global? place).map Global.valueType := by
  obtain ⟨global, known⟩ := Option.isSome_iff_exists.mp there
  obtain ⟨name, found⟩ : ∃ name, before.symbol? place = some ⟨name, .global global⟩ := by
    unfold Module.global? at known
    split at known
    next name _ found =>
      cases known
      exact ⟨name, found⟩
    next => cases known
  obtain ⟨⟨key, symbol⟩, listed, rfl⟩ := Option.map_eq_some_iff.mp found
  obtain ⟨⟨_, content⟩, listedLater, -, means⟩ := grows place key _ listed
  cases content with
  | routine => exact means.elim
  | global later => simp [Module.global?, Module.symbol?, listed, listedLater, means.1]

end Module.Grows

/-! ## Libraries -/

/-- **A library that grows**: its tables and its pool are extended, its module keeps what its symbols
mean, and it is still the same library. -/
structure Library.Grows (taken : List Key) (before after : Library) : Prop where
  /-- Functions were added. -/
  functions : Dictionary.Extends taken before.functions after.functions
  /-- Fragments were added. -/
  fragments : Dictionary.Extends taken before.fragments after.fragments
  /-- Globals were added. -/
  globals : Dictionary.Extends taken before.globals after.globals
  /-- Strings were pooled. -/
  pool : before.pool.entries <+: after.pool.entries
  /-- Symbols mean what they meant. -/
  module : before.module.Grows after.module

/-- **All that happens is that a library grows**, and that fragments come up. -/
structure World.Grows (place : LibraryId) (taken : List Key) (before after : World) : Prop where
  /-- There are as many libraries. -/
  length : after.libraries.length = before.libraries.length
  /-- Other libraries are the same. -/
  others (other : LibraryId) : other ≠ place →
    (after.library other).bare = (before.library other).bare
  /-- Fragments came up. -/
  fragments : before.fragments <+: after.fragments
  /-- The library has grown. -/
  library : (before.library place).Grows taken (after.library place)

namespace Library.Grows

variable {taken : List Key} {before middle after : Library}

theorem refl (library : Library) : library.Grows taken library :=
  ⟨.refl _, .refl _, .refl _, List.prefix_rfl, .refl _⟩

theorem trans (first : before.Grows taken middle) (second : middle.Grows taken after) :
    before.Grows taken after :=
  ⟨first.functions.trans second.functions, first.fragments.trans second.fragments,
    first.globals.trans second.globals, first.pool.trans second.pool,
    first.module.trans second.module⟩

end Library.Grows

namespace World.Grows

variable {place : LibraryId} {taken : List Key} {before middle after : World}

instance : IsEffect (World.Grows place taken) where
  refl _ := ⟨rfl, fun _ _ => rfl, List.prefix_rfl, .refl _⟩
  trans first second :=
    ⟨second.length.trans first.length,
      fun other different => (second.others other different).trans (first.others other different),
      first.fragments.trans second.fragments, first.library.trans second.library⟩

/-- Changing a library in which it grows. -/
theorem of_changeLibrary (world : World) {update : Library → Library}
    (grows : (world.library place).Grows taken (update (world.library place))) :
    World.Grows place taken world (world.changeLibrary place update) where
  length := world.length_changeLibrary place update
  others other different := by
    rw [World.library_changeLibrary, if_neg fun claimed => different claimed.1]
  fragments := List.prefix_rfl
  library := by
    rw [World.library_changeLibrary]
    split
    · exact grows
    · exact .refl _

/-- Recording warnings adds nothing. -/
theorem of_noted {causes : List Cause} (noted : Noted place causes before after) :
    World.Grows place taken before after where
  length := noted.length
  others other different := by
    rw [noted.bareLibrary, World.library_changeLibrary,
      if_neg fun claimed => different claimed.1]
  fragments := by rw [noted.fragmentList]
  library := by
    obtain ⟨report, same⟩ := noted.library place
    refine ⟨.of_eq (noted.functions place), .of_eq (noted.fragments place),
      .of_eq (noted.globals place), ?_, .of_bare (congrArg Library.module same :)⟩
    have pool : (after.library place).pool = (before.library place).pool :=
      (congrArg Library.pool same :)
    rw [pool]

/-- More fragments. -/
theorem of_addFragment (fragment : Fragment) :
    World.Grows place taken before { before with fragments := before.fragments ++ [fragment] } :=
  ⟨rfl, fun _ _ => rfl, List.prefix_append .., .refl _⟩

/-- A fragment that was there is the same. -/
theorem fragment (grows : World.Grows place taken before after) {known : FragmentId}
    (inside : known < before.fragments.length) : after.fragment known = before.fragment known := by
  obtain ⟨more, same⟩ := grows.fragments
  rw [World.fragment, World.fragment, ← same, List.getElem?_append_left inside]

/-- A global that was there is the same operand. -/
theorem globalOperand (grows : World.Grows place taken before after) {symbol : Nat}
    (there : ((before.library place).module.global? symbol).isSome) :
    after.globalOperand ⟨place, symbol⟩ = before.globalOperand ⟨place, symbol⟩ := by
  have type := grows.library.module.valueType there
  simp only [World.globalOperand, World.global?, type]

/-! ## Resolution -/

/-- The functions that are shown are extended. -/
theorem shownReferences (grows : World.Grows place taken before after) (includePrivate : Bool) :
    Dictionary.Extends taken (Library.shownReferences before place includePrivate)
      (Library.shownReferences after place includePrivate) := by
  obtain ⟨added, same, fresh⟩ := grows.library.functions
  refine ⟨(((added.zipIdx (before.library place).functions.length).filter fun entry =>
    includePrivate || entry.1.2.visibility.isPublic).map fun entry =>
      (entry.1.1, ⟨place, entry.2⟩)), ?_, fun entry member => ?_⟩
  · rw [Library.shownReferences, Library.shownReferences, same, List.zipIdx_append,
      List.filter_append, List.map_append, Nat.zero_add]
  · obtain ⟨⟨known, index⟩, found, rfl⟩ := List.mem_map.mp member
    have found := List.mem_of_mem_filter found
    exact fresh known (List.fst_mem_of_mem_zipIdx found)

/-- The fragments that are shown are extended. -/
theorem shownFragments (grows : World.Grows place taken before after)
    (grounded : (before.library place).Grounded before.fragments.length) (includePrivate : Bool) :
    Dictionary.Extends taken (Library.shownFragments before place includePrivate)
      (Library.shownFragments after place includePrivate) := by
  refine grows.library.fragments.filter fun entry member => ?_
  rw [grows.fragment (grounded.fragments entry member)]

/-- The globals that are shown are extended. -/
theorem shownGlobals (grows : World.Grows place taken before after) (includePrivate : Bool) :
    Dictionary.Extends taken ((before.library place).shownGlobals includePrivate)
      ((after.library place).shownGlobals includePrivate) :=
  grows.library.globals.filter fun _ _ => rfl

/-- **What a taken name stands for stays the same.** -/
theorem resolve (grows : World.Grows place taken before after)
    (grounded : (before.library place).Grounded before.fragments.length) {key : Key}
    (known : key ∈ taken) (includePrivate : Bool) :
    Library.resolve after place key includePrivate =
      Library.resolve before place key includePrivate := by
  have globals := (grows.shownGlobals includePrivate).get?_eq known
  simp only [Library.resolve, (grows.shownFragments grounded includePrivate).get?_eq known,
    (grows.shownReferences includePrivate).get?_eq known, globals]
  split <;> try rfl
  next entry _ _ found =>
    have member := List.mem_of_mem_filter (Dictionary.mem_of_get?_eq_some found)
    rw [Library.globalOperand, Library.globalOperand,
      grows.globalOperand (grounded.globals _ member)]

end World.Grows

end StructuredIR
