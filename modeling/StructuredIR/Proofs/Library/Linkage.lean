import StructuredIR.Proofs.Library.Aliases
import StructuredIR.Proofs.Library.Outlines

/-! # Visibility and linkage

What a library lists is public or private, and so are the symbols of its module. Several entries can
stand for one symbol, so they do not always agree with it.

* **`Outline.Agrees`** says that a listed symbol is as private as one of the entries that stand for it,
  and a symbol that no entry stands for is public; pooled texts may be private. Every step keeps it,
  **`Outline.isKept_agrees`**.
* **`Library.Agrees`**: so an entry agrees with its symbol if all entries that stand for the symbol
  agree with each other. **`Script.Attainable.agrees`**: this holds of all libraries that scripts
  attain.
* **`Script.unhidden_disagrees`**: entries that stand for one routine need not agree. -/

namespace StructuredIR

open Build (Leads)

/-! ## What entries record -/

/-- **Some entries record that a symbol is private or not**: one that stands for it says so, or none
stands for it and it is public. -/
def Records (entries : List (Nat × Bool)) (place : Nat) (isPrivate : Bool) : Prop :=
  (place, isPrivate) ∈ entries ∨ isPrivate = false ∧ ∀ known, (place, known) ∉ entries

namespace Records

variable {entries after : List (Nat × Bool)} {place other : Nat} {isPrivate known : Bool}

/-- Only the entries matter that stand for the symbol. -/
theorem of_same (records : Records entries place isPrivate)
    (same : ∀ known, (place, known) ∈ after ↔ (place, known) ∈ entries) :
    Records after place isPrivate := by
  rcases records with listed | ⟨isPublic, missing⟩
  · exact .inl ((same _).mpr listed)
  · exact .inr ⟨isPublic, fun known claimed => missing known ((same known).mp claimed)⟩

/-- An entry of another symbol does not matter. -/
theorem append (records : Records entries place isPrivate) (different : place ≠ other) :
    Records (entries ++ [(other, known)]) place isPrivate :=
  records.of_same fun _ => by simp [different]

/-- Changing an entry of another symbol does not matter. -/
theorem set (records : Records entries place isPrivate) {index : Nat} {old : Bool}
    (listed : entries[index]? = some (other, old)) (different : place ≠ other) :
    Records (entries.set index (other, known)) place isPrivate := by
  refine records.of_same fun mark => ?_
  simp only [List.mem_iff_getElem?, List.getElem?_set]
  refine exists_congr fun position => ?_
  split
  next here =>
    subst here
    have further : (other, known) ≠ (place, mark) := fun same => different (congrArg Prod.fst same).symm
    have before : (other, old) ≠ (place, mark) := fun same => different (congrArg Prod.fst same).symm
    simp [listed, further, before]
  next => rfl

/-- A symbol that no entry can stand for yet is recorded as public. -/
theorem of_beyond {count : Nat} (inside : ∀ entry ∈ entries, entry.1 < count) :
    Records entries count false :=
  .inr ⟨rfl, fun _ claimed => Nat.lt_irrefl _ (inside _ claimed)⟩

end Records

/-! ## Agreement of outlines -/

namespace Outline

/-- **What an outline lists agrees with its symbols**, as far as pooled texts are not concerned. -/
structure Agrees (outline : Outline) : Prop where
  /-- The functions stand for symbols of the module. -/
  functionsInside : ∀ entry ∈ outline.functions, entry.1 < outline.symbols.length
  /-- The globals stand for symbols of the module. -/
  globalsInside : ∀ entry ∈ outline.globals.entries, entry.1 < outline.symbols.length
  /-- No two globals have the same key. -/
  keys : outline.globals.keys.Nodup
  /-- The functions record which routines are private. -/
  routines {place : Nat} {key : Key} {isPrivate : Bool} :
    outline.symbols[place]? = some (key, .routine isPrivate) →
      Records outline.functions place isPrivate
  /-- The globals record which globals are private, unless those hold pooled texts. -/
  globals {place : Nat} {key : Key} {type : IRType} {isPrivate : Bool} :
    outline.symbols[place]? = some (key, .global type isPrivate) →
      place ∈ outline.pooled ∨ Records outline.globals.entries place isPrivate

section

variable {outline : Outline} {place other : Nat} {key : Key}

/-- A symbol once one has changed. -/
theorem changeKind_getElem? (update : Kind → Kind) :
    (outline.changeKind place update).symbols[other]? =
      if place = other then (outline.symbols[place]?).map fun entry => (entry.1, update entry.2)
      else outline.symbols[other]? := by
  rw [changeKind, List.getElem?_modify]
  split
  next same =>
    subst same
    rfl
  next => simp

/-- Changing a symbol keeps how many there are. -/
theorem length_changeKind (update : Kind → Kind) :
    (outline.changeKind place update).symbols.length = outline.symbols.length :=
  List.length_modify ..

/-- A routine is linked. -/
theorem routine_of_linkRoutine {isPrivate linked : Bool}
    (found : (outline.changeKind place (Kind.linkRoutine linked)).symbols[other]? =
      some (key, .routine isPrivate)) :
    place = other ∧ isPrivate = linked ∨
      place ≠ other ∧ outline.symbols[other]? = some (key, .routine isPrivate) := by
  rw [changeKind_getElem?] at found
  split at found
  next same =>
    obtain ⟨⟨name, kind⟩, -, changed⟩ := Option.map_eq_some_iff.mp found
    cases kind with
    | global => cases changed
    | routine known =>
        cases changed
        exact .inl ⟨same, rfl⟩
  next different => exact .inr ⟨different, found⟩

/-- Linking a routine changes no global. -/
theorem global_of_linkRoutine {type : IRType} {isPrivate linked : Bool}
    (found : (outline.changeKind place (Kind.linkRoutine linked)).symbols[other]? =
      some (key, .global type isPrivate)) :
    outline.symbols[other]? = some (key, .global type isPrivate) := by
  rw [changeKind_getElem?] at found
  split at found
  next same =>
    subst same
    obtain ⟨⟨name, kind⟩, known, changed⟩ := Option.map_eq_some_iff.mp found
    cases kind with
    | global => rwa [← changed]
    | routine => cases changed
  next => exact found

/-- Linking a global changes no routine. -/
theorem routine_of_linkGlobal {link : Bool → Bool} {isPrivate : Bool}
    (found : (outline.changeKind place (Kind.linkGlobal link)).symbols[other]? =
      some (key, .routine isPrivate)) :
    outline.symbols[other]? = some (key, .routine isPrivate) := by
  rw [changeKind_getElem?] at found
  split at found
  next same =>
    subst same
    obtain ⟨⟨name, kind⟩, known, changed⟩ := Option.map_eq_some_iff.mp found
    cases kind with
    | global => cases changed
    | routine => rwa [← changed]
  next => exact found

/-- A global is linked. -/
theorem global_of_linkGlobal {link : Bool → Bool} {type : IRType} {isPrivate : Bool}
    (found : (outline.changeKind place (Kind.linkGlobal link)).symbols[other]? =
      some (key, .global type isPrivate)) :
    (place = other ∧ ∃ known, isPrivate = link known ∧
        outline.symbols[other]? = some (key, .global type known)) ∨
      place ≠ other ∧ outline.symbols[other]? = some (key, .global type isPrivate) := by
  rw [changeKind_getElem?] at found
  split at found
  next same =>
    subst same
    obtain ⟨⟨name, kind⟩, known, changed⟩ := Option.map_eq_some_iff.mp found
    cases kind with
    | routine => cases changed
    | global valueType mark =>
        cases changed
        exact .inl ⟨rfl, mark, rfl, known⟩
  next different => exact .inr ⟨different, found⟩

/-- A symbol behind the others. -/
theorem getElem?_append_symbol {entry found : Key × Kind}
    (known : (outline.symbols ++ [entry])[place]? = some found) :
    outline.symbols[place]? = some found ∨ place = outline.symbols.length ∧ entry = found := by
  rw [List.getElem?_append] at known
  split at known
  next => exact .inl known
  next beyond =>
    rw [List.getElem?_singleton] at known
    split at known
    next last => exact .inr ⟨by omega, Option.some.inj known⟩
    next => cases known

end

namespace Agrees

variable {outline : Outline} (agrees : outline.Agrees)

include agrees

/-- A public symbol is declared. -/
theorem declare {key : Key} {kind : Kind}
    (isPublic : kind = .routine false ∨ ∃ type, type ≠ .void ∧ kind = .global type false) :
    Agrees { outline with symbols := outline.symbols ++ [(key, kind)] } where
  functionsInside entry member := (agrees.functionsInside entry member).trans_le (by simp)
  globalsInside entry member := (agrees.globalsInside entry member).trans_le (by simp)
  keys := agrees.keys
  routines found := by
    rcases getElem?_append_symbol found with known | ⟨rfl, same⟩
    · exact agrees.routines known
    · cases same
      rcases isPublic with same | ⟨type, -, same⟩ <;> cases same
      exact .of_beyond agrees.functionsInside
  globals found := by
    rcases getElem?_append_symbol found with known | ⟨rfl, same⟩
    · exact agrees.globals known
    · cases same
      rcases isPublic with same | ⟨type, -, same⟩ <;> cases same
      exact .inr (.of_beyond agrees.globalsInside)

/-- A text is pooled. -/
theorem pool {key : Key} {type : IRType} :
    Agrees { outline with
      symbols := outline.symbols ++ [(key, .global type true)]
      pooled := outline.pooled ++ [outline.symbols.length] } where
  functionsInside entry member := (agrees.functionsInside entry member).trans_le (by simp)
  globalsInside entry member := (agrees.globalsInside entry member).trans_le (by simp)
  keys := agrees.keys
  routines found := by
    rcases getElem?_append_symbol found with known | ⟨rfl, same⟩
    · exact agrees.routines known
    · cases same
  globals found := by
    rcases getElem?_append_symbol found with known | ⟨rfl, -⟩
    · exact (agrees.globals known).imp_left (List.mem_append_left _)
    · exact .inl (List.mem_append_right _ (List.mem_singleton_self _))

/-- A function is entered. -/
theorem enterFunction {place : Nat} {key : Key} {known isPrivate : Bool}
    (there : outline.symbols[place]? = some (key, .routine known)) :
    Agrees { outline.changeKind place (Kind.linkRoutine isPrivate) with
      functions := outline.functions ++ [(place, isPrivate)] } where
  functionsInside entry member := by
    rw [length_changeKind]
    rcases List.mem_append.mp member with listed | new
    · exact agrees.functionsInside entry listed
    · rw [List.mem_singleton.mp new]
      exact (List.getElem?_eq_some_iff.mp there).1
  globalsInside entry member := by
    rw [length_changeKind]
    exact agrees.globalsInside entry member
  keys := agrees.keys
  routines found := by
    rcases routine_of_linkRoutine found with ⟨rfl, rfl⟩ | ⟨different, found⟩
    · exact .inl (List.mem_append_right _ (List.mem_singleton_self _))
    · exact (agrees.routines found).append different.symm
  globals found := agrees.globals (global_of_linkRoutine found)

/-- A function is given another visibility. -/
theorem relinkFunction {index place : Nat} {known isPrivate : Bool}
    (listed : outline.functions[index]? = some (place, known)) :
    Agrees { outline.changeKind place (Kind.linkRoutine isPrivate) with
      functions := outline.functions.set index (place, isPrivate) } where
  functionsInside entry member := by
    rw [length_changeKind]
    rcases List.mem_or_eq_of_mem_set member with before | rfl
    · exact agrees.functionsInside entry before
    · exact agrees.functionsInside (place, known) (List.mem_of_getElem? listed)
  globalsInside entry member := by
    rw [length_changeKind]
    exact agrees.globalsInside entry member
  keys := agrees.keys
  routines found := by
    rcases routine_of_linkRoutine found with ⟨rfl, rfl⟩ | ⟨different, found⟩
    · exact .inl (List.mem_set (List.getElem?_eq_some_iff.mp listed).1 _)
    · exact (agrees.routines found).set listed different.symm
  globals found := agrees.globals (global_of_linkRoutine found)

/-- A global is entered. It stays private if it was, and then some entry said so before. -/
theorem enterGlobal {key name : Key} {place : Nat} {type : IRType} {known isPrivate : Bool}
    (there : outline.symbols[place]? = some (name, .global type known))
    (free : key ∉ outline.globals.keys) :
    Agrees { outline.changeKind place (Kind.linkGlobal (· || isPrivate)) with
      globals := outline.globals ++ [(key, place, isPrivate)] } where
  functionsInside entry member := by
    rw [length_changeKind]
    exact agrees.functionsInside entry member
  globalsInside entry member := by
    rw [length_changeKind]
    dsimp only at member
    rw [Dictionary.entries_append] at member
    rcases List.mem_append.mp member with listed | new
    · exact agrees.globalsInside entry listed
    · rw [List.mem_singleton.mp new]
      exact (List.getElem?_eq_some_iff.mp there).1
  keys := Dictionary.nodup_keys_append agrees.keys free _
  routines found := agrees.routines (routine_of_linkGlobal found)
  globals found := by
    dsimp only
    rw [Dictionary.entries_append]
    rcases global_of_linkGlobal found with ⟨rfl, before, rfl, old⟩ | ⟨different, old⟩
    · refine (agrees.globals old).imp_right fun records => ?_
      have new : (place, isPrivate) ∈ outline.globals.entries ++ [(place, isPrivate)] :=
        List.mem_append_right _ (List.mem_singleton_self _)
      cases before with
      | false => exact .inl new
      | true =>
          rcases records with listed | ⟨isPublic, -⟩
          · exact .inl (List.mem_append_left _ listed)
          · cases isPublic
    · exact (agrees.globals old).imp_right fun records => records.append different.symm

/-- A global is given another visibility. -/
theorem relinkGlobal {key : Key} {place : Nat} {known isPrivate : Bool}
    (listed : (key, place, known) ∈ outline.globals) :
    Agrees { outline.changeKind place (Kind.linkGlobal fun _ => isPrivate) with
      globals := outline.globals.change key fun entry => (entry.1, isPrivate) } where
  functionsInside entry member := by
    rw [length_changeKind]
    exact agrees.functionsInside entry member
  globalsInside entry member := by
    rw [length_changeKind]
    obtain ⟨name, among⟩ := Dictionary.mem_entries.mp member
    obtain ⟨before, member, same⟩ := List.mem_map.mp among
    have inside := agrees.globalsInside before.2 (Dictionary.mem_entries.mpr ⟨before.1, member⟩)
    split at same <;> cases same <;> exact inside
  keys := by
    dsimp only
    rw [Dictionary.keys_change]
    exact agrees.keys
  routines found := agrees.routines (routine_of_linkGlobal found)
  globals found := by
    rcases global_of_linkGlobal found with ⟨rfl, before, rfl, found⟩ | ⟨different, found⟩
    · refine .inr (.inl (Dictionary.mem_entries.mpr ⟨key, List.mem_map.mpr ⟨_, listed, ?_⟩⟩))
      rw [if_pos rfl]
    · refine (agrees.globals found).imp_right fun records => records.of_same fun mark => ?_
      simp only [Dictionary.mem_entries, Dictionary.change, List.mem_map]
      constructor
      · rintro ⟨name, ⟨old, entry⟩, member, same⟩
        split at same
        next here =>
          obtain rfl : key = old := here.symm
          have one := Dictionary.eq_of_mem agrees.keys listed member
          exact (different ((congrArg Prod.fst one).trans (congrArg (·.2.1) same))).elim
        next => exact ⟨name, same ▸ member⟩
      · rintro ⟨name, member⟩
        refine ⟨name, _, member, if_neg fun here => ?_⟩
        obtain rfl : name = key := here
        exact different (congrArg Prod.fst (Dictionary.eq_of_mem agrees.keys listed member))

end Agrees

/-- **Outlines agree with their symbols whatever scripts do.** -/
theorem isKept_agrees : IsKept Agrees where
  empty := by constructor <;> simp [empty, Dictionary.entries, Dictionary.keys]
  step step agrees := by
    cases step with
    | declare _ _ isPublic => exact agrees.declare isPublic
    | pool => exact agrees.pool
    | enterFunction there => exact agrees.enterFunction there
    | relinkFunction listed => exact agrees.relinkFunction listed
    | enterGlobal there free => exact agrees.enterGlobal there free
    | relinkGlobal listed => exact agrees.relinkGlobal listed

end Outline

/-! ## Agreement of libraries -/

/-- **What a library lists agrees with its module** where the entries of a symbol agree with each other:
then a function is private exactly if its routine is, and a global exactly if its entry is, unless it
holds a pooled text. -/
structure Library.Agrees (library : Library) : Prop where
  /-- A function agrees with its routine. -/
  functions : ∀ entry ∈ library.functions,
    (∀ other ∈ library.functions, other.2.symbol = entry.2.symbol →
      other.2.visibility.isPrivate = entry.2.visibility.isPrivate) →
    ∃ routine, library.module.routine? entry.2.symbol = some routine ∧
      (routine.isPrivate ↔ entry.2.visibility.isPrivate)
  /-- An entry of a global agrees with the global. -/
  globals : ∀ entry ∈ library.globals,
    (∀ pooled ∈ library.pool.entries, pooled.2.place ≠ entry.2.symbol) →
    (∀ other ∈ library.globals, other.2.symbol = entry.2.symbol →
      other.2.visibility = entry.2.visibility) →
    ∃ global, library.module.global? entry.2.symbol = some global ∧
      (global.isPrivate ↔ entry.2.visibility = .isPrivate)

/-- What some entries record of a symbol is what all of them say that stand for it. -/
theorem Records.eq_of_all {entries : List (Nat × Bool)} {place : Nat} {isPrivate known : Bool}
    (records : Records entries place isPrivate) (listed : (place, known) ∈ entries)
    (all : ∀ entry ∈ entries, entry.1 = place → entry.2 = known) : isPrivate = known := by
  rcases records with recorded | ⟨-, missing⟩
  · exact all _ recorded rfl
  · exact (missing known listed).elim

/-- A library agrees with its module if its outline does, and all that it lists is there. -/
theorem Outline.Agrees.library {library : Library} {count : Nat} (agrees : library.outline.Agrees)
    (grounded : library.Grounded count) : library.Agrees where
  functions entry member all := by
    obtain ⟨routine, there⟩ := Option.isSome_iff_exists.mp (grounded.functions entry member)
    obtain ⟨key, found⟩ := library.module.kinds_of_routine? there
    refine ⟨routine, there, ?_⟩
    rw [(agrees.routines found).eq_of_all (List.mem_map_of_mem member) ?_]
    intro other listed same
    obtain ⟨known, among, rfl⟩ := List.mem_map.mp listed
    exact all known among same
  globals entry member unpooled all := by
    obtain ⟨global, there⟩ := Option.isSome_iff_exists.mp (grounded.globals entry member)
    obtain ⟨key, found⟩ := library.module.kinds_of_global? there
    refine ⟨global, there, ?_⟩
    rcases agrees.globals found with pooled | records
    · obtain ⟨known, among, same⟩ := List.mem_map.mp pooled
      exact (unpooled known among same).elim
    · have listed : (entry.2.symbol, entry.2.visibility == .isPrivate) ∈
          library.outline.globals.entries :=
        Dictionary.mem_entries.mpr ⟨entry.1, List.mem_map_of_mem member⟩
      rw [records.eq_of_all listed ?_, beq_iff_eq]
      intro other recorded same
      obtain ⟨name, entered⟩ := Dictionary.mem_entries.mp recorded
      obtain ⟨known, among, made⟩ := List.mem_map.mp entered
      cases made
      exact congrArg (· == Visibility.isPrivate) (all known among same)

/-- **In every library that scripts attain**, visibility and linkage agree where the entries of a symbol
agree with each other, whatever was declared, hidden, shown and imported. -/
theorem Script.Attainable.agrees {world : World} (attainable : Script.Attainable world)
    (place : LibraryId) : (world.library place).Agrees :=
  (attainable.outline Outline.isKept_agrees place).library (attainable.reachable.grounded place)

/-! ## A private function that is declared once more -/

namespace Script

/-- A library that defines two private functions, and then declares a function of the same symbol as
the first one. -/
def declareHidden : Build Unit := do
  let place ← Library.create (.text "a") (.visibility .isPublic) (.policy .smart) .none .none none
  Library.setDefault place .isPrivate
  let _ ← Library.define place (.text "f") (.tuple []) (.type (.int 32)) none
  let _ ← Library.define place (.text "g") (.tuple []) (.type (.int 32)) none
  let _ ← Library.declareExternal place (.text "a_f") (.tuple []) (.type (.int 32))

/-- The world with that library. -/
def unhidden : World :=
  declareHidden.after initialWorld

theorem attainable_unhidden : Attainable unhidden :=
  attainable_initialWorld.after fun _ _ =>
    (Library.leads_create _ _ _ _ _ nofun).bind fun place =>
      (Library.leads_setDefault place _).bind fun _ =>
        (Library.leads_define place _ _ _ nofun).bind fun _ =>
          (Library.leads_define place _ _ _ nofun).bind fun _ =>
            (Library.leads_declareExternal place _ _ _).bind fun _ => .pure _

/-- The second function is the only one that stands for its routine, so both are private. -/
theorem Attainable.agrees_unhidden :
    Attainable unhidden ∧ (unhidden.library 0).Agrees ∧
      ∃ entry ∈ (unhidden.library 0).functions, entry.2.visibility.isPrivate ∧
        ∀ other ∈ (unhidden.library 0).functions, other.2.symbol = entry.2.symbol →
          other.2.visibility.isPrivate = entry.2.visibility.isPrivate :=
  ⟨attainable_unhidden, attainable_unhidden.agrees 0, by decide +kernel⟩

/-- **Visibility and linkage can disagree**: the first function is private, but its routine is not. -/
theorem unhidden_disagrees :
    Attainable unhidden ∧ ∃ entry ∈ (unhidden.library 0).functions,
      entry.2.visibility.isPrivate ∧
        ((unhidden.library 0).module.routine? entry.2.symbol).map Routine.isPrivate = some false :=
  ⟨attainable_unhidden, by decide +kernel⟩

end Script

end StructuredIR
