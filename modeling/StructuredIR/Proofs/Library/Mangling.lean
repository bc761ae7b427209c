import StructuredIR.Program
import StructuredIR.Proofs.Library.Growth

/-! # Names of definitions in modules

What is defined in a library is named behind the library and an underscore, unless the library leaves
names as they are. Both names may have underscores of their own, so the name in the module does not
always tell where the one ends and the other begins.

* **`Library.join_eq_join`** says when two pairs of names are joined to the same text: only if they are
  the same, or the library's name in one pair goes on, behind an underscore, with what the declared name
  in the other pair begins with.
* **`Program.Registers`** says that a registry finds a library by the library's own name;
  **`Registry.register_registers`** that it does once the library is registered.
* **`Program.symbolName_eq_iff`**: so it is for definitions of registered libraries.
  **`Program.symbolName_clashes`**: two definitions can have the same name. -/

namespace StructuredIR

open Build (bind_eq_ok get_eq_ok pure_eq_ok modify_eq_ok)

namespace Library

/-! ## Joined names -/

/-- A name behind another one and an underscore. -/
def join (library name : String) : String :=
  library ++ "_" ++ name

/-- A name that is joined to a joined name. -/
theorem join_join (library rest name : String) :
    join (join library rest) name = join library (join rest name) := by
  simp only [join, String.append_assoc]

/-- Where joined names are the same and one of the first names begins with the other one, they are the
same as well, or the longer one goes on behind an underscore. -/
theorem join_of_longer {short long name other : String} {left : List Char}
    (longer : long.toList = short.toList ++ left)
    (tail : '_' :: name.toList = left ++ '_' :: other.toList) :
    (long = short ∧ name = other) ∨ ∃ rest, long = join short rest ∧ name = join rest other := by
  cases left with
  | nil =>
      rw [List.append_nil] at longer
      rw [List.nil_append, List.cons.injEq] at tail
      exact .inl ⟨String.toList_inj.mp longer, String.toList_inj.mp tail.2⟩
  | cons first rest =>
      -- What is left begins with the underscore that stands behind the shorter name.
      rw [List.cons_append, List.cons.injEq] at tail
      obtain ⟨rfl, tail⟩ := tail
      refine .inr ⟨String.ofList rest, String.toList_inj.mp ?_, String.toList_inj.mp ?_⟩
      · simpa [join] using longer
      · simpa [join] using tail

/-- **Joined names are the same** exactly if the pairs of names are, or if the first name of one pair
goes on behind an underscore where the other pair has its second name. -/
theorem join_eq_join {first second name other : String} :
    join first name = join second other ↔
      (first = second ∧ name = other) ∨
        (∃ rest, first = join second rest ∧ other = join rest name) ∨
          ∃ rest, second = join first rest ∧ name = join rest other := by
  constructor
  · intro same
    have rows : first.toList ++ '_' :: name.toList = second.toList ++ '_' :: other.toList := by
      have lists := congrArg String.toList same
      simpa [join] using lists
    rcases List.append_eq_append_iff.mp rows with ⟨left, longer, tail⟩ | ⟨left, longer, tail⟩
    · rcases join_of_longer longer tail with ⟨rfl, rfl⟩ | goes_on
      · exact .inl ⟨rfl, rfl⟩
      · exact .inr (.inr goes_on)
    · rcases join_of_longer longer tail with ⟨rfl, rfl⟩ | goes_on
      · exact .inl ⟨rfl, rfl⟩
      · exact .inr (.inl goes_on)
  · rintro (⟨rfl, rfl⟩ | ⟨rest, rfl, rfl⟩ | ⟨rest, rfl, rfl⟩)
    · rfl
    · exact join_join second rest name
    · exact (join_join first rest other).symm

/-- A library that does not leave names as they are joins a name to its own. -/
theorem symbolName_text {library : Library} (prefixes : library.policy ≠ .plain) (name : String)
    (world : World) :
    symbolName library (.text name) world = .ok (.text (join library.name.plain name)) world := by
  unfold symbolName
  cases known : library.policy with
  | plain => exact (prefixes known).elim
  | smart => rfl
  | qualified => rfl

end Library

/-! ## Registered libraries -/

/-- **A registry has registered a library**: it finds the library by the library's own name. -/
def Program.Registers (world : World) (registry : RegistryId) (place : LibraryId) : Prop :=
  Registry.find? world registry (.text (world.library place).name.content) = some place

/-- Two registered libraries with the same name are one. -/
theorem Program.Registers.eq_of_name {world : World} {registry : RegistryId}
    {first second : LibraryId} (one : Registers world registry first)
    (other : Registers world registry second)
    (same : (world.library first).name = (world.library second).name) : first = second := by
  unfold Registers at one
  rw [same, other] at one
  exact (Option.some.inj one).symm

/-- What is entered under a free name is found there. -/
theorem Registry.find?_enter {world : World} {registry : RegistryId} {name : Phrase}
    (inside : registry < world.registries.length)
    (free : Key.text name.content ∉ (world.registry registry).keys) (place : LibraryId) :
    Registry.find? ((Registry.enter registry name place).after world) registry
      (.text name.content) = some place := by
  change Dictionary.get? ((world.changeRegistry registry _).registry registry) _ = _
  have there : (world.changeRegistry registry fun known =>
      known.enter (.text name.content) place).registry registry =
        (world.registry registry).enter (.text name.content) place := by
    simp [World.registry, World.changeRegistry, inside]
  have missing : (world.registry registry).lookup (.text name.content) = none :=
    Dictionary.get?_eq_none.mpr free
  rw [there, Dictionary.enter_of_free free, Dictionary.get?, List.lookup_append, missing]
  simp

/-- **A library is registered** by a registry that takes it. -/
theorem Registry.registers_of_register {world after : World} {registry : RegistryId}
    {place : LibraryId} {value : Unit} (inside : registry < world.registries.length)
    (run : Registry.register registry place world = .ok value after) :
    Program.Registers after registry place := by
  obtain ⟨_, _, looked, run⟩ := bind_eq_ok.mp run
  obtain ⟨rfl, rfl⟩ := get_eq_ok.mp looked
  obtain ⟨_, between, checking, run⟩ := bind_eq_ok.mp run
  have free : Key.text (world.library place).name.content ∉ (world.registry registry).keys ∧
      world = between := by
    obtain ⟨_, _, looked, checking⟩ := bind_eq_ok.mp checking
    obtain ⟨rfl, rfl⟩ := get_eq_ok.mp looked
    split at checking
    · cases checking
    next free =>
      obtain ⟨-, rfl⟩ := pure_eq_ok.mp checking
      exact ⟨by rwa [Dictionary.holds_iff] at free, rfl⟩
  obtain ⟨free, rfl⟩ := free
  have found := Registry.find?_enter inside free place
  rw [Build.after_of_ok run] at found
  have same : (after.library place).name = (world.library place).name := by
    obtain rfl := modify_eq_ok.mp run
    rfl
  rwa [Program.Registers, same]

/-! ## Definitions of registered libraries -/

namespace Program

open Library (join symbolName)

/-- **Two definitions have the same name in their modules** exactly if the name of one library goes on,
behind an underscore, with what the declared name of the other definition begins with. The libraries
are registered and do not leave names as they are. -/
theorem symbolName_eq_iff {world : World} {registry : RegistryId} {first second : LibraryId}
    (one : Registers world registry first) (other : Registers world registry second)
    (prefixes : (world.library first).policy ≠ .plain)
    (prefixesToo : (world.library second).policy ≠ .plain) {stem otherStem : String}
    (named : (world.library first).name = .text stem)
    (namedToo : (world.library second).name = .text otherStem) {name otherName : String}
    (different : (first, name) ≠ (second, otherName)) :
    ∃ symbol otherSymbol,
      symbolName (world.library first) (.text name) world = .ok (.text symbol) world ∧
      symbolName (world.library second) (.text otherName) world = .ok (.text otherSymbol) world ∧
      (symbol = otherSymbol ↔
        (∃ rest, stem = join otherStem rest ∧ otherName = join rest name) ∨
          ∃ rest, otherStem = join stem rest ∧ name = join rest otherName) := by
  refine ⟨_, _, Library.symbolName_text prefixes name world,
    Library.symbolName_text prefixesToo otherName world, ?_⟩
  rw [named, namedToo, Library.join_eq_join]
  refine or_iff_right fun same => different ?_
  have sameLibrary : first = second := by
    refine one.eq_of_name other ?_
    rw [named, namedToo]
    exact congrArg Phrase.text same.1
  rw [sameLibrary, same.2]

/-! ### Two definitions of one name -/

/-- Two libraries of the program are made, and a function is defined in each. -/
def defineClashing : Build Unit := do
  let registry : Value := .registry Script.firstRegistry
  let first ← Library.create (.text "a") (.visibility .isPublic) (.policy .smart) registry .none none
  let second ←
    Library.create (.text "a_b") (.visibility .isPublic) (.policy .smart) registry .none none
  let _ ← Library.define first (.text "b_c") (.tuple []) (.type (.int 32)) none
  let _ ← Library.define second (.text "c") (.tuple []) (.type .double) none

/-- The world with those libraries. -/
def clashing : World :=
  defineClashing.after Script.initialWorld

theorem attainable_clashing : Script.Attainable clashing :=
  Script.attainable_initialWorld.after fun _ _ =>
    (Library.leads_create _ _ _ _ _ nofun).bind fun first =>
      (Library.leads_create _ _ _ _ _ nofun).bind fun second =>
        (Library.leads_define first _ _ _ nofun).bind fun _ =>
          (Library.leads_define second _ _ _ nofun).bind fun _ => .pure _

/-- Both libraries are registered; the same declared name gives different names there. -/
theorem symbolName_eq_iff_clashing :
    Registers clashing Script.firstRegistry 0 ∧ Registers clashing Script.firstRegistry 1 ∧
      ∃ symbol otherSymbol,
        symbolName (clashing.library 0) (.text "c") clashing = .ok (.text symbol) clashing ∧
        symbolName (clashing.library 1) (.text "c") clashing = .ok (.text otherSymbol) clashing ∧
        (symbol = otherSymbol ↔
          (∃ rest, "a" = join "a_b" rest ∧ "c" = join rest "c") ∨
            ∃ rest, "a_b" = join "a" rest ∧ "c" = join rest "c") := by
  have one : Registers clashing Script.firstRegistry 0 := by
    unfold Registers
    decide +kernel
  have other : Registers clashing Script.firstRegistry 1 := by
    unfold Registers
    decide +kernel
  exact ⟨one, other, symbolName_eq_iff one other (by decide +kernel) (by decide +kernel)
    (by decide +kernel) (by decide +kernel) (by decide)⟩

/-- **Two definitions can have the same name**: that of `b_c` in one library, and that of `c` in the
other one. -/
theorem symbolName_clashes :
    Script.Attainable clashing ∧ Registers clashing Script.firstRegistry 0 ∧
      Registers clashing Script.firstRegistry 1 ∧
        (clashing.library 0).policy ≠ .plain ∧ (clashing.library 1).policy ≠ .plain ∧
          symbolName (clashing.library 0) (.text "b_c") clashing =
            .ok (.text "a_b_c") clashing ∧
          symbolName (clashing.library 1) (.text "c") clashing = .ok (.text "a_b_c") clashing ∧
          (clashing.library 0).module.symbols.keys = [.text "a_b_c"] ∧
          (clashing.library 1).module.symbols.keys = [.text "a_b_c"] := by
  have prefixes : (clashing.library 0).policy ≠ .plain := by decide +kernel
  have prefixesToo : (clashing.library 1).policy ≠ .plain := by decide +kernel
  have named : (clashing.library 0).name = .text "a" := by decide +kernel
  have namedToo : (clashing.library 1).name = .text "a_b" := by decide +kernel
  refine ⟨attainable_clashing, ?_, ?_, prefixes, prefixesToo, ?_, ?_, ?_, ?_⟩
  · unfold Registers
    decide +kernel
  · unfold Registers
    decide +kernel
  · rw [Library.symbolName_text prefixes, named]
    rfl
  · rw [Library.symbolName_text prefixesToo, namedToo]
    rfl
  · decide +kernel
  · decide +kernel

end Program

end StructuredIR
