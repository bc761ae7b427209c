import StructuredIR.Proofs.Bare

/-! # Steady values

Most values are always written as the same text, and nothing else happens when they are: texts,
numbers, types. Others describe the state of the world.

* **`Build.IsFixed`** says that a step always comes out the same and does nothing.
* **`Value.IsSteady`** says so of writing a value; phrases are steady.
* **`SameUnreported`** says that two worlds differ in reports and in what was written to the error
  stream only. Recording a warning changes nothing else. -/

namespace StructuredIR

open Build (Leads bind_eq_ok get_eq_ok pure_eq_ok modify_eq_ok)

/-! ## Fixed steps -/

/-- **A step that always comes out the same** and does nothing. -/
def Build.IsFixed {Result : Type} (step : Build Result) : Prop :=
  ∃ outcome : Except Fault Result, step = liftM outcome

namespace Build.IsFixed

variable {Result : Type} {step : Build Result}

theorem pure (value : Result) : (pure value : Build Result).IsFixed :=
  ⟨.ok value, rfl⟩

theorem throw (fault : Fault) : (throw fault : Build Result).IsFixed :=
  ⟨.error fault, rfl⟩

/-- Two fixed steps one after the other are fixed. -/
theorem bind {Next : Type} {next : Result → Build Next} (first : step.IsFixed)
    (second : ∀ value, (next value).IsFixed) : (step >>= next).IsFixed := by
  obtain ⟨outcome, rfl⟩ := first
  cases outcome with
  | error fault => exact ⟨.error fault, rfl⟩
  | ok value => exact second value

/-- Two runs of a fixed step that succeed give the same. -/
theorem eq_of_ok (fixed : step.IsFixed) {world final other otherFinal : World}
    {value otherValue : Result} (run : step world = .ok value final)
    (otherRun : step other = .ok otherValue otherFinal) : value = otherValue := by
  obtain ⟨outcome, rfl⟩ := fixed
  have given := (lift_eq_ok.mp run).1
  have givenToo := (lift_eq_ok.mp otherRun).1
  rw [given] at givenToo
  cases givenToo
  rfl

/-- A fixed step does nothing. -/
theorem leads (fixed : step.IsFixed) {Effect : World → World → Prop} [IsEffect Effect] :
    Leads Effect step := by
  obtain ⟨outcome, rfl⟩ := fixed
  exact Leads.lift outcome

/-- What a fixed step gives in one world it gives in every world. -/
theorem again (fixed : step.IsFixed) {world final : World} {value : Result}
    (run : step world = .ok value final) (other : World) : step other = .ok value other := by
  obtain ⟨outcome, rfl⟩ := fixed
  obtain ⟨rfl, -⟩ := lift_eq_ok.mp run
  rfl

end Build.IsFixed

/-- **A value that is always written as the same text**, without anything else happening. -/
def Value.IsSteady (value : Value) : Prop :=
  (Build.plain value).IsFixed

/-- Phrases are steady. -/
theorem Value.isSteady_phrase (phrase : Phrase) : phrase.value.IsSteady := by
  cases phrase <;> exact .pure _

/-- What is a phrase is steady. -/
theorem Value.isSteady_of_phrase? {value : Value} (isPhrase : value.phrase?.isSome) :
    value.IsSteady := by
  cases value with
  | text content => exact isSteady_phrase (.text content)
  | visibility known => exact isSteady_phrase (.visibility known)
  | policy known => exact isSteady_phrase (.policy known)
  | _ => cases isPhrase

/-! ## Worlds without reports -/

/-- The world without reports and without what was written to the error stream. -/
def World.unreported (world : World) : World :=
  { world with
    libraries := world.libraries.map fun library => { library with report := default }
    errorOutput := "" }

/-- A world without reports has the libraries without theirs. -/
theorem World.library_unreported (world : World) (place : LibraryId) :
    world.unreported.library place = { world.library place with report := default } := by
  simp only [World.library, World.unreported, List.getElem?_map]
  cases world.libraries[place]? <;> rfl

/-- **Nothing but reports differs** between two worlds, and what was written. -/
def SameUnreported (before after : World) : Prop :=
  after.unreported = before.unreported

instance : IsEffect SameUnreported where
  refl _ := rfl
  trans first second := second.trans first

namespace SameUnreported

variable {before after : World}

/-- The libraries are the same but for their reports. -/
theorem library (same : SameUnreported before after) (place : LibraryId) :
    { after.library place with report := default } =
      { before.library place with report := default } := by
  rw [← World.library_unreported, ← World.library_unreported, same]

/-- The modules are the same. -/
theorem module (same : SameUnreported before after) (place : LibraryId) :
    (after.library place).module = (before.library place).module :=
  (congrArg Library.module (same.library place) :)

/-- What is held for constants is the same. -/
theorem held (same : SameUnreported before after) : after.held = before.held :=
  (congrArg World.held same :)

/-- Changing a report changes nothing else. -/
theorem of_report (world : World) (place : LibraryId) (report : Report) :
    SameUnreported world (world.changeLibrary place fun library => { library with report }) := by
  simp only [SameUnreported, World.unreported, World.changeLibrary, World.mk.injEq, and_true]
  refine List.ext_getElem? fun index => ?_
  simp only [List.getElem?_map, List.getElem?_modify]
  split
  · cases world.libraries[index]? <;> rfl
  · rw [id_map']

end SameUnreported

/-- A warning changes nothing but a report. -/
theorem Build.leads_warn_unreported (place : LibraryId) (cause : Cause) :
    Leads SameUnreported (warn place cause) := by
  have noting (report : Report) (echo : Value) (code message : String) :
      Leads SameUnreported (note report echo code message) := by
    refine Leads.get.bind fun world => ?_
    split
    · exact Leads.bind (Leads.modify fun world => rfl) fun _ => Leads.pure _
    · exact Leads.pure _
  refine Leads.get.bind fun world => (noting _ _ _ _).bind fun report => ?_
  exact Leads.modify fun world => SameUnreported.of_report world place report

end StructuredIR
