import StructuredIR.Proofs.Scripts

/-! # What a library falls back to

A library is made of a name, a visibility and a naming policy. A value that is none of these is replaced,
with a warning, and a name that is missing or malformed by a made-up one. Made-up names are numbered
without a look at the registry, so one of them can be taken there.

* **`Library.givenName`** is the name that a library is given, and **`World.founding`** the world in which
  it has come up.
* **`Value.IsDescribable`** says that a value can be looked up and quoted.
* **`Library.chooseName_run`**, **`Library.chooseVisibility_run`** and **`Library.choosePolicy_run`** say
  what each choice comes to.
* **`Library.create_fallsBack`**: a library comes up with its fallbacks and one warning for each value
  that was replaced, unless its name is taken; **`Library.create_takenFallback`**: a made-up name can be
  taken. -/

namespace StructuredIR

open Build (bind_eq_ok bind_eq_error)

/-! ## Worlds that differ in made-up names -/

/-- **Nothing differs but texts and the number of made-up names** between two worlds. -/
def SameButNumber (before after : World) : Prop :=
  SameBare { before with madeUpNames := after.madeUpNames } after

instance : IsEffect SameButNumber where
  refl _ := rfl
  trans {before middle after} first second := by
    have numbered : ({ middle with madeUpNames := after.madeUpNames } : World).bare =
        ({ before with madeUpNames := after.madeUpNames } : World).bare :=
      congrArg (fun world : World => { world with madeUpNames := after.madeUpNames }) first
    exact second.trans numbered

/-- Where only texts differ but for the number of made-up names, nothing else does. -/
theorem SameButNumber.of_sameBare {before after : World} {number : Nat}
    (same : SameBare { before with madeUpNames := number } after) : SameButNumber before after := by
  have bare : after.bare = ({ before with madeUpNames := number } : World).bare := same
  have numbers : after.madeUpNames = number := (congrArg World.madeUpNames bare :)
  rw [SameButNumber, numbers]
  exact same

/-- Where only texts differ, no name has been made up. -/
theorem SameBare.number {before after : World} (same : SameBare before after) :
    SameButNumber before after := by
  have unnumbered : SameBare { before with madeUpNames := before.madeUpNames } after := same
  exact .of_sameBare unnumbered

/-- **A value can be looked up and quoted** in a world, whatever texts are kept and however many names have
been made up. -/
def Value.IsDescribable (value : Value) (world : World) : Prop :=
  ∀ between, SameButNumber world between →
    (Build.tryKey value).succeeds between = true ∧ (Build.quoted value).succeeds between = true

/-- A value that can be described can be described later. -/
theorem Value.IsDescribable.later {value : Value} {world between : World}
    (describable : value.IsDescribable world) (same : SameButNumber world between) :
    value.IsDescribable between :=
  fun after later => describable after (IsEffect.trans same later)

/-- Whether a value is nothing, a number, a text, a row of bytes or a word. -/
def Value.isPlainData : Value → Bool
  | .none | .truth _ | .integer _ | .real _ | .text _ | .bytes .. | .visibility _ | .policy _ => true
  | _ => false

/-- Plain data can be described in every world. -/
theorem Value.isDescribable_of_isPlainData {value : Value} (plain : value.isPlainData = true)
    (world : World) : value.IsDescribable world := by
  intro between _
  cases value with
  | bytes content isMutable => cases isMutable <;> exact ⟨rfl, rfl⟩
  | none | truth | integer | real | text | visibility | policy => exact ⟨rfl, rfl⟩
  | _ => cases plain

/-! ## Worlds with one more library -/

/-- **The world in which a library has come up**: it is the last one, and it is entered in its registry
under its name. -/
def World.founding (world : World) (library : Library) : World :=
  let grown := { world with libraries := world.libraries ++ [library] }
  match library.registry with
  | none => grown
  | some registry => grown.changeRegistry registry fun known =>
      known.enter (.text library.name.content) world.libraries.length

/-- A library comes up in bare worlds as it does in worlds with texts. -/
theorem World.bare_founding (world : World) (library : Library) :
    (world.founding library).bare = world.bare.founding library.bare := by
  have named : library.bare.name = library.name ∧ library.bare.registry = library.registry :=
    ⟨rfl, rfl⟩
  unfold World.founding
  rw [named.1, named.2]
  cases library.registry <;> simp [World.bare, World.changeRegistry]

/-- Where only texts differ, only texts differ once a library has come up. -/
theorem SameBare.founding {before after : World} (same : SameBare before after) (library : Library) :
    SameBare (before.founding library) (after.founding library) := by
  rw [SameBare, World.bare_founding, World.bare_founding, same]

namespace Library

variable {world : World} {report : Report} {echo name visibility policy : Value}

/-! ## Warnings -/

/-- **A warning is recorded**, and nothing changes but what is written. -/
theorem note_run (report : Report) (echo : Value) (cause : Cause) (world : World) :
    ∃ after, note report echo cause world = .ok (report.noted [cause]) after ∧
      SameBare world after := by
  have noted : report.noted [cause] =
      report.record (report.warning cause.code.text cause.message) := rfl
  rw [note, Build.note, noted, Build.run_get_bind]
  split
  · exact ⟨_, rfl, rfl⟩
  · exact ⟨_, rfl, rfl⟩

/-- Recorded warnings add their codes. -/
theorem codes_noted (report : Report) (causes : List Cause) :
    (report.noted causes).codes = report.codes ++ (causes.map Cause.code).map Code.text := by
  simp [Report.codes, Report.noted, Report.warning]

/-- A warning that quotes a value is recorded. -/
theorem note_quoted_run {value : Value} (describable : value.IsDescribable world) (report : Report)
    (echo : Value) (cause : String → Cause) :
    ∃ text between after, Build.quoted value world = .ok text between ∧
      note report echo (cause text) between = .ok (report.noted [cause text]) after ∧
        SameBare world after := by
  obtain ⟨text, quoting⟩ := Build.ok_of_succeeds (describable world (IsEffect.refl world)).2
  obtain ⟨after, noting, same⟩ := note_run report echo (cause text) ((Build.quoted value).after world)
  exact ⟨text, _, after, quoting, noting,
    IsEffect.trans ((Build.leads_quoted value).of_ok quoting) same⟩

/-! ## Choices -/

/-- The number of made-up names once a library has its name. -/
def numberedFor (world : World) (name : Value) : Nat :=
  if (validName? name).isSome then world.madeUpNames else world.madeUpNames + 1

/-- **The name that a library is given**: a made-up one where a value is no valid name. -/
def givenName (world : World) (name : Value) : Phrase :=
  (validName? name).getD (.text ("library" ++ toString (world.madeUpNames + 1)))

/-- What is complained about where nothing valid was found. -/
def complaints {Choice : Type} (found : Option Choice) (code : Code) : List Code :=
  if found.isNone then [code] else []

/-- What is complained about in a name, which may be missing. -/
def nameComplaints (name : Value) : List Code :=
  if isMissingName name then [] else complaints (validName? name) .invalidName

/-- **A name is chosen**: one name is made up unless the value is a valid one. -/
theorem chooseName_run (describable : name.IsDescribable world) (report : Report) (echo : Value) :
    ∃ causes after, chooseName report echo name world =
        .ok (givenName world name, report.noted causes) after ∧
      causes.map Cause.code = nameComplaints name ∧
        SameBare { world with madeUpNames := numberedFor world name } after := by
  unfold chooseName givenName numberedFor
  cases valid : validName? name with
  | some phrase =>
      have quiet : nameComplaints name = [] := by simp [nameComplaints, complaints, valid]
      exact ⟨[], world, by rw [Report.noted_nil]; rfl, quiet.symm, rfl⟩
  | none =>
      -- The name is made up before the value is quoted, so the world has moved on by then.
      have later : SameButNumber world { world with madeUpNames := world.madeUpNames + 1 } := rfl
      cases missing : isMissingName name with
      | true =>
          have quiet : nameComplaints name = [] := if_pos missing
          refine ⟨[], _, bind_eq_ok.mpr ⟨_, _, rfl, ?_⟩, quiet.symm, rfl⟩
          rw [if_pos rfl, Report.noted_nil]
          rfl
      | false =>
          have complains : nameComplaints name = [.invalidName] := by
            simp [nameComplaints, complaints, valid, missing]
          obtain ⟨text, between, after, quoting, noting, same⟩ :=
            note_quoted_run (describable.later later) report echo fun text =>
              .invalidName text ("library" ++ toString (world.madeUpNames + 1))
          refine ⟨[.invalidName text ("library" ++ toString (world.madeUpNames + 1))], after,
            bind_eq_ok.mpr ⟨_, _, rfl, ?_⟩, complains.symm, same⟩
          rw [if_neg Bool.false_ne_true]
          exact bind_eq_ok.mpr ⟨text, between, quoting, bind_eq_ok.mpr ⟨_, after, noting, rfl⟩⟩

/-- What a value stands for, or else a fallback, with a warning. -/
def choose {Choice : Type} (find : Value → Option Choice) (fallback : Choice)
    (cause : String → Cause) (report : Report) (echo value : Value) : Build (Choice × Report) := do
  Build.tryKey value
  match find value with
  | some found => return (found, report)
  | none =>
      let quoted ← Build.quoted value
      return (fallback, ← note report echo (cause quoted))

/-- **A choice is made**: the fallback unless the value stands for something. -/
theorem choose_run {Choice : Type} (find : Value → Option Choice) (fallback : Choice)
    (cause : String → Cause) {code : Code} (coded : ∀ text, (cause text).code = code) {value : Value}
    (describable : value.IsDescribable world) (report : Report) (echo : Value) :
    ∃ causes after, choose find fallback cause report echo value world =
        .ok ((find value).getD fallback, report.noted causes) after ∧
      causes.map Cause.code = complaints (find value) code ∧ SameBare world after := by
  -- Whatever the value is, it is looked up first, and that may keep texts.
  obtain ⟨_, looking⟩ := Build.ok_of_succeeds (describable world (IsEffect.refl world)).1
  have same : SameBare world ((Build.tryKey value).after world) :=
    (leads_tryKey value).of_ok looking
  unfold choose
  cases find value with
  | some found =>
      refine ⟨[], _, bind_eq_ok.mpr ⟨_, _, looking, ?_⟩, rfl, same⟩
      rw [Report.noted_nil]
      rfl
  | none =>
      obtain ⟨text, between, after, quoting, noting, later⟩ :=
        note_quoted_run (describable.later same.number) report echo cause
      refine ⟨[cause text], after, bind_eq_ok.mpr ⟨_, _, looking, ?_⟩, congrArg ([·]) (coded text),
        IsEffect.trans same later⟩
      exact bind_eq_ok.mpr ⟨text, between, quoting, bind_eq_ok.mpr ⟨_, after, noting, rfl⟩⟩

/-- **A visibility is chosen**: the public one unless the value is one. -/
theorem chooseVisibility_run (describable : visibility.IsDescribable world) (report : Report)
    (echo : Value) :
    ∃ causes after, chooseVisibility report echo visibility world =
        .ok (visibility.visibility?.getD .isPublic, report.noted causes) after ∧
      causes.map Cause.code = complaints visibility.visibility? .invalidVisibility ∧
        SameBare world after := by
  have same : chooseVisibility report echo visibility = choose Value.visibility? .isPublic
      (fun text => .invalidVisibility text Visibility.isPublic.text) report echo visibility := by
    unfold chooseVisibility choose
    cases visibility.visibility? <;> rfl
  obtain ⟨causes, after, run, coded, bare⟩ := choose_run Value.visibility? .isPublic
    (fun text => .invalidVisibility text Visibility.isPublic.text) (fun _ => rfl) describable report echo
  exact ⟨causes, after, (congrFun same world).trans run, coded, bare⟩

/-- **A naming policy is chosen**: the smart one unless the value is one. -/
theorem choosePolicy_run (describable : policy.IsDescribable world) (report : Report)
    (echo : Value) :
    ∃ causes after, choosePolicy report echo policy world =
        .ok (policy.policy?.getD .smart, report.noted causes) after ∧
      causes.map Cause.code = complaints policy.policy? .invalidPolicy ∧ SameBare world after := by
  have same : choosePolicy report echo policy = choose Value.policy? .smart
      (fun text => .invalidPolicy text NamePolicy.smart.text) report echo policy := by
    unfold choosePolicy choose
    cases policy.policy? <;> rfl
  obtain ⟨causes, after, run, coded, bare⟩ := choose_run Value.policy? .smart
    (fun text => .invalidPolicy text NamePolicy.smart.text) (fun _ => rfl) describable report echo
  exact ⟨causes, after, (congrFun same world).trans run, coded, bare⟩

/-! ## Founding -/

/-- A library comes up and is entered in a registry if there is one, where its name has to be free. -/
def found (library : Library) : Build LibraryId := do
  if let some registry := library.registry then Registry.requireFree registry library.name
  let place ← add library
  if let some registry := library.registry then Registry.enter registry library.name place
  return place

/-- A library without a body comes up once its name, visibility and naming policy are chosen. -/
theorem create_eq (name visibility policy given echo : Value) :
    create name visibility policy given echo none = (do
      let (name, report) ← chooseName (.empty (.text "<library>")) echo name
      let (visibility, report) ← chooseVisibility { report with source := name } echo visibility
      let (policy, report) ← choosePolicy report echo policy
      let registry ← registryOf given
      found (.empty name visibility policy registry report echo)) := by
  unfold create found
  rfl

/-- The name of a library is taken in its registry. -/
def IsTaken (library : Library) (world : World) : Prop :=
  ∃ registry ∈ library.registry, Key.text library.name.content ∈ (world.registry registry).keys

/-- A library whose name is free comes up. -/
theorem found_run {library : Library} (free : ¬ library.IsTaken world) :
    found library world = .ok world.libraries.length (world.founding library) := by
  unfold found World.founding
  cases known : library.registry with
  | none => rfl
  | some registry =>
      have holds : Dictionary.holds (world.registry registry) (.text library.name.content) = false := by
        rw [Bool.eq_false_iff, Ne, Dictionary.holds_iff]
        exact fun taken => free ⟨registry, known, taken⟩
      have passes : Registry.requireFree registry library.name world = .ok () world := by
        rw [Registry.requireFree, Build.run_get_bind, holds]
        rfl
      exact bind_eq_ok.mpr ⟨(), world, passes, rfl⟩

/-- A library whose name is taken is refused. -/
theorem found_refused {library : Library} (taken : library.IsTaken world) :
    found library world = .error (.rejected (.alreadyRegistered library.name.plain)) world := by
  obtain ⟨registry, known, taken⟩ := taken
  have refuses : Registry.requireFree registry library.name world =
      .error (.rejected (.alreadyRegistered library.name.plain)) world := by
    rw [Registry.requireFree, Build.run_get_bind, if_pos ((Dictionary.holds_iff ..).mpr taken)]
    rfl
  unfold found
  rw [Option.mem_def.mp known]
  exact bind_eq_error.mpr (.inl refuses)

/-- Whether a name is taken does not depend on texts. -/
theorem isTaken_of_bare {before after : World} (same : SameBare before after) {library : Library} :
    library.IsTaken after ↔ library.IsTaken before := by
  have bare : after.bare = before.bare := same
  have registries : after.registries = before.registries := (congrArg World.registries bare :)
  simp only [IsTaken, World.registry, registries]

/-- **A library falls back to what is valid.** Name, visibility and naming policy can be described. If the
name that it is given is taken in its registry, the library is refused. Else it comes up, with the
given name or a made-up one, with the given visibility and policy or public and smart ones, and with one
warning for each malformed name, invalid visibility and invalid policy, and nothing else changes. -/
theorem create_fallsBack {given : Value} {registry : Option RegistryId}
    (known : registryOf given = .ok registry)
    (describable : ∀ value ∈ [name, visibility, policy], value.IsDescribable world) (echo : Value) :
    ∃ report,
      let library : Library := .empty (givenName world name) (visibility.visibility?.getD .isPublic)
        (policy.policy?.getD .smart) registry report echo
      report.source = library.name ∧
      report.codes = (nameComplaints name ++ complaints visibility.visibility? .invalidVisibility ++
        complaints policy.policy? .invalidPolicy).map Code.text ∧
      (library.IsTaken world → ∃ after, create name visibility policy given echo none world =
          .error (.rejected (.alreadyRegistered library.name.plain)) after ∧
        SameButNumber world after) ∧
      (¬ library.IsTaken world → ∃ after, create name visibility policy given echo none world =
          .ok world.libraries.length after ∧
        SameBare ({ world with madeUpNames := numberedFor world name }.founding library) after) := by
  obtain ⟨first, named, naming, coded, renumbered⟩ :=
    chooseName_run (describable name (by simp)) (.empty (.text "<library>")) echo
  have numbered : SameButNumber world named := .of_sameBare renumbered
  -- The warnings about visibility and policy are in the name of the library.
  let start : Report :=
    { Report.noted first (.empty (.text "<library>")) with source := givenName world name }
  obtain ⟨second, seen, seeing, coded', seenBare⟩ :=
    chooseVisibility_run ((describable visibility (by simp)).later numbered) start echo
  have looked : SameButNumber world seen := IsEffect.trans numbered seenBare.number
  obtain ⟨third, ruled, ruling, coded'', ruledBare⟩ :=
    choosePolicy_run ((describable policy (by simp)).later looked) (start.noted second) echo
  have reached : SameBare { world with madeUpNames := numberedFor world name } ruled :=
    IsEffect.trans (IsEffect.trans renumbered seenBare) ruledBare
  have created : create name visibility policy given echo none world =
      found (.empty (givenName world name) (visibility.visibility?.getD .isPublic)
        (policy.policy?.getD .smart) registry ((start.noted second).noted third) echo) ruled := by
    rw [create_eq]
    simp only [bind, EStateM.bind, naming, start, seeing, ruling, known]
    rfl
  refine ⟨(start.noted second).noted third, rfl, ?_, fun taken => ⟨ruled, ?_, .of_sameBare reached⟩,
    fun free => ⟨ruled.founding _, ?_, reached.founding _⟩⟩
  · have begun : start.codes = (first.map Cause.code).map Code.text :=
      codes_noted (.empty (.text "<library>")) first
    rw [codes_noted, codes_noted, begun, coded, coded', coded'', List.map_append, List.map_append]
  · rw [created]
    exact found_refused ((isTaken_of_bare reached).mpr taken)
  · have length : ruled.libraries.length = world.libraries.length := (reached.noted 0).length
    rw [created, ← length]
    exact found_run fun taken => free ((isTaken_of_bare reached).mp taken)

/-- A library that is named by a number has the first made-up name, and one warning about it. -/
theorem create_fallsBack_number :
    registryOf (.registry Script.firstRegistry) = .ok (some Script.firstRegistry) ∧
      (∀ value ∈ [Value.integer 5, .text "public", .text "smart"],
        value.IsDescribable Script.initialWorld) ∧
      ∃ report after, report.codes = ["CW0003"] ∧
        create (.integer 5) (.text "public") (.text "smart") (.registry Script.firstRegistry) .none none
          Script.initialWorld = .ok 0 after ∧
        SameBare ({ Script.initialWorld with madeUpNames := 1 }.founding
          (.empty (.text "library1") .isPublic .smart (some Script.firstRegistry) report .none)) after := by
  have known : registryOf (.registry Script.firstRegistry) = .ok (some Script.firstRegistry) := rfl
  have describable : ∀ value ∈ [Value.integer 5, .text "public", .text "smart"],
      value.IsDescribable Script.initialWorld := by
    intro value member
    refine Value.isDescribable_of_isPlainData ?_ _
    fin_cases member <;> rfl
  obtain ⟨report, -, codes, -, comesUp⟩ := create_fallsBack known describable .none
  obtain ⟨after, run, same⟩ := comesUp (by
    rintro ⟨registry, there, taken⟩
    cases there
    cases taken)
  exact ⟨known, describable, report, after, codes, run, same⟩

/-- The world in which a library is registered under the name that is made up first. -/
def tookFirst : World :=
  (create (.text "library1") (.text "public") (.text "smart") (.registry Script.firstRegistry) .none
    none).after Script.initialWorld

/-- **A made-up name can be taken**, and a library without a name is refused then. A value that cannot be
looked up fails as well. -/
theorem create_takenFallback :
    Script.Attainable tookFirst ∧
      (∃ after, create (.text "") (.text "public") (.text "smart") (.registry Script.firstRegistry)
        .none none tookFirst = .error (.rejected (.alreadyRegistered "library1")) after) ∧
      (create (.text "lib") (.operand (.real .half ((Double.ofInt? (10 ^ 39)).getD .zero)))
        (.text "smart") .none .none none).succeeds Script.initialWorld = false :=
  ⟨Script.attainable_initialWorld.after fun _ _ => leads_create _ _ _ _ _ nofun, ⟨_, rfl⟩,
    by decide +kernel⟩

end Library

end StructuredIR
