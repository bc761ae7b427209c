import StructuredIR.Library.Import
import StructuredIR.Proofs.Steady

/-! # Names of imported symbols

An import gives each symbol a name by the naming policy of the source, and leaves the symbol out if
that name collides.

* **`Value.Spells`** says that a value can be written as a text.
* **`Library.Wants`** is the name that the policy gives, with the announcement that goes with it.
* **`Library.Chooses`** is what becomes of it: the name, or nothing if it collides, and the warnings.
* **`Library.importName_ok`**: this is what an import does, and nothing else changes; texts are not
  even kept if the name is steady, **`Library.leads_importName_unreported`**. -/

namespace StructuredIR

open Build (Leads bind_eq_ok get_eq_ok pure_eq_ok)

/-! ## Spelling -/

/-- **A value can be written as a text**, in some world. -/
def Value.Spells (value : Value) (text : String) : Prop :=
  ∃ before after, Build.plain value before = .ok text after

/-- Writing a value changes nothing but texts. -/
theorem Build.plain_ok {value : Value} {text : String} {world after : World}
    (run : plain value world = .ok text after) (place : LibraryId) :
    Noted place [] world after := by
  have same : SameBare world after := (leads_plain value).of_ok run
  exact same.noted place

/-- A phrase is written by what it says. -/
@[simp]
theorem Build.plain_phrase (phrase : Phrase) : plain phrase.value = pure phrase.plain := by
  cases phrase <;> rfl

/-- A phrase can be written in no other way. -/
theorem Value.spells_phrase {phrase : Phrase} {text : String} :
    phrase.value.Spells text ↔ text = phrase.plain := by
  simp only [Spells, Build.plain_phrase, pure_eq_ok]
  exact ⟨fun ⟨_, _, same, _⟩ => same.symm, fun same => ⟨.empty, .empty, same.symm, rfl⟩⟩

namespace Library

variable {source : Library} {kind : String} {name imported : Name} {taken held : List Key}
variable {renames causes : List Cause} {plain importedPlain : String}

/-! ## Names -/

/-- The name behind the name of the source. -/
def qualified (source : Library) (plain : String) : Name :=
  Name.ofText (source.name.plain ++ "_" ++ plain)

/-- **The name that the policy of the source gives to a symbol**, with its plain text, and the
announcement of an alias. -/
structure Wants (source : Library) (kind : String) (name : Name) (taken : List Key)
    (imported : Name) (importedPlain : String) (renames : List Cause) : Prop where
  /-- The names are written, and the policy decides. -/
  byPolicy : ∃ plain, name.shown.Spells plain ∧ imported.shown.Spells importedPlain ∧
    match source.policy with
    | .plain => imported = name ∧ renames = []
    | .qualified => imported = source.qualified plain ∧ renames = []
    | .smart =>
        if name.key ∈ taken then
          imported = source.qualified plain ∧
            renames = [.importRenamed kind plain source.name.plain importedPlain]
        else imported = name ∧ renames = []

/-- **What becomes of a symbol that is imported**: it gets the name that the policy gives, unless
that is taken or held by a symbol of its kind; the causes are those of the warnings. -/
inductive Chooses (source : Library) (kind : String) (name : Name) (taken held : List Key) :
    Option Name → List Cause → Prop
  /-- The name is free. -/
  | free {imported : Name} {importedPlain : String} {renames : List Cause}
      (wants : source.Wants kind name taken imported importedPlain renames)
      (notTaken : imported.key ∉ taken) (notHeld : imported.key ∉ held) :
      Chooses source kind name taken held (some imported) renames
  /-- The name collides. -/
  | collides {imported : Name} {importedPlain : String} {renames : List Cause}
      (wants : source.Wants kind name taken imported importedPlain renames)
      (known : imported.key ∈ taken ∨ imported.key ∈ held) :
      Chooses source kind name taken held none
        (renames ++ [.importCollision kind importedPlain source.name.plain])

/-- The policy decides as its alias does. -/
theorem Wants.of_aliasFor (kind : String) (spelled : name.shown.Spells plain) {isAlias : Bool}
    (decided : aliasFor source name plain (taken.contains name.key) = (imported, isAlias))
    (spelledAgain : imported.shown.Spells importedPlain) :
    source.Wants kind name taken imported importedPlain
      (if isAlias then [.importRenamed kind plain source.name.plain importedPlain] else []) := by
  refine ⟨plain, spelled, spelledAgain, ?_⟩
  unfold aliasFor at decided
  cases policy : source.policy <;> simp only [policy, List.contains_iff_mem] at decided ⊢
  · split at decided <;> cases decided <;> simp [qualified, *]
  · cases decided
    simp
  · cases decided
    simp [qualified]

/-- **What an import does to name a symbol**: it chooses, records the warnings, and changes nothing
else. -/
theorem importName_ok {place : LibraryId} {world after : World} {choice : Option Name}
    (run : importName place kind name source held taken world = .ok choice after) :
    ∃ causes, source.Chooses kind name taken held choice causes ∧
      Noted place causes world after := by
  obtain ⟨plain, first, spelling, run⟩ := bind_eq_ok.mp run
  have spelled : name.shown.Spells plain := ⟨world, first, spelling⟩
  have noted : Noted place [] world first := Build.plain_ok spelling place
  obtain ⟨⟨imported, isAlias⟩, decided⟩ :
      ∃ decision, aliasFor source name plain (taken.contains name.key) = decision := ⟨_, rfl⟩
  rw [decided] at run
  obtain ⟨importedPlain, second, spelling, run⟩ := bind_eq_ok.mp run
  have wants := Wants.of_aliasFor kind spelled decided ⟨first, second, spelling⟩
  have noted : Noted place [] world second := noted.trans (Build.plain_ok spelling place)
  -- Whether or not an alias is announced, the rest of the run decides about a collision.
  have announced : ∃ third, Noted place
      (if isAlias then [.importRenamed kind plain source.name.plain importedPlain] else []) world
        third ∧
      (do
        if taken.contains imported.key || held.contains imported.key then
          Build.warn place (.importCollision kind importedPlain source.name.plain)
          return none
        return some imported : Build (Option Name)) third = .ok choice after := by
    cases isAlias with
    | false => exact ⟨second, noted, run⟩
    | true =>
        obtain ⟨_, third, warning, run⟩ := bind_eq_ok.mp run
        exact ⟨third, noted.trans (Build.warn_ok warning), run⟩
  obtain ⟨third, noted, run⟩ := announced
  split at run
  next collides =>
    obtain ⟨_, fourth, warning, run⟩ := bind_eq_ok.mp run
    obtain ⟨rfl, rfl⟩ := pure_eq_ok.mp run
    exact ⟨_, .collides wants (by simpa using collides), noted.trans (Build.warn_ok warning)⟩
  next free =>
    obtain ⟨rfl, rfl⟩ := pure_eq_ok.mp run
    simp only [Bool.or_eq_true, List.contains_iff_mem, not_or] at free
    exact ⟨_, .free wants free.1 free.2, noted⟩

/-- The name of a symbol is steady if the symbol's own is. -/
theorem isSteady_aliasFor (source : Library) (plain : String) (isTaken : Bool)
    (steady : name.shown.IsSteady) : (aliasFor source name plain isTaken).1.shown.IsSteady := by
  have qualified : (Name.ofText (source.name.plain ++ "_" ++ plain)).shown.IsSteady :=
    Value.isSteady_phrase (.text _)
  unfold aliasFor
  cases source.policy with
  | plain => exact steady
  | qualified => exact qualified
  | smart =>
      cases isTaken with
      | false => exact steady
      | true => exact qualified

/-- Choosing a steady name changes nothing but the report. -/
theorem leads_importName_unreported (place : LibraryId) (kind : String) (source : Library)
    (held taken : List Key) (steady : name.shown.IsSteady) :
    Leads SameUnreported (importName place kind name source held taken) := by
  refine (Build.IsFixed.leads steady).bind fun plain => ?_
  have imported := isSteady_aliasFor source plain (taken.contains name.key) steady
  dsimp only
  refine (Build.IsFixed.leads imported).bind fun importedPlain => ?_
  have warned (cause : Cause) := Build.leads_warn_unreported place cause
  split
  · refine (warned _).bind fun _ => ?_
    split
    · exact (warned _).bind fun _ => .pure _
    · exact .pure _
  · split
    · exact (warned _).bind fun _ => .pure _
    · exact .pure _

end Library

end StructuredIR
