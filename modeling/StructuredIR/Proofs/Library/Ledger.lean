import StructuredIR.Proofs.Library.Choices

/-! # The ledger of an import

An import goes through the symbols of one kind one after the other. `Library.Ledger` keeps the books:
what was held before, which symbols came, what was entered for them, and the causes of the warnings.

* **`Ledger.length_add_collisions`**: each symbol is entered or left out with a warning.
* **`Ledger.keys_nodup`** and **`Ledger.free`**: nothing is entered twice, or under a key that is
  taken or held.
* **`Ledger.corresponds`**: what is entered corresponds to symbols that came, in order.
* **`Ledger.holds`**: the name that the policy gives to a symbol is known in the end. -/

namespace StructuredIR

/-- Whether a cause says that a symbol of some kind collides. -/
def Cause.isCollisionOf (kind : String) : Cause → Bool
  | .importCollision known _ _ => known == kind
  | _ => false

/-- A cause that an import has for a warning about a symbol of some kind. -/
inductive Cause.IsImportOf (kind : String) : Cause → Prop
  /-- A name collides. -/
  | collision (name source : String) : IsImportOf kind (.importCollision kind name source)
  /-- An alias is announced. -/
  | renamed (name source newName : String) : IsImportOf kind (.importRenamed kind name source newName)

namespace Library

/-- **The key under which a symbol is entered**: its own under the plain policy, the one behind the
name of the source under the qualified policy, and under the smart policy its own unless that was
taken, in which case the other one was announced. -/
def Names (source : Library) (kind : String) (taken : List Key) (causes : List Cause) (name : Name)
    (key : Key) : Prop :=
  ∃ plain, name.shown.Spells plain ∧
    match source.policy with
    | .plain => key = name.key
    | .qualified => key = (source.qualified plain).key
    | .smart =>
        if name.key ∈ taken then
          key = (source.qualified plain).key ∧
            .importRenamed kind plain source.name.plain (source.name.plain ++ "_" ++ plain) ∈ causes
        else key = name.key

section

variable {source : Library} {kind : String} {name imported : Name} {taken held : List Key}
variable {importedPlain : String} {renames causes more : List Cause} {choice : Option Name}

/-- More causes announce what was announced. -/
theorem Names.mono {key : Key} (names : source.Names kind taken causes name key)
    (subset : causes ⊆ more) : source.Names kind taken more name key := by
  obtain ⟨plain, spelled, rule⟩ := names
  refine ⟨plain, spelled, ?_⟩
  cases policy : source.policy <;> simp only [policy] at rule ⊢
  · split at rule
    next known =>
      rw [if_pos known]
      exact ⟨rule.1, subset rule.2⟩
    next new => rwa [if_neg new]
  · exact rule
  · exact rule

namespace Wants

/-- An alias is announced, and nothing else. -/
theorem isImportOf (wants : source.Wants kind name taken imported importedPlain renames)
    {cause : Cause} (member : cause ∈ renames) :
    cause.IsImportOf kind ∧ cause.isCollisionOf kind = false := by
  obtain ⟨plain, -, -, decided⟩ := wants.byPolicy
  have none_of (nothing : renames = []) : cause.IsImportOf kind ∧
      cause.isCollisionOf kind = false := by
    rw [nothing] at member
    cases member
  split at decided
  · exact none_of decided.2
  · exact none_of decided.2
  · split at decided
    · rw [decided.2, List.mem_singleton] at member
      rw [member]
      exact ⟨.renamed .., rfl⟩
    · exact none_of decided.2

/-- The name that the policy gives. -/
theorem names (wants : source.Wants kind name taken imported importedPlain renames)
    (noted : renames ⊆ causes) : source.Names kind taken causes name imported.key := by
  obtain ⟨plain, spelled, spelledAgain, decided⟩ := wants.byPolicy
  refine ⟨plain, spelled, ?_⟩
  cases policy : source.policy <;> simp only [policy] at decided ⊢
  · split at decided
    next known =>
      obtain ⟨rfl, rfl⟩ := decided
      have written : importedPlain = (Phrase.text (source.name.plain ++ "_" ++ plain)).plain :=
        Value.spells_phrase.mp spelledAgain
      rw [if_pos known]
      subst written
      exact ⟨rfl, noted (List.mem_singleton_self _)⟩
    next new => rw [if_neg new, decided.1]
  · rw [decided.1]
  · rw [decided.1]

/-- What is wanted of a source is wanted of one with the same name and policy. -/
theorem of_same {other : Library}
    (wants : source.Wants kind name taken imported importedPlain renames)
    (policy : other.policy = source.policy) (called : other.name = source.name) :
    other.Wants kind name taken imported importedPlain renames := by
  have same (plain : String) : other.qualified plain = source.qualified plain := by
    rw [qualified, qualified, called]
  obtain ⟨plain, spelled, spelledAgain, decided⟩ := wants.byPolicy
  refine ⟨plain, spelled, spelledAgain, ?_⟩
  rw [policy, same, called]
  exact decided

end Wants

namespace Chooses

/-- The warnings are about symbols of the kind. -/
theorem isImportOf (chosen : source.Chooses kind name taken held choice causes) {cause : Cause}
    (member : cause ∈ causes) : cause.IsImportOf kind := by
  cases chosen with
  | free wants => exact (wants.isImportOf member).1
  | collides wants =>
      rcases List.mem_append.mp member with found | found
      · exact (wants.isImportOf found).1
      · rw [List.mem_singleton.mp found]
        exact .collision ..

/-- A symbol is left out exactly if a warning says that it collides. -/
theorem countP_isCollisionOf (chosen : source.Chooses kind name taken held choice causes) :
    causes.countP (Cause.isCollisionOf kind) = if choice.isNone then 1 else 0 := by
  have renames {imported importedPlain renames}
      (wants : source.Wants kind name taken imported importedPlain renames) :
      renames.countP (Cause.isCollisionOf kind) = 0 :=
    List.countP_eq_zero.mpr fun cause member => by simp [(wants.isImportOf member).2]
  cases chosen with
  | free wants => exact renames wants
  | collides wants => simp [renames wants, Cause.isCollisionOf]

/-- What is chosen for a source is chosen for one with the same name and policy. -/
theorem of_same {other : Library} (chosen : source.Chooses kind name taken held choice causes)
    (policy : other.policy = source.policy) (called : other.name = source.name) :
    other.Chooses kind name taken held choice causes := by
  cases chosen with
  | free wants notTaken notHeld => exact .free (wants.of_same policy called) notTaken notHeld
  | collides wants known =>
      rw [← called]
      exact .collides (wants.of_same policy called) known

end Chooses

end

/-! ## Ledgers -/

variable {Item Entry : Type}

/-- **How the symbols of one kind are imported**, one after the other: what was entered for them,
and the causes of the warnings. -/
inductive Ledger (source : Library) (kind : String) (taken : List Key) (nameOf : Item → Name)
    (Copies : Item → Entry → Prop) :
    List Key → List Item → Dictionary Key Entry → List Cause → Prop
  /-- No symbol is left. -/
  | done {held : List Key} : Ledger source kind taken nameOf Copies held [] [] []
  /-- A symbol is entered. -/
  | entered {held : List Key} {item : Item} {items : List Item} {imported : Name} {entry : Entry}
      {added : Dictionary Key Entry} {causes more : List Cause}
      (chosen : source.Chooses kind (nameOf item) taken held (some imported) causes)
      (copies : Copies item entry)
      (rest : Ledger source kind taken nameOf Copies (held ++ [imported.key]) items added more) :
      Ledger source kind taken nameOf Copies held (item :: items) ((imported.key, entry) :: added)
        (causes ++ more)
  /-- A symbol is left out. -/
  | leftOut {held : List Key} {item : Item} {items : List Item} {added : Dictionary Key Entry}
      {causes more : List Cause}
      (chosen : source.Chooses kind (nameOf item) taken held none causes)
      (rest : Ledger source kind taken nameOf Copies held items added more) :
      Ledger source kind taken nameOf Copies held (item :: items) added (causes ++ more)

namespace Ledger

variable {source : Library} {kind : String} {taken held : List Key} {nameOf : Item → Name}
variable {Copies : Item → Entry → Prop} {items : List Item} {added : Dictionary Key Entry}
variable {causes : List Cause}

/-- What counts as a copy may be widened. -/
theorem imp {Wider : Item → Entry → Prop}
    (ledger : Ledger source kind taken nameOf Copies held items added causes)
    (wider : ∀ item ∈ items, ∀ entry, Copies item entry → Wider item entry) :
    Ledger source kind taken nameOf Wider held items added causes := by
  induction ledger with
  | done => exact .done
  | entered chosen copies _ ih =>
      exact .entered chosen (wider _ (List.mem_cons_self ..) _ copies)
        (ih fun item member => wider item (List.mem_cons_of_mem _ member))
  | leftOut chosen _ ih =>
      exact .leftOut chosen (ih fun item member => wider item (List.mem_cons_of_mem _ member))

/-- The warnings are about symbols of the kind. -/
theorem isImportOf (ledger : Ledger source kind taken nameOf Copies held items added causes) :
    ∀ cause ∈ causes, cause.IsImportOf kind := by
  induction ledger with
  | done => exact nofun
  | entered chosen _ _ ih | leftOut chosen _ ih =>
      intro cause member
      rcases List.mem_append.mp member with found | found
      · exact chosen.isImportOf found
      · exact ih cause found

/-- **Each symbol is entered or left out** with a warning. -/
theorem length_add_collisions
    (ledger : Ledger source kind taken nameOf Copies held items added causes) :
    added.length + causes.countP (Cause.isCollisionOf kind) = items.length := by
  induction ledger with
  | done => rfl
  | entered chosen _ _ ih =>
      rw [List.countP_append, chosen.countP_isCollisionOf]
      simp only [List.length_cons, ← ih, Option.isNone_some, Bool.false_eq_true, if_false]
      omega
  | leftOut chosen _ ih =>
      rw [List.countP_append, chosen.countP_isCollisionOf]
      simp only [List.length_cons, ← ih, Option.isNone_none, if_true]
      omega

/-- **Nothing is entered under a key that is taken or held.** -/
theorem free (ledger : Ledger source kind taken nameOf Copies held items added causes) :
    ∀ key ∈ added.keys, key ∉ taken ∧ key ∉ held := by
  induction ledger with
  | done => exact nofun
  | entered chosen _ _ ih =>
      cases chosen with
      | free _ notTaken notHeld =>
          intro key member
          rcases List.mem_cons.mp member with rfl | found
          · exact ⟨notTaken, notHeld⟩
          · exact ⟨(ih key found).1, fun claimed =>
              (ih key found).2 (List.mem_append_left _ claimed)⟩
  | leftOut _ _ ih => exact ih

/-- **Nothing is entered twice.** -/
theorem keys_nodup (ledger : Ledger source kind taken nameOf Copies held items added causes) :
    added.keys.Nodup := by
  induction ledger with
  | done => exact .nil
  | entered _ _ rest ih =>
      refine List.nodup_cons.mpr ⟨fun claimed => ?_, ih⟩
      exact (rest.free _ claimed).2 (List.mem_append_right _ (List.mem_singleton_self _))
  | leftOut _ _ ih => exact ih

/-- **What is entered corresponds to symbols that came**, in order. -/
theorem corresponds (ledger : Ledger source kind taken nameOf Copies held items added causes) :
    ∃ kept, List.Sublist kept items ∧
      List.Forall₂ (fun item entry =>
        source.Names kind taken causes (nameOf item) entry.1 ∧ Copies item entry.2) kept added := by
  have widen {kept : List Item} {added : Dictionary Key Entry} {more : List Cause}
      (causes : List Cause)
      (pairs : List.Forall₂ (fun item entry =>
        source.Names kind taken more (nameOf item) entry.1 ∧ Copies item entry.2) kept added) :
      List.Forall₂ (fun item entry =>
        source.Names kind taken (causes ++ more) (nameOf item) entry.1 ∧ Copies item entry.2)
        kept added :=
    pairs.imp fun item entry pair => ⟨pair.1.mono (List.subset_append_right _ _), pair.2⟩
  induction ledger with
  | done => exact ⟨[], .refl _, .nil⟩
  | @entered _ item _ _ _ _ causes _ chosen copies _ ih =>
      obtain ⟨kept, sublist, pairs⟩ := ih
      cases chosen with
      | free wants =>
          refine ⟨item :: kept, sublist.cons_cons _, .cons ⟨?_, copies⟩ (widen causes pairs)⟩
          exact wants.names (List.subset_append_left _ _)
  | leftOut _ _ ih =>
      obtain ⟨kept, sublist, pairs⟩ := ih
      exact ⟨kept, sublist.cons _, widen _ pairs⟩

/-- **The name that the policy gives to a symbol is known in the end**: it was taken, or a symbol of
its kind holds it. -/
theorem holds (ledger : Ledger source kind taken nameOf Copies held items added causes) :
    ∀ item ∈ items, ∃ imported importedPlain renames,
      source.Wants kind (nameOf item) taken imported importedPlain renames ∧
        (imported.key ∈ taken ∨ imported.key ∈ held ++ added.keys) := by
  induction ledger with
  | done => exact nofun
  | entered chosen _ _ ih =>
      intro item member
      rcases List.mem_cons.mp member with rfl | found
      · cases chosen with
        | free wants => exact ⟨_, _, _, wants, .inr (List.mem_append_right _ (List.mem_cons_self ..))⟩
      · obtain ⟨imported, importedPlain, renames, wants, known⟩ := ih item found
        refine ⟨imported, importedPlain, renames, wants, known.imp_right fun member => ?_⟩
        simpa [Dictionary.keys] using member
  | leftOut chosen _ ih =>
      intro item member
      rcases List.mem_cons.mp member with rfl | found
      · cases chosen with
        | collides wants known =>
            exact ⟨_, _, _, wants, known.imp_right fun member => List.mem_append_left _ member⟩
      · exact ih item found

end Ledger

end Library

end StructuredIR
