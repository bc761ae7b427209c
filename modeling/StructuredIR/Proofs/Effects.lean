import StructuredIR.Build
import StructuredIR.Script.Session
import Mathlib

/-! # Effects of steps

A step changes the world whether or not it fails. This file has the logic in which such changes
are described, independently of what is described:

* **`Build.after step world`** is the world that a step leaves behind.
* **`Build.Leads Effect step`** says that a step only ever makes changes that the relation `Effect`
  between worlds permits. The relation has to be an effect, `IsEffect`: doing nothing is permitted,
  and so is one permitted change after another. Every combination of steps then leads only where
  its parts lead.
* **`Build.bind_eq_ok`** and its companions open a run that has succeeded into the runs of its
  parts. -/

namespace StructuredIR

/-- A relation between worlds that permits doing nothing, and one permitted change after
another. -/
class IsEffect (Effect : World → World → Prop) : Prop where
  /-- Doing nothing is permitted. -/
  refl (world : World) : Effect world world
  /-- Permitted changes may follow each other. -/
  trans {first second third : World} :
    Effect first second → Effect second third → Effect first third

/-- The effect that keeps a property of worlds. -/
def Preserves (Property : World → Prop) (before after : World) : Prop :=
  Property before → Property after

instance (Property : World → Prop) : IsEffect (Preserves Property) where
  refl _ := id
  trans first second holds := second (first holds)

/-- The effect of changing nothing. -/
def Unchanged (before after : World) : Prop :=
  after = before

instance : IsEffect Unchanged where
  refl _ := rfl
  trans first second := second.trans first

namespace Build

variable {Result Next : Type}

/-! ## Runs that succeed -/

/-- A step followed by another one succeeds exactly if both do, one after the other. -/
theorem bind_eq_ok {step : Build Result} {next : Result → Build Next} {world final : World}
    {value : Next} :
    (step >>= next) world = .ok value final ↔
      ∃ middle between, step world = .ok middle between ∧
        next middle between = .ok value final := by
  constructor
  · intro run
    simp only [Bind.bind, EStateM.bind] at run
    cases first : step world with
    | ok middle between =>
        rw [first] at run
        exact ⟨middle, between, rfl, run⟩
    | error fault between =>
        rw [first] at run
        cases run
  · rintro ⟨middle, between, first, second⟩
    simp only [Bind.bind, EStateM.bind, first, second]

/-- A step followed by another one fails exactly if one of them does. -/
theorem bind_eq_error {step : Build Result} {next : Result → Build Next} {world final : World}
    {fault : Fault} :
    (step >>= next) world = .error fault final ↔
      step world = .error fault final ∨
        ∃ middle between, step world = .ok middle between ∧
          next middle between = .error fault final := by
  constructor
  · intro run
    simp only [Bind.bind, EStateM.bind] at run
    cases first : step world with
    | ok middle between =>
        rw [first] at run
        exact .inr ⟨middle, between, rfl, run⟩
    | error fault between =>
        rw [first] at run
        cases run
        exact .inl rfl
  · rintro (first | ⟨middle, between, first, second⟩)
    · simp only [Bind.bind, EStateM.bind, first]
    · simp only [Bind.bind, EStateM.bind, first, second]

/-- Behind a step that succeeds it is the next one that fails. -/
theorem error_behind {step : Build Result} {next : Result → Build Next} {world between final : World}
    {value : Result} {fault : Fault} (run : step world = .ok value between)
    (failed : (step >>= next) world = .error fault final) :
    next value between = .error fault final := by
  simpa only [Bind.bind, EStateM.bind, run] using failed

/-- A step whose result is changed succeeds exactly if the step does. -/
theorem map_eq_ok {step : Build Result} {change : Result → Next} {world final : World}
    {value : Next} :
    (change <$> step) world = .ok value final ↔
      ∃ result, step world = .ok result final ∧ change result = value := by
  simp only [Functor.map, EStateM.map]
  cases step world with
  | ok result between =>
      constructor
      · intro run
        cases run
        exact ⟨result, rfl, rfl⟩
      · rintro ⟨_, run, rfl⟩
        cases run
        rfl
  | error fault between => exact ⟨nofun, fun claimed => nomatch claimed.choose_spec.1⟩

/-- Giving a value succeeds with that value and changes nothing. -/
theorem pure_eq_ok {given value : Result} {world final : World} :
    (pure given : Build Result) world = .ok value final ↔ given = value ∧ world = final := by
  constructor
  · intro run
    cases run
    exact ⟨rfl, rfl⟩
  · rintro ⟨rfl, rfl⟩
    rfl

/-- Looking at the world succeeds with that world and changes nothing. -/
theorem get_eq_ok {world seen final : World} :
    (get : Build World) world = .ok seen final ↔ world = seen ∧ world = final := by
  constructor
  · intro run
    cases run
    exact ⟨rfl, rfl⟩
  · rintro ⟨rfl, rfl⟩
    rfl

/-- A step that looks at the world first goes on with that world. -/
theorem run_get_bind (next : World → Build Result) (world : World) :
    (get >>= next) world = next world world :=
  rfl

/-- A change of the world succeeds. -/
theorem modify_eq_ok {update : World → World} {world final : World} {value : PUnit} :
    (modify update : Build PUnit) world = .ok value final ↔ update world = final := by
  constructor
  · intro run
    cases run
    rfl
  · rintro rfl
    rfl

/-- A failure does not succeed. -/
theorem throw_ne_ok {fault : Fault} {world final : World} {value : Result} :
    (throw fault : Build Result) world ≠ .ok value final :=
  nofun

/-- A check that looks at no world succeeds with what it gives. -/
theorem lift_eq_ok {check : Except Fault Result} {world final : World} {value : Result} :
    (liftM check : Build Result) world = .ok value final ↔
      check = .ok value ∧ world = final := by
  cases check with
  | error fault => exact ⟨nofun, fun claimed => nomatch claimed.1⟩
  | ok given =>
      constructor
      · intro run
        cases run
        exact ⟨rfl, rfl⟩
      · rintro ⟨same, rfl⟩
        cases same
        rfl

/-! ## What a step leaves behind -/

/-- The world that a step leaves behind, whether or not it fails. -/
def after (step : Build Result) (world : World) : World :=
  match step world with
  | .ok _ final => final
  | .error _ final => final

/-- A step that looks at the world first leaves behind what it does there. -/
theorem after_get_bind (next : World → Build Result) (world : World) :
    (get >>= next).after world = (next world).after world :=
  rfl

/-- A change comes before what follows. -/
theorem after_modify_bind (update : World → World) (next : PUnit → Build Result) (world : World) :
    (modify update >>= next).after world = (next ⟨⟩).after (update world) :=
  rfl

/-- The world after a run that has succeeded. -/
theorem after_of_ok {step : Build Result} {world final : World} {value : Result}
    (run : step world = .ok value final) : step.after world = final := by
  rw [after, run]

/-- The world after a run that has failed. -/
theorem after_of_error {step : Build Result} {world final : World} {fault : Fault}
    (run : step world = .error fault final) : step.after world = final := by
  rw [after, run]

/-- Whether a step succeeds. -/
def succeeds (step : Build Result) (world : World) : Bool :=
  match step world with
  | .ok .. => true
  | .error .. => false

/-- A step that succeeds gives something. -/
theorem ok_of_succeeds {step : Build Result} {world : World}
    (succeeded : step.succeeds world = true) : ∃ value, step world = .ok value (step.after world) := by
  unfold succeeds at succeeded
  cases run : step world with
  | ok value final => exact ⟨value, by rw [after_of_ok run]⟩
  | error fault final =>
      rw [run] at succeeded
      cases succeeded

/-- A step that does not succeed fails. -/
theorem error_of_not_succeeds {step : Build Result} {world : World}
    (failed : step.succeeds world = false) : ∃ fault final, step world = .error fault final := by
  unfold succeeds at failed
  cases run : step world with
  | ok value final =>
      rw [run] at failed
      cases failed
  | error fault final => exact ⟨fault, final, rfl⟩

/-- A step without a result that succeeds leaves behind the world after it. -/
theorem ok_after {step : Build PUnit} {world : World} (succeeded : step.succeeds world = true) :
    step world = .ok () (step.after world) :=
  (ok_of_succeeds succeeded).choose_spec

/-- **A step leads only where an effect permits**, from every world. -/
def Leads (Effect : World → World → Prop) (step : Build Result) : Prop :=
  ∀ world, Effect world (step.after world)

namespace Leads

variable {Effect : World → World → Prop} {step : Build Result}

/-- What holds of a run that has succeeded. -/
theorem of_ok (leads : Leads Effect step) {world final : World} {value : Result}
    (run : step world = .ok value final) : Effect world final :=
  after_of_ok run ▸ leads world

/-- What holds of a run that has failed. -/
theorem of_error (leads : Leads Effect step) {world final : World} {fault : Fault}
    (run : step world = .error fault final) : Effect world final :=
  after_of_error run ▸ leads world

/-- An effect that permits more is led to as well. -/
theorem weaken {Wider : World → World → Prop} (leads : Leads Effect step)
    (wider : ∀ before after, Effect before after → Wider before after) : Leads Wider step :=
  fun world => wider _ _ (leads world)

variable [IsEffect Effect]

/-- Giving a value does nothing. -/
@[grind .]
theorem pure (value : Result) : Leads Effect (pure value : Build Result) :=
  fun world => IsEffect.refl world

/-- Failing does nothing. -/
@[grind .]
theorem throw (fault : Fault) : Leads Effect (throw fault : Build Result) :=
  fun world => IsEffect.refl world

/-- Rejecting something does nothing. -/
@[grind .]
theorem reject (cause : Cause) : Leads Effect (reject cause : Build Result) :=
  throw _

/-- Looking at the world does nothing. -/
@[grind .]
theorem get : Leads Effect (get : Build World) :=
  fun world => IsEffect.refl world

/-- A check that looks at no world does nothing. -/
@[grind .]
theorem lift (check : Except Fault Result) : Leads Effect (liftM check : Build Result) := by
  cases check <;> exact fun world => IsEffect.refl world

/-- Asking for what should be there does nothing. -/
@[grind .]
theorem present (value : Option Result) : Leads Effect (present value) := by
  cases value <;> exact fun world => IsEffect.refl world

omit [IsEffect Effect] in
/-- A change of the world leads where the change does. -/
theorem modify {update : World → World} (permitted : ∀ world, Effect world (update world)) :
    Leads Effect (modify update : Build PUnit) :=
  permitted

/-- What is permitted from a world on stays permitted. -/
theorem since (leads : Leads Effect step) (start : World) :
    Leads (Preserves (Effect start)) step :=
  leads.weaken fun _ _ further soFar => IsEffect.trans soFar further

/-- Two steps one after the other lead where the first one does, and the second one from the world
that the first one leaves. -/
theorem bindFrom {next : Result → Build Next} (first : Leads Effect step)
    (second : ∀ world value between, step world = .ok value between →
      Effect between ((next value).after between)) : Leads Effect (step >>= next) := by
  intro world
  cases run : step world with
  | ok value between =>
      have next_after : (step >>= next).after world = (next value).after between := by
        simp only [after, Bind.bind, EStateM.bind, run]
      rw [next_after]
      exact IsEffect.trans (first.of_ok run) (second world value between run)
  | error fault between =>
      have next_after : (step >>= next).after world = between := by
        simp only [after, Bind.bind, EStateM.bind, run]
      rw [next_after]
      exact first.of_error run

/-- Two steps one after the other lead where both do. -/
theorem bind {next : Result → Build Next} (first : Leads Effect step)
    (second : ∀ value, Leads Effect (next value)) : Leads Effect (step >>= next) :=
  first.bindFrom fun _ value between _ => second value between

grind_pattern bind => Leads Effect (step >>= next)

/-- A step whose result is changed leads where the step does. -/
theorem map (change : Result → Next) (leads : Leads Effect step) :
    Leads Effect (change <$> step) := by
  rw [map_eq_pure_bind]
  exact leads.bind fun value => pure _

grind_pattern map => Leads Effect (change <$> step)

/-- A step with what is done if it fails leads where both do. -/
theorem tryCatch {handle : Fault → Build Result} (leads : Leads Effect step)
    (handled : ∀ fault, Leads Effect (handle fault)) :
    Leads Effect (tryCatch step handle) := by
  intro world
  cases run : step world with
  | ok value between =>
      have whole : (tryCatchThe Fault step handle).after world = between := by
        simp only [after, tryCatchThe, MonadExceptOf.tryCatch, EStateM.tryCatch, run]
      exact whole ▸ leads.of_ok run
  | error fault between =>
      have whole : (tryCatchThe Fault step handle).after world = (handle fault).after between := by
        simp only [after, tryCatchThe, MonadExceptOf.tryCatch, EStateM.tryCatch, run]
        rfl
      exact whole ▸ IsEffect.trans (leads.of_error run) (handled fault between)

grind_pattern tryCatch => Leads Effect (MonadExcept.tryCatch step handle)

/-- What is done for each of some items leads where each of the steps does. -/
theorem mapM {Item : Type} {each : Item → Build Result} (leads : ∀ item, Leads Effect (each item))
    (items : List Item) : Leads Effect (items.mapM each) := by
  induction items with
  | nil => exact pure _
  | cons item items ih =>
      rw [List.mapM_cons]
      exact (leads item).bind fun first => ih.bind fun rest => pure _

grind_pattern mapM => Leads Effect (items.mapM each)

/-- What is done to each of some items leads where each of the steps does. -/
theorem forM {Item : Type} {each : Item → Build PUnit} (leads : ∀ item, Leads Effect (each item))
    (items : List Item) : Leads Effect (items.forM each) := by
  induction items with
  | nil => exact pure _
  | cons item items ih => exact (leads item).bind fun _ => ih

omit [IsEffect Effect] in
/-- A choice leads where both sides do. -/
theorem ite {condition : Prop} [Decidable condition] {first second : Build Result}
    (left : Leads Effect first) (right : Leads Effect second) :
    Leads Effect (if condition then first else second) := by
  split
  · exact left
  · exact right

end Leads

end Build

/-! ## Attempts -/

/-- What is attempted comes out as a value, whether or not it fails. -/
theorem Script.attempt_eq {Result : Type} (action : Build Result) (world : World) :
    Script.attempt action world =
      match action world with
      | .ok value final => .ok (.ok value) final
      | .error fault final => .ok (.error fault) final := by
  unfold attempt
  cases run : action world with
  | ok value final =>
      simp only [tryCatchThe, tryCatch, MonadExceptOf.tryCatch, EStateM.tryCatch,
        Bind.bind, EStateM.bind, run, EarlyReturnT.return, EarlyReturn.runK, pure]
      rfl
  | error fault final =>
      simp only [tryCatchThe, tryCatch, MonadExceptOf.tryCatch, EStateM.tryCatch,
        Bind.bind, EStateM.bind, run, EarlyReturnT.return, EarlyReturn.runK, pure]
      rfl

/-- What is attempted leads where it does. -/
theorem Build.Leads.attempt {Effect : World → World → Prop} {Result : Type}
    {action : Build Result} (leads : Leads Effect action) :
    Leads Effect (Script.attempt action) := by
  intro world
  have same : (Script.attempt action).after world = action.after world := by
    rw [after, after, Script.attempt_eq]
    cases action world <;> rfl
  exact same ▸ leads world

end StructuredIR
