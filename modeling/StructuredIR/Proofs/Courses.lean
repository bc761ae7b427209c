import StructuredIR.Proofs.Effects

/-! # Courses of worlds

An invariant of worlds together with what may change from one world to a later one is a course,
`IsCourse`. Steps are shown to stay on their course from a world on which they start, whether or
not they fail.

* **`Build.Follows stop Course world held step post`** says that `step`, started in `world`, stays
  on the course and that its result satisfies `post`. It also says that `held` is the same step,
  except that it may be held up, with a fault, in a world in which `stop` says so; `step` then
  stays on its course from there on as well. With a step that is held up nowhere this is an
  invariant; with one that is held up it tells what happens after a world in the middle of a
  step. -/

namespace StructuredIR

/-- A relation between worlds and later ones that are worth going on from: it may be followed
further, and it leads to worlds from which it may be followed. -/
class IsCourse (Course : World → World → Prop) : Prop where
  /-- What comes later than something later comes later. -/
  trans {first second third : World} : Course first second → Course second third →
    Course first third
  /-- One may stay in a world that has been reached. -/
  arrives {first second : World} : Course first second → Course second second

namespace Build

variable {Result Next : Type}

/-- **A step stays on its course**, and another one is the same step unless it is held up. -/
structure Follows (stop : World → Bool) (Course : World → World → Prop) (world : World)
    (held step : Build Result) (post : Result → World → Prop) : Prop where
  /-- The step stays on the course. -/
  course : Course world (step.after world)
  /-- What holds of the result. -/
  gives (value : Result) (final : World) : step world = .ok value final → post value final
  /-- Where the other step is held up, it is on the course and in front of the end. -/
  follows : held world = step world ∨
    ∃ fault middle, held world = .error fault middle ∧ stop middle = true ∧
      Course world middle ∧ Course middle (step.after world)

namespace Follows

variable {stop : World → Bool} {Course : World → World → Prop}
  {world : World} {held step : Build Result} {post : Result → World → Prop}

/-- A step that calls nothing follows itself. -/
theorem of_step (course : Course world (step.after world))
    (gives : ∀ value final, step world = .ok value final → post value final) :
    Follows stop Course world step step post :=
  ⟨course, gives, .inl rfl⟩

/-- What is said of a result may name the run that gives it. -/
theorem ran (first : Follows stop Course world held step post) :
    Follows stop Course world held step fun value final =>
      post value final ∧ step world = .ok value final :=
  ⟨first.course, fun value final run => ⟨first.gives value final run, run⟩, first.follows⟩

/-- What holds of a result also holds if less is said. -/
theorem weaken {wider : Result → World → Prop} (first : Follows stop Course world held step post)
    (implies : ∀ value final, Course world final → post value final → wider value final) :
    Follows stop Course world held step wider where
  course := first.course
  gives value final run :=
    implies value final (after_of_ok run ▸ first.course) (first.gives value final run)
  follows := first.follows

/-- Giving a value stays where it is. -/
theorem pure {value : Result} (valid : Course world world) (holds : post value world) :
    Follows stop Course world (pure value) (pure value) post :=
  of_step valid fun _ _ run => by
    obtain ⟨rfl, rfl⟩ := pure_eq_ok.mp run
    exact holds

/-- Failing stays where it is. -/
theorem throw {fault : Fault} (valid : Course world world) :
    Follows stop Course world (throw fault) (throw fault) post :=
  of_step valid fun _ _ run => (throw_ne_ok run).elim

/-- Rejecting something stays where it is. -/
theorem reject {cause : Cause} (valid : Course world world) :
    Follows stop Course world (reject cause) (reject cause) post :=
  throw valid

/-- A change of the world stays on the course if the change does, and gives nothing to speak of. -/
theorem change {update : World → World} (course : Course world (update world)) :
    Follows stop Course world (modify update) (modify update) fun _ _ => True :=
  of_step course fun _ _ _ => trivial

/-- A change of the world stays on the course if the change does. -/
theorem modify {update : World → World} {post : PUnit → World → Prop}
    (course : Course world (update world)) (holds : post ⟨⟩ (update world)) :
    Follows stop Course world (modify update) (modify update) post :=
  of_step course fun _ _ run => by
    obtain rfl := modify_eq_ok.mp run
    exact holds

/-- Looking at the world gives that world. -/
theorem get {heldNext next : World → Build Next} {post : Next → World → Prop}
    (second : Follows stop Course world (heldNext world) (next world) post) :
    Follows stop Course world (get >>= heldNext) (get >>= next) post :=
  ⟨second.course, second.gives, second.follows⟩

variable [IsCourse Course]

/-- **Two steps one after the other** stay on their course if each of them does from where it
starts. -/
theorem bind {heldNext next : Result → Build Next} {goal : Next → World → Prop}
    (first : Follows stop Course world held step post)
    (second : ∀ value middle, Course world middle → post value middle →
      Follows stop Course middle (heldNext value) (next value) goal) :
    Follows stop Course world (held >>= heldNext) (step >>= next) goal := by
  cases run : step world with
  | error fault middle =>
      have whole : (step >>= next) world = .error fault middle := by
        simp only [Bind.bind, EStateM.bind, run]
      have ends := after_of_error run ▸ first.course
      refine ⟨after_of_error whole ▸ ends, fun value final claimed => ?_, ?_⟩
      · rw [whole] at claimed
        cases claimed
      · rcases first.follows with same | ⟨other, between, held_up, stops, course, further⟩
        · left
          simp only [Bind.bind, EStateM.bind, same, run]
        · right
          refine ⟨other, between, ?_, stops, course, ?_⟩
          · simp only [Bind.bind, EStateM.bind, held_up]
          · rw [after_of_error whole, ← after_of_error run]
            exact further
  | ok value middle =>
      have whole : (step >>= next) world = next value middle := by
        simp only [Bind.bind, EStateM.bind, run]
      have whole_after : (step >>= next).after world = (next value).after middle := by
        rw [after, whole, after]
      have course : Course world middle := after_of_ok run ▸ first.course
      have rest := second value middle course (first.gives value middle run)
      refine ⟨whole_after ▸ IsCourse.trans course rest.course, fun result final claimed => ?_, ?_⟩
      · rw [whole] at claimed
        exact rest.gives result final claimed
      · rcases first.follows with same | ⟨other, between, held_up, stops, upTo, further⟩
        · have held_whole : (held >>= heldNext) world = heldNext value middle := by
            simp only [Bind.bind, EStateM.bind, same, run]
          rw [held_whole, whole, whole_after]
          rcases rest.follows with again | ⟨other, between, held_up, stops, upTo, further⟩
          · exact .inl again
          · exact .inr ⟨other, between, held_up, stops, IsCourse.trans course upTo, further⟩
        · right
          refine ⟨other, between, ?_, stops, upTo, ?_⟩
          · simp only [Bind.bind, EStateM.bind, held_up]
          · rw [whole_after]
            exact IsCourse.trans (after_of_ok run ▸ further) rest.course

/-- A step whose result is changed stays on its course. -/
theorem map {change : Result → Next} {goal : Next → World → Prop}
    (first : Follows stop Course world held step post)
    (second : ∀ value final, Course world final → post value final → goal (change value) final) :
    Follows stop Course world (change <$> held) (change <$> step) goal := by
  rw [map_eq_pure_bind, map_eq_pure_bind]
  exact first.bind fun value middle course holds =>
    pure (IsCourse.arrives course) (second value middle course holds)

end Follows

end Build

end StructuredIR
