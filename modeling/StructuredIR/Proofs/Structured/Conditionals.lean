import StructuredIR.Proofs.Structured.Parts

/-! # Conditionals of structured bodies

A conditional builds its arms at new blocks, finds the place where they meet, and ends the block at
which its generator was with a choice between the arms. **`FreshBody.Works.conditional`** says that
this is read as the choice between what the arms are read as. -/

namespace StructuredIR

open Build (bind_eq_ok get_eq_ok map_eq_ok modify_eq_ok pure_eq_ok)

namespace FreshBody

open FunctionBody

variable {body : FreshBody} {before middle after : World} {place part : GeneratorId}
  {here : BlockRef} {around : Generator} {reading : Reading}

/-- An arm of a conditional is built at a new block. -/
theorem buildArm_ok {name : String} {callback : AccountedCallback} (tidy : body.Tidy before)
    (ready : body.Ready before place) (faithful : body.Faithful callback)
    (run : Account.buildArm place body.reference name callback before =
      .ok (part, reading) after) :
    ∃ block, body.Grafts part (before.generator place) block [] [] reading before after ∧
      body.IsTarget after (.operand (.block block)) := by
  obtain ⟨block, added, adding, run⟩ := bind_eq_ok.mp run
  obtain ⟨arm, opened, opening, run⟩ := bind_eq_ok.mp run
  obtain ⟨⟨value, read⟩, final, calling, run⟩ := bind_eq_ok.mp run
  obtain ⟨same, rfl⟩ := pure_eq_ok.mp run
  cases same
  obtain ⟨rfl, adds, blank, generators⟩ := tidy.appendNamed_ok adding
  have untouched := Untouched.of_generators before.generators.length generators
  have old : added.generator place = before.generator place := untouched.same place ready.inside
  have readyThen := ready.later untouched adds fun _ _ => List.not_mem_nil
  have opens := readyThen.childAt adds.tidy (adds.open_of_mem (List.mem_singleton_self _)) opening
  have builds := faithful _ _ _ _ _ _ opens.alters.tidy opens.works.ready calling
  refine ⟨_, opens.grafts builds rfl (by rw [old]; rfl) (by rw [old]; rfl) untouched adds blank, ?_⟩
  exact builds.alters.target (opens.alters.target (adds.isTarget_of_mem tidy (List.mem_singleton_self _)
    List.not_mem_nil))

/-! ## Where the arms meet -/

variable {block : BlockRef}

/-- An arm that is not at the place where the arms meet is led there. -/
theorem Grafts.leadToNew {added : World} {base : String} {exit : BlockRef}
    (grafts : body.Grafts part around block [] [] reading before middle)
    (adding : Function.appendNamed body.reference base middle = .ok exit added)
    (leading : Generator.leadTo part (.operand (.block exit)) added = .ok () after) :
    body.Joins part around block exit [] [exit] 0 reading before after ∧
      body.code after exit = [] ∧ body.blockCount middle ≤ body.blockCount after := by
  obtain ⟨rfl, adds, blank, generators⟩ := grafts.alters.tidy.appendNamed_ok adding
  have new : body.next middle ∈ [body.next middle] := List.mem_singleton_self _
  have goes := adds.isTarget_of_mem grafts.alters.tidy new List.not_mem_nil
  have later := grafts.later adds generators
  have joins := later.leadTo goes leading
  have alters := later.ready.alters_of_leadTo adds.tidy goes leading
  refine ⟨⟨joins.anew, joins.start, joins.untouched, joins.alters,
    joins.leads.relax (Nat.zero_le 1)⟩, ?_, Nat.le_trans adds.count alters.count⟩
  -- The arm is at another block than the new one.
  have free : body.next middle ∉ added.stand part := by
    intro member
    cases unfinished : (added.generator part).isFinished with
    | true =>
        rw [World.stand_of_isFinished unfinished] at member
        cases member
    | false =>
        obtain ⟨here, stands, -⟩ := later.ready.stands unfinished
        rw [stands.stand_eq, List.mem_singleton] at member
        exact later.apart here stands (member ▸ new)
  rw [alters.keeps _ (adds.open_of_mem new) free, blank]

/-- An arm whose block has no code ends where the arms meet if that is its block. -/
theorem Grafts.joins_own {own : BlockRef}
    (grafts : body.Grafts part around block [] [] reading before after)
    (stands : after.StandsAt part own) (blank : body.code after own = []) :
    body.Joins part around block own [] [own] 0 reading before after := by
  refine ⟨grafts.anew, grafts.start, grafts.untouched, ?_, fun code extended decide turns asked => ?_⟩
  · have alters := grafts.alters
    rwa [stands.stand_eq, List.append_nil] at alters
  · refine (grafts.reads code extended decide turns asked).weaken (fun position falls => ?_)
      (fun _ => id) (fun _ => id) (fun _ _ => Nat.le_refl 0) (Nat.le_refl turns)
    obtain ⟨standing, index⟩ := falls
    obtain ⟨there, index'⟩ := position
    have same := standing.here.symm.trans stands.here
    cases same
    show Position.mk there index' = ⟨there, 0⟩
    rw [show index' = (body.code after there).length from index, blank]
    rfl

/-- **The place where the arms meet** is an open block without code, and the first arm leads on to
it. -/
theorem meetingPlace_ok {exit : Value}
    (grafts : body.Grafts part around block [] [] reading before middle)
    (run : Generator.meetingPlace part body.reference .none middle = .ok exit after) :
    ∃ next, exit = .operand (.block next) ∧
      body.Joins part around block next [] [next] 0 reading before after ∧
        body.code after next = [] ∧ body.blockCount middle ≤ body.blockCount after := by
  obtain ⟨seen, _, looked, run⟩ := bind_eq_ok.mp run
  obtain ⟨rfl, rfl⟩ := get_eq_ok.mp looked
  cases isFinished : (middle.generator part).isFinished with
  | true =>
      rw [isFinished] at run
      obtain ⟨_, _, none, run⟩ := bind_eq_ok.mp run
      cases none
      obtain ⟨_, added, adding, run⟩ := bind_eq_ok.mp run
      obtain ⟨next, appending, rfl⟩ := map_eq_ok.mp adding
      obtain ⟨_, led, leading, run⟩ := bind_eq_ok.mp run
      obtain ⟨rfl, rfl⟩ := pure_eq_ok.mp run
      exact ⟨next, rfl, grafts.leadToNew appending leading⟩
  | false =>
      rw [isFinished] at run
      obtain ⟨own, stands, opened⟩ := grafts.ready.stands isFinished
      obtain ⟨_, _, some, run⟩ := bind_eq_ok.mp run
      obtain ⟨_, positioned, rfl⟩ := map_eq_ok.mp some
      rw [Generator.position_of_block stands.here] at positioned
      cases positioned
      obtain ⟨seen, _, looked, run⟩ := bind_eq_ok.mp run
      obtain ⟨rfl, rfl⟩ := get_eq_ok.mp looked
      split at run
      next empty =>
        obtain ⟨rfl, rfl⟩ := pure_eq_ok.mp run
        have blank : body.code _ own = [] := code_of_isEmpty empty
        exact ⟨own, rfl, grafts.joins_own stands blank, blank, Nat.le_refl _⟩
      next =>
        obtain ⟨next, added, adding, run⟩ := bind_eq_ok.mp run
        obtain ⟨_, led, leading, run⟩ := bind_eq_ok.mp run
        obtain ⟨rfl, rfl⟩ := pure_eq_ok.mp run
        exact ⟨next, rfl, grafts.leadToNew adding leading⟩

/-- **The second arm**, if there is one, leads on to the place where the arms meet. Without it that
is where control goes at once. -/
theorem buildElse_ok {callback? : Option AccountedCallback} {first last : GeneratorId}
    {next : BlockRef} {whenFalse : Value} (tidy : body.Tidy before)
    (ready : body.Ready before place) (goes : body.IsTarget before (.operand (.block next)))
    (faithful : ∀ callback, callback? = some callback → body.Faithful callback)
    (run : Account.buildElse place body.reference first callback? (.operand (.block next)) before =
      .ok ((whenFalse, last), reading) after) :
    ∃ start, whenFalse = .operand (.block start) ∧
      body.IsTarget after (.operand (.block start)) ∧
        Untouched before.generators.length before after ∧ body.Alters [] [] before after ∧
          body.LeadsOn after (before.generator place) start next 0 reading := by
  cases callback? with
  | none =>
      cases run
      exact ⟨next, rfl, goes, IsEffect.refl _, .refl tidy nofun, LeadsOn.refl _ _ next⟩
  | some callback =>
      obtain ⟨⟨arm, read⟩, built, building, run⟩ := bind_eq_ok.mp run
      obtain ⟨_, led, leading, run⟩ := bind_eq_ok.mp run
      obtain ⟨_, _, finishing, run⟩ := bind_eq_ok.mp run
      obtain rfl := modify_eq_ok.mp finishing
      obtain ⟨seen, _, looked, run⟩ := bind_eq_ok.mp run
      obtain ⟨rfl, rfl⟩ := get_eq_ok.mp looked
      obtain ⟨same, rfl⟩ := pure_eq_ok.mp run
      cases same
      obtain ⟨start, grafts, target⟩ := buildArm_ok tidy ready (faithful callback rfl) building
      have joins := (grafts.leadTo (grafts.alters.target goes) leading).finish
      have led := grafts.ready.alters_of_leadTo grafts.alters.tidy (grafts.alters.target goes) leading
      exact ⟨start, joins.start, (led.finish last).target target, joins.untouched, joins.alters,
        joins.leads.relax (Nat.zero_le 1)⟩

/-! ## The choice -/

/-- **A choice between two parts** that lead on to the same block is carried out if the block in front
of them ends with it. -/
theorem Works.builds_choose {closed : World} {first second : Reading} {condition : Operand}
    {whenTrue whenFalse next : BlockRef} (works : body.Works before place here)
    (untouched : Untouched before.generators.length before middle)
    (adds : body.Alters [] [next] before middle) (blank : body.code middle next = [])
    (leads : body.LeadsOn middle (before.generator place) whenTrue next 0 first)
    (leadsElse : body.LeadsOn middle (before.generator place) whenFalse next 0 second)
    (closes : body.Closes here
      (.branchIf condition (.operand (.block whenTrue)) (.operand (.block whenFalse))) middle closed) :
    body.Builds place (.choose first second) before (moved place next closed) := by
  have member : next ∈ [next] := List.mem_singleton_self next
  have other : next ≠ here := by
    rintro rfl
    exact (adds.moves next member).elim List.not_mem_nil fun outside => outside works.opened.1
  have opened := adds.open_of_not_mem works.opened List.not_mem_nil
  have framed := adds.frame works.opened List.not_mem_nil
  obtain ⟨alters, same⟩ := closes.beside framed other
  have untouched : Untouched before.generators.length before closed :=
    ⟨closes.generators ▸ untouched.grows, fun other known => by
      rw [World.generator, closes.generators]
      exact untouched.same other known⟩
  refine works.builds_moved untouched alters ?_
  intro there stands code extended decide turns asked
  obtain rfl := works.eq stands
  have extended := extends_of_generators extended alters.tidy
  have forks := closes.forks opened extended decide asked
  rw [adds.keeps there works.opened List.not_mem_nil] at forks
  have falls (position : Position) (behind : position = ⟨next, 0⟩) :
      (moved place next closed).StandsAt place position.block ∧
        position.index = (body.code (moved place next closed) position.block).length := by
    subst behind
    refine ⟨works.standsAt_moved untouched next, ?_⟩
    show 0 = (body.code closed next).length
    rw [same, blank]
    rfl
  rw [Reading.exec]
  -- Whichever way the condition comes out, the part that it leads to leads on.
  cases holds : decide asked <;> rw [holds] at forks
  · exact ((leadsElse.later closes.alters code extended decide turns _).behind forks).weaken falls
      (fun _ => id) (fun _ => id) (fun _ _ => Nat.zero_le _) (Nat.le_add_left _ _)
  · exact ((leads.later closes.alters code extended decide turns _).behind forks).weaken falls
      (fun _ => id) (fun _ => id) (fun _ _ => Nat.zero_le _) (Nat.le_add_left _ _)

/-- **A conditional** is read as the choice between its arms. -/
theorem Works.conditional {condition value : Value}
    {thenBody elseBody : Option AccountedCallback} (works : body.Works before place here)
    (faithful : ∀ callback, thenBody = some callback → body.Faithful callback)
    (faithfulElse : ∀ callback, elseBody = some callback → body.Faithful callback)
    (run : Account.conditional place condition thenBody elseBody .none before =
      .ok (value, reading) after) : body.Builds place reading before after := by
  obtain ⟨seen, _, looked, run⟩ := bind_eq_ok.mp run
  obtain ⟨rfl, rfl⟩ := get_eq_ok.mp looked
  rw [works.stands.unfinished, if_neg Bool.false_ne_true] at run
  cases thenBody with
  | none => cases run
  | some thenBody =>
      obtain ⟨seen, _, looked, run⟩ := bind_eq_ok.mp run
      obtain ⟨rfl, rfl⟩ := get_eq_ok.mp looked
      rw [works.ready.function] at run
      obtain ⟨tested, coerced, coercing, run⟩ := bind_eq_ok.mp run
      obtain ⟨⟨arm, first⟩, built, building, run⟩ := bind_eq_ok.mp run
      obtain ⟨exit, met, meeting, run⟩ := bind_eq_ok.mp run
      obtain ⟨_, ended, finishing, run⟩ := bind_eq_ok.mp run
      obtain rfl := modify_eq_ok.mp finishing
      obtain ⟨seen, _, looked, run⟩ := bind_eq_ok.mp run
      obtain ⟨rfl, rfl⟩ := get_eq_ok.mp looked
      obtain ⟨⟨⟨whenFalse, last⟩, second⟩, chosen, choosing, run⟩ := bind_eq_ok.mp run
      obtain ⟨seen, _, looked, run⟩ := bind_eq_ok.mp run
      obtain ⟨rfl, rfl⟩ := get_eq_ok.mp looked
      obtain ⟨_, reordered, moving, run⟩ := bind_eq_ok.mp run
      obtain ⟨_, closed, emitting, run⟩ := bind_eq_ok.mp run
      obtain ⟨_, _, positioning, run⟩ := bind_eq_ok.mp run
      obtain rfl := modify_eq_ok.mp positioning
      obtain ⟨same, rfl⟩ := pure_eq_ok.mp run
      cases same
      -- The condition is coerced in front of everything else.
      have same : SameCode before coerced :=
        (Generator.leads_coerce place condition _).of_ok coercing
      have coerces := works.tidy.alters_of_sameCode same
      have untouched := Untouched.of_generators before.generators.length same.generators
      have old := untouched.same place works.ready.inside
      have worksThen := works.later untouched coerces
        (coerces.open_of_not_mem works.opened List.not_mem_nil)
      -- The arms lead on to the place where they meet.
      obtain ⟨start, grafts, target⟩ :=
        buildArm_ok worksThen.tidy worksThen.ready (faithful thenBody rfl) building
      obtain ⟨next, rfl, joins, blank, count⟩ := meetingPlace_ok grafts meeting
      have joins := joins.finish
      have member : next ∈ [next] := List.mem_singleton_self next
      have goes := joins.alters.isTarget_of_mem worksThen.tidy member List.not_mem_nil
      have worksAt := worksThen.later joins.untouched joins.alters
        (joins.alters.open_of_not_mem worksThen.opened List.not_mem_nil)
      obtain ⟨startElse, rfl, targetElse, untouchedElse, altersElse, leadsElse⟩ :=
        buildElse_ok worksAt.tidy worksAt.ready goes faithfulElse choosing
      obtain ⟨moves, generators⟩ :=
        altersElse.tidy.moveAfter_ok goes.ne_entry moving
      have around := worksAt.later untouchedElse altersElse
        (altersElse.open_of_not_mem worksAt.opened List.not_mem_nil)
      have stays := Untouched.of_generators chosen.generators.length generators
      have worksAround := around.later stays moves
        (moves.open_of_not_mem around.opened List.not_mem_nil)
      -- The choice is where the generator is.
      have targetThen : body.IsTarget chosen (.operand (.block start)) :=
        target.later (Nat.le_trans count altersElse.count)
      rw [joins.start] at emitting
      have closes := worksAround.closes rfl (fun value member => ?_) emitting
      · have leads := joins.leads
        rw [joins.untouched.same place worksThen.ready.inside] at leadsElse
        rw [old] at leads leadsElse
        refine works.builds_choose
          (((untouched.andThen joins.untouched).andThen untouchedElse).andThen stays)
          (((coerces.trans joins.alters).idly altersElse).idly moves) ?_
          ((leads.later altersElse).later moves) (leadsElse.later moves) closes
        have opened := joins.alters.open_of_mem member
        rw [moves.keeps next (altersElse.open_of_not_mem opened List.not_mem_nil) List.not_mem_nil,
          altersElse.keeps next opened List.not_mem_nil]
        exact blank
      · rcases List.mem_cons.mp member with rfl | member
        · exact moves.target targetThen
        · rw [List.mem_singleton.mp member]
          exact moves.target targetElse

end FreshBody

end StructuredIR
