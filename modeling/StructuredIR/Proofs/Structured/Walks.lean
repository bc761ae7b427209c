import StructuredIR.Proofs.Rows
import StructuredIR.Proofs.Straight
import StructuredIR.Proofs.Structured.Readings

/-! # Walks

A walk through a function executes one instruction after the other and goes where terminators lead.

* **`Walker.next`** is one step of a walk, and `Walker.walk` what is executed in a number of steps.
* **`Exits`** says where a walk is when a part of a reading ends, and **`Carries`** that whatever is
  executed of the part is executed by a walk that ends there. A part that is exhausted has to be
  walked through for at least as many steps as turns were followed: so a walk that goes on for ever
  never falls behind its reading.
* **`Carries.andThen`**, **`Carries.choose`** and **`Carries.loop`** put parts together. -/

namespace StructuredIR

/-! ## Walking -/

/-- A place in the code of a function. -/
structure Position where
  /-- The block. -/
  block : BlockRef
  /-- How many instructions of the block are in front of it. -/
  index : Nat

/-- Where a walk is, and how many conditions have come out. -/
structure Walker extends Position where
  /-- How many conditions have come out. -/
  asked : Nat

namespace Walker

/-- Where an operation leads to if the condition that comes up comes out as `decide` says. -/
def leadsTo (decide : Nat → Bool) (asked : Nat) : Operation → Option Walker
  | .branch target => target.block?.map fun block => ⟨⟨block, 0⟩, asked⟩
  | .branchIf _ whenTrue whenFalse =>
      (if decide asked then whenTrue else whenFalse).block?.map fun block =>
        ⟨⟨block, 0⟩, asked + 1⟩
  | _ => none

/-- One step of a walk: what is executed, but for terminators, and where it leads to. -/
def next (code : BlockRef → List Instruction) (decide : Nat → Bool) (walker : Walker) :
    Option (List Instruction × Walker) :=
  match (code walker.block)[walker.index]? with
  | none => none
  | some instruction =>
      if instruction.operation.isTerminator then
        (leadsTo decide walker.asked instruction.operation).map fun other => ([], other)
      else some ([instruction], { walker with index := walker.index + 1 })

/-- **What is executed** in at most a number of steps. -/
def walk (code : BlockRef → List Instruction) (decide : Nat → Bool) :
    Nat → Walker → List Instruction
  | 0, _ => []
  | steps + 1, walker =>
      match walker.next code decide with
      | none => []
      | some (trace, other) => trace ++ other.walk code decide steps

end Walker

variable {code : BlockRef → List Instruction} {decide : Nat → Bool}

/-- A walk of a number of steps, with what is executed. -/
inductive Walks (code : BlockRef → List Instruction) (decide : Nat → Bool) :
    Nat → Walker → List Instruction → Walker → Prop where
  /-- No step. -/
  | stay (walker : Walker) : Walks code decide 0 walker [] walker
  /-- One step, and further ones. -/
  | move {steps : Nat} {walker between final : Walker} {trace rest : List Instruction} :
      walker.next code decide = some (trace, between) →
      Walks code decide steps between rest final →
      Walks code decide (steps + 1) walker (trace ++ rest) final

namespace Walks

/-- A walk of one step. -/
theorem single {walker final : Walker} {trace : List Instruction}
    (step : walker.next code decide = some (trace, final)) :
    Walks code decide 1 walker trace final := by
  have walks := move step (stay final)
  rwa [List.append_nil] at walks

/-- Walks may follow each other. -/
theorem trans {first second : Nat} {walker between final : Walker}
    {trace rest : List Instruction} (walks : Walks code decide first walker trace between)
    (further : Walks code decide second between rest final) :
    Walks code decide (first + second) walker (trace ++ rest) final := by
  induction walks with
  | stay walker => rwa [Nat.zero_add]
  | move step _ ih =>
      rw [List.append_assoc, Nat.add_right_comm]
      exact move step (ih further)

/-- A walk executes what it says, however long one goes on afterwards. -/
theorem walk_add {steps : Nat} {walker final : Walker} {trace : List Instruction}
    (walks : Walks code decide steps walker trace final) (further : Nat) :
    walker.walk code decide (steps + further) = trace ++ final.walk code decide further := by
  induction walks with
  | stay walker => rw [Nat.zero_add, List.nil_append]
  | move step _ ih =>
      rw [Nat.add_right_comm, Walker.walk, step]
      dsimp only
      rw [ih, List.append_assoc]

/-- Instructions that end no block are executed one after the other. -/
theorem straight {block : BlockRef} {asked : Nat} {instructions : List Instruction}
    (straight : IsStraight instructions) (front : List Instruction)
    (there : front ++ instructions <+: code block) :
    Walks code decide instructions.length ⟨⟨block, front.length⟩, asked⟩ instructions
      ⟨⟨block, (front ++ instructions).length⟩, asked⟩ := by
  induction instructions generalizing front with
  | nil =>
      rw [List.append_nil]
      exact stay _
  | cons first rest ih =>
      have split : front ++ first :: rest = (front ++ [first]) ++ rest := by simp
      have here : (code block)[front.length]? = some first := by
        obtain ⟨more, same⟩ := there
        rw [← same]
        simp
      have step : Walker.next code decide ⟨⟨block, front.length⟩, asked⟩ =
          some ([first], ⟨⟨block, (front ++ [first]).length⟩, asked⟩) := by
        simp only [Walker.next, here, straight first List.mem_cons_self, List.length_append]
        rfl
      rw [split] at there ⊢
      exact move step (ih (fun other member => straight other (List.mem_cons_of_mem first member))
        _ there)

end Walks

/-- What comes next at an instruction that ends a block is where it leads to. -/
theorem Walker.next_of_isTerminator {block : BlockRef} {front : List Instruction}
    {last : Instruction} (there : front ++ [last] <+: code block)
    (terminates : last.operation.isTerminator = true) (asked : Nat) :
    Walker.next code decide ⟨⟨block, front.length⟩, asked⟩ =
      (leadsTo decide asked last.operation).map fun other => ([], other) := by
  have here : (code block)[front.length]? = some last := by
    obtain ⟨more, same⟩ := there
    rw [← same]
    simp
  simp only [next, here, terminates, if_true]

/-- A branch is one step. -/
theorem Walks.branch {block : BlockRef} {front : List Instruction} {last : Instruction}
    {asked : Nat} {other : Walker} (there : front ++ [last] <+: code block)
    (terminates : last.operation.isTerminator = true)
    (leads : Walker.leadsTo decide asked last.operation = some other) :
    Walks code decide 1 ⟨⟨block, front.length⟩, asked⟩ [] other := by
  refine .single ?_
  rw [Walker.next_of_isTerminator there terminates, leads]
  rfl

/-- Where nothing comes next, nothing is executed. -/
theorem Walker.walk_of_next_eq_none {walker : Walker} (halts : walker.next code decide = none)
    (steps : Nat) : walker.walk code decide steps = [] := by
  cases steps with
  | zero => rfl
  | succ steps => rw [walk, halts]

/-- In more steps more is executed. -/
theorem Walker.walk_prefix (walker : Walker) {steps more : Nat} (longer : steps ≤ more) :
    walker.walk code decide steps <+: walker.walk code decide more := by
  induction steps generalizing walker more with
  | zero => exact List.nil_prefix
  | succ steps ih =>
      obtain ⟨further, rfl⟩ := Nat.exists_eq_add_of_le' longer
      rw [← Nat.add_assoc, walk, walk]
      split
      · exact List.prefix_rfl
      · exact (List.prefix_append_right_inj _).mpr (ih _ (by omega))

/-! ## Parts of a reading -/

/-- Where a walk is when a part of a reading ends. -/
structure Exits where
  /-- Behind the part. -/
  falls : Position → Prop
  /-- Behind the innermost loop. -/
  leaves : Position → Prop
  /-- Where the turn of the innermost loop is over. -/
  again : Position → Prop
  /-- How many steps it takes at least to get behind the part. -/
  least : Nat

/-- What has to be true of a walk that ends with a part: where it is, and how many steps it has. -/
def Exits.Permit (exits : Exits) (code : BlockRef → List Instruction) (decide : Nat → Bool)
    (turns steps : Nat) (final : Walker) : Ending → Prop
  | .falls => exits.falls final.toPosition ∧ exits.least ≤ steps
  | .leaves => exits.leaves final.toPosition
  | .again => exits.again final.toPosition ∧ 0 < steps
  | .returns => final.next code decide = none
  | .exhausted => turns ≤ steps

/-- **A part is carried out** by a walk: what is executed of it is executed by the walk, which ends
at one of the exits. -/
def Carries (code : BlockRef → List Instruction) (decide : Nat → Bool) (turns : Nat)
    (walker : Walker) (passage : Passage) (exits : Exits) : Prop :=
  ∃ steps position,
    Walks code decide steps walker passage.trace ⟨position, passage.asked⟩ ∧
      exits.Permit code decide turns steps ⟨position, passage.asked⟩ passage.ending

namespace Carries

variable {turns : Nat} {walker : Walker} {passage : Passage} {exits : Exits}

/-- Exits may be described by less, and fewer turns may be counted. -/
theorem weaken {wider : Exits} {fewer : Nat}
    (carries : Carries code decide turns walker passage exits)
    (falls : ∀ position, exits.falls position → wider.falls position)
    (leaves : ∀ position, exits.leaves position → wider.leaves position)
    (again : ∀ position, exits.again position → wider.again position)
    (least : ∀ position, exits.falls position → wider.least ≤ exits.least)
    (counted : fewer ≤ turns) : Carries code decide fewer walker passage wider := by
  obtain ⟨steps, position, walks, permits⟩ := carries
  refine ⟨steps, position, walks, ?_⟩
  cases ending : passage.ending <;> rw [ending] at permits
  · exact ⟨falls _ permits.1, Nat.le_trans (least _ permits.1) permits.2⟩
  · exact leaves _ permits
  · exact ⟨again _ permits.1, permits.2⟩
  · exact permits
  · exact Nat.le_trans counted permits

/-- What is carried out behind a walk is carried out by a longer walk. -/
theorem behind {more : Nat} {trace : List Instruction} {between : Walker}
    (walks : Walks code decide more walker trace between)
    (carries : Carries code decide turns between passage exits) :
    Carries code decide (more + turns) walker (passage.behind trace)
      { exits with least := more + exits.least } := by
  obtain ⟨steps, position, further, permits⟩ := carries
  refine ⟨more + steps, position, walks.trans further, ?_⟩
  dsimp only [Passage.behind]
  cases ending : passage.ending <;> rw [ending] at permits
  · exact ⟨permits.1, Nat.add_le_add_left permits.2 more⟩
  · exact permits
  · exact ⟨permits.1, Nat.add_pos_right more permits.2⟩
  · exact permits
  · exact Nat.add_le_add_left permits more

variable {next : Nat → Passage} {further : Exits}

/-- **One part behind another one** is carried out if both are, one where the other one ends. -/
theorem andThen (further : Exits) (carries : Carries code decide turns walker passage exits)
    (second : ∀ position, exits.falls position →
      Carries code decide turns ⟨position, passage.asked⟩ (next passage.asked) further)
    (leaves : ∀ position, exits.leaves position → further.leaves position)
    (again : ∀ position, exits.again position → further.again position) :
    Carries code decide turns walker (passage.andThen next)
      { further with least := exits.least + further.least } := by
  obtain ⟨ending, asked, trace⟩ := passage
  obtain ⟨steps, position, walks, permits⟩ := carries
  -- The second part is carried out only if the first one ends where it begins.
  cases ending with
  | falls =>
      obtain ⟨falls, enough⟩ := permits
      exact ((second position falls).behind walks).weaken (fun _ => id) (fun _ => id) (fun _ => id)
        (fun _ _ => Nat.add_le_add_right enough _) (Nat.le_add_left turns steps)
  | leaves => exact ⟨steps, position, walks, leaves position permits⟩
  | again => exact ⟨steps, position, walks, again position permits.1, permits.2⟩
  | returns => exact ⟨steps, position, walks, permits⟩
  | exhausted => exact ⟨steps, position, walks, permits⟩

/-- A part is carried out further if the walk goes on without executing anything. -/
theorem goOn {next : Position} (more : Nat) (wider : Exits)
    (carries : Carries code decide turns walker passage exits)
    (walks : ∀ position, exits.falls position →
      Walks code decide more ⟨position, passage.asked⟩ [] ⟨next, passage.asked⟩)
    (falls : wider.falls next) (leaves : ∀ position, exits.leaves position → wider.leaves position)
    (again : ∀ position, exits.again position → wider.again position)
    (least : wider.least ≤ exits.least + more) :
    Carries code decide turns walker passage wider := by
  obtain ⟨ending, asked, trace⟩ := passage
  obtain ⟨steps, position, upTo, permits⟩ := carries
  cases ending with
  | falls =>
      have whole := upTo.trans (walks position permits.1)
      rw [List.append_nil] at whole
      exact ⟨steps + more, next, whole, falls,
        Nat.le_trans least (Nat.add_le_add_right permits.2 more)⟩
  | leaves => exact ⟨steps, position, upTo, leaves position permits⟩
  | again => exact ⟨steps, position, upTo, again position permits.1, permits.2⟩
  | returns => exact ⟨steps, position, upTo, permits⟩
  | exhausted => exact ⟨steps, position, upTo, permits⟩

/-- One part is also carried out behind another one whose turn is over, if it is carried out where
the turn is over. -/
theorem onward (further : Exits) (carries : Carries code decide turns walker passage exits)
    (second : ∀ position, exits.falls position ∨ exits.again position →
      Carries code decide turns ⟨position, passage.asked⟩ (next passage.asked) further)
    (leaves : ∀ position, exits.leaves position → further.leaves position) :
    Carries code decide turns walker (passage.onward next)
      { further with least := min 1 exits.least + further.least } := by
  obtain ⟨ending, asked, trace⟩ := passage
  obtain ⟨steps, position, walks, permits⟩ := carries
  have goes_on (here : exits.falls position ∨ exits.again position)
      (enough : min 1 exits.least ≤ steps) :
      Carries code decide turns walker ((next asked).behind trace)
        { further with least := min 1 exits.least + further.least } :=
    ((second position here).behind walks).weaken (fun _ => id) (fun _ => id) (fun _ => id)
      (fun _ _ => Nat.add_le_add_right enough _) (Nat.le_add_left turns steps)
  cases ending with
  | falls => exact goes_on (.inl permits.1) (Nat.le_trans (Nat.min_le_right 1 _) permits.2)
  | again => exact goes_on (.inr permits.1) (Nat.le_trans (Nat.min_le_left 1 _) permits.2)
  | leaves => exact ⟨steps, position, walks, leaves position permits⟩
  | returns => exact ⟨steps, position, walks, permits⟩
  | exhausted => exact ⟨steps, position, walks, permits⟩

/-- A part that ends where a turn is over, at least one step further, ends the turn. -/
theorem turned (carries : Carries code decide turns walker passage exits) (least : 0 < exits.least)
    (again : ∀ position, exits.falls position → further.again position)
    (agains : ∀ position, exits.again position → further.again position)
    (leaves : ∀ position, exits.leaves position → further.leaves position) :
    Carries code decide turns walker passage.turned further := by
  obtain ⟨ending, asked, trace⟩ := passage
  obtain ⟨steps, position, walks, permits⟩ := carries
  cases ending with
  | falls =>
      exact ⟨steps, position, walks, again position permits.1, Nat.lt_of_lt_of_le least permits.2⟩
  | again => exact ⟨steps, position, walks, agains position permits.1, permits.2⟩
  | leaves => exact ⟨steps, position, walks, leaves position permits⟩
  | returns => exact ⟨steps, position, walks, permits⟩
  | exhausted => exact ⟨steps, position, walks, permits⟩

/-- **Turns** are carried out if each of them is, from where it begins. -/
theorem repeatedly (exits : Exits) {start : Position} {once : Nat → Passage}
    (carries : ∀ asked, Carries code decide turns ⟨start, asked⟩ (once asked) exits)
    (again : ∀ position, exits.again position → position = start) (asked : Nat) :
    Carries code decide turns ⟨start, asked⟩ (Passage.repeatedly once turns asked)
      { exits with again := fun _ => False } := by
  -- The induction is on how many turns are followed, which may be fewer than are counted.
  suffices goal : ∀ fewer, fewer ≤ turns → ∀ asked,
      Carries code decide fewer ⟨start, asked⟩ (Passage.repeatedly once fewer asked)
        { exits with again := fun _ => False } from goal turns (Nat.le_refl turns) asked
  intro fewer
  induction fewer with
  | zero => exact fun _ asked => ⟨0, start, .stay _, Nat.le_refl 0⟩
  | succ fewer ih =>
      intro counted asked
      have first := carries asked
      rw [Passage.repeatedly]
      generalize once asked = passage at first
      obtain ⟨ending, seen, trace⟩ := passage
      obtain ⟨steps, position, walks, permits⟩ := first
      cases ending with
      | falls => exact ⟨steps, position, walks, permits⟩
      | leaves => exact ⟨steps, position, walks, permits⟩
      | returns => exact ⟨steps, position, walks, permits⟩
      | exhausted => exact ⟨steps, position, walks, Nat.le_trans counted permits⟩
      | again =>
          obtain ⟨here, moved⟩ := permits
          obtain rfl := again position here
          refine ((ih (Nat.le_of_succ_le counted) seen).behind walks).weaken (fun _ => id)
            (fun _ => id) (fun _ => id) (fun _ _ => Nat.le_add_left _ steps) ?_
          rw [Nat.add_comm]
          exact Nat.add_le_add_right moved fewer

/-- A loop that is left is over. -/
theorem closed (carries : Carries code decide turns walker passage exits)
    (falls : ∀ position, exits.falls position → further.falls position)
    (leaves : ∀ position, exits.leaves position → further.falls position)
    (again : ∀ position, exits.again position → further.again position)
    (least : further.least = 0) : Carries code decide turns walker passage.closed further := by
  obtain ⟨ending, asked, trace⟩ := passage
  obtain ⟨steps, position, walks, permits⟩ := carries
  have enough : further.least ≤ steps := least ▸ Nat.zero_le steps
  cases ending with
  | falls => exact ⟨steps, position, walks, falls position permits.1, enough⟩
  | leaves => exact ⟨steps, position, walks, leaves position permits, enough⟩
  | again => exact ⟨steps, position, walks, again position permits.1, permits.2⟩
  | returns => exact ⟨steps, position, walks, permits⟩
  | exhausted => exact ⟨steps, position, walks, permits⟩

/-- **A loop** is carried out from its header if its parts are, each from where the one in front of
it ends, and if a turn takes at least one step. -/
theorem loop {compare body increment : Reading} {header middle onward exit : Position}
    {ofCompare ofBody ofIncrement : Nat}
    (compares : ∀ asked, Carries code decide turns ⟨header, asked⟩
      (compare.exec decide turns asked) ⟨(· = middle), (· = exit), (· = onward), ofCompare⟩)
    (acts : ∀ asked, Carries code decide turns ⟨middle, asked⟩
      (body.exec decide turns asked) ⟨(· = onward), (· = exit), (· = onward), ofBody⟩)
    (increments : ∀ asked, Carries code decide turns ⟨onward, asked⟩
      (increment.exec decide turns asked) ⟨(· = header), (· = exit), (· = onward), ofIncrement⟩)
    (moves : 0 < ofCompare + ofBody + ofIncrement) (asked : Nat) :
    Carries code decide turns ⟨header, asked⟩
      ((Reading.loop compare body increment).exec decide turns asked)
      ⟨(· = exit), fun _ => False, fun _ => False, 0⟩ := by
  refine (Carries.repeatedly ⟨fun _ => False, (· = exit), (· = header), 0⟩
    (fun asked => ?_) (fun _ => id) asked).closed (fun _ => False.elim) (fun _ => id) (fun _ => id) rfl
  -- The condition and the body end where the increment begins, also if a turn is cut short.
  have upTo := andThen ⟨(· = onward), (· = exit), (· = onward), ofBody⟩ (compares asked)
    (fun position here => here ▸ acts _) (fun _ => id) (fun _ => id)
  refine (Carries.onward ⟨(· = header), (· = exit), fun _ => False, ofIncrement⟩ upTo
    (fun position here => ?_) fun _ => id).turned ?_ (fun _ => id) (fun _ => False.elim) (fun _ => id)
  · obtain rfl := here.elim id id
    exact Carries.repeatedly _ increments (fun _ => id) _
  · dsimp only
    omega

/-- **A part of a reading that is all there is** is executed by a walk, and nothing else is: if the
walk ends where the part does, each has the beginnings that the other one has. -/
theorem trace_iff {reading : Reading} {start : Position} {exits : Exits}
    (carries : ∀ turns, Carries code decide turns ⟨start, 0⟩ (reading.exec decide turns 0) exits)
    (falls : ∀ position asked, exits.falls position →
      Walker.next code decide ⟨position, asked⟩ = none)
    (leaves : ∀ position, ¬ exits.leaves position) (again : ∀ position, ¬ exits.again position)
    (trace : List Instruction) :
    (∃ steps, trace <+: Walker.walk code decide steps ⟨start, 0⟩) ↔
      ∃ turns, trace <+: reading.trace decide turns := by
  constructor
  · rintro ⟨steps, begins⟩
    -- More turns than steps are more than enough: either the reading ends, and the walk with it, or
    -- the walk to its end is longer.
    refine ⟨steps, begins.trans ?_⟩
    obtain ⟨taken, position, walks, permits⟩ := carries steps
    have halted (halts : Walker.next code decide
          ⟨position, (reading.exec decide steps 0).asked⟩ = none) :
        Walker.walk code decide steps ⟨start, 0⟩ <+: reading.trace decide steps := by
      have whole := walks.walk_add steps
      rw [Walker.walk_of_next_eq_none halts, List.append_nil] at whole
      rw [Reading.trace, ← whole]
      exact Walker.walk_prefix _ (Nat.le_add_left steps taken)
    cases ending : (reading.exec decide steps 0).ending <;> rw [ending] at permits
    case falls => exact halted (falls position _ permits.1)
    case leaves => exact absurd permits (leaves position)
    case again => exact absurd permits.1 (again position)
    case returns => exact halted permits
    case exhausted =>
      have whole := walks.walk_add 0
      rw [Walker.walk, List.append_nil] at whole
      rw [Reading.trace, ← whole]
      exact Walker.walk_prefix _ permits
  · rintro ⟨turns, begins⟩
    obtain ⟨taken, position, walks, -⟩ := carries turns
    have whole := walks.walk_add 0
    rw [Walker.walk, List.append_nil] at whole
    exact ⟨taken, whole ▸ begins⟩

end Carries

end StructuredIR
