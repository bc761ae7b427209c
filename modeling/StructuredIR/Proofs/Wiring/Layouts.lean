import StructuredIR.Proofs.Wiring.Parts

/-! # The blocks of loops

Before any part of a loop is built its blocks are laid.

* **`Construction.Lays`** says that blocks have been laid one behind the other, and that nothing else
  has happened.
* **`Construction.Enters`** says where the turns of a loop begin: at the block at which the generator is
  if that is empty and not the entry, and at a new one otherwise, to which there is a branch.
* **`PlacedAt`** says where a part of a loop begins: where the turns begin if the part is the first one,
  and at a new block otherwise. -/

namespace StructuredIR

open Build (Leads bind_eq_ok get_eq_ok map_eq_ok modify_eq_ok pure_eq_ok)
open Generator (blockValue)

/-- **Where a part of a loop begins**, if it is there: at the header if no part comes before it, and
otherwise at a block that is laid for it. -/
inductive PlacedAt (header : BlockRef) (isThere isLater : Bool) :
    Option BlockRef → List BlockRef → Prop where
  /-- The part is not there. -/
  | absent : isThere = false → PlacedAt header isThere isLater none []
  /-- The part begins at the header. -/
  | header : isThere = true → isLater = false → PlacedAt header isThere isLater (some header) []
  /-- The part begins at a block of its own. -/
  | anew (block : BlockRef) : isThere = true → isLater = true →
      PlacedAt header isThere isLater (some block) [block]

namespace PlacedAt

variable {header : BlockRef} {isThere isLater : Bool} {block? : Option BlockRef}
  {laid : List BlockRef}

/-- A part begins somewhere if it is there. -/
theorem isSome_eq (placed : PlacedAt header isThere isLater block? laid) : block?.isSome = isThere := by
  cases placed with
  | absent missing => exact missing.symm
  | header there => exact there.symm
  | anew block there => exact there.symm

/-- A part begins at the header or at what is laid for it. -/
theorem mem (placed : PlacedAt header isThere isLater block? laid) {block : BlockRef}
    (begins : block? = some block) : block ∈ header :: laid := by
  cases placed with
  | absent => cases begins
  | header =>
      cases begins
      exact List.mem_cons_self
  | anew block =>
      cases begins
      exact List.mem_cons_of_mem header (List.mem_singleton_self block)

/-- **No two parts of a loop begin at the same block**: of those that are there only the first one begins
at the header. -/
theorem nodup_starts {hasBody hasCompare hasIncrement : Bool} {body? increment? : Option BlockRef}
    {forBody forIncrement : List BlockRef}
    (body : PlacedAt header hasBody hasCompare body? forBody)
    (increment : PlacedAt header hasIncrement (hasBody || hasCompare) increment? forIncrement)
    (distinct : (header :: (forBody ++ forIncrement)).Nodup) :
    (body?.toList ++ (if hasCompare then [header] else []) ++ increment?.toList).Nodup := by
  -- Two parts at the header would each have to be the first one.
  cases body with
  | absent missing =>
      cases increment with
      | absent => cases hasCompare <;> simp
      | header _ first => simp_all
      | anew block => cases hasCompare <;> simp_all
  | header there first =>
      cases increment with
      | absent => simp_all
      | header _ later => simp_all
      | anew block => simp_all
  | anew own there later =>
      cases increment with
      | absent => simp_all [eq_comm]
      | header _ first => simp_all
      | anew block => simp_all [eq_comm]

end PlacedAt

/-- **Where a loop ends**: at what is given, or at a block that is laid for that. -/
inductive EndsAt (given : Value) : Value → List BlockRef → Prop where
  /-- The loop ends at what is given. -/
  | given : given.isGiven = true → EndsAt given given []
  /-- It ends at a new block. -/
  | anew (block : BlockRef) : given.isGiven = false → EndsAt given (blockValue block) [block]

/-- A loop whose exit is not given ends at a block that is laid for that. -/
theorem EndsAt.exists_block {given exit : Value} {laid : List BlockRef} (ends : EndsAt given exit laid)
    (free : ¬ given.isGiven = true) : ∃ block, exit = blockValue block ∧ block ∈ laid := by
  cases ends with
  | given isGiven => exact absurd isGiven free
  | anew block => exact ⟨block, rfl, List.mem_singleton_self block⟩

namespace Construction

variable (site : Construction)

/-- **Blocks have been laid** behind all others, and nothing else has happened. -/
structure Lays (before : World) (laid : List BlockRef) (after : World) : Prop
    extends site.Progress nothing nothing before after where
  /-- No instruction has changed. -/
  rows (block : BlockRef) : after.row block = before.row block
  /-- The blocks are new. -/
  fresh (block : BlockRef) : block ∈ laid → site.IsNew before block
  /-- They are there now. -/
  has_laid (block : BlockRef) : block ∈ laid → after.Has block
  /-- No two of them are the same. -/
  nodup : laid.Nodup
  /-- They are behind all others. -/
  order : after.order site.symbol = before.order site.symbol ++ laid.map BlockRef.place

/-- **The turns of a loop begin** at a header: at the block at which the generator is if that is empty
and not the entry, and at a new one otherwise. -/
structure Enters (before : World) (here header : BlockRef) (laid : List BlockRef) (after : World) :
    Prop where
  /-- The block is reused if it may be. -/
  reuses : header = here ↔ before.row here = [] ∧ site.entry? ≠ some here
  /-- Otherwise a new one is laid. -/
  lays : laid = if header = here then [] else [header]
  /-- There is a branch to it. -/
  ends : header ≠ here → after.EndsBy here (.branch (blockValue header))
  /-- Of what was there only the block has changed. -/
  progress : site.Progress nothing (· = here) before after
  /-- There are no other terminators. -/
  endings (block : BlockRef) : after.endings block = before.endings block ++
    if block = here ∧ header ≠ here then [.branch (blockValue header)] else []
  /-- The header is there. -/
  has : after.Has header
  /-- What has been laid is new. -/
  fresh (block : BlockRef) : block ∈ laid → site.IsNew before block
  /-- It is there now. -/
  has_laid (block : BlockRef) : block ∈ laid → after.Has block
  /-- It is behind all others. -/
  order : after.order site.symbol = before.order site.symbol ++ laid.map BlockRef.place

variable {site} {before middle after : World} {place : GeneratorId}

/-! ## Laying blocks -/

/-- Nothing has been laid. -/
theorem Holds.laysNothing (holds : site.Holds before) : site.Lays before [] before where
  toProgress := holds.refl
  rows _ := rfl
  fresh _ member := absurd member List.not_mem_nil
  has_laid _ member := absurd member List.not_mem_nil
  nodup := List.nodup_nil
  order := (List.append_nil _).symm

/-- Blocks have been laid behind blocks that have been laid. -/
theorem Lays.append {laid further : List BlockRef} (first : site.Lays before laid middle)
    (second : site.Lays middle further after) : site.Lays before (laid ++ further) after where
  toProgress := first.toProgress.idly second.toProgress
  rows block := (second.rows block).trans (first.rows block)
  fresh block member := by
    rcases List.mem_append.mp member with old | new
    · exact first.fresh block old
    · exact first.toProgress.isNew (second.fresh block new)
  has_laid block member := by
    rcases List.mem_append.mp member with old | new
    · exact second.toProgress.has (first.has_laid block old)
    · exact second.has_laid block new
  nodup := by
    refine List.nodup_append.mpr ⟨first.nodup, second.nodup, fun block old other new same => ?_⟩
    exact (second.fresh other new).not_has (same ▸ first.has_laid block old)
  order := by
    rw [second.order, first.order, List.map_append, List.append_assoc]

/-- A block is added by name. -/
theorem Holds.lays (holds : site.Holds before) {name : String} {block : BlockRef}
    (run : Function.appendNamed site.reference name before = .ok block after) :
    site.Lays before [block] after := by
  obtain ⟨rfl, adds⟩ := holds.appendNamed_ok run
  obtain ⟨progress, known⟩ := holds.addsBlock adds
  refine ⟨progress, adds.row, fun block member => ?_, fun block member => ?_, List.nodup_singleton _, ?_⟩
  · rw [List.mem_singleton.mp member]
    exact isNew_next before
  · rw [List.mem_singleton.mp member]
    exact known
  · rw [adds.order, if_pos rfl]
    rfl

/-- Where the body of a loop begins. -/
theorem Holds.bodyBlock (holds : site.Holds before) {header : BlockRef}
    {parts : Generator.LoopParts} {block? : Option BlockRef}
    (run : Generator.bodyBlock site.reference header parts before = .ok block? after) :
    ∃ laid, PlacedAt header parts.body.isSome parts.compare.isSome block? laid ∧
      site.Lays before laid after := by
  obtain ⟨compare, increment, body⟩ := parts
  cases body with
  | none =>
      obtain ⟨rfl, rfl⟩ := pure_eq_ok.mp run
      exact ⟨[], .absent rfl, holds.laysNothing⟩
  | some body =>
      cases compare with
      | none =>
          obtain ⟨rfl, rfl⟩ := pure_eq_ok.mp run
          exact ⟨[], .header rfl rfl, holds.laysNothing⟩
      | some compare =>
          obtain ⟨block, appending, rfl⟩ := map_eq_ok.mp run
          exact ⟨[block], .anew block rfl rfl, holds.lays appending⟩

/-- Where the increment of a loop begins. -/
theorem Holds.incrementBlock (holds : site.Holds before) {header : BlockRef}
    {parts : Generator.LoopParts} {block? : Option BlockRef}
    (run : Generator.incrementBlock site.reference header parts before = .ok block? after) :
    ∃ laid, PlacedAt header parts.increment.isSome (parts.body.isSome || parts.compare.isSome)
        block? laid ∧
      site.Lays before laid after := by
  obtain ⟨compare, increment, body⟩ := parts
  cases increment with
  | none =>
      obtain ⟨rfl, rfl⟩ := pure_eq_ok.mp run
      exact ⟨[], .absent rfl, holds.laysNothing⟩
  | some increment =>
      by_cases first : (body.isNone && compare.isNone) = true
      · have run : (if (body.isNone && compare.isNone) = true then pure (some header)
            else some <$> Function.appendNamed site.reference "increment" : Build _) before =
              .ok block? after := run
        rw [if_pos first] at run
        obtain ⟨rfl, rfl⟩ := pure_eq_ok.mp run
        obtain ⟨noBody, noCompare⟩ := Bool.and_eq_true_iff.mp first
        refine ⟨[], .header rfl ?_, holds.laysNothing⟩
        rw [Option.isNone_iff_eq_none.mp noBody, Option.isNone_iff_eq_none.mp noCompare]
        rfl
      · have run : (if (body.isNone && compare.isNone) = true then pure (some header)
            else some <$> Function.appendNamed site.reference "increment" : Build _) before =
              .ok block? after := run
        rw [if_neg first] at run
        obtain ⟨block, appending, rfl⟩ := map_eq_ok.mp run
        refine ⟨[block], .anew block rfl ?_, holds.lays appending⟩
        cases body with
        | some body => rfl
        | none =>
            cases compare with
            | some compare => rfl
            | none => exact absurd rfl first

/-- Where a loop ends. -/
theorem Holds.loopEnd (holds : site.Holds before) {given exit : Value}
    (run : Generator.loopEnd site.reference given before = .ok exit after) :
    ∃ laid, EndsAt given exit laid ∧ site.Lays before laid after := by
  unfold Generator.loopEnd at run
  cases isGiven : given.isGiven with
  | true =>
      rw [isGiven, if_pos rfl] at run
      obtain ⟨rfl, rfl⟩ := pure_eq_ok.mp run
      exact ⟨[], .given isGiven, holds.laysNothing⟩
  | false =>
      rw [isGiven, if_neg Bool.false_ne_true] at run
      obtain ⟨block, appending, rfl⟩ := map_eq_ok.mp run
      exact ⟨[block], .anew block isGiven, holds.lays appending⟩

/-- **The blocks of a loop**, besides its header. -/
theorem Holds.loopBlocks (holds : site.Holds before) {header : BlockRef}
    {parts : Generator.LoopParts} {given : Value} {blocks : Generator.LoopBlocks}
    (run : Generator.loopBlocks site.reference header parts given before = .ok blocks after) :
    blocks.header = header ∧ ∃ body increment exit,
      PlacedAt header parts.body.isSome parts.compare.isSome blocks.body body ∧
      PlacedAt header parts.increment.isSome (parts.body.isSome || parts.compare.isSome)
        blocks.increment increment ∧
      EndsAt given blocks.exit exit ∧ site.Lays before (body ++ increment ++ exit) after := by
  obtain ⟨body?, bodied, laying, run⟩ := bind_eq_ok.mp run
  obtain ⟨increment?, incremented, continuing, run⟩ := bind_eq_ok.mp run
  obtain ⟨exit, ended, ending, run⟩ := bind_eq_ok.mp run
  obtain ⟨rfl, rfl⟩ := pure_eq_ok.mp run
  obtain ⟨body, bodyAt, bodyLaid⟩ := holds.bodyBlock laying
  obtain ⟨increment, incrementAt, incrementLaid⟩ := bodyLaid.holds.incrementBlock continuing
  obtain ⟨exits, endsAt, exitLaid⟩ := incrementLaid.holds.loopEnd ending
  exact ⟨rfl, body, increment, exits, bodyAt, incrementAt, endsAt,
    (bodyLaid.append incrementLaid).append exitLaid⟩

/-! ## The header -/

/-- **Where the turns of a loop begin.** -/
theorem Hosts.loopHeader (hosts : site.Hosts before place) {header : BlockRef}
    (run : Generator.loopHeader place site.reference before = .ok header after) :
    ∃ here laid, (before.generator place).block = blockValue here ∧
      site.Enters before here header laid after := by
  obtain ⟨here, _, positioned, run⟩ := bind_eq_ok.mp run
  obtain ⟨seen, _, looked, positioned⟩ := bind_eq_ok.mp positioned
  obtain ⟨rfl, rfl⟩ := get_eq_ok.mp looked
  cases stands : (before.generator place).block.block? with
  | none =>
      rw [stands] at positioned
      cases positioned
  | some known =>
      rw [stands] at positioned
      cases positioned
      have stands := Value.eq_of_block?_eq_some stands
      obtain ⟨seen, _, looked, run⟩ := bind_eq_ok.mp run
      obtain ⟨rfl, rfl⟩ := get_eq_ok.mp looked
      obtain ⟨seen, _, looked, run⟩ := bind_eq_ok.mp run
      obtain ⟨rfl, rfl⟩ := get_eq_ok.mp looked
      rw [hosts.entry] at run
      by_cases reused : ((before.block here).instructions.isEmpty && site.entry? != some here) = true
      · -- The block becomes the header, and nothing happens.
        rw [if_pos reused] at run
        obtain ⟨rfl, rfl⟩ := pure_eq_ok.mp run
        obtain ⟨isEmpty, apart⟩ := Bool.and_eq_true_iff.mp reused
        refine ⟨here, [], stands,
          ⟨fun _ => ⟨List.isEmpty_iff.mp isEmpty, bne_iff_ne.mp apart⟩, fun _ => rfl⟩,
          (if_pos rfl).symm, fun other => absurd rfl other, hosts.toHolds.refl, fun block => ?_,
          hosts.standing _ stands,
          fun _ member => absurd member List.not_mem_nil,
          fun _ member => absurd member List.not_mem_nil, (List.append_nil _).symm⟩
        rw [if_neg fun claimed => claimed.2 rfl, List.append_nil]
      · -- The header is a new block, and so another one than the one that leads there.
        rw [if_neg reused] at run
        obtain ⟨header, added, appending, run⟩ := bind_eq_ok.mp run
        obtain ⟨value, emitted, emitting, run⟩ := bind_eq_ok.mp run
        obtain ⟨rfl, rfl⟩ := pure_eq_ok.mp run
        have lays := hosts.toHolds.lays appending
        have same := lays.generator place hosts.inside id
        obtain ⟨ends, progress, frame, endings⟩ :=
          (hosts.later lays.toProgress id).endsBy_emit (same ▸ stands) rfl emitting
        have apart : header ≠ here := fun same =>
          (lays.fresh header (List.mem_singleton_self _)).not_has (same ▸ hosts.standing here stands)
        refine ⟨here, [header], stands,
          ⟨fun same => absurd same apart, fun claimed => absurd ?_ reused⟩, (if_neg apart).symm,
          fun _ => ends,
          (lays.toProgress.weaken (fun _ _ => id) fun _ _ => False.elim).trans progress
            (fun _ _ => id) fun _ _ => id, fun block => ?_,
          progress.has (lays.has_laid header (List.mem_singleton_self _)), lays.fresh,
          fun block member => progress.has (lays.has_laid block member), ?_⟩
        · exact Bool.and_eq_true_iff.mpr ⟨List.isEmpty_iff.mpr claimed.1, bne_iff_ne.mpr claimed.2⟩
        · rw [endings, World.endings, lays.rows, ← World.endings]
          by_cases same : block = here
          · rw [if_pos same, if_pos ⟨same, apart⟩]
          · rw [if_neg same, if_neg fun claimed => same claimed.1]
        · exact (frame.order _).trans lays.order

end Construction

end StructuredIR
