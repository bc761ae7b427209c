import StructuredIR.Proofs.Library.Aliases
import StructuredIR.Proofs.Library.Pooling

/-! # Allocation of pooled texts

A module may have any symbols when its pool begins, and further ones may be declared between two texts,
also under names like those of the pool.

* **`leastFree_isLeast`**: the search for a name ends, at the least number that makes the name free.
* **`Stock`** is a module with the pool of its strings, and a list of **`Stock.Event`** a history of what
  is asked of the pool and declared in the module.
* **`Stock.Allocates`** says what is done for a text: nothing if it is pooled, and else one constant is
  declared under the first name that is free.
* **`Stock.Keeps`** is what holds behind every history; **`Stock.Keeps.event`** is one step of it and
  **`Stock.Keeps.run`** a whole history.
* **`StringPool.allocates_soundly`**: behind every history the pool allocates in this way, texts have the same
  constant exactly if they are equal, each constant holds its text, and the texts are in the order of
  their first use. -/

namespace StructuredIR

/-! ## The search for a free name -/

/-- The numbers that make a base name free. -/
def freeNumbers (taken : List Key) (base : String) : Set Nat :=
  {number | 0 < number ∧ .text (numbered base number) ∉ taken}

/-- The number that is found is above the last one, and all numbers in between make names that are
taken. -/
theorem freeNumber_between (taken : List Key) (base : String) (last attempts : Nat) :
    last < freeNumber taken base last attempts ∧
      ∀ number, last < number → number < freeNumber taken base last attempts →
        .text (numbered base number) ∈ taken := by
  -- Each attempt that fails moves the last number by one, past a name that is taken.
  induction attempts generalizing last with
  | zero => exact ⟨Nat.lt_succ_self last, fun number above below => absurd below (by
      unfold freeNumber; omega)⟩
  | succ attempts ih =>
      unfold freeNumber
      split
      next known =>
        obtain ⟨above, between⟩ := ih (last + 1)
        refine ⟨by omega, fun number larger smaller => ?_⟩
        rcases Nat.lt_or_ge (last + 1) number with further | here
        · exact between number further smaller
        · obtain rfl : number = last + 1 := by omega
          exact List.contains_iff_mem.mp known
      next => exact ⟨Nat.lt_succ_self last, fun number larger smaller => by omega⟩

/-- **The search for a number ends at the least one that makes the name free.** -/
theorem leastFree_isLeast (taken : List Key) (base : String) :
    IsLeast (freeNumbers taken base) (leastFree taken base 0) := by
  obtain ⟨above, between⟩ := freeNumber_between taken base 0 taken.length
  refine ⟨⟨above, leastFree_free taken base 0⟩, fun number free => ?_⟩
  by_contra smaller
  exact free.2 (between number free.1 (Nat.lt_of_not_le smaller))

/-! ## Histories -/

/-- A module with the pool of its strings. -/
structure Stock where
  /-- The pool. -/
  pool : StringPool
  /-- The module. -/
  module : Module

namespace Stock

/-- What happens to a module with a pool. -/
inductive Event where
  /-- A text is asked for. -/
  | ask (text : Phrase)
  /-- Another symbol is declared. -/
  | declare (key : Key) (symbol : Symbol)

/-- What is left when a text has been asked for. -/
def asked (stock : Stock) (text : Phrase) : Stock :=
  ⟨(stock.pool.intern stock.module text).2.1, (stock.pool.intern stock.module text).2.2⟩

/-- The place of the constant that is given for a text. -/
def given (stock : Stock) (text : Phrase) : Nat :=
  (stock.pool.intern stock.module text).1

/-- What is left when a symbol has been declared, or has been refused. -/
def declared (stock : Stock) (key : Key) (symbol : Symbol) : Stock :=
  match stock.module.declare key symbol with
  | .ok module => { stock with module }
  | .error _ => stock

/-- What is left behind something that happens. -/
def behind (stock : Stock) : Event → Stock
  | .ask text => stock.asked text
  | .declare key symbol => stock.declared key symbol

/-- The text that is asked for, with the place of the constant that is given for it. -/
def answer (stock : Stock) : Event → List (String × Nat)
  | .ask text => [(text.content, stock.given text)]
  | .declare .. => []

/-- What is left behind a history. -/
def run (stock : Stock) (history : List Event) : Stock :=
  history.foldl behind stock

/-- The texts that are asked for in a history, each with the place of the constant that is given for
it. -/
def answers (stock : Stock) : List Event → List (String × Nat)
  | [] => []
  | event :: history => stock.answer event ++ (stock.behind event).answers history

/-- The name that a new text gets: the stem and the number of texts before it, with the least number
that makes the name free if that one is taken. -/
def IsNext (stock : Stock) (name : String) : Prop :=
  let taken := stock.module.symbols.keys
  let base := stock.pool.stem ++ ".str." ++ toString stock.pool.entries.length
  if .text base ∈ taken then
    ∃ number, IsLeast (freeNumbers taken base) number ∧ name = base ++ "." ++ toString number
  else name = base

/-- **What is done for a text**: a pooled one leaves everything as it is; for a new one a constant that
holds it is declared behind all symbols, under a name that is free. -/
structure Allocates (stock : Stock) (text : Phrase) : Prop where
  /-- A pooled text adds nothing. -/
  known : text.content ∈ stock.pool.entries.keys → stock.asked text = stock
  /-- A new text adds one constant. -/
  new : text.content ∉ stock.pool.entries.keys →
    ∃ name, stock.IsNext name ∧ .text name ∉ stock.module.symbols.keys ∧
      stock.given text = stock.module.symbols.length ∧
        stock.module.declare (.text name)
            ⟨.text name, .global (StringPool.constant text.content)⟩ =
          .ok (stock.asked text).module

variable {stock : Stock}

/-- A pooled text leaves everything as it is. -/
theorem asked_known {text : Phrase} {pooled : PooledText}
    (found : stock.pool.entries.get? text.content = some pooled) :
    stock.asked text = stock ∧ stock.given text = pooled.place := by
  simp only [asked, given, StringPool.intern, found, and_self]

/-- A new text comes up behind all symbols and behind all texts. -/
theorem asked_new {text : Phrase} (missing : stock.pool.entries.get? text.content = none) :
    stock.asked text =
        ⟨{ stock.pool with entries := stock.pool.entries ++
            [(text.content, ⟨text, stock.module.symbols.length⟩)] },
          stock.module.append (.text (stock.pool.nextName stock.module.symbols.keys))
            ⟨.text (stock.pool.nextName stock.module.symbols.keys),
              .global (StringPool.constant text.content)⟩⟩ ∧
      stock.given text = stock.module.symbols.length := by
  simp only [asked, given, StringPool.intern, missing, Module.append, and_self]

/-- The name that the pool chooses is the next one. -/
theorem isNext_nextName (stock : Stock) :
    stock.IsNext (stock.pool.nextName stock.module.symbols.keys) := by
  unfold IsNext StringPool.nextName
  simp only [List.contains_iff_mem]
  split
  next => exact ⟨_, leastFree_isLeast _ _, rfl⟩
  next => rfl

/-- **Every text is allocated**, whatever is in the module and in the pool. -/
theorem allocates (stock : Stock) (text : Phrase) : stock.Allocates text where
  known member := by
    cases found : stock.pool.entries.get? text.content with
    | some pooled => exact (asked_known found).1
    | none => exact absurd member (Dictionary.get?_eq_none.mp found)
  new missing := by
    obtain ⟨same, given⟩ := asked_new (Dictionary.get?_eq_none.mpr missing)
    obtain ⟨free, named⟩ := stock.pool.nextName_free stock.module.symbols.keys
    refine ⟨_, isNext_nextName stock, free, given, ?_⟩
    have accepted : ¬(Key.text (stock.pool.nextName stock.module.symbols.keys) = .text "" ∨
        stock.module.symbols.holds (.text (stock.pool.nextName stock.module.symbols.keys)) =
          true) := by
      rw [not_or, Dictionary.holds_iff]
      exact ⟨fun empty => named (Key.text.inj empty), free⟩
    rw [same, Module.declare, if_neg accepted]
    rfl

/-! ## What holds behind a history -/

/-- A library that has the module and the pool, and lists nothing. -/
def library (stock : Stock) : Library :=
  { (default : Library) with pool := stock.pool, module := stock.module, globals := [] }

/-- **What holds behind a history** in which texts were given constants. -/
structure Keeps (stock : Stock) (answers : List (String × Nat)) : Prop where
  /-- Different texts have different constants, and these hold them. -/
  pools : stock.library.PoolsTexts
  /-- The pooled texts are those that were asked for, in the order of first use. -/
  keys : stock.pool.entries.keys = (answers.map Prod.fst).eraseDups
  /-- What was given for a text is what the pool has for it. -/
  entry : ∀ answer ∈ answers, ∃ pooled,
    (answer.1, pooled) ∈ stock.pool.entries ∧ pooled.place = answer.2

namespace Keeps

variable {answers : List (String × Nat)}

/-- A pool without texts has given none. -/
theorem empty (stem : String) (module : Module) : Keeps ⟨.empty stem, module⟩ [] where
  pools := .of_nil rfl
  keys := rfl
  entry := nofun

/-- A text is asked for. -/
theorem ask (keeps : stock.Keeps answers) (text : Phrase) :
    (stock.asked text).Keeps (answers ++ [(text.content, stock.given text)]) where
  pools := keeps.pools.intern text
  keys := by
    have keys := keeps.keys
    rw [List.map_append, List.eraseDups_append, ← keys]
    -- A text that was asked for before is dropped as a duplicate, just as the pool drops it.
    cases found : stock.pool.entries.get? text.content with
    | some pooled =>
        have member : text.content ∈ answers.map Prod.fst := by
          rw [← List.mem_eraseDups, ← keys]
          exact Dictionary.mem_keys_of_get?_eq_some found
        rw [(asked_known found).1]
        simp [List.removeAll, member]
    | none =>
        have missing : text.content ∉ answers.map Prod.fst := by
          rw [← List.mem_eraseDups, ← keys]
          exact Dictionary.get?_eq_none.mp found
        rw [(asked_new found).1]
        simp [List.removeAll, missing, Dictionary.keys, List.eraseDups_cons]
  entry answer member := by
    cases found : stock.pool.entries.get? text.content with
    | some pooled =>
        obtain ⟨same, given⟩ := asked_known found
        rw [same]
        rcases List.mem_append.mp member with before | now
        · exact keeps.entry answer before
        · obtain rfl := List.mem_singleton.mp now
          exact ⟨pooled, Dictionary.mem_of_get?_eq_some found, given.symm⟩
    | none =>
        obtain ⟨same, given⟩ := asked_new found
        rw [same]
        rcases List.mem_append.mp member with before | now
        · obtain ⟨pooled, known, place⟩ := keeps.entry answer before
          exact ⟨pooled, List.mem_append_left _ known, place⟩
        · obtain rfl := List.mem_singleton.mp now
          exact ⟨_, List.mem_append_right _ (List.mem_singleton_self _), given.symm⟩

/-- Another symbol is declared. -/
theorem declare (keeps : stock.Keeps answers) (key : Key) (symbol : Symbol) :
    (stock.declared key symbol).Keeps answers := by
  unfold declared
  split
  next module done =>
    obtain rfl := Module.declare_eq_ok done
    exact ⟨keeps.pools.spared (.append stock.library key symbol), keeps.keys, keeps.entry⟩
  next => exact keeps

/-- **One step of a history.** -/
theorem event (keeps : stock.Keeps answers) (event : Event) :
    (stock.behind event).Keeps (answers ++ stock.answer event) := by
  cases event with
  | ask text => exact keeps.ask text
  | declare key symbol =>
      rw [answer, List.append_nil]
      exact keeps.declare key symbol

/-- **A whole history.** -/
theorem run (keeps : stock.Keeps answers) (history : List Event) :
    (stock.run history).Keeps (answers ++ stock.answers history) := by
  induction history generalizing stock answers with
  | nil => rwa [Stock.answers, List.append_nil]
  | cons event history ih =>
      have further := ih (keeps.event event)
      rwa [List.append_assoc] at further

/-- **Texts were given the same constant exactly if they are equal.** -/
theorem place_eq_iff (keeps : stock.Keeps answers) {first second : String × Nat}
    (one : first ∈ answers) (other : second ∈ answers) :
    first.2 = second.2 ↔ first.1 = second.1 := by
  obtain ⟨pooled, member, place⟩ := keeps.entry first one
  obtain ⟨pooledToo, memberToo, placeToo⟩ := keeps.entry second other
  rw [← place, ← placeToo]
  constructor
  · intro same
    exact congrArg (fun entry => entry.1) (keeps.pools.distinct member memberToo same)
  · intro same
    rw [same] at member
    rw [Dictionary.eq_of_mem keeps.pools.keys member memberToo]

/-- What was given for a text holds it. -/
theorem holds (keeps : stock.Keeps answers) {answer : String × Nat} (member : answer ∈ answers) :
    ∃ global, stock.module.global? answer.2 = some global ∧ global.HoldsText answer.1 := by
  obtain ⟨pooled, known, place⟩ := keeps.entry answer member
  obtain ⟨global, found, -, holds⟩ := keeps.pools.holds known
  exact ⟨global, place ▸ found, holds nofun⟩

end Keeps

end Stock

/-- **String pools allocate soundly**, whatever the module has, whatever the names of the pool begin with
and whatever has been asked and declared so far. The next text gets a constant under a free name, which
the search finds, unless it has one. The texts that were asked for have the same constant exactly if
they are equal, each constant holds the bytes of its text and a zero byte, and the pool lists the texts
in the order of first use. -/
theorem StringPool.allocates_soundly (stem : String) (module : Module) (history : List Stock.Event) :
    let stock := Stock.run ⟨.empty stem, module⟩ history
    let answers := Stock.answers ⟨.empty stem, module⟩ history
    (∀ text, stock.Allocates text) ∧
      (∀ first ∈ answers, ∀ second ∈ answers, first.2 = second.2 ↔ first.1 = second.1) ∧
      (∀ answer ∈ answers, ∃ global,
        stock.module.global? answer.2 = some global ∧ global.HoldsText answer.1) ∧
      stock.pool.entries.keys = (answers.map Prod.fst).eraseDups := by
  have keeps := (Stock.Keeps.empty stem module).run history
  rw [List.nil_append] at keeps
  exact ⟨Stock.allocates _, fun _ one _ other => keeps.place_eq_iff one other,
    fun _ member => keeps.holds member, keeps.keys⟩

end StructuredIR
