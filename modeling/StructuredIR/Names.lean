import StructuredIR.Key

/-! # Fresh names

Names are made distinct by a number after a period. The numbers of each base name are counted on,
so that a number is never tried twice, and names that are taken are passed over. -/

namespace StructuredIR

/-- A base name with a number. -/
def numbered (base : String) (number : Nat) : String :=
  base ++ "." ++ toString number

/-- The least number above `last` that makes a base name free, looking at `attempts` numbers. -/
def freeNumber (taken : List Key) (base : String) (last : Nat) : (attempts : Nat) → Nat
  | 0 => last + 1
  | attempts + 1 =>
      if taken.contains (.text (numbered base (last + 1))) then
        freeNumber taken base (last + 1) attempts
      else last + 1

/-- The least number above `last` that makes a base name free: as many attempts suffice as there
are names taken. -/
def leastFree (taken : List Key) (base : String) (last : Nat) : Nat :=
  freeNumber taken base last taken.length

/-- The names of a routine. -/
structure Names where
  /-- The names that are taken. -/
  taken : List Key
  /-- The last number given to each base name. -/
  counters : List (Key × Nat)
  deriving DecidableEq, Repr

namespace Names

/-- Only the empty name is taken. -/
def initial : Names :=
  ⟨[.text ""], []⟩

instance : Inhabited Names :=
  ⟨initial⟩

/-- The last number given to a base name. -/
def counter (names : Names) (base : Key) : Nat :=
  (names.counters.lookup base).getD 0

/-- Takes a name: the base name of a key if it is free, and else, as is then given, the text of the
base name with the next free number. -/
def take (names : Names) (base : Key) (text : String) : Option String × Names :=
  if names.taken.contains base then
    let number := leastFree names.taken text (names.counter base)
    let name := numbered text number
    (some name, ⟨.text name :: names.taken, (base, number) :: names.counters⟩)
  else (none, ⟨base :: names.taken, names.counters⟩)

/-- A name that is not taken yet: a text itself if it is free, and else the text with the next
free number. -/
def fresh (names : Names) (base : String) : String × Names :=
  let taken := names.take (.text base) base
  (taken.1.getD base, taken.2)

/-- A fresh name is taken from then on. -/
theorem fst_mem_taken_fresh (names : Names) (base : String) :
    .text (names.fresh base).1 ∈ (names.fresh base).2.taken := by
  unfold fresh take
  split <;> simp

end Names

end StructuredIR
