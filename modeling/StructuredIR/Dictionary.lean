/-! # Dictionaries

Entries under keys, in the order in which the keys were first entered. Entering something under a
key that is there already replaces what was there in its place. -/

namespace StructuredIR

/-- Entries under keys in the order of entry. -/
abbrev Dictionary (Key Entry : Type) := List (Key × Entry)

namespace Dictionary

variable {Key Entry : Type} [DecidableEq Key]

/-- What is entered under a key. -/
def get? (dictionary : Dictionary Key Entry) (key : Key) : Option Entry :=
  dictionary.lookup key

/-- Whether something is entered under a key. -/
def holds (dictionary : Dictionary Key Entry) (key : Key) : Bool :=
  dictionary.any fun entry => entry.1 == key

/-- The keys in the order of entry. -/
def keys (dictionary : Dictionary Key Entry) : List Key :=
  dictionary.map Prod.fst

/-- What is entered, in the order of entry. -/
def entries (dictionary : Dictionary Key Entry) : List Entry :=
  dictionary.map Prod.snd

/-- The place of a key in the order of entry. -/
def placeOf? (dictionary : Dictionary Key Entry) (key : Key) : Option Nat :=
  dictionary.findIdx? fun entry => entry.1 == key

/-- The dictionary with what is entered under a key changed. -/
def change (dictionary : Dictionary Key Entry) (key : Key) (update : Entry → Entry) :
    Dictionary Key Entry :=
  dictionary.map fun entry => if entry.1 = key then (entry.1, update entry.2) else entry

/-- The dictionary with something entered under a key. -/
def enter (dictionary : Dictionary Key Entry) (key : Key) (value : Entry) :
    Dictionary Key Entry :=
  if dictionary.holds key then dictionary.change key fun _ => value
  else dictionary ++ [(key, value)]

/-- The dictionary without what is entered under a key. -/
def remove (dictionary : Dictionary Key Entry) (key : Key) : Dictionary Key Entry :=
  dictionary.filter fun entry => entry.1 != key

/-- Changing an entry keeps the keys. -/
@[simp] theorem keys_change (dictionary : Dictionary Key Entry) (key : Key)
    (update : Entry → Entry) : (dictionary.change key update).keys = dictionary.keys := by
  simp only [keys, change, List.map_map]
  refine List.map_congr_left fun entry _ => ?_
  simp only [Function.comp_apply]
  split <;> rfl

/-- Something is entered under a key exactly if it is one of the keys. -/
theorem holds_iff (dictionary : Dictionary Key Entry) (key : Key) :
    dictionary.holds key = true ↔ key ∈ dictionary.keys := by
  simp [holds, keys]

end Dictionary

end StructuredIR
