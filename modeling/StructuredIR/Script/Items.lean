import StructuredIR.Equality

/-! # Items

The items of a value, how many there are, and whether something is among them. Texts have
characters, dictionaries have keys, and registries have libraries; what has no items fails with
the name of its class. -/

namespace StructuredIR

namespace Script

/-- The items of a value. -/
def itemsOf (world : World) (value : Value) : Except Fault (List Value) :=
  match world.items? value with
  | some items => .ok items
  | none => .error (.notIterable value.className)

/-- How many items a value has, as far as an index reaches. -/
def lengthOf (world : World) (value : Value) : Except Fault Value :=
  match world.length? value with
  | some length =>
      if length < IRType.countLimit then .ok (.integer length) else .error .uncountable
  | none => .error (.noLength value.className)

/-! ## By position -/

/-- The item at a position, which may count from the end. -/
def nth (items : List Value) (index : Int) : Except Fault Value :=
  let position := if index < 0 then index + items.length else index
  if 0 ≤ position then
    match items[position.toNat]? with
    | some item => .ok item
    | none => .error .indexOutOfRange
  else .error .indexOutOfRange

/-- What some entries hold under a number. -/
def entryAt (entries : List (Value × Value)) (index : Int) : Build Value := do
  let keyed ← entries.mapM fun entry => return (← Build.keyOf entry.1, entry.2)
  match keyed.lookup (.number index) with
  | some value => return value
  | none => throw .missingKey

/-- The item of a value at a position, or under a number as its key. -/
def itemAt (value : Value) (index : Int) : Build Value := do
  let world ← get
  match value with
  | .dictionary entries => entryAt entries index
  | .liveIndex known => entryAt (world.indexEntries known) index
  | .repetition size element =>
      if 0 ≤ index && index < size then return .type element
      throw .indexOutOfRange
  | .registry _ | .foreign _ | .type _ => throw (.notSubscriptable value.className)
  | value =>
      match world.items? value with
      | some items => nth items index
      | none => throw (.notSubscriptable value.className)

/-! ## Containment -/

/-- Whether a row stands somewhere in another one. -/
def isWithin {Item : Type} [BEq Item] (part : List Item) : List Item → Bool
  | [] => part.isEmpty
  | item :: items => part.isPrefixOf (item :: items) || isWithin part items

/-- Whether a value is equal to one of some values. -/
def isAmong (value : Value) : List Value → Build Bool
  | [] => pure false
  | item :: items => do
      if ← Build.areEqual value item then return true
      isAmong value items

/-- Whether a value is one of some keys. -/
def isKeyOf (value : Value) (keys : List Value) : Build Bool := do
  let name ← Build.nameOf value
  return (← Build.keysOf keys).contains name.key

/-- Whether a value is part of a text, as only texts can be. -/
def isPartOfText (value : Value) (content : String) : Except Fault Bool :=
  match value.text? with
  | some part => .ok (isWithin part.toList content.toList)
  | none => .error (.notInText value.className)

/-- Whether a value is part of a row of bytes: some bytes of it, or one by its number. -/
def isPartOfBytes (value : Value) (content : List UInt8) : Except Fault Bool :=
  let ofNumber (number : Int) : Except Fault Bool :=
    if 0 ≤ number ∧ number < 256 then
      .ok (content.any fun byte => (byte.toNat : Int) == number)
    else .error .notByte
  match value with
  | .bytes part _ => .ok (isWithin part content)
  | .integer number => ofNumber number
  | .truth value => ofNumber (if value then 1 else 0)
  | value => .error (.notInBytes value.className)

/-- Whether a value is among what another one holds: equal to an item of a row, one of the keys of
a dictionary, or part of a text. -/
def holds (container value : Value) : Build Bool := do
  let world ← get
  match container, container.text? with
  | _, some content => isPartOfText value content
  | .bytes content _, none => isPartOfBytes value content
  | .dictionary entries, none => isKeyOf value (entries.map Prod.fst)
  | .liveIndex index, none => isKeyOf value ((world.indexEntries index).map Prod.fst)
  | .foreign .set, none => isKeyOf value []
  | .registry place, none => isKeyOf value ((world.registryNames place).map Phrase.value)
  | container, none =>
      match world.items? container with
      | some items => isAmong value items
      | none => throw (.notContainer container.className)

end Script

end StructuredIR
