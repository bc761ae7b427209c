import StructuredIR.Number.Binary
import StructuredIR.Type.Basic
import StructuredIR.Visibility

/-! # Keys

Values are told apart by their keys: two values are equal exactly if they have the same key.
Numbers are equal whatever kind they are of, a word equals the text that it stands for, constants
are equal if they are written alike, rows if their items are, and a thing only equals itself. -/

namespace StructuredIR

/-- The sorts of things that only equal themselves. -/
inductive ThingSort where
  /-- A library. -/
  | library
  /-- A registry. -/
  | registry
  /-- A program, which is told by its registry. -/
  | program
  /-- A function of a library. -/
  | function
  /-- A fragment. -/
  | fragment
  /-- A generator. -/
  | generator
  /-- A symbol table. -/
  | table
  /-- A module. -/
  | module
  /-- A report. -/
  | report
  /-- The position of a generator. -/
  | position
  /-- A symbol of a module. -/
  | symbol
  /-- A parameter or a result of a routine, which is told by its name. -/
  | localValue
  /-- A block of a routine. -/
  | block
  /-- A bare object. -/
  | object
  /-- A callback. -/
  | callback
  /-- The mark of a variadic function. -/
  | variadicMark
  /-- The content of a constant without a determined value. -/
  | undetermined
  /-- An element as often as an array holds it. -/
  | repetition
  deriving DecidableEq, Repr

/-- The sorts of rows. -/
inductive RowSort where
  /-- A list. -/
  | list
  /-- A fixed row. -/
  | tuple
  /-- A dictionary. -/
  | dictionary
  /-- A set. -/
  | set
  /-- The fields of a symbol description. -/
  | symbolInfo
  /-- The fields of a diagnostic. -/
  | diagnostic
  /-- A method with the value that has it. -/
  | method
  deriving DecidableEq, Repr

/-- What values are told apart by. -/
inductive Key where
  /-- Nothing. -/
  | none
  /-- A number that is an integer. -/
  | number (value : Int)
  /-- A number that is no integer. -/
  | real (value : Double)
  /-- The imaginary unit. -/
  | imaginary
  /-- A text. -/
  | text (content : String)
  /-- A row of bytes. -/
  | bytes (content : List UInt8)
  /-- A kind of symbol. -/
  | symbolKind (kind : SymbolKind)
  /-- A type. -/
  | type (type : IRType)
  /-- A constant by its type and text. -/
  | constant (text : String)
  /-- A thing by its sort and place. -/
  | thing (sort : ThingSort) (places : List Nat)
  /-- The end of a row. -/
  | rowEnd (sort : RowSort)
  /-- An item of a row, and what follows it. -/
  | item (first rest : Key)
  deriving DecidableEq, Repr

namespace Key

/-- The key of a row with the given keys of its items. -/
def row (sort : RowSort) : List Key → Key
  | [] => .rowEnd sort
  | key :: keys => .item key (row sort keys)

/-- Rows with the same key have items with the same keys. -/
theorem row_injective {sort : RowSort} : ∀ {left right : List Key},
    row sort left = row sort right → left = right
  | [], [], _ => rfl
  | [], _ :: _, equal => by simp [row] at equal
  | _ :: _, [], equal => by simp [row] at equal
  | _ :: _, _ :: _, equal => by
      simp only [row, Key.item.injEq] at equal
      rw [equal.1, row_injective equal.2]

end Key

end StructuredIR
