import StructuredIR.Description

/-! # Views of values

What the outside sees of each value. Keys, labels and the fields of symbol descriptions are shown
as plain data. -/

namespace StructuredIR

namespace Build

/-! ## Plain data -/

mutual

/-- The view of a value where only plain data can stand. -/
def plainView : Value → View
  | .none => .none
  | .truth value => .truth value
  | .integer value => .integer value
  | .real value => .plainReal value.text
  | .text content => .text content
  | .visibility known => .text known.text
  | .policy known => .text known.text
  | .list items | .tuple items => .list (plainViews items)
  | value => .other value.className

/-- The views of some values where only plain data can stand. -/
def plainViews : List Value → List View
  | [] => []
  | value :: values => plainView value :: plainViews values

end

/-! ## Things -/

/-- The view of an operand. -/
def operandView (operand : Operand) : Build View := do
  match operand with
  | .block place => return .block (plainView ((← get).block place).label)
  | operand => return .operand (← describe operand)

/-- The text of the kind of a symbol description. -/
def kindText : Value → Except Fault String
  | .symbolKind known => .ok known.text
  | value =>
      match value.phrase? with
      | some (.text _) | none => .error .missingAttribute
      | some phrase => .ok phrase.content

/-- The view of a symbol description. -/
def symbolInfoView (info : SymbolInfo) : Build View := do
  let fields : SymbolInfoOver View :=
    { name := plainView info.name
      symbolName := plainView info.symbolName
      kind := .text (← kindText info.kind)
      isDeclaration := plainView info.isDeclaration
      linkage := plainView info.linkage
      libraryName := plainView info.libraryName
      typeText := plainView info.typeText }
  return .symbolInfo fields (.truth !(← get).isTruthy info.isDeclaration)
    (.truth (info.linkage.text? == some "external"))

/-- The view of a value that holds no others. -/
def flatView (value : Value) : Build View := do
  match value with
  | .none => return .none
  | .truth value => return .truth value
  | .integer value => return .integer value
  | .real value => return .real value.text
  | .text content => return .text content
  | .type known => return .type known.text
  | .operand known => operandView known
  | .visibility known => return .word known.text
  | .policy known => return .word known.text
  | .symbolKind known => return .word known.text
  | .symbolInfo info => symbolInfoView info
  | .function _ | .fragment _ | .generator _ | .library _ | .registry _ | .program .. | .table _ =>
      return .object (← quoted value)
  | value => return .other value.className

/-! ## Rows -/

/-- The entries of a dictionary that hold no others. -/
def flatEntries : List (Value × Value) → Build (List (View × View))
  | [] => pure []
  | (key, value) :: entries => do
      let shown ← flatView value
      return (plainView key, shown) :: (← flatEntries entries)

mutual

/-- The view of a value. -/
def view : Value → Build View
  | .list items | .tuple items => do return .list (← viewAll items)
  | .dictionary entries => do return .dictionary (← viewEntries entries)
  | .liveRow row => do return .list (← ((← get).rowItems row).mapM flatView)
  | .liveIndex index => do return .dictionary (← flatEntries ((← get).indexEntries index))
  | .resolution kind target => do
      return .resolution kind.text (← view target) (kind != .notFound)
  | value => flatView value

/-- The views of some values. -/
def viewAll : List Value → Build (List View)
  | [] => pure []
  | value :: values => do
      let shown ← view value
      return shown :: (← viewAll values)

/-- The views of some entries. -/
def viewEntries : List (Value × Value) → Build (List (View × View))
  | [] => pure []
  | (key, value) :: entries => do
      let shown ← view value
      return (plainView key, shown) :: (← viewEntries entries)

end

end Build

end StructuredIR
