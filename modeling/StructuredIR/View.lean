import StructuredIR.Value

/-! # Views

A view is what the outside sees of a value: plain data as it is, and everything else by its text
or its kind. -/

namespace StructuredIR

/-- What the outside sees of a value. -/
inductive View where
  /-- Nothing. -/
  | none
  /-- A truth value. -/
  | truth (value : Bool)
  /-- An integer. -/
  | integer (value : Int)
  /-- A text. -/
  | text (content : String)
  /-- A floating-point number by its text. -/
  | real (text : String)
  /-- A word of a fixed choice. -/
  | word (text : String)
  /-- A block by its name. -/
  | block (label : View)
  /-- A value of the assembly by its type and text. -/
  | operand (text : String)
  /-- A type by its text. -/
  | type (text : String)
  /-- What a name resolves to. -/
  | resolution (kind : String) (target : View) (isFound : Bool)
  /-- Some views in order. -/
  | list (items : List View)
  /-- Views under keys. -/
  | dictionary (entries : List (View × View))
  /-- A thing of the library by its description. -/
  | object (description : String)
  /-- A floating-point number by its text, where only plain data can stand. -/
  | plainReal (text : String)
  /-- What a symbol table says about a symbol, whether it is defined, and whether it is reported to
  have external linkage. -/
  | symbolInfo (info : SymbolInfoOver View) (isDefinition isExternal : View)
  /-- Anything else by the name of its class. -/
  | other (className : String)
  deriving Inhabited

end StructuredIR
