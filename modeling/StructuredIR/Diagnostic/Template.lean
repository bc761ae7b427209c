/-! # Message templates

A message template is a row of pieces: text that stands as it is, and fields that are filled in
plainly or between quotes. Filling fails on the first field, in the order of the template, for
which no filling is given. -/

namespace StructuredIR

/-- A piece of a message template. -/
inductive Piece where
  /-- Text that stands as it is. -/
  | text (content : String)
  /-- A field that is filled in plainly. -/
  | field (name : String)
  /-- A field that is filled in between quotes. -/
  | quotedField (name : String)
  deriving DecidableEq, Repr

/-- What a field can be filled with: the plain text of a value and its quoted one. -/
structure Filling where
  /-- The plain text. -/
  plain : String
  /-- The text between quotes. -/
  quoted : String
  deriving DecidableEq, Repr

/-- A message with fields. -/
abbrev Template := List Piece

namespace Piece

/-- A piece as it is written in a template's own text. -/
def source : Piece → String
  | .text content => content
  | .field name => "\x7b" ++ name ++ "\x7d"
  | .quotedField name => "\x7b" ++ name ++ "!r\x7d"

/-- A filled piece, or the name of the field that has no filling. -/
def fill (fillings : List (String × Filling)) : Piece → Except String String
  | .text content => .ok content
  | .field name =>
      match fillings.lookup name with
      | some filling => .ok filling.plain
      | none => .error name
  | .quotedField name =>
      match fillings.lookup name with
      | some filling => .ok filling.quoted
      | none => .error name

end Piece

namespace Template

/-- A template's own text, with its fields between braces. -/
def source (template : Template) : String :=
  String.join (template.map Piece.source)

/-- A filled template, or the name of the first field that has no filling. -/
def fill (template : Template) (fillings : List (String × Filling)) : Except String String :=
  (template.mapM (Piece.fill fillings)).map String.join

end Template

end StructuredIR
