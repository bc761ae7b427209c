import StructuredIR.Text.Hexadecimal
import StructuredIR.Text.Printable

/-! # Quoted text

Messages show a text between quotes. The quotes are single unless the text holds a single quote
and no double one; inside them a backslash, the chosen quote and the line and tab controls are
escaped, and every unprintable character is given by its code. -/

namespace StructuredIR.Text

/-- The quote character used around a text. -/
def quoteOf (text : List Char) : Char :=
  if text.contains '\'' && !text.contains '"' then '"' else '\''

/-- One character as it stands between the quotes `quote`. -/
def quotedChar (quote char : Char) : List Char :=
  if char = '\\' ∨ char = quote then ['\\', char]
  else if char = '\n' then ['\\', 'n']
  else if char = '\r' then ['\\', 'r']
  else if char = '\t' then ['\\', 't']
  else if isPrintable char then [char]
  else if char.toNat < 0x100 then '\\' :: 'x' :: hexDigits 2 char.toNat
  else if char.toNat < 0x10000 then '\\' :: 'u' :: hexDigits 4 char.toNat
  else '\\' :: 'U' :: hexDigits 8 char.toNat

/-- A text between quotes. -/
def quoted (text : String) : String :=
  let quote := quoteOf text.toList
  String.ofList (quote :: text.toList.flatMap (quotedChar quote) ++ [quote])

/-- One byte as it stands between the quotes `quote`. -/
def quotedByte (quote : Char) (byte : UInt8) : List Char :=
  let char := Char.ofNat byte.toNat
  if byte < 0x80 then quotedChar quote char else '\\' :: 'x' :: hexDigits 2 byte.toNat

/-- A row of bytes between quotes behind its mark. -/
def quotedBytes (bytes : List UInt8) : String :=
  let quote := quoteOf (bytes.map fun byte => Char.ofNat byte.toNat)
  String.ofList ('b' :: quote :: bytes.flatMap (quotedByte quote) ++ [quote])

end StructuredIR.Text
