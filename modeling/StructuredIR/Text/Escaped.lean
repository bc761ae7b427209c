import StructuredIR.Text.Hexadecimal

/-! # Escapes of assembly text

Two escapes of the assembly: in names, only the backslash and the double quote are given by their
codes; in byte strings, every byte outside a fixed set of plain characters is. -/

namespace StructuredIR.Text

/-! ## Names -/

/-- One character of a name between double quotes. -/
def escapedNameChar : Char → List Char
  | '\\' => ['\\', '5', 'c']
  | '"' => ['\\', '2', '2']
  | char => [char]

/-- The characters of a name as they stand between double quotes. -/
def escapedName (name : String) : String :=
  String.ofList (name.toList.flatMap escapedNameChar)

/-- A name between double quotes. -/
def quotedName (name : String) : String :=
  "\"" ++ escapedName name ++ "\""

/-- Whether a character may begin a label that needs no quotes. -/
def isLabelStart (char : Char) : Bool :=
  char.isAlpha || char == '-' || char == '$' || char == '.' || char == '_'

/-- Whether a character may continue a label that needs no quotes. -/
def isLabelRest (char : Char) : Bool :=
  isLabelStart char || char.isDigit

/-- The text without its last character if that is a line feed. -/
def withoutFinalLineFeed (text : List Char) : List Char :=
  if text.getLast? = some '\n' then text.dropLast else text

/-- Whether a label needs no quotes: plain characters only, but for one line feed at the end. -/
def isPlainLabel (name : String) : Bool :=
  match withoutFinalLineFeed name.toList with
  | [] => false
  | first :: rest => isLabelStart first && rest.all isLabelRest

/-- A label as it heads its block. -/
def labelHeader (name : String) : String :=
  (if isPlainLabel name then name else quotedName name) ++ ":"

/-! ## Byte strings -/

/-- The characters besides letters and digits that stand for themselves in a byte string. -/
def plainPunctuation : List Char :=
  " !#$%&'()*+,-./:;<=>?@[]^_`\x7b|\x7d~".toList

/-- Whether a byte stands for itself in a byte string. -/
def isPlainByte (byte : UInt8) : Bool :=
  let char := Char.ofNat byte.toNat
  byte < 0x80 && (char.isAlphanum || plainPunctuation.contains char)

/-- One byte of a byte string. -/
def escapedByte (byte : UInt8) : List Char :=
  if isPlainByte byte then [Char.ofNat byte.toNat] else '\\' :: hexDigits 2 byte.toNat

/-- The bytes of a byte string as they stand between double quotes. -/
def escapedBytes (bytes : List UInt8) : String :=
  String.ofList (bytes.flatMap escapedByte)

end StructuredIR.Text
