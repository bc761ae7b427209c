import StructuredIR.Number.Binary
import StructuredIR.Number.Digits
import StructuredIR.Text.Blank
import StructuredIR.Text.Numeral

/-! # Reading numbers

Decimal texts of doubles and integers: an optional sign, digits that may be parted by single
underscores, and for doubles a fraction and an exponent, or the words for an infinity and for no
number. Blanks around the text do not count. Digits and blanks of all scripts are read like the
common ones. -/

namespace StructuredIR.Number

/-- Whether a character is blank at the ends of a number's text. -/
def isBlank (char : Char) : Bool :=
  char.isWhitespace || char == '\x0b' || char == '\x0c'

/-- Whether a character is one of the first hundred and twenty-eight. -/
def isCommon (char : Char) : Bool :=
  char.toNat < 0x80

/-- A character as numbers are read: a digit or blank of any script as the common one, and any
other uncommon character as one that no number has. -/
def commonChar (char : Char) : Char :=
  if char.toNat < 0x7F then char
  else if Text.isSpace char then ' '
  else
    match Text.digitValue? char with
    | some value => Char.ofNat ('0'.toNat + value)
    | none => '?'

/-- The characters of a text as numbers are read; a text of common characters stays as it is. -/
def commonChars (text : String) : List Char :=
  if text.toList.all isCommon then text.toList else text.toList.map commonChar

/-- A text without the blanks at both ends. -/
def trim (text : List Char) : List Char :=
  ((text.dropWhile isBlank).reverse.dropWhile isBlank).reverse

/-- The sign in front of a number, and what follows it. -/
def splitSign : List Char → Bool × List Char
  | '-' :: rest => (true, rest)
  | '+' :: rest => (false, rest)
  | rest => (false, rest)

/-- The digits at the head of a text, where an underscore may stand between two of them. -/
def splitDigits : List Char → List Char × List Char
  | first :: '_' :: second :: rest =>
      if first.isDigit && second.isDigit then
        let (digits, rest) := splitDigits (second :: rest)
        (first :: digits, rest)
      else if first.isDigit then ([first], '_' :: second :: rest)
      else ([], first :: '_' :: second :: rest)
  | first :: rest =>
      if first.isDigit then
        let (digits, rest) := splitDigits rest
        (first :: digits, rest)
      else ([], first :: rest)
  | [] => ([], [])

/-- The exponent at the head of a text, zero if there is none; fails on an exponent mark alone. -/
def readExponent? : List Char → Option Int
  | [] => some 0
  | mark :: rest =>
      if mark = 'e' ∨ mark = 'E' then
        let (negative, rest) := splitSign rest
        match splitDigits rest with
        | ([], _) => none
        | (digits, []) =>
            let magnitude : Int := ofDigits digits
            some (if negative then -magnitude else magnitude)
        | _ => none
      else none

/-- The nearest double to `digits * 10 ^ exponent`; an infinity if that is too large. -/
def nearest (negative : Bool) (digits : Nat) (exponent : Int) : Double :=
  let leading : Int := (Nat.toDigits 10 digits).length + exponent
  if digits = 0 ∨ leading < -400 then .finite negative 0 BinaryFormat.double.minExponent
  else if 400 < leading then .infinity negative
  else
    let (numerator, denominator) :=
      if 0 ≤ exponent then (digits * Nat.pow 10 exponent.toNat, 1)
      else (digits, Nat.pow 10 (-exponent).toNat)
    (Double.ofRatio? negative numerator denominator).getD (.infinity negative)

/-- The double that an unsigned decimal text stands for. -/
def readMagnitude? (negative : Bool) (text : List Char) : Option Double :=
  let (whole, rest) := splitDigits text
  let (fraction, rest) := match rest with
    | '.' :: rest => splitDigits rest
    | _ => ([], rest)
  if whole.isEmpty && fraction.isEmpty then none
  else
    (readExponent? rest).map fun exponent =>
      nearest negative (ofDigits (whole ++ fraction)) (exponent - fraction.length)

/-- The double that a text stands for. -/
def readDouble? (text : String) : Option Double :=
  let (negative, rest) := splitSign (trim (commonChars text))
  let word := String.ofList (rest.map Char.toLower)
  if word = "inf" ∨ word = "infinity" then some (.infinity negative)
  else if word = "nan" then some (.nan negative)
  else readMagnitude? negative rest

/-- How many digits of an integer may be read. -/
def maximalDigits : Nat := 4300

/-- The number of digits at the head of a text for an integer. -/
def leadingDigits (text : String) : Nat :=
  (splitDigits (splitSign (trim (commonChars text))).2).1.length

/-- The integer that a text stands for. -/
def readInt? (text : String) : Option Int :=
  let (negative, rest) := splitSign (trim (commonChars text))
  match splitDigits rest with
  | ([], _) => none
  | (digits, []) =>
      let magnitude : Int := ofDigits digits
      some (if negative then -magnitude else magnitude)
  | _ => none

end StructuredIR.Number
