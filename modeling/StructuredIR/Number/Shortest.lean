import StructuredIR.Number.Binary
import StructuredIR.Text.Hexadecimal

/-! # Shortest decimal text

A double is written with the fewest decimal digits that still round to it. Of all decimals of
that length the nearest one is taken, and of two equally near ones that with the even last
digit. -/

namespace StructuredIR

/-- A positive decimal: its digits as one number, and the power of ten of the last one. -/
structure Decimal where
  /-- All digits as one number. -/
  digits : Nat
  /-- The power of ten of the last digit. -/
  exponent : Int
  deriving DecidableEq, Repr

namespace Decimal

/-- Compares `decimal * 10 ^ exponent` with a ratio, by cross multiplication. -/
def compareScaled (number : Nat) (exponent : Int) (numerator denominator : Nat) : Ordering :=
  if 0 ≤ exponent then compare (number * Nat.pow 10 exponent.toNat * denominator) numerator
  else compare (number * denominator) (numerator * Nat.pow 10 (-exponent).toNat)

/-- The interval of ratios over `4 * denominator` that round to a double, and whether its ends
do. -/
structure Interval where
  /-- The lower end. -/
  low : Nat
  /-- The upper end. -/
  high : Nat
  /-- The common denominator. -/
  denominator : Nat
  /-- Whether the ends round to the double as well. -/
  closed : Bool

/-- The interval of a positive double: half way to both neighbours, nearer below a power of two. -/
def Interval.ofDouble (significand : Nat) (exponent : Int) : Interval :=
  let (unit, denominator) := Double.ratio 1 exponent
  let isLeast := significand = Nat.pow 2 52 ∧ exponent ≠ BinaryFormat.double.minExponent
  let below := if isLeast then 1 else 2
  { low := (4 * significand - below) * unit
    high := (4 * significand + 2) * unit
    denominator := 4 * denominator
    closed := significand % 2 == 0 }

/-- Whether a decimal lies in an interval. -/
def Interval.holds (interval : Interval) (number : Nat) (exponent : Int) : Bool :=
  let low := compareScaled number exponent interval.low interval.denominator
  let high := compareScaled number exponent interval.high interval.denominator
  (low == .gt || (interval.closed && low == .eq)) &&
    (high == .lt || (interval.closed && high == .eq))

/-- The power of ten of the leading digit of a positive ratio. -/
def leadingPower (numerator denominator : Nat) : Int :=
  if denominator ≤ numerator then ((Nat.toDigits 10 (numerator / denominator)).length : Int) - 1
  else
    let shift := (Nat.toDigits 10 denominator).length - (Nat.toDigits 10 numerator).length
    if denominator ≤ numerator * Nat.pow 10 shift then -(shift : Int) else -(shift : Int) - 1

/-- The decimal of an interval on the grid `10 ^ exponent` that is nearest to a ratio, if any. -/
def onGrid? (interval : Interval) (numerator denominator : Nat) (exponent : Int) : Option Decimal :=
  let (scaled, unit) :=
    if 0 ≤ exponent then (numerator, denominator * Nat.pow 10 exponent.toNat)
    else (numerator * Nat.pow 10 (-exponent).toNat, denominator)
  let below := scaled / unit
  let above := below + 1
  let twice := 2 * (scaled % unit)
  let nearer := if twice < unit ∨ (twice = unit ∧ below % 2 = 0) then below else above
  let farther := if nearer = below then above else below
  if interval.holds nearer exponent then some ⟨nearer, exponent⟩
  else if interval.holds farther exponent then some ⟨farther, exponent⟩
  else none

/-- The decimal with the fewest digits that rounds to a positive double; seventeen suffice. -/
def shortest (significand : Nat) (exponent : Int) : Decimal :=
  let (numerator, denominator) := Double.ratio significand exponent
  let interval := Interval.ofDouble significand exponent
  let leading := leadingPower numerator denominator
  let grids := (List.range 17).map fun (count : Nat) => leading - (count : Int)
  (grids.findSome? (onGrid? interval numerator denominator)).getD ⟨0, 0⟩

end Decimal

/-- How a decimal is laid out. -/
structure DecimalLayout where
  /-- The least power of ten of a leading digit that is written without an exponent. -/
  minPositional : Int
  /-- The least power of ten of a leading digit from which an exponent is written again. -/
  maxPositional : Int
  /-- The least number of digits of an exponent. -/
  exponentDigits : Nat
  deriving DecidableEq, Repr

namespace DecimalLayout

/-- Numbers from `0.0001` up to `10 ^ 16` are written without an exponent. -/
def standard : DecimalLayout := ⟨-4, 16, 2⟩

/-- A list of digits without the zeros at its end, but for the first digit. -/
def trimZeros : List Char → List Char
  | [] => []
  | first :: rest => first :: (rest.reverse.dropWhile (· == '0')).reverse

/-- The text of digits whose leading one has the given power of ten. -/
def render (layout : DecimalLayout) (digits : List Char) (leading : Int) : String :=
  if layout.minPositional ≤ leading ∧ leading < layout.maxPositional then
    if leading < 0 then
      String.ofList ('0' :: '.' :: List.replicate (-leading - 1).toNat '0' ++ digits)
    else
      let whole := digits.take (leading.toNat + 1)
      let padded := whole ++ List.replicate (leading.toNat + 1 - whole.length) '0'
      let fraction := digits.drop (leading.toNat + 1)
      String.ofList (padded ++ '.' :: if fraction.isEmpty then ['0'] else fraction)
  else
    let mantissa := match digits with
      | [] => []
      | [digit] => [digit]
      | first :: rest => first :: '.' :: rest
    let sign := if leading < 0 then '-' else '+'
    let power := Text.padLeft layout.exponentDigits '0' (Nat.toDigits 10 leading.natAbs)
    String.ofList (mantissa ++ 'e' :: sign :: power)

end DecimalLayout

namespace Double

/-- The shortest decimal text of a double. -/
def text : Double → String
  | .nan _ => "nan"
  | .infinity negative => if negative then "-inf" else "inf"
  | .finite negative significand exponent =>
      let magnitude :=
        if significand = 0 then "0.0"
        else
          let decimal := Decimal.shortest significand exponent
          let digits := Nat.toDigits 10 decimal.digits
          let leading := decimal.exponent + (digits.length - 1 : Nat)
          DecimalLayout.standard.render (DecimalLayout.trimZeros digits) leading
      if negative then "-" ++ magnitude else magnitude

/-- The bits of a double in hexadecimal, set to sixteen characters with blanks in front. -/
def hexText (value : Double) : String :=
  String.ofList (Text.padLeft 16 ' ' ('0' :: 'x' :: Nat.toDigits 16 value.bits))

end Double

end StructuredIR
