/-! # Binary floating-point numbers

Doubles as exact values: a sign, a natural significand and a power of two. Rounding a ratio to a
binary format goes to the nearest value, and of two nearest ones to that with the even
significand; it fails only beyond the largest finite value. -/

namespace StructuredIR

/-- A binary floating-point format. -/
structure BinaryFormat where
  /-- The number of bits of a significand. -/
  precision : Nat
  /-- The exponent of the last significand bit of the smallest values. -/
  minExponent : Int
  /-- The exponent of the last significand bit of the largest values. -/
  maxExponent : Int
  deriving DecidableEq, Repr

namespace BinaryFormat

/-- Sixteen-bit numbers. -/
def half : BinaryFormat := ⟨11, -24, 5⟩

/-- Thirty-two-bit numbers. -/
def single : BinaryFormat := ⟨24, -149, 104⟩

/-- Sixty-four-bit numbers. -/
def double : BinaryFormat := ⟨53, -1074, 971⟩

/-- The natural number nearest to a quotient, the even one of two. -/
def roundQuotient (numerator denominator : Nat) : Nat :=
  let quotient := numerator / denominator
  let twice := 2 * (numerator % denominator)
  if twice < denominator then quotient
  else if denominator < twice then quotient + 1
  else quotient + quotient % 2

/-- Whether `2 ^ exponent` is at most a ratio. -/
def powerTwoLe (exponent : Int) (numerator denominator : Nat) : Bool :=
  if 0 ≤ exponent then denominator * Nat.pow 2 exponent.toNat ≤ numerator
  else denominator ≤ numerator * Nat.pow 2 (-exponent).toNat

/-- The greatest power of two that is at most a ratio of positive numbers. -/
def floorLog (numerator denominator : Nat) : Int :=
  let guess : Int := (numerator.log2 : Int) - denominator.log2
  if powerTwoLe guess numerator denominator then guess else guess - 1

/-- A ratio in units of `2 ^ exponent`, rounded. -/
def roundScaled (numerator denominator : Nat) (exponent : Int) : Nat :=
  if 0 ≤ exponent then roundQuotient numerator (denominator * Nat.pow 2 exponent.toNat)
  else roundQuotient (numerator * Nat.pow 2 (-exponent).toNat) denominator

/-- A ratio rounded to the format, as a significand and an exponent; none if it is too large. -/
def round? (format : BinaryFormat) (numerator denominator : Nat) : Option (Nat × Int) :=
  if numerator = 0 then some (0, format.minExponent) else
    let exponent := max format.minExponent
      (floorLog numerator denominator - (format.precision - 1 : Nat))
    let significand := roundScaled numerator denominator exponent
    let normal :=
      if significand = Nat.pow 2 format.precision then
        (Nat.pow 2 (format.precision - 1), exponent + 1)
      else (significand, exponent)
    if format.maxExponent < normal.2 then none else some normal

end BinaryFormat

/-- A double: not a number, an infinity, or a signed significand times a power of two. -/
inductive Double where
  /-- Not a number. -/
  | nan (negative : Bool)
  /-- Beyond all finite values. -/
  | infinity (negative : Bool)
  /-- The value `± significand * 2 ^ exponent`. -/
  | finite (negative : Bool) (significand : Nat) (exponent : Int)
  deriving DecidableEq, Repr, Inhabited

namespace Double

/-- Positive zero. -/
def zero : Double := .finite false 0 BinaryFormat.double.minExponent

/-- The double nearest to a signed ratio; none if it is too large. -/
def ofRatio? (negative : Bool) (numerator denominator : Nat) : Option Double :=
  (BinaryFormat.double.round? numerator denominator).map fun rounded =>
    .finite negative rounded.1 rounded.2

/-- The double nearest to an integer; none if it is too large. -/
def ofInt? (number : Int) : Option Double :=
  ofRatio? (number < 0) number.natAbs 1

/-- The magnitude of a finite value as a ratio. -/
def ratio (significand : Nat) (exponent : Int) : Nat × Nat :=
  if 0 ≤ exponent then (significand * Nat.pow 2 exponent.toNat, 1)
  else (significand, Nat.pow 2 (-exponent).toNat)

/-- Whether the sign of a value is negative. -/
def isNegative : Double → Bool
  | .nan negative | .infinity negative | .finite negative _ _ => negative

/-- Whether the value is a zero of either sign. -/
def isZero : Double → Bool
  | .finite _ significand _ => significand == 0
  | _ => false

/-- The integer part of a finite value. -/
def truncate? : Double → Option Int
  | .finite negative significand exponent =>
      let (numerator, denominator) := ratio significand exponent
      let magnitude : Int := ((numerator / denominator : Nat) : Int)
      some (if negative then -magnitude else magnitude)
  | _ => none

/-- The value rounded to a narrower format; none if it is finite and too large. -/
def narrow? (format : BinaryFormat) : Double → Option Double
  | .finite negative significand exponent =>
      let (numerator, denominator) := ratio significand exponent
      (format.round? numerator denominator).bind fun rounded =>
        let (numerator, denominator) := ratio rounded.1 rounded.2
        ofRatio? negative numerator denominator
  | value => some value

/-- The sixty-four bits of a double. -/
def bits : Double → Nat
  | .nan negative => negative.toNat * Nat.pow 2 63 + 0x7ff8000000000000
  | .infinity negative => negative.toNat * Nat.pow 2 63 + 0x7ff0000000000000
  | .finite negative significand exponent =>
      negative.toNat * Nat.pow 2 63 +
        if significand < Nat.pow 2 52 then significand
        else (exponent + 1075).toNat * Nat.pow 2 52 + (significand - Nat.pow 2 52)

end Double

end StructuredIR
