/-! # Decimal digits

The number that a row of decimal digits stands for. -/

namespace StructuredIR.Number

/-- The number that decimal digits stand for. -/
def ofDigits (digits : List Char) : Nat :=
  digits.foldl (fun number digit => number * 10 + (digit.toNat - '0'.toNat)) 0

/-- A further digit multiplies by ten and adds its own value. -/
theorem ofDigits_append_singleton (digits : List Char) (digit : Char) :
    ofDigits (digits ++ [digit]) = ofDigits digits * 10 + (digit.toNat - '0'.toNat) := by
  simp [ofDigits]

end StructuredIR.Number
