/-! # White space

The characters that count as white space in a text, and a text without those at its end. -/

namespace StructuredIR.Text

/-- Whether a character is white space: the controls that move the cursor, the separators among
the controls, and the blanks of all widths. -/
def isSpace (char : Char) : Bool :=
  let code := char.toNat
  (0x09 ≤ code && code ≤ 0x0D) || (0x1C ≤ code && code ≤ 0x20) || code == 0x85 ||
    code == 0xA0 || code == 0x1680 || (0x2000 ≤ code && code ≤ 0x200A) || code == 0x2028 ||
    code == 0x2029 || code == 0x202F || code == 0x205F || code == 0x3000

/-- The white space of the core library is white space. -/
theorem isSpace_of_isWhitespace {char : Char} (blank : char.isWhitespace = true) :
    isSpace char = true := by
  simp only [Char.isWhitespace, Bool.or_eq_true, decide_eq_true_eq] at blank
  rcases blank with ((rfl | rfl) | rfl) | rfl <;> rfl

/-- A text without the white space at its end. -/
def trimRight (text : String) : String :=
  String.ofList (text.toList.reverse.dropWhile isSpace).reverse

end StructuredIR.Text
