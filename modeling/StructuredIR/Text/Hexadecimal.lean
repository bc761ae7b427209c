/-! # Hexadecimal digits

Numbers written with lower-case hexadecimal digits, to a least width, and text set to a least
width. -/

namespace StructuredIR.Text

/-- `text` with blanks in front of it up to `width` characters. -/
def padLeft (width : Nat) (fill : Char) (text : List Char) : List Char :=
  List.replicate (width - text.length) fill ++ text

/-- The lower-case hexadecimal digits of `number`, with zeros in front up to `width` digits. -/
def hexDigits (width number : Nat) : List Char :=
  padLeft width '0' (Nat.toDigits 16 number)

/-- Text set to a width is at least that wide. -/
theorem width_le_length_padLeft (width : Nat) (fill : Char) (text : List Char) :
    width ≤ (padLeft width fill text).length := by
  simp only [padLeft, List.length_append, List.length_replicate]
  omega

end StructuredIR.Text
