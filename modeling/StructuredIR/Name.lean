import StructuredIR.Key
import StructuredIR.Value

/-! # Names

Whatever can be told apart can be a name. A name is shown as it was given and found by its key. -/

namespace StructuredIR

/-- A value that names something. -/
structure Name where
  /-- The name as it was given. -/
  shown : Value
  /-- What tells the name from others. -/
  key : Key

namespace Name

/-- The name that is a phrase. -/
def ofPhrase (phrase : Phrase) : Name :=
  ⟨phrase.value, .text phrase.content⟩

/-- The name that is a text. -/
def ofText (content : String) : Name :=
  ofPhrase (.text content)

end Name

end StructuredIR
