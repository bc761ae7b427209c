import StructuredIR.Diagnostic.Catalogue
import StructuredIR.Text.Quoted

/-! # Catalogued messages by code

The message of a diagnostic that is named by the text of its code. It is missing if there is no
such code, or if a field of its template has no filling. -/

namespace StructuredIR

/-- Why a message is missing. -/
inductive MissingMessage where
  /-- There is no diagnostic of a code. -/
  | unknownCode (code : String)
  /-- A field of a diagnostic's template is not filled. -/
  | unfilled (code : Code) (field : String)
  deriving DecidableEq, Repr

/-- What is said about a missing message. -/
def MissingMessage.text : MissingMessage → String
  | .unknownCode code => "unknown error code: " ++ code
  | .unfilled code field =>
      "missing text key '" ++ field ++ "' for " ++ code.text ++ " (needed by: " ++
        Text.quoted code.template.source ++ ")"

namespace Code

/-- The diagnostic of a code and its message with some fillings. -/
def complete (code : String) (fillings : List (String × Filling)) :
    Except MissingMessage (Code × String) :=
  match ofText? code with
  | none => .error (.unknownCode code)
  | some code =>
      match code.template.fill fillings with
      | .ok message => .ok (code, message)
      | .error field => .error (.unfilled code field)

end Code

end StructuredIR
