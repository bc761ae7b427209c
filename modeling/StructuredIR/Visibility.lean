import StructuredIR.Text.Quoted

/-! # Visibility and naming policies

Who sees a symbol, how the names of imported symbols are chosen, and what a name can resolve
to. Each of these choices is made by a word, and some words can stand in the place of a text. -/

namespace StructuredIR

/-- A word of a fixed choice as messages quote it. -/
def quotedWord (choice member text : String) : String :=
  "<" ++ choice ++ "." ++ member ++ ": " ++ Text.quoted text ++ ">"

/-- Who sees a symbol. -/
inductive Visibility where
  /-- Every library. -/
  | isPublic
  /-- Only the library that declares it. -/
  | isPrivate
  deriving DecidableEq, Repr, Inhabited

namespace Visibility

/-- The word for a visibility. -/
def text : Visibility → String
  | .isPublic => "public"
  | .isPrivate => "private"

/-- The visibility that a word stands for. -/
def ofText? : String → Option Visibility
  | "public" => some .isPublic
  | "private" => some .isPrivate
  | _ => none

/-- The linkage that is reported for symbols of a visibility. -/
def linkage : Visibility → String
  | .isPublic => "external"
  | .isPrivate => "private"

/-- The name of a visibility among its kind. -/
def memberName : Visibility → String
  | .isPublic => "PUBLIC"
  | .isPrivate => "PRIVATE"

/-- The visibility of a given name among its kind. -/
def ofMemberName? : String → Option Visibility
  | "PUBLIC" => some .isPublic
  | "PRIVATE" => some .isPrivate
  | _ => none

/-- A visibility as messages quote it. -/
def quoted (visibility : Visibility) : String :=
  quotedWord "Visibility" visibility.memberName visibility.text

/-- Reading the word for a visibility gives it back. -/
theorem ofText?_text (visibility : Visibility) : ofText? visibility.text = some visibility := by
  cases visibility <;> rfl

end Visibility

/-- How the symbols of a library are named by the libraries that import it. -/
inductive NamePolicy where
  /-- By their own names, unless those collide. -/
  | smart
  /-- By their own names. -/
  | plain
  /-- Behind the name of the library. -/
  | qualified
  deriving DecidableEq, Repr, Inhabited

namespace NamePolicy

/-- The word for a policy. -/
def text : NamePolicy → String
  | .smart => "smart"
  | .plain => "none"
  | .qualified => "all"

/-- The policy that a word stands for. -/
def ofText? : String → Option NamePolicy
  | "smart" => some .smart
  | "none" => some .plain
  | "all" => some .qualified
  | _ => none

/-- The name of a policy among its kind. -/
def memberName : NamePolicy → String
  | .smart => "SMART"
  | .plain => "NONE"
  | .qualified => "ALL"

/-- The policy of a given name among its kind. -/
def ofMemberName? : String → Option NamePolicy
  | "SMART" => some .smart
  | "NONE" => some .plain
  | "ALL" => some .qualified
  | _ => none

/-- A policy as messages quote it. -/
def quoted (policy : NamePolicy) : String :=
  quotedWord "Prefix" policy.memberName policy.text

/-- Reading the word for a policy gives it back. -/
theorem ofText?_text (policy : NamePolicy) : ofText? policy.text = some policy := by
  cases policy <;> rfl

end NamePolicy

/-- A text, or a word of a fixed choice in the place of one. -/
inductive Phrase where
  /-- A text. -/
  | text (content : String)
  /-- The word for a visibility. -/
  | visibility (known : Visibility)
  /-- The word for a naming policy. -/
  | policy (known : NamePolicy)
  deriving DecidableEq, Repr, Inhabited

namespace Phrase

/-- The text that a phrase is equal to. -/
def content : Phrase → String
  | .text content => content
  | .visibility known => known.text
  | .policy known => known.text

/-- A phrase as it stands within other text. -/
def plain : Phrase → String
  | .text content => content
  | .visibility known => "Visibility." ++ known.memberName
  | .policy known => "Prefix." ++ known.memberName

/-- A phrase as messages quote it. -/
def quoted : Phrase → String
  | .text content => Text.quoted content
  | .visibility known => known.quoted
  | .policy known => known.quoted

end Phrase

/-- What a name can stand for in a library. -/
inductive SymbolKind where
  /-- A fragment. -/
  | fragment
  /-- A function. -/
  | function
  /-- A global. -/
  | global
  /-- Nothing. -/
  | notFound
  deriving DecidableEq, Repr, Inhabited

namespace SymbolKind

/-- The word for a kind. -/
def text : SymbolKind → String
  | .fragment => "macro"
  | .function => "function"
  | .global => "global"
  | .notFound => "not_found"

/-- The name of a kind among its kinds. -/
def memberName : SymbolKind → String
  | .fragment => "MACRO"
  | .function => "FUNCTION"
  | .global => "GLOBAL_VARIABLE"
  | .notFound => "NOT_FOUND"

/-- The kind of a given name among its kinds. -/
def ofMemberName? : String → Option SymbolKind
  | "MACRO" => some .fragment
  | "FUNCTION" => some .function
  | "GLOBAL_VARIABLE" => some .global
  | "NOT_FOUND" => some .notFound
  | _ => none

/-- A kind as it stands within other text. -/
def plain (kind : SymbolKind) : String :=
  "SymbolType." ++ kind.memberName

/-- A kind as messages quote it. -/
def quoted (kind : SymbolKind) : String :=
  quotedWord "SymbolType" kind.memberName kind.text

end SymbolKind

end StructuredIR
