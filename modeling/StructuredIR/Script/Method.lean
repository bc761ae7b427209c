import StructuredIR.Value

/-! # Methods

The operations that values have, with the names of their parameters. Parameters that need not be
given come last; some operations take any number of further arguments. -/

namespace StructuredIR

/-- What an operation can be called with. -/
structure MethodSignature where
  /-- The names of the parameters that have to be given. -/
  required : List String
  /-- The names of the parameters that need not be given. -/
  optional : List String
  /-- Whether further arguments are taken. -/
  takesMore : Bool
  deriving DecidableEq, Repr

namespace MethodSignature

/-- An operation with some parameters. -/
def taking (required optional : List String) : MethodSignature :=
  ⟨required, optional, false⟩

/-- An operation with some parameters and any number of further arguments. -/
def openEnded (required : List String) : MethodSignature :=
  ⟨required, [], true⟩

/-- The number of arguments that an operation takes, where it is fixed. -/
def arity? (signature : MethodSignature) : Option Nat :=
  if signature.takesMore then none else some (signature.required.length + signature.optional.length)

/-- Whether an operation can be called with a number of arguments. -/
def accepts (signature : MethodSignature) (given : Nat) : Bool :=
  signature.required.length ≤ given &&
    (signature.takesMore || given ≤ signature.required.length + signature.optional.length)

/-- Some names between quotes, with "and" before the last one. -/
def enumerate : List String → String
  | [] => ""
  | [name] => Text.quoted name
  | [first, second] => Text.quoted first ++ " and " ++ Text.quoted second
  | first :: second :: names =>
      ", ".intercalate ((first :: second :: names).dropLast.map Text.quoted) ++ ", and " ++
        Text.quoted ((second :: names).getLast?.getD second)

/-- A count of what is called by a word. -/
def counted (count : Nat) (word : String) : String :=
  toString count ++ " " ++ word ++ if count = 1 then "" else "s"

/-- The complaint about more arguments than an operation takes; the value that has the operation
counts as one of them. -/
def tooMany (signature : MethodSignature) (title : String) (given : Nat) : String :=
  let least := signature.required.length + 1
  let most := least + signature.optional.length
  let taken :=
    if least = most then counted most "positional argument"
    else "from " ++ toString least ++ " to " ++ toString most ++ " positional arguments"
  title ++ "() takes " ++ taken ++ " but " ++ toString (given + 1) ++ " were given"

/-- The complaint about arguments that have to be given and are not. -/
def tooFew (signature : MethodSignature) (title : String) (given : Nat) : String :=
  let missing := signature.required.drop given
  title ++ "() missing " ++ counted missing.length "required positional argument" ++ ": " ++
    enumerate missing

/-- The complaint about a wrong number of arguments. -/
def complaint (signature : MethodSignature) (title : String) (given : Nat) : String :=
  if given < signature.required.length then signature.tooFew title given
  else signature.tooMany title given

/-- What a type is called with to make a constant. -/
def ofType : MethodSignature :=
  taking ["value"] []

/-- The operations of generators. -/
def ofGenerator? : String → Option MethodSignature
  | "finish" | "brk" | "cont" => some (taking [] [])
  | "position_at_end" | "child" | "br" => some (taking ["block"] [])
  | "convert" => some (taking ["value"] ["type_"])
  | "call" => some (openEnded ["callable_"])
  | "global_" => some (taking ["name"] [])
  | "add" | "sub" | "mul" => some (taking ["lhs", "rhs"] [])
  | "div" | "rem" => some (taking ["dividend", "divisor"] ["signed"])
  | "neg" | "invert" => some (taking ["num"] [])
  | "inc" | "dec" => some (taking ["ptr"] ["amount"])
  | "shl" | "ashr" | "lshr" => some (taking ["num", "bits"] [])
  | "bitcast" | "cast" => some (taking ["value", "type_"] [])
  | "trunc" | "sext" | "zext" => some (taking ["num", "type_"] [])
  | "ftoi" | "itof" => some (taking ["num", "type_"] ["signed"])
  | "alloca" | "malloc" => some (taking ["type_"] ["size"])
  | "free" | "load" => some (taking ["ptr"] [])
  | "store" => some (taking ["value", "ptr"] [])
  | "gep" | "gev" | "sep" => some (openEnded ["ptr"])
  | "insert" => some (taking ["collection", "element", "index"] [])
  | "extract" => some (taking ["collection", "index"] [])
  | "is_null" | "is_not_null" => some (taking ["value"] [])
  | "opr" => some (taking ["op", "lhs", "rhs"] [])
  | "block" => some (taking [] ["name", "body"])
  | "cond" => some (taking ["condition"] ["then_body", "else_body", "exit_block"])
  | "lp" => some (taking [] ["variables", "compare", "increment", "exit_block", "body"])
  | "ret" | "sret" | "pret" => some (taking [] ["value"])
  | "cret" => some (taking ["condition"] ["value", "continuation"])
  | _ => none

/-- The operations of libraries. -/
def ofLibrary? : String → Option MethodSignature
  | "ir_name" => some (taking ["name"] [])
  | "function" => some (taking ["name"] ["arg_types", "return_type", "body"])
  | "extern" => some (taking ["name"] ["arg_types", "return_type"])
  | "macro" => some (taking ["name", "body"] [])
  | "global_" => some (taking ["name", "value_or_type"] [])
  | "constant" => some (taking ["name", "value"] [])
  | "string" => some (taking ["text"] [])
  | "set_visibility" => some (taking ["visibility"] ["symbol", "body"])
  | "public" | "private" => some (openEnded [])
  | "functions" | "macros" | "globals" => some (taking [] ["include_private"])
  | "strings" | "symbol_table" => some (taking [] [])
  | "resolve" => some (taking ["name"] ["include_private"])
  | "callee" => some (taking ["function"] [])
  | "build" => some (taking ["body"] [])
  | "dump" => some (taking [] ["stream"])
  | "import_" => some (taking ["source"] [])
  | _ => none

/-- The operations of functions. -/
def ofFunction? : String → Option MethodSignature
  | "relink" => some (taking ["visibility"] [])
  | "append_block" => some (taking ["name"] [])
  | "move_after" => some (taking ["block", "anchor"] [])
  | "setup_return" | "generator" => some (taking [] [])
  | _ => none

/-- The operations of fragments. -/
def ofFragment? : String → Option MethodSignature
  | "relink" => some (taking ["visibility"] [])
  | "expand" => some (openEnded ["generator"])
  | "copy" => some (taking ["name"] [])
  | _ => none

/-- The operations of registries. -/
def ofRegistry? : String → Option MethodSignature
  | "register" => some (taking ["library"] [])
  | "unregister" | "get" => some (taking ["name"] [])
  | "names" => some (taking [] [])
  | _ => none

/-- The operations of programs. -/
def ofProgram? : String → Option MethodSignature
  | "library" => some (taking [] ["name"])
  | "symbols" | "emit" | "verify" => some (taking [] [])
  | _ => none

/-- The operations of symbol tables. -/
def ofTable? : String → Option MethodSignature
  | "add_symbol" => some (taking ["symbol"] [])
  | "get_symbol" | "has_definition" => some (taking ["ir_name"] [])
  | "get_definitions" | "get_declarations" => some (taking [] [])
  | _ => none

/-- The operations of symbol descriptions. -/
def ofSymbolInfo? : String → Option MethodSignature
  | "is_definition" | "is_external_linkage" => some (taking [] [])
  | _ => none

/-- The operations of reports. -/
def ofReport? : String → Option MethodSignature
  | "warn" => some (taking ["code", "msg"] [])
  | "codes" => some (taking [] [])
  | "format" => some (taking [] ["use_color", "items"])
  | "print" => some (taking [] ["stream", "use_color", "items"])
  | _ => none

end MethodSignature

namespace Value

/-- What an operation of a value can be called with, if the value has one of the name. -/
def methodSignature? (name : String) : Value → Option MethodSignature
  | .generator _ => MethodSignature.ofGenerator? name
  | .library _ => MethodSignature.ofLibrary? name
  | .function _ => MethodSignature.ofFunction? name
  | .fragment _ => MethodSignature.ofFragment? name
  | .registry _ => MethodSignature.ofRegistry? name
  | .program .. => MethodSignature.ofProgram? name
  | .table _ => MethodSignature.ofTable? name
  | .symbolInfo _ => MethodSignature.ofSymbolInfo? name
  | .report _ => MethodSignature.ofReport? name
  | .type _ => if name = "as_pointer" then some (.taking [] ["addrspace"]) else Option.none
  | _ => Option.none

/-- The name of a method behind the class that has it. -/
def methodTitle (receiver : Value) (name : String) : String :=
  match receiver with
  | .type _ => "Type." ++ name
  | receiver => receiver.className ++ "." ++ name

/-- The number of arguments that a callback takes, where it is fixed and can be seen. A type takes
the value of a constant. -/
def arity? : Value → Option Nat
  | .callback closure => closure.body.arity?
  | .type _ => some 1
  | .method receiver name => (receiver.methodSignature? name).bind MethodSignature.arity?
  | _ => Option.none

end Value

/-- The number of arguments that a fragment takes besides the generator, where it can be seen. -/
def Value.fragmentArity? (body : Value) : Option Nat :=
  body.arity?.map (· - 1)

end StructuredIR
