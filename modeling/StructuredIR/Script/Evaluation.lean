import StructuredIR.Literal
import StructuredIR.Script.Attributes
import StructuredIR.Script.Items

/-! # Evaluation of expressions

The value of an expression in a scope. Attributes and parameters that name no value of their own
are those of the target of the step that the expression stands in. -/

namespace StructuredIR

namespace Script

/-- What a name stands for in a scope or in one of the scopes around it, of which at most `depth`
are looked at. -/
def lookUp? (world : World) (name : String) : (depth : Nat) → ScopeId → Option Value
  | 0, _ => none
  | depth + 1, place =>
      match world.scopes[place]? with
      | none => none
      | some scope =>
          scope.bindings.get? name <|> scope.parent.bind (lookUp? world name depth)

/-- What a name stands for in a scope. -/
def lookUp (place : ScopeId) (name : String) : Build Value := do
  let world ← get
  match lookUp? world name world.scopes.length place with
  | some value => return value
  | none => throw .missingKey

/-- Gives a name to a value in a scope. -/
def bind (place : ScopeId) (name : String) (value : Value) : Build Unit :=
  modify (·.changeScope place fun scope =>
    { scope with bindings := scope.bindings.enter name value })

/-- The type of pointers to functions of a signature. -/
def functionPointer (result : String) (parameters : List String) (isVariadic : Bool) :
    Except Fault IRType := do
  let result ← IRType.read result (Text.quoted result)
  let parameters ← parameters.mapM fun parameter => IRType.read parameter (Text.quoted parameter)
  return .pointer (.function result parameters isVariadic)

/-- The floating-point number of a text. -/
def readReal (text : String) : Except Fault Double :=
  match Number.readDouble? text with
  | some value => .ok value
  | none => .error (.malformedFloat (Text.quoted text))

mutual

/-- The value of an expression in a scope, for a step with the given target. -/
def evaluate (scope : ScopeId) (target : Value) : Expression → Build Value
  | .none => pure .none
  | .truth value => pure (.truth value)
  | .integer value => pure (.integer value)
  | .real text => do return .real (← readReal text)
  | .text content => pure (.text content)
  | .list items => do return .list (← evaluateAll scope target items)
  | .tuple items => do return .tuple (← evaluateAll scope target items)
  | .type text => do return .type (← IRType.read text (Text.quoted text))
  | .functionPointer result parameters isVariadic => do
      return .type (← functionPointer result parameters isVariadic)
  | .constant type content => do
      let type ← IRType.read type (Text.quoted type)
      return .operand (← Operand.literal type (← evaluate scope target content))
  | .undefined type => do
      return .operand (← Operand.undefinedOf (← IRType.read type (Text.quoted type)))
  | .variadicMark => pure .variadicMark
  | .visibility visibility => pure (.visibility visibility)
  | .policy policy => pure (.policy policy)
  | .symbolKind kind => pure (.symbolKind kind)
  | .foreign foreign => pure (.foreign foreign)
  | .emptyDictionary => pure (.dictionary [])
  | .emptyBytes => pure (.bytes [] false)
  | .object => do return .object (← Build.identity)
  | .named name => lookUp scope name
  | .parameter index source => do
      let source ←
        match source with
        | some name => lookUp scope name
        | none => pure target
      itemAt (← attributeOf source "args") index
  | .member name (some source) => do attributeOf (← evaluate scope target source) name
  | .member name none => attributeOf target name
  | .item index source => do itemAt (← evaluate scope target source) index
  | .length name => do
      let value ← lookUp scope name
      lengthOf (← get) value
  | .splat name => lookUp scope name
  | .body body => do return .callback ⟨body, scope, ← Build.identity⟩

/-- The values of some expressions, with the items of a splat one by one. -/
def evaluateAll (scope : ScopeId) (target : Value) : List Expression → Build (List Value)
  | [] => pure []
  | .splat name :: expressions => do
      let value ← lookUp scope name
      let items ← itemsOf (← get) value
      return items ++ (← evaluateAll scope target expressions)
  | expression :: expressions => do
      return (← evaluate scope target expression) :: (← evaluateAll scope target expressions)

end

/-- The values of some named expressions. -/
def evaluateNamed (scope : ScopeId) (target : Value) :
    List (String × Expression) → Build (Dictionary String Value)
  | [] => pure []
  | (name, expression) :: expressions => do
      return (name, ← evaluate scope target expression) ::
        (← evaluateNamed scope target expressions)

end Script

end StructuredIR
