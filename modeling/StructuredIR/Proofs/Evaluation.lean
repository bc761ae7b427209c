import StructuredIR.Proofs.Operations

/-! # Effects of evaluation

Scripts make constants, look at items, ask for attributes and evaluate expressions. All of this
leads only where an effect permits that things are built: **`Script.leads_attributeOf`** and
**`Script.leads_evaluate`**. -/

namespace StructuredIR

open Build (Leads)

section

variable {Effect : World → World → Prop} [AllowsCode Effect]

/-! ## Constants -/

namespace Operand

@[grind .]
theorem leads_literalOfScalar (type : IRType) (value : Value) :
    Leads Effect (literalOfScalar type value) := by
  unfold literalOfScalar
  split <;> grind -linarith

@[grind .]
theorem leads_literalOfSingle (value : Value) (type : IRType) :
    Leads Effect (literalOfSingle value type) := by
  cases type with
  | vector size element =>
      have inner := leads_literalOfSingle value element
      unfold literalOfSingle
      split <;> grind -linarith
  | _ =>
      unfold literalOfSingle
      grind -linarith

@[grind .]
theorem leads_elementOfSingle (type : IRType) (value : Value) :
    Leads Effect (elementOfSingle type value) := by
  unfold elementOfSingle
  split <;> grind -linarith

@[grind .]
theorem leads_elementsOfSingles (types : List IRType) (values : List Value) :
    Leads Effect (elementsOfSingles types values) := by
  induction types generalizing values with
  | nil => grind -linarith [elementsOfSingles]
  | cons type types ih =>
      cases values with
      | nil => grind -linarith [elementsOfSingles]
      | cons value values => grind -linarith [elementsOfSingles]

mutual

/-- Making a constant holds a value and does nothing else. -/
theorem leads_literal (type : IRType) (value : Value) : Leads Effect (literal type value) := by
  cases value with
  | list items =>
      have inner (types : List IRType) := leads_literals types items
      unfold literal
      refine (Leads.lift _).bind fun types => ?_
      split <;> grind -linarith
  | tuple items =>
      have inner (types : List IRType) := leads_literals types items
      unfold literal
      refine (Leads.lift _).bind fun types => ?_
      split <;> grind -linarith
  | resolution kind target =>
      have inner (type : IRType) := leads_element type target
      unfold literal
      refine (Leads.lift _).bind fun types => ?_
      split <;> grind -linarith
  | liveRow row =>
      unfold literal
      refine Leads.get.bind fun world => (Leads.lift _).bind fun types => ?_
      split <;> grind -linarith
  | _ =>
      unfold literal
      grind -linarith

theorem leads_element (type : IRType) (value : Value) : Leads Effect (element type value) := by
  unfold element
  split
  · exact Leads.pure _
  · exact leads_literal type _

theorem leads_literals (types : List IRType) (items : List Value) :
    Leads Effect (literals types items) := by
  cases types with
  | nil => grind -linarith [literals]
  | cons type types =>
      cases items with
      | nil => grind -linarith [literals]
      | cons item items =>
          have first := leads_element type item
          have rest := leads_literals types items
          unfold literals
          grind -linarith

end

attribute [grind .] leads_literal

end Operand

namespace Script

/-! ## Items and attributes -/

@[grind .]
theorem leads_entryAt (entries : List (Value × Value)) (index : Int) :
    Leads Effect (entryAt entries index) := by
  have keyed (entry : Value × Value) :
      Leads Effect (do return (← Build.keyOf entry.1, entry.2) : Build (Key × Value)) := by
    grind -linarith
  unfold entryAt
  refine (Leads.mapM keyed entries).bind fun keyed => ?_
  split <;> grind -linarith

@[grind .]
theorem leads_itemAt (value : Value) (index : Int) : Leads Effect (itemAt value index) := by
  unfold itemAt
  refine Leads.get.bind fun world => ?_
  split <;> grind -linarith

@[grind .]
theorem leads_isAmong (value : Value) (items : List Value) :
    Leads Effect (isAmong value items) := by
  induction items with
  | nil => grind -linarith [isAmong]
  | cons item items ih => grind -linarith [isAmong]

@[grind .]
theorem leads_isKeyOf (value : Value) (keys : List Value) :
    Leads Effect (isKeyOf value keys) := by
  grind -linarith [isKeyOf]

@[grind .]
theorem leads_holds (container value : Value) : Leads Effect (holds container value) := by
  unfold holds
  refine Leads.get.bind fun world => ?_
  split <;> grind -linarith

/-- An attribute that is there is given. -/
theorem leads_given {given : Option Value} {action : Build Value}
    (known : given.map pure = some action) : Leads Effect action := by
  obtain ⟨value, -, rfl⟩ := Option.map_eq_some_iff.mp known
  exact Leads.pure value

/-- Asking for an attribute of a generator may set up the return block of its function. -/
theorem leads_generatorAttribute? {world : World} {place : GeneratorId} {name : String}
    {action : Build Value} (known : generatorAttribute? world place name = some action) :
    Leads Effect action := by
  unfold generatorAttribute? at known
  dsimp only at known
  split at known <;> cases known <;> grind -linarith

theorem leads_functionAttribute? {world : World} {reference : FunctionRef} {name : String}
    {action : Build Value} (known : functionAttribute? world reference name = some action) :
    Leads Effect action := by
  unfold functionAttribute? at known
  dsimp only at known
  split at known <;> cases known <;> grind -linarith

theorem leads_operandAttribute? {world : World} {operand : Operand} {name : String}
    {action : Build Value} (known : operandAttribute? world operand name = some action) :
    Leads Effect action := by
  have content : Leads Effect (Wording.standard.contentOf operand) :=
    Wording.leads_contentOf Wording.leadsTo_standard operand
  unfold operandAttribute? at known
  split at known
  case h_4 | h_7 => exact leads_given known
  all_goals grind -linarith

/-- Asking for an attribute leads where an effect permits that things are built. -/
theorem leads_ownAttribute? {world : World} {value : Value} {name : String}
    {action : Build Value} (known : ownAttribute? world value name = some action) :
    Leads Effect action := by
  unfold ownAttribute? at known
  split at known
  · exact leads_generatorAttribute? known
  · exact leads_functionAttribute? known
  · exact leads_operandAttribute? known
  case h_17 => cases known
  all_goals exact leads_given known

@[grind .]
theorem leads_attributeOf (value : Value) (name : String) :
    Leads Effect (attributeOf value name) := by
  unfold attributeOf
  refine Leads.get.bind fun world => ?_
  split
  next own _ known => exact leads_ownAttribute? known
  · exact Leads.pure _
  · exact Leads.throw _

/-! ## Evaluation -/

@[grind .]
theorem leads_lookUp (place : ScopeId) (name : String) : Leads Effect (lookUp place name) := by
  unfold lookUp
  refine Leads.get.bind fun world => ?_
  split <;> grind -linarith

@[grind .]
theorem leads_bind (place : ScopeId) (name : String) (value : Value) :
    Leads Effect (bind place name value) :=
  Build.leads_aside

mutual

/-- Evaluating an expression leads where an effect permits that things are built. -/
theorem leads_evaluate (scope : ScopeId) (target : Value) (expression : Expression) :
    Leads Effect (evaluate scope target expression) := by
  cases expression with
  | list items =>
      have inner := leads_evaluateAll scope target items
      unfold evaluate
      grind -linarith
  | tuple items =>
      have inner := leads_evaluateAll scope target items
      unfold evaluate
      grind -linarith
  | constant type content =>
      have inner := leads_evaluate scope target content
      unfold evaluate
      grind -linarith
  | parameter index source =>
      unfold evaluate
      dsimp only
      split <;> grind -linarith
  | member name source =>
      cases source with
      | none =>
          unfold evaluate
          grind -linarith
      | some source =>
          have inner := leads_evaluate scope target source
          unfold evaluate
          grind -linarith
  | item index source =>
      have inner := leads_evaluate scope target source
      unfold evaluate
      grind -linarith
  | _ =>
      unfold evaluate
      grind -linarith

theorem leads_evaluateAll (scope : ScopeId) (target : Value) (expressions : List Expression) :
    Leads Effect (evaluateAll scope target expressions) := by
  cases expressions with
  | nil =>
      unfold evaluateAll
      grind -linarith
  | cons expression expressions =>
      have first := leads_evaluate scope target expression
      have rest := leads_evaluateAll scope target expressions
      unfold evaluateAll
      split <;> grind -linarith

end

attribute [grind .] leads_evaluate leads_evaluateAll

@[grind .]
theorem leads_evaluateNamed (scope : ScopeId) (target : Value)
    (expressions : List (String × Expression)) :
    Leads Effect (evaluateNamed scope target expressions) := by
  induction expressions with
  | nil => grind -linarith [evaluateNamed]
  | cons expression expressions ih => grind -linarith [evaluateNamed]

end Script

end

end StructuredIR
