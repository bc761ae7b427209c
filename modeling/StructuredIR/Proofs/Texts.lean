import StructuredIR.Proofs.Effects

/-! # Effects of writing texts

Operands, instructions, modules and all other values are written by steps that change nothing but
the texts that are kept once they have been written: those of held values, of blocks and of
globals. `AllowsTexts` says that an effect permits this, and `AllowsNewTexts` that it does where no
text was kept before; everything that is written then leads only where the effect permits. -/

namespace StructuredIR

open Build (Leads)

/-- An effect that permits texts to be kept. -/
class AllowsTexts (Effect : World → World → Prop) : Prop extends IsEffect Effect where
  /-- The text of a held value may be kept. -/
  held (world : World) (place : HeldId) (text : String) : Effect world (world.keepText place text)
  /-- The text of a block may be kept. -/
  block (world : World) (place : BlockRef) (text : String) :
    Effect world (world.changeBlock place fun block => { block with printed := some text })
  /-- The text of a global may be kept. -/
  global (world : World) (symbol : SymbolRef) (text : String) :
    Effect world (world.changeGlobal symbol fun global => { global with printed := some text })

/-- An effect that permits texts to be kept where none was kept when writing them began. -/
class AllowsNewTexts (Effect : World → World → Prop) : Prop extends IsEffect Effect where
  /-- The text of a held value may be kept. -/
  held {before world : World} (place : HeldId) (text : String) :
    Effect before world → ((before.held[place]?).getD default).text = none →
      Effect before (world.keepText place text)
  /-- The text of a block may be kept. -/
  block {before world : World} (place : BlockRef) (text : String) :
    Effect before world → (before.block place).printed = none →
      Effect before (world.changeBlock place fun block => { block with printed := some text })
  /-- The text of a global may be kept. -/
  global {before world : World} (symbol : SymbolRef) (text : String) :
    Effect before world → ((before.global? symbol).getD default).printed = none →
      Effect before
        (world.changeGlobal symbol fun global => { global with printed := some text })

instance {Effect : World → World → Prop} [AllowsTexts Effect] : AllowsNewTexts Effect where
  held place text soFar _ := IsEffect.trans soFar (AllowsTexts.held _ place text)
  block place text soFar _ := IsEffect.trans soFar (AllowsTexts.block _ place text)
  global symbol text soFar _ := IsEffect.trans soFar (AllowsTexts.global _ symbol text)

namespace Wording

/-- A wording whose texts lead only where an effect permits. -/
structure LeadsTo (Effect : World → World → Prop) (wording : Wording) : Prop where
  /-- Plain texts do. -/
  plain (value : Value) : Leads Effect (wording.plain value)
  /-- Quoted texts do. -/
  quoted (value : Value) : Leads Effect (wording.quoted value)

attribute [grind .] LeadsTo.plain LeadsTo.quoted

section

variable {Effect : World → World → Prop} [AllowsNewTexts Effect] {wording : Wording}

/-! ## Operands -/

/-- Writing a name keeps what the wording keeps. -/
@[grind .]
theorem leads_nameText (leads : wording.LeadsTo Effect) (name : Value) :
    Leads Effect (wording.nameText name) := by
  unfold nameText
  split <;> grind -linarith

@[grind .]
theorem leads_symbolText (leads : wording.LeadsTo Effect) (symbol : SymbolRef) :
    Leads Effect (wording.symbolText symbol) :=
  Leads.get.bind fun _ => (leads_nameText leads _).bind fun _ => Leads.pure _

@[grind .]
theorem leads_blockText (leads : wording.LeadsTo Effect) (place : BlockRef) :
    Leads Effect (wording.blockText place) :=
  Leads.get.bind fun _ => (leads_nameText leads _).bind fun _ => Leads.pure _

@[grind .]
theorem leads_heldText (leads : wording.LeadsTo Effect) (type : IRType) (content : Value) :
    Leads Effect (wording.heldText type content) := by
  unfold heldText
  split <;> grind -linarith

mutual

/-- Writing an operand keeps what the wording keeps, and the texts of held values. -/
theorem leads_reference (leads : wording.LeadsTo Effect) (operand : Operand) :
    Leads Effect (wording.reference operand) := by
  cases operand with
  | aggregate type elements =>
      have inner := leads_describeAll leads elements
      unfold reference
      grind -linarith
  | repeated size element item =>
      have inner := leads_reference leads item
      unfold reference
      grind -linarith
  | held type place kind =>
      intro world
      unfold reference
      rw [Build.after_get_bind]
      cases there : world.held[place]? with
      | none => exact IsEffect.refl world
      | some held =>
          rw [Build.present, pure_bind]
          split
          next text _ => exact Leads.pure text world
          next unwritten =>
            have found : ((world.held[place]?).getD default).text = none := by
              rwa [there, Option.getD_some]
            refine Leads.bind ((leads_heldText leads _ _).since world) (fun text => ?_) world
              (IsEffect.refl world)
            exact Leads.bind (Leads.modify fun after soFar =>
              AllowsNewTexts.held place text soFar found) fun _ => Leads.pure text
  | _ =>
      unfold reference
      grind -linarith

theorem leads_describeAll (leads : wording.LeadsTo Effect) (operands : List Operand) :
    Leads Effect (wording.describeAll operands) := by
  cases operands with
  | nil => grind -linarith [describeAll]
  | cons operand operands =>
      have first := leads_reference leads operand
      have rest := leads_describeAll leads operands
      unfold describeAll
      grind -linarith

end

attribute [grind .] leads_reference leads_describeAll

@[grind .]
theorem leads_describe (leads : wording.LeadsTo Effect) (operand : Operand) :
    Leads Effect (wording.describe operand) :=
  (leads_reference leads operand).bind fun _ => Leads.pure _

/-! ## Instructions, routines and modules -/

@[grind .]
theorem leads_listed (leads : wording.LeadsTo Effect) (operands : List Operand) :
    Leads Effect (wording.listed operands) :=
  (leads_describeAll leads operands).bind fun _ => Leads.pure _

@[grind .]
theorem leads_targetText (leads : wording.LeadsTo Effect) (target : Value) :
    Leads Effect (wording.targetText target) := by
  cases target with
  | operand operand => exact leads_describe leads operand
  | _ => exact Leads.throw _

@[grind .]
theorem leads_pairText (leads : wording.LeadsTo Effect) (mnemonic : String)
    (left right : Operand) : Leads Effect (wording.pairText mnemonic left right) :=
  (leads_reference leads left).bind fun _ =>
    (leads_reference leads right).bind fun _ => Leads.pure _

@[grind .]
theorem leads_operationText (leads : wording.LeadsTo Effect) (operation : Operation) :
    Leads Effect (wording.operationText operation) := by
  unfold operationText
  split <;> grind -linarith

@[grind .]
theorem leads_instructionText (leads : wording.LeadsTo Effect) (instruction : Instruction) :
    Leads Effect (wording.instructionText instruction) := by
  refine (leads_operationText leads instruction.operation).bind fun text => ?_
  split <;> exact Leads.pure _

@[grind .]
theorem leads_instructionLines (leads : wording.LeadsTo Effect)
    (instructions : List Instruction) : Leads Effect (wording.instructionLines instructions) := by
  induction instructions with
  | nil => exact Leads.pure _
  | cons instruction instructions ih =>
      exact (leads_instructionText leads instruction).bind fun _ => ih.bind fun _ => Leads.pure _

@[grind .]
theorem leads_blockLines (leads : wording.LeadsTo Effect) (block : Block) :
    Leads Effect (wording.blockLines block) :=
  (Leads.lift _).bind fun _ =>
    (leads_instructionLines leads block.instructions).bind fun _ => Leads.pure _

@[grind .]
theorem leads_bodyLines (leads : wording.LeadsTo Effect) (places : List BlockRef) :
    Leads Effect (wording.bodyLines places) := by
  induction places with
  | nil => exact Leads.pure _
  | cons place places ih =>
      exact Leads.get.bind fun _ => (leads_blockLines leads _).bind fun _ =>
        ih.bind fun _ => Leads.pure _

/-- Writing a block by itself keeps its text. -/
@[grind .]
theorem leads_wholeBlock (leads : wording.LeadsTo Effect) (place : BlockRef) :
    Leads Effect (wording.wholeBlock place) := by
  intro world
  unfold wholeBlock
  rw [Build.after_get_bind]
  dsimp only
  split
  next text _ => exact Leads.pure text world
  next found =>
    refine Leads.bind ((leads_blockText leads place).since world) (fun name => ?_) world
      (IsEffect.refl world)
    refine Leads.bind ((leads_blockLines leads _).since world) fun lines => ?_
    exact Leads.bind (Leads.modify fun after soFar =>
      AllowsNewTexts.block place _ soFar found) fun _ => Leads.pure _

@[grind .]
theorem leads_prototype (leads : wording.LeadsTo Effect) (symbol : SymbolRef) :
    Leads Effect (wording.prototype symbol) :=
  Leads.get.bind fun _ => (leads_symbolText leads symbol).bind fun _ => Leads.pure _

@[grind .]
theorem leads_routineText (leads : wording.LeadsTo Effect) (symbol : SymbolRef) :
    Leads Effect (wording.routineText symbol) := by
  refine (leads_prototype leads symbol).bind fun head => Leads.get.bind fun world => ?_
  dsimp only
  split
  · exact Leads.pure head
  · exact (leads_bodyLines leads _).bind fun _ => Leads.pure _

@[grind .]
theorem leads_initialText (leads : wording.LeadsTo Effect) (global : Global) :
    Leads Effect (wording.initialText global) := by
  unfold initialText
  split <;> grind -linarith

/-- Writing a global keeps its text. -/
@[grind .]
theorem leads_globalText (leads : wording.LeadsTo Effect) (symbol : SymbolRef) :
    Leads Effect (wording.globalText symbol) := by
  intro world
  unfold globalText
  rw [Build.after_get_bind]
  dsimp only
  split
  next text _ => exact Leads.pure text world
  next found =>
    refine Leads.bind ((leads_symbolText leads symbol).since world) (fun name => ?_) world
      (IsEffect.refl world)
    refine Leads.bind ((leads_initialText leads _).since world) fun initial => ?_
    exact Leads.bind (Leads.modify fun after soFar =>
      AllowsNewTexts.global symbol _ soFar found) fun _ => Leads.pure _

@[grind .]
theorem leads_declarationText (leads : wording.LeadsTo Effect) (symbol : SymbolRef) :
    Leads Effect (wording.declarationText symbol) := by
  refine Leads.get.bind fun world => ?_
  split
  · exact leads_routineText leads symbol
  · exact leads_globalText leads symbol

@[grind .]
theorem leads_declarationTexts (leads : wording.LeadsTo Effect) (symbols : List SymbolRef) :
    Leads Effect (wording.declarationTexts symbols) := by
  induction symbols with
  | nil => exact Leads.pure _
  | cons symbol symbols ih =>
      exact (leads_declarationText leads symbol).bind fun _ => ih.bind fun _ => Leads.pure _

@[grind .]
theorem leads_moduleText (leads : wording.LeadsTo Effect) (place : LibraryId) :
    Leads Effect (wording.moduleText place) :=
  Leads.get.bind fun _ => (leads_declarationTexts leads _).bind fun _ => Leads.pure _

/-! ## Descriptions of values -/

@[grind .]
theorem leads_contentOf (leads : wording.LeadsTo Effect) (operand : Operand) :
    Leads Effect (wording.contentOf operand) := by
  unfold contentOf
  split <;> grind -linarith

@[grind .]
theorem leads_describeFunction (leads : wording.LeadsTo Effect) (reference : FunctionRef) :
    Leads Effect (wording.describeFunction reference) :=
  Leads.get.bind fun _ => (leads.quoted _).bind fun _ => Leads.get.bind fun _ =>
    Leads.get.bind fun _ => (Leads.lift _).bind fun _ => Leads.pure _

@[grind .]
theorem leads_describeFragment (leads : wording.LeadsTo Effect) (fragment : Fragment) :
    Leads Effect (wording.describeFragment fragment) :=
  (leads.quoted fragment.name).bind fun _ => Leads.pure _

@[grind .]
theorem leads_positionName (value : Value) : Leads Effect (positionName value) := by
  unfold positionName
  refine Leads.get.bind fun world => ?_
  split <;> grind -linarith

@[grind .]
theorem leads_describeGenerator (leads : wording.LeadsTo Effect) (generator : Generator) :
    Leads Effect (wording.describeGenerator generator) :=
  Leads.get.bind fun _ => (leads.quoted _).bind fun _ =>
    (leads_positionName generator.block).bind fun _ => (leads.quoted _).bind fun _ => Leads.pure _

@[grind .]
theorem leads_describeProgram (leads : wording.LeadsTo Effect) (name : Value)
    (names : List Phrase) : Leads Effect (wording.describeProgram name names) :=
  (leads.quoted name).bind fun _ => Leads.pure _

@[grind .]
theorem leads_describeTable (leads : wording.LeadsTo Effect) (table : SymbolTable) :
    Leads Effect (wording.describeTable table) :=
  Leads.get.bind fun _ => (leads.plain table.libraryName).bind fun _ => Leads.pure _

@[grind .]
theorem leads_quotedRow (leads : wording.LeadsTo Effect) (opening closing : String)
    (items : List Value) : Leads Effect (wording.quotedRow opening closing items) :=
  (Leads.mapM leads.quoted items).bind fun _ => Leads.pure _

@[grind .]
theorem leads_quotedEntries (leads : wording.LeadsTo Effect) (entries : List (Value × Value)) :
    Leads Effect (wording.quotedEntries entries) :=
  have each (entry : Value × Value) := (leads.quoted entry.1).bind fun first =>
    (leads.quoted entry.2).bind fun second => Leads.pure (first ++ ": " ++ second)
  (Leads.mapM each entries).bind fun _ => Leads.pure _

@[grind .]
theorem leads_quotedIndex (leads : wording.LeadsTo Effect) (className : String)
    (entries : List (Value × Value)) :
    Leads Effect (wording.quotedIndex className entries) := by
  unfold quotedIndex
  split
  · exact Leads.pure _
  · exact (leads_quotedEntries leads entries).bind fun _ => Leads.pure _

@[grind .]
theorem leads_quotedFields (leads : wording.LeadsTo Effect) (className : String)
    (fields : List (String × Value)) :
    Leads Effect (wording.quotedFields className fields) :=
  have each (field : String × Value) := (leads.quoted field.2).bind fun text =>
    Leads.pure (field.1 ++ "=" ++ text)
  (Leads.mapM each fields).bind fun _ => Leads.pure _

@[grind .]
theorem leads_quotedOperand (leads : wording.LeadsTo Effect) (operand : Operand) :
    Leads Effect (wording.quotedOperand operand) := by
  unfold quotedOperand
  refine Leads.get.bind fun world => ?_
  dsimp only
  split <;> grind -linarith

@[grind .]
theorem leads_plainOperand (leads : wording.LeadsTo Effect) (operand : Operand) :
    Leads Effect (wording.plainOperand operand) := by
  unfold plainOperand
  split <;> grind -linarith

@[grind .]
theorem leads_quotedText (leads : wording.LeadsTo Effect) (value : Value) :
    Leads Effect (wording.quotedText value) := by
  unfold quotedText
  split <;> grind -linarith

@[grind .]
theorem leads_plainText (leads : wording.LeadsTo Effect) (value : Value) :
    Leads Effect (wording.plainText value) := by
  unfold plainText
  split <;> grind -linarith

/-- The wording of each depth keeps nothing but texts. -/
theorem leadsTo_ofDepth (depth : Nat) : (ofDepth depth).LeadsTo Effect := by
  induction depth with
  | zero => exact ⟨fun _ => Leads.throw _, fun _ => Leads.throw _⟩
  | succ depth ih => exact ⟨leads_plainText ih, leads_quotedText ih⟩

/-- The wording of all messages and modules keeps nothing but texts. -/
@[grind .]
theorem leadsTo_standard : standard.LeadsTo Effect :=
  leadsTo_ofDepth maximalDepth

end

end Wording

namespace Build

variable {Effect : World → World → Prop} [AllowsNewTexts Effect]

@[grind .]
theorem leads_plain (value : Value) : Leads Effect (plain value) :=
  Wording.leadsTo_standard.plain value

@[grind .]
theorem leads_quoted (value : Value) : Leads Effect (quoted value) :=
  Wording.leadsTo_standard.quoted value

@[grind .]
theorem leads_describe (operand : Operand) : Leads Effect (describe operand) :=
  Wording.leads_describe Wording.leadsTo_standard operand

@[grind .]
theorem leads_printModule (place : LibraryId) : Leads Effect (printModule place) :=
  Wording.leads_moduleText Wording.leadsTo_standard place

/-! ## Keys -/

@[grind .]
theorem leads_operandKey (operand : Operand) : Leads Effect (operandKey operand) := by
  unfold operandKey
  dsimp only
  split <;> grind -linarith

@[grind .]
theorem leads_flatKey (value : Value) : Leads Effect (flatKey value) := by
  unfold flatKey
  split <;> grind -linarith

mutual

/-- Telling a value from others writes nothing but texts of constants. -/
theorem leads_keyOf (value : Value) : Leads Effect (keyOf value) := by
  cases value with
  | list items =>
      have inner := leads_keysOf items
      unfold keyOf
      grind -linarith
  | tuple items =>
      have inner := leads_keysOf items
      unfold keyOf
      grind -linarith
  | dictionary entries =>
      have inner := leads_entryKeys entries
      unfold keyOf
      grind -linarith
  | symbolInfo info =>
      obtain ⟨name, symbolName, kind, isDeclaration, linkage, libraryName, typeText⟩ := info
      have first := leads_keyOf name
      have second := leads_keyOf symbolName
      have third := leads_keyOf kind
      have fourth := leads_keyOf isDeclaration
      have fifth := leads_keyOf linkage
      have sixth := leads_keyOf libraryName
      have seventh := leads_keyOf typeText
      unfold keyOf
      grind -linarith
  | resolution kind target =>
      have inner := leads_keyOf target
      unfold keyOf
      grind -linarith
  | method receiver name =>
      have inner := leads_keyOf receiver
      unfold keyOf
      grind -linarith
  | _ =>
      unfold keyOf
      grind -linarith

theorem leads_keysOf (values : List Value) : Leads Effect (keysOf values) := by
  cases values with
  | nil => grind -linarith [keysOf]
  | cons value values =>
      have first := leads_keyOf value
      have rest := leads_keysOf values
      unfold keysOf
      grind -linarith

theorem leads_entryKeys (entries : List (Value × Value)) : Leads Effect (entryKeys entries) := by
  cases entries with
  | nil => grind -linarith [entryKeys]
  | cons entry entries =>
      obtain ⟨key, value⟩ := entry
      have first := leads_keyOf key
      have second := leads_keyOf value
      have rest := leads_entryKeys entries
      unfold entryKeys
      grind -linarith

end

attribute [grind .] leads_keyOf leads_keysOf leads_entryKeys

@[grind .]
theorem leads_requireKey (value : Value) : Leads Effect (requireKey value) := by
  unfold requireKey
  split <;> grind -linarith

@[grind .]
theorem leads_nameOf (value : Value) : Leads Effect (nameOf value) := by
  grind -linarith [nameOf]

@[grind .]
theorem leads_areEqual (left right : Value) : Leads Effect (areEqual left right) := by
  grind -linarith [areEqual]

end Build

end StructuredIR
