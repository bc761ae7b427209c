import StructuredIR.Build
import StructuredIR.Coercion
import StructuredIR.Description
import StructuredIR.Diagnostic.Catalogue
import StructuredIR.Diagnostic.Cause
import StructuredIR.Diagnostic.Lookup
import StructuredIR.Diagnostic.Report
import StructuredIR.Diagnostic.Template
import StructuredIR.Dictionary
import StructuredIR.Display
import StructuredIR.Equality
import StructuredIR.Fault
import StructuredIR.Function.Basic
import StructuredIR.Generator.Aggregates
import StructuredIR.Generator.Arithmetic
import StructuredIR.Generator.Basic
import StructuredIR.Generator.Branches
import StructuredIR.Generator.Calls
import StructuredIR.Generator.Casts
import StructuredIR.Generator.Memory
import StructuredIR.Generator.Returns
import StructuredIR.Instruction
import StructuredIR.Key
import StructuredIR.Library.Basic
import StructuredIR.Library.Declaration
import StructuredIR.Library.Import
import StructuredIR.Library.Resolution
import StructuredIR.Library.Visibility
import StructuredIR.Literal
import StructuredIR.Module
import StructuredIR.Name
import StructuredIR.Names
import StructuredIR.Number.Binary
import StructuredIR.Number.Digits
import StructuredIR.Number.Reader
import StructuredIR.Number.Shortest
import StructuredIR.Operand
import StructuredIR.Printing
import StructuredIR.Program
import StructuredIR.Proofs.Bare
import StructuredIR.Proofs.Blocks
import StructuredIR.Proofs.Bodies
import StructuredIR.Proofs.Calculations
import StructuredIR.Proofs.Calls
import StructuredIR.Proofs.Citations
import StructuredIR.Proofs.Clients
import StructuredIR.Proofs.Coercions
import StructuredIR.Proofs.Conditions
import StructuredIR.Proofs.Conforming
import StructuredIR.Proofs.Constants
import StructuredIR.Proofs.Conversions
import StructuredIR.Proofs.Courses
import StructuredIR.Proofs.Declarations
import StructuredIR.Proofs.Discipline.Basic
import StructuredIR.Proofs.Discipline.ControlFlow
import StructuredIR.Proofs.Discipline.Endings
import StructuredIR.Proofs.Discipline.Requests
import StructuredIR.Proofs.Discipline.Straight
import StructuredIR.Proofs.Divisions
import StructuredIR.Proofs.Effects
import StructuredIR.Proofs.Elements
import StructuredIR.Proofs.Emission
import StructuredIR.Proofs.Evaluation
import StructuredIR.Proofs.Finished
import StructuredIR.Proofs.Instructions
import StructuredIR.Proofs.Libraries
import StructuredIR.Proofs.Library.Accounting
import StructuredIR.Proofs.Library.Agents
import StructuredIR.Proofs.Library.Aliases
import StructuredIR.Proofs.Library.Allocation
import StructuredIR.Proofs.Library.Choices
import StructuredIR.Proofs.Library.Clashes
import StructuredIR.Proofs.Library.Closure
import StructuredIR.Proofs.Library.Convergence
import StructuredIR.Proofs.Library.Exports
import StructuredIR.Proofs.Library.Fallbacks
import StructuredIR.Proofs.Library.Gains
import StructuredIR.Proofs.Library.Grounded
import StructuredIR.Proofs.Library.Growth
import StructuredIR.Proofs.Library.Homes
import StructuredIR.Proofs.Library.Identifiers
import StructuredIR.Proofs.Library.Imports
import StructuredIR.Proofs.Library.Isolation
import StructuredIR.Proofs.Library.Ledger
import StructuredIR.Proofs.Library.Linkage
import StructuredIR.Proofs.Library.Mangling
import StructuredIR.Proofs.Library.Outlines
import StructuredIR.Proofs.Library.Pooled
import StructuredIR.Proofs.Library.Pooling
import StructuredIR.Proofs.Library.Preservation
import StructuredIR.Proofs.Library.Refusals
import StructuredIR.Proofs.Library.Remembered
import StructuredIR.Proofs.Library.Repetition
import StructuredIR.Proofs.Library.Signatures
import StructuredIR.Proofs.Operations
import StructuredIR.Proofs.Refusals
import StructuredIR.Proofs.Rereading
import StructuredIR.Proofs.Resizing
import StructuredIR.Proofs.Returns.Funnel
import StructuredIR.Proofs.Returns.Operations
import StructuredIR.Proofs.Returns.Setup
import StructuredIR.Proofs.Returns.Site
import StructuredIR.Proofs.Returns.Typed
import StructuredIR.Proofs.Rows
import StructuredIR.Proofs.Scripts
import StructuredIR.Proofs.Sealing.Clients
import StructuredIR.Proofs.Sealing.Conditionals
import StructuredIR.Proofs.Sealing.Loops
import StructuredIR.Proofs.Sealing.Operations
import StructuredIR.Proofs.Sealing.Orders
import StructuredIR.Proofs.Steady
import StructuredIR.Proofs.Straight
import StructuredIR.Proofs.Structured.Accounts
import StructuredIR.Proofs.Structured.Alterations
import StructuredIR.Proofs.Structured.Builds
import StructuredIR.Proofs.Structured.Clients
import StructuredIR.Proofs.Structured.Conditionals
import StructuredIR.Proofs.Structured.Functions
import StructuredIR.Proofs.Structured.Loops
import StructuredIR.Proofs.Structured.Operations
import StructuredIR.Proofs.Structured.Parts
import StructuredIR.Proofs.Structured.Readings
import StructuredIR.Proofs.Structured.Requests
import StructuredIR.Proofs.Structured.Tidy
import StructuredIR.Proofs.Structured.Walks
import StructuredIR.Proofs.Symbols
import StructuredIR.Proofs.Texts
import StructuredIR.Proofs.Types.Lexemes
import StructuredIR.Proofs.Types.Printing
import StructuredIR.Proofs.Types.Sentences
import StructuredIR.Proofs.Underflow
import StructuredIR.Proofs.Wiring.Bindings
import StructuredIR.Proofs.Wiring.Conditionals
import StructuredIR.Proofs.Wiring.Confined
import StructuredIR.Proofs.Wiring.Constructions
import StructuredIR.Proofs.Wiring.Layouts
import StructuredIR.Proofs.Wiring.Loops
import StructuredIR.Proofs.Wiring.Operations
import StructuredIR.Proofs.Wiring.Parts
import StructuredIR.Proofs.Wiring.Visits
import StructuredIR.Proofs.Wrapping
import StructuredIR.Reference
import StructuredIR.Registry
import StructuredIR.Routine
import StructuredIR.Script.Attributes
import StructuredIR.Script.Call
import StructuredIR.Script.Evaluation
import StructuredIR.Script.Items
import StructuredIR.Script.Method
import StructuredIR.Script.Operations
import StructuredIR.Script.Session
import StructuredIR.Script.Syntax
import StructuredIR.Signature
import StructuredIR.StringPool
import StructuredIR.Text.Blank
import StructuredIR.Text.Escaped
import StructuredIR.Text.Hexadecimal
import StructuredIR.Text.Numeral
import StructuredIR.Text.Printable
import StructuredIR.Text.Quoted
import StructuredIR.Type.Basic
import StructuredIR.Type.Grammar
import StructuredIR.Value
import StructuredIR.View
import StructuredIR.Visibility
import StructuredIR.World
