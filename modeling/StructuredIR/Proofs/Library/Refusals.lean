import StructuredIR.Proofs.Library.Pooled
import StructuredIR.Proofs.Libraries
import StructuredIR.Proofs.Refusals

/-! # Refused declarations

A library that is asked to declare something checks it first, and then enters it. What is checked may
pool texts, but nothing is entered in the module or in the library before the last check has been passed.

* **`Function.failsIn_create`** and **`Build.failsIn_ensureGlobal`**: the module refuses a symbol as a
  whole.
* **`Library.failsIn_declareGlobal`** and its companions: a declaration that fails leads only where an
  effect permits that texts are pooled.
* **`Library.define_error`**: the definition of a function fails in this way, or in its body.
* **`Script.refused_onDeclarations?`** says so of the operations by their names. -/

namespace StructuredIR

open Build (FailsIn Leads bind_eq_ok bind_eq_error get_eq_ok pure_eq_ok)

/-! ## Symbols -/

theorem Build.failsIn_ensureGlobal {Effect : World → World → Prop} [IsEffect Effect]
    (place : LibraryId) (name : Name) (valueType : IRType) :
    FailsIn Effect (ensureGlobal place name valueType) := by
  refine .bind Leads.get fun world => ?_
  split
  · exact .of_leads (Leads.pure _)
  · split
    · exact .bind (Leads.throw _) fun _ => failsIn_declareSymbol place name _
    · exact failsIn_declareSymbol place name _

/-- Once there is a routine, a function is created. -/
theorem Function.failsIn_create {Effect : World → World → Prop} [IsEffect Effect]
    (place : LibraryId) (name : Value) (signature : Signature) (result : IRType)
    (symbolName : Name) (visibility : Visibility) (isDeclaration : Bool) :
    FailsIn Effect (create place name signature result symbolName visibility isDeclaration) :=
  (Build.failsIn_ensureRoutine place symbolName _).andThen fun symbol world => by
    cases isDeclaration <;> rfl

namespace Library

/-! ## Declarations -/

section

variable {Effect : World → World → Prop} (place : LibraryId)

section

variable [AllowsNewTexts Effect]

/-- A function that is declared is entered last. -/
theorem failsIn_declareFunction (name : Name) (parameters result : Value)
    {symbolName : Build Value} (named : Leads Effect symbolName) (visibility : Visibility)
    (isDeclaration : Bool) :
    FailsIn Effect
      (declareFunction place name parameters result symbolName visibility isDeclaration) :=
  .bind Leads.get fun _ => .bind (leads_requireFree place "function" name _) fun _ =>
    .bind Leads.get fun _ => .bind (Leads.lift _) fun signature => .bind (Leads.lift _) fun result =>
      .bind named fun shown => .bind (Build.leads_nameOf shown) fun symbol =>
        (Function.failsIn_create place name.shown signature result symbol visibility
          isDeclaration).andThen fun _ _ => rfl

theorem failsIn_declareExternal (name parameters result : Value) :
    FailsIn Effect (declareExternal place name parameters result) :=
  .bind (Build.leads_nameOf name) fun name =>
    failsIn_declareFunction place name parameters result (Leads.pure _) .isPublic true

theorem failsIn_declareFragment (name body : Value) :
    FailsIn Effect (declareFragment place name body) :=
  .bind (Build.leads_nameOf name) fun name => .bind Leads.get fun _ =>
    FailsIn.andThen (.of_leads (leads_requireFree place "macro" name _)) fun _ _ => rfl

theorem failsIn_externalGlobal (name : Name) (type : Value) :
    FailsIn Effect (externalGlobal place name type) :=
  .bind (Leads.lift _) fun type =>
    (Build.failsIn_ensureGlobal place name type).andThen fun _ _ => rfl

end

variable [AllowsPool (some place) Effect]

/-- The value of a global becomes an operand before its symbol is asked for. -/
theorem failsIn_definedGlobal (name : Name) (value : Value) :
    FailsIn Effect (definedGlobal place name value) :=
  .bind (Coercion.leads_coerce (some place) value none) fun initial => .bind Leads.get fun _ =>
    .bind (leads_symbolName _ name.shown) fun shown => .bind (Build.leads_nameOf shown) fun symbol =>
      (Build.failsIn_ensureGlobal place symbol initial.type).andThen fun _ _ => rfl

/-- A global that is declared is entered last. -/
theorem failsIn_declareGlobal (name valueOrType : Value) :
    FailsIn Effect (declareGlobal place name valueOrType) := by
  refine .bind (Build.leads_nameOf name) fun name => .bind Leads.get fun world => ?_
  refine .bind (leads_requireFree place "global" name _) fun _ => ?_
  -- What reads as a type declares a global that is defined elsewhere; any other value defines one.
  split
  · exact (failsIn_externalGlobal place name valueOrType).andThen fun _ _ => rfl
  · exact (failsIn_definedGlobal place name valueOrType).andThen fun _ _ => rfl

theorem failsIn_declareConstant (name value : Value) :
    FailsIn Effect (declareConstant place name value) :=
  (failsIn_declareGlobal place name value).andThen fun _ _ => rfl

end

/-! ### Bodies of functions -/

/-- **The body of a function fails**: the function is defined, and a generator at its entry is handed to a
callback that fails. -/
def FailsInBody (place : LibraryId) (name parameters result : Value) (body : Option Callback)
    (world : World) (fault : Fault) (after : World) : Prop :=
  ∃ callback function defined generator ready, body = some callback ∧
    define place name parameters result none world = .ok function defined ∧
      Generator.atEntry function defined = .ok generator ready ∧
        callback.run [.generator generator] ready = .error fault after

/-- **The definition of a function that fails has only pooled texts, unless the body fails.** -/
theorem define_error {place : LibraryId} {name parameters result : Value} {body : Option Callback}
    {world after : World} {fault : Fault}
    (run : define place name parameters result body world = .error fault after) :
    PoolsOnly place world after ∨
      FailsInBody place name parameters result body world fault after := by
  rcases bind_eq_error.mp run with failed | ⟨known, named, naming, run⟩
  · exact .inl ((Build.leads_nameOf name).of_error failed)
  have pools : PoolsOnly place world named := (Build.leads_nameOf name).of_ok naming
  rw [Build.run_get_bind] at run
  rcases bind_eq_error.mp run with failed | ⟨function, defined, defining, run⟩
  · have fails : FailsIn (PoolsOnly place) (declareFunction place known parameters result
        (symbolName (named.library place) known.shown) (named.library place).visibility false) :=
      failsIn_declareFunction place known parameters result (leads_symbolName _ _) _ false
    exact .inl (IsEffect.trans pools (fails _ _ _ failed))
  -- The function is entered: what fails now is its body.
  cases body with
  | none => cases run
  | some callback =>
      right
      have without : define place name parameters result none world = .ok function defined :=
        bind_eq_ok.mpr ⟨known, named, naming, bind_eq_ok.mpr ⟨named, named, rfl,
          bind_eq_ok.mpr ⟨function, defined, defining, rfl⟩⟩⟩
      rcases bind_eq_error.mp run with failed | ⟨generator, ready, placed, run⟩
      · cases failed
      rcases bind_eq_error.mp run with failed | ⟨_, _, _, given⟩
      · exact ⟨callback, function, defined, generator, ready, rfl, without, placed, failed⟩
      · cases given

end Library

/-! ## Declarations by name -/

namespace Script

/-- The operations of libraries that declare something of a name. -/
def declares : List String :=
  ["function", "extern", "macro", "global_", "constant"]

/-- A result is given once an operation has succeeded. -/
theorem failsIn_globalResult {Effect : World → World → Prop} {place : LibraryId}
    {action : Build GlobalEntry} (fails : FailsIn Effect action) :
    FailsIn Effect (globalResult place action) :=
  fails.andThen fun _ _ => rfl

/-- **A declaration that fails registers nothing**, whatever it is given: all that may have happened is
that texts were pooled, unless it is the body of a function that fails. -/
theorem refused_onDeclarations? {call : Call} {place : LibraryId} {verb : String}
    {action : Build Value} {world final : World} {fault : Fault} (declaration : verb ∈ declares)
    (known : onDeclarations? call place verb = some action)
    (run : action world = .error fault final) :
    PoolsOnly place world final ∧ KeepsDeclarations world final ∨
      verb = "function" ∧
        Library.FailsInBody place (call.value 0 "name") (call.valueOr 1 "arg_types" (.tuple []))
          (call.valueOr 2 "return_type" (.type .void)) (call.callback? 3 "body") world fault
          final := by
  have registers (only : PoolsOnly place world final) :
      PoolsOnly place world final ∧ KeepsDeclarations world final := ⟨only, only.keepsDeclarations⟩
  unfold onDeclarations? at known
  split at known <;> cases known
  case h_1 =>
    rcases bind_eq_error.mp run with failed | ⟨_, _, _, given⟩
    · rcases Library.define_error failed with only | inBody
      · exact .inl (registers only)
      · exact .inr ⟨rfl, inBody⟩
    · cases given
  case h_2 =>
    exact .inl (registers ((Library.failsIn_declareExternal place _ _ _).result _ _ _ _ run))
  case h_3 => exact .inl (registers ((Library.failsIn_declareFragment place _ _).result _ _ _ _ run))
  case h_4 =>
    exact .inl (registers
      (failsIn_globalResult (Library.failsIn_declareGlobal place _ _) _ _ _ run))
  case h_5 =>
    exact .inl (registers
      (failsIn_globalResult (Library.failsIn_declareConstant place _ _) _ _ _ run))
  all_goals exact absurd declaration (by decide)

/-- A global is given a list with a text and a number, which is refused once the text is pooled. -/
def textsAndNumbers : Call :=
  ⟨fun _ => ⟨none, fun _ => pure .none⟩, [.text "table", .list [.text "c", .integer 1]], []⟩

theorem refused_textsAndNumbers :
    "global_" ∈ declares ∧ ∃ action fault final,
      onDeclarations? textsAndNumbers 0 "global_" = some action ∧
        action overwritten = .error fault final ∧
          PoolsOnly 0 overwritten final ∧
            KeepsDeclarations overwritten final := by
  have known : onDeclarations? textsAndNumbers 0 "global_" =
      some (globalResult 0 (Library.declareGlobal 0 (.text "table")
        (.list [.text "c", .integer 1]))) := rfl
  have fails : (globalResult 0 (Library.declareGlobal 0 (.text "table")
      (.list [.text "c", .integer 1]))).succeeds overwritten = false := by
    decide +kernel
  obtain ⟨fault, final, run⟩ := Build.error_of_not_succeeds fails
  have declaration : "global_" ∈ declares := by decide
  rcases refused_onDeclarations? declaration known run with ⟨only, keeps⟩ | ⟨other, -⟩
  · exact ⟨declaration, _, fault, final, known, run, only, keeps⟩
  · exact absurd other (by decide)

end Script

end StructuredIR
