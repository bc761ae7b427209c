import StructuredIR.Proofs.Library.Preservation
import StructuredIR.Proofs.Library.Repetition
import StructuredIR.Proofs.Rereading

/-! # Repeated imports converge

* **`Library.OnlyWarns`** says that all that an import has done is to record warnings about names that
  collide and about aliases.
* **`Library.importFrom_converges`**: once a source has been imported twice, or once unless its policy
  gives aliases only to names that are taken, all that further imports do is to record such
  warnings. -/

namespace StructuredIR

namespace Library

variable {importer source : LibraryId} {start imported before after : World}

/-- **All that an import has done is to warn** about names that collide and about aliases. -/
structure OnlyWarns (importer : LibraryId) (causes : List Cause) (before after : World) :
    Prop where
  /-- The warnings are about names that collide and about aliases. -/
  about : ∀ cause ∈ causes, cause.code = .importCollision ∨ cause.code = .importRenamed
  /-- They come behind the report of the library, and may have been written to the error stream.
  Nothing else has changed. -/
  world : ∃ output, after =
    { before.changeLibrary importer (Library.noted causes) with errorOutput := output }
  /-- The text of the module, read before the import, is what is read after it. -/
  text : before.NamesSteadily → ∀ world text,
    Build.printModule importer world = .ok text before →
      Build.printModule importer after = .ok text after

/-- Libraries are the same if they differ neither but for reports nor but for texts. -/
theorem eq_of_bare_of_report {known later : Library}
    (same : { later with report := default } = { known with report := default })
    (bare : later.bare = known.bare) : later = known := by
  have report : later.report = known.report := (congrArg Library.report bare :)
  cases known
  cases later
  simp_all

/-- Where only warnings were recorded, and texts were not even kept, that is all. -/
theorem eq_of_noted {causes : List Cause} (noted : Noted importer causes before after)
    (same : SameUnreported before after) : ∃ output, after =
      { before.changeLibrary importer (Library.noted causes) with errorOutput := output } := by
  have libraries : after.libraries =
      (before.changeLibrary importer (Library.noted causes)).libraries := by
    have reports (place : LibraryId) :
        { after.library place with report := default } =
          { (before.changeLibrary importer (Library.noted causes)).library place with
            report := default } := by
      rw [same.library, World.library_changeLibrary]
      split
      next here => rw [here.1]; rfl
      next => rfl
    refine List.ext_getElem (by simp [noted.length]) fun place inside insideToo => ?_
    have whole := eq_of_bare_of_report (reports place) (noted.bareLibrary place)
    simpa only [World.library, List.getElem?_eq_getElem inside,
      List.getElem?_eq_getElem insideToo, Option.getD_some] using whole
  refine ⟨after.errorOutput, ?_⟩
  have rest := same
  simp only [SameUnreported, World.unreported, World.mk.injEq] at rest
  cases before
  cases after
  simp_all [World.changeLibrary]

/-- **Repeated imports converge**: once a source has been imported twice, with whatever scripts do in
between that leaves the source as it is, all that further imports do is to warn. Once is enough
unless the policy of the source gives aliases only to names that are taken. A source whose names were
written otherwise each time would not stay as it is, so its names are steady. -/
theorem importFrom_converges {count : Nat} (reachable : Script.Reachable start)
    (inside : importer < start.libraries.length)
    (steady : ∀ name ∈ shownNames start source, name.shown.IsSteady)
    (repeated : ImportedTimes importer source start count imported)
    (often : 2 ≤ count ∨ 1 ≤ count ∧ (start.library source).policy ≠ .smart)
    (undisturbed : Undisturbed source imported before)
    (completes : CompletesImport importer source before after) :
    ∃ causes, OnlyWarns importer causes before after := by
  have earlier := repeated.undisturbed reachable inside
  have until' := earlier.trans undisturbed
  have settled : Settled importer source before :=
    undisturbed.settled (repeated.settled reachable inside steady often)
  rw [← until'.shows.names] at steady
  obtain ⟨causes, about, noted, same⟩ :=
    completes.idle (reachable.reaches until'.reaches) (until'.inside inside) steady settled
  refine ⟨causes, fun cause member => ?_, eq_of_noted noted same, fun names world text read => ?_⟩
  · obtain ⟨kind, isImport⟩ := about cause member
    cases isImport with
    | collision => exact .inl rfl
    | renamed => exact .inr rfl
  · have upheld : before.Upholds (fun _ => True) after :=
      (World.Retains.of_unreported same).upholds
    exact upheld.printModule names trivial read

end Library

/-! ## Two libraries that collide, again -/

namespace Script

/-- The world after the second library has imported the first one twice. -/
def collidedTwice : World :=
  (Library.importFrom 1 (.library 0)).after collided

/-- The world after it has done so once more. -/
def collidedThrice : World :=
  (Library.importFrom 1 (.library 0)).after collidedTwice

/-- The first library has been imported twice. -/
theorem importedTwice_colliding : Library.ImportedTimes 1 0 colliding 2 collidedTwice := by
  have once : Library.ImportedTimes 1 0 colliding 1 collided :=
    .again .never (.refl _) ⟨.library 0, rfl, importFrom_colliding⟩
  exact .again once (.refl _) ⟨.library 0, rfl, Build.ok_after (by decide +kernel)⟩

end Script

/-- The first library is imported for the third time, and all that happens is that warnings are
recorded; the names of the module are steady. -/
theorem Library.importFrom_converges_colliding :
    (∀ name ∈ shownNames Script.colliding 0, name.shown.IsSteady) ∧
      ImportedTimes 1 0 Script.colliding 2 Script.collidedTwice ∧
      CompletesImport 1 0 Script.collidedTwice Script.collidedThrice ∧
      Script.collidedTwice.NamesSteadily ∧
      ∃ causes, OnlyWarns 1 causes Script.collidedTwice Script.collidedThrice := by
  have steady : ∀ name ∈ shownNames Script.colliding 0, name.shown.IsSteady := by
    have phrases : ∀ name ∈ shownNames Script.colliding 0, name.shown.phrase?.isSome := by
      decide +kernel
    exact fun name member => Value.isSteady_of_phrase? (phrases name member)
  have completes : CompletesImport 1 0 Script.collidedTwice Script.collidedThrice :=
    ⟨.library 0, rfl, Build.ok_after (by decide +kernel)⟩
  have names : Script.collidedTwice.NamesSteadily := .of_hasPhrases (by decide +kernel)
  exact ⟨steady, Script.importedTwice_colliding, completes, names,
    importFrom_converges Script.reachable_colliding (by decide +kernel) steady
      Script.importedTwice_colliding (.inl le_rfl) (.refl _) completes⟩

end StructuredIR
