import StructuredIR.Description
import StructuredIR.Function.Basic

/-! # Visibility of declarations

Who sees what a library declares can be changed later, for everything of a name or for what is
declared from then on. External declarations stay public, with a warning. -/

namespace StructuredIR

namespace Library

/-- Sets who sees what is declared from now on. -/
def setDefault (place : LibraryId) (visibility : Visibility) : Build Unit :=
  modify (·.changeLibrary place fun library => { library with visibility })

/-- Warns that an external declaration stays public. -/
def warnExternal (place : LibraryId) (name : Name) : Build Unit := do
  Build.warn place (.privateDeclaration (← Build.plain name.shown))

/-- Changes the visibility of the function of a name; tells whether there is one. -/
def relinkFunction (place : LibraryId) (name : Name) (visibility : Visibility) :
    Build Bool := do
  match ((← get).library place).functions.placeOf? name.key with
  | none => return false
  | some function =>
      unless ← Function.relink ⟨place, function⟩ (.visibility visibility) do
        warnExternal place name
      return true

/-- Changes the visibility of the fragment of a name; tells whether there is one. -/
def relinkFragment (place : LibraryId) (name : Name) (visibility : Visibility) :
    Build Bool := do
  match ((← get).library place).fragments.get? name.key with
  | none => return false
  | some fragment =>
      modify (·.changeFragment fragment fun fragment =>
        { fragment with visibility := .visibility visibility })
      return true

/-- Changes the visibility of the global of a name; tells whether there is one. -/
def relinkGlobal (place : LibraryId) (name : Name) (visibility : Visibility) : Build Bool := do
  match ((← get).library place).globals.get? name.key with
  | none => return false
  | some entry =>
      let symbol : SymbolRef := ⟨place, entry.symbol⟩
      let isExternal := ((← get).global? symbol).all fun global => global.initial.isNone
      if isExternal && visibility == .isPrivate then warnExternal place name
      else
        modify fun world =>
          (world.changeGlobal symbol fun global =>
            { global with isPrivate := visibility == .isPrivate }).changeLibrary place
              fun library =>
                { library with
                  globals := library.globals.change name.key fun entry =>
                    { entry with visibility } }
      return true

/-- Changes the visibility of everything of a name. -/
def relink (place : LibraryId) (name : Value) (visibility : Visibility) : Build Unit := do
  let name ← Build.nameOf name
  let isFunction ← relinkFunction place name visibility
  let isFragment ← relinkFragment place name visibility
  let isGlobal ← relinkGlobal place name visibility
  unless isFunction || isFragment || isGlobal do
    let shown ← Build.plain name.shown
    Build.reject (.noSuchSymbol ((← get).library place).name.plain shown)

/-- Changes the visibility of everything of some names, or of what is declared from now on if
there are none. -/
def relinkAll (place : LibraryId) (visibility : Visibility) (names : List Value) :
    Build Unit := do
  if names.isEmpty then setDefault place visibility
  names.forM fun name => relink place name visibility

/-- Runs a callback on a library with another visibility for what is declared meanwhile. -/
def withDefault (place : LibraryId) (visibility : Visibility) (body : Callback) :
    Build Unit := do
  let previous := ((← get).library place).visibility
  setDefault place visibility
  try
    let _ ← body.run [.library place]
  catch fault =>
    setDefault place previous
    throw fault
  setDefault place previous

/-- Changes the visibility of a name, or of what a callback declares, or of what is declared from
now on. A value that is no visibility changes nothing, with a warning. -/
def setVisibility (place : LibraryId) (visibility name : Value)
    (body : Option Callback) : Build Unit := do
  Build.tryKey visibility
  match visibility.visibility? with
  | none =>
      let quoted ← Build.quoted visibility
      Build.warn place
        (.invalidVisibility quoted ((← get).library place).visibility.text)
  | some visibility =>
      match name, body with
      | .none, some body => withDefault place visibility body
      | .none, none => setDefault place visibility
      | name, _ => relink place name visibility

end Library

end StructuredIR
