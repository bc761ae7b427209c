import StructuredIR.Module

/-! # String pools

A string pool keeps one private constant of its module for each text: the bytes of the text and a
zero byte. The constants are named by the stem of the pool and the number of texts pooled before,
with a further number if that name is taken in the module. -/

namespace StructuredIR

/-- A pooled text. -/
structure PooledText where
  /-- The text as it was given first. -/
  shown : Phrase
  /-- The place of the constant in the module. -/
  place : Nat
  deriving DecidableEq, Repr, Inhabited

/-- The constants of a module that hold texts. -/
structure StringPool where
  /-- What the names of the constants begin with. -/
  stem : String
  /-- The constants by their texts, in the order of first use. -/
  entries : Dictionary String PooledText
  deriving DecidableEq, Repr, Inhabited

namespace StringPool

/-- A pool without texts. -/
def empty (stem : String) : StringPool :=
  ⟨stem, []⟩

/-- The bytes of a text, followed by a zero byte. -/
def content (text : String) : List UInt8 :=
  text.toUTF8.toList ++ [0]

/-- The constant that holds a text. -/
def constant (text : String) : Global :=
  let bytes := content text
  let type := IRType.array bytes.length (.int 8)
  { valueType := type
    initial := some (.bytes type bytes)
    isConstant := true
    isPrivate := true
    isUnnamed := true
    printed := none }

/-- The name of the next constant in a module with some names taken. -/
def nextName (pool : StringPool) (taken : List Key) : String :=
  let base := pool.stem ++ ".str." ++ toString pool.entries.length
  if taken.contains (.text base) then numbered base (leastFree taken base 0) else base

/-- The place of the constant that holds a text; a new text gets a new constant in the module. -/
def intern (pool : StringPool) (module : Module) (text : Phrase) : Nat × StringPool × Module :=
  match pool.entries.get? text.content with
  | some pooled => (pooled.place, pool, module)
  | none =>
      let name := pool.nextName module.symbols.keys
      let place := module.symbols.length
      (place, { pool with entries := pool.entries ++ [(text.content, ⟨text, place⟩)] },
        { module with
          symbols := module.symbols ++
            [(.text name, ⟨.text name, .global (constant text.content)⟩)] })

end StringPool

end StructuredIR
