import DataPipeline.Codec.Basic

/-!
# Choices

Codecs for types with finitely many values, each written as a name. A value has one name that is
written and may have more that are read. An object whose only key is a name, with `null` as its
value, stands for the name too.

## Main definitions

* `Codec.choice`: the codec for a list of names with the values that they stand for
-/
namespace DataPipeline.Codec

open Json

variable {α : Type}

/-- The value that a name stands for. -/
def chosen (names : List (String × α)) (name : String) : Except ShapeError α :=
  match names.find? (·.1 = name) with
  | some entry => .ok entry.2
  | none => .error (.unknownVariant name (names.map (·.1)))

def unitOf : Json → Except ShapeError Unit
  | .null => .ok ()
  | j => wrongType j "unit"

def choiceOf (names : List (String × α)) : Json → Except ShapeError α
  | .str name => chosen names name
  | .obj [(name, payload)] => do
    let a ← chosen names name
    unitOf payload
    return a
  | .obj _ => .error (.wrongValue .map "map with a single key")
  | j => wrongType j "string or map"

/-- Reads a name as the key of an object, its payload and the closing bracket. -/
def scanTagged (names : List (String × α)) : Scan := fun depth => do
  let some name ← nextKey true | Reader.refuse .noValue
  let _ ← Reader.accept (chosen names name)
  colon
  let _ ← scanLeaf unitOf depth
  if (← peekOr .endInObject) ≠ '\x7d' then Reader.refuse .noValue
  advance
  return .str name

def choice (names : List (String × α)) (name : α → String) : Codec α where
  scan := fun depth => do
    let c ← peekOr .endInValue
    if c = '"' then scanLeaf (choiceOf names) depth
    else if c = '\x7b' then enter depth (scanTagged names)
    else Reader.refuse .noValue
  ofJson := choiceOf names
  toJson a := .str (name a)

end DataPipeline.Codec
