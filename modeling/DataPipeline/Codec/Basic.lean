import DataPipeline.Json.Reader

/-!
# Codecs

A codec ties a type to the documents that stand for its values. Documents are read in two ways: a
value is decoded, and a text is scanned, which finds its faults in the order of the text, be they
faults of the text or of the shape. A scanned text gives a document that decodes.

## Main definitions

* `Codec`: `scan`, `ofJson` and `toJson`; `Codec.ofText` reads a whole text
* `Codec.any`, `Codec.boolean`, `Codec.text`, `Codec.integer`, `Codec.real`: scalars
* `Codec.refine`, `Codec.optional`, `Codec.list`, `Codec.dict`: codecs made of codecs
-/
namespace DataPipeline

open Json

/-- Reads the part of a text that stands for a value, with at most the given levels of brackets. -/
abbrev Scan := Nat → Reader Json

/-- The documents that stand for the values of a type. -/
structure Codec (α : Type) where
  scan : Scan
  ofJson : Json → Except ShapeError α
  toJson : α → Json

namespace Codec

variable {α β : Type}

def wrongType (j : Json) (expected : String) : Except ShapeError α :=
  .error (.wrongType j.found expected)

/-- Reads a text as a value of the type. -/
def ofText (c : Codec α) (text : String) : Except ReadError α :=
  Json.document (do Reader.accept (c.ofJson (← c.scan Json.maxDepth))) text

/-! ## Scanning -/

/-- Reads the value that is due. Of a list or an object only the sort is looked at; nothing that is
scanned this way accepts one. -/
def scanShallow : Reader Json := do
  let c ← peekOr .endInValue
  if c = '[' then return .arr []
  else if c = '\x7b' then return .obj []
  else readScalar c

/-- Scans a value without brackets. -/
def scanLeaf (check : Json → Except ShapeError α) : Scan := fun _ => do
  let j ← scanShallow
  let _ ← Reader.accept (check j)
  return j

/-- Enters a list or object: `depth` levels of brackets are left outside of it. -/
def enter (depth : Nat) (inside : Scan) : Reader Json := do
  match depth with
  | 0 => Reader.refuse .tooDeep
  | depth + 1 =>
    advance
    inside depth

/-! ## Scalars -/

/-- Every document stands for itself. -/
def any : Codec Json where
  scan := readValue
  ofJson := .ok
  toJson := id

def booleanOf : Json → Except ShapeError Bool
  | .bool b => .ok b
  | j => wrongType j "a boolean"

def boolean : Codec Bool := ⟨scanLeaf booleanOf, booleanOf, .bool⟩

def textOf : Json → Except ShapeError String
  | .str s => .ok s
  | j => wrongType j "a string"

def text : Codec String := ⟨scanLeaf textOf, textOf, .str⟩

def integerOf (name : String) (low high : Int) : Json → Except ShapeError Int
  | .num (.int n) =>
    if low ≤ n ∧ n ≤ high then .ok n else .error (.wrongValue (.int n) name)
  | j => wrongType j name

/-- The integers from `low` to `high`, called `name` in messages. -/
def integer (name : String) (low high : Int) : Codec Int :=
  ⟨scanLeaf (integerOf name low high), integerOf name low high, .int⟩

def realOf : Json → Except ShapeError Binary64
  | .num (.float x) => .ok x
  | .num (.int n) => .ok (Binary64.ofInt n)
  | j => wrongType j "f64"

/-- Floating-point numbers; an integer stands for the nearest one. -/
def real : Codec Binary64 := ⟨scanLeaf realOf, realOf, fun x => .num (.float x)⟩

/-! ## Codecs made of codecs -/

/-- Values of `c` that satisfy a condition, in another representation. -/
def refine (c : Codec α) (f : α → Except ShapeError β) (g : β → α) : Codec β :=
  let ofJson j := do f (← c.ofJson j)
  { scan := fun depth => do
      let j ← c.scan depth
      let _ ← Reader.accept (ofJson j)
      return j
    ofJson := ofJson
    toJson := fun b => c.toJson (g b) }

/-- The values of `c` in another representation. -/
def map (c : Codec α) (f : α → β) (g : β → α) : Codec β := c.refine (fun a => .ok (f a)) g

/-- Signed words of 64 bits. -/
def int64 : Codec Int64 :=
  (integer "i64" (-9223372036854775808) 9223372036854775807).map Int64.ofInt Int64.toInt

/-- Unsigned words of 32 bits. -/
def word32 : Codec UInt32 :=
  (integer "u32" 0 4294967295).map (fun n => UInt32.ofNat n.toNat) (fun n => n.toNat)

def optionalOf (c : Codec α) : Json → Except ShapeError (Option α)
  | .null => .ok none
  | j => (c.ofJson j).map some

/-- The values of `c` and `null`. -/
def optional (c : Codec α) : Codec (Option α) where
  scan := fun depth => do
    if (← peekOr .endInValue) = 'n' then readScalar 'n' else c.scan depth
  ofJson := optionalOf c
  toJson
    | none => .null
    | some a => c.toJson a

def listOf (c : Codec α) : Json → Except ShapeError (List α)
  | .arr items => items.mapM c.ofJson
  | j => wrongType j "a sequence"

def list (c : Codec α) : Codec (List α) where
  scan := fun depth => do
    if (← peekOr .endInValue) = '[' then
      enter depth fun depth => do return .arr (← readItems (c.scan depth))
    else scanLeaf (listOf c) depth
  ofJson := listOf c
  toJson as := .arr (as.map c.toJson)

def dictOf : Json → Except ShapeError (Dict Json)
  | .obj members => .ok (Dict.ofList members)
  | j => wrongType j "a map"

/-- Objects with arbitrary keys and values. -/
def dict : Codec (Dict Json) where
  scan := fun depth => do
    if (← peekOr .endInValue) = '\x7b' then readValue depth else scanLeaf dictOf depth
  ofJson := dictOf
  toJson := .ofDict

/-- Lists of texts whose order and repetitions do not count. -/
def keySet : Codec KeySet := (list text).map KeySet.ofList KeySet.toList

end Codec

end DataPipeline
