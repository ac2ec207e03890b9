import DataPipeline.Codec.Basic

/-!
# Records

Codecs for structures. A record is written as an object with its fields in declared order. It is
read from an object with its fields in any order, or from a list of the fields in declared order.
Keys that belong to no field are ignored, or kept by records that are open.

## Main definitions

* `Field`: a key, the codec of its values, and what stands in for a field that is absent
* `Layout`: the fields of a record in declared order, and the function that puts them together
* `Codec.record`, `Codec.openRecord`: the codec for a layout, without and with further keys
-/
namespace DataPipeline

open Json

variable {ρ α β : Type}

/-! ## Fields -/

/-- A field of the records `ρ` with values in `β`. -/
structure Field (ρ β : Type) where
  name : String
  /-- Further keys under which the field is read. -/
  aliases : List String
  codec : Codec β
  get : ρ → β
  /-- The value when an object lacks the key; without one the field is required. -/
  absent : Option β
  /-- The value when a list ends before the field; without one the field is required. -/
  short : Option β
  /-- Which values are not written. -/
  hidden : β → Bool

namespace Field

def required (name : String) (codec : Codec β) (get : ρ → β) : Field ρ β :=
  ⟨name, [], codec, get, none, none, fun _ => false⟩

/-- A field that need not be there. -/
def orElse (name : String) (codec : Codec β) (value : β) (get : ρ → β) : Field ρ β :=
  ⟨name, [], codec, get, some value, some value, fun _ => false⟩

/-- A field that is written only when there is a value. -/
def optional (name : String) (codec : Codec β) (get : ρ → Option β) : Field ρ (Option β) :=
  ⟨name, [], codec.optional, get, some none, some none, Option.isNone⟩

/-- A field that is written as `null` without a value, and may be left out of objects only. -/
def nullable (name : String) (codec : Codec β) (get : ρ → Option β) : Field ρ (Option β) :=
  ⟨name, [], codec.optional, get, some none, none, fun _ => false⟩

/-- A list that is written only when it has items. -/
def items (name : String) (codec : Codec β) (get : ρ → List β) : Field ρ (List β) :=
  ⟨name, [], codec.list, get, some [], some [], List.isEmpty⟩

/-- A set of texts that is written only when it has members. -/
def keySet (name : String) (get : ρ → KeySet) : Field ρ KeySet :=
  ⟨name, [], Codec.keySet, get, some Dict.empty, some Dict.empty, Dict.isEmpty⟩

/-- An object with arbitrary keys that is written only when it has members. -/
def dict (name : String) (get : ρ → Dict Json) : Field ρ (Dict Json) :=
  ⟨name, [], Codec.dict, get, some Dict.empty, some Dict.empty, Dict.isEmpty⟩

/-- Reads the field under a further key. -/
def alsoReadAs (f : Field ρ β) (key : String) : Field ρ β := { f with aliases := key :: f.aliases }

def answersTo (f : Field ρ β) (key : String) : Bool := key = f.name || f.aliases.contains key

/-- The field of a record that is given by the members of an object. -/
def ofMembers (f : Field ρ β) (members : List (String × Json)) : Except ShapeError β :=
  match members.find? (fun m => f.answersTo m.1) with
  | some m => f.codec.ofJson m.2
  | none => match f.absent with
    | some b => .ok b
    | none => .error (.missingField f.name)

/-- The field as a member of an object, if it is written. -/
def toMembers (f : Field ρ β) (r : ρ) : List (String × Json) :=
  if f.hidden (f.get r) then [] else [(f.name, f.codec.toJson (f.get r))]

end Field

/-- What reading a text or the keys of an object needs to know of a field. -/
structure Slot where
  name : String
  answersTo : String → Bool
  scan : Scan
  check : Json → Except ShapeError Unit

def Field.slot (f : Field ρ β) : Slot :=
  ⟨f.name, f.answersTo, f.codec.scan, fun j => (f.codec.ofJson j).map fun _ => ()⟩

/-! ## Layouts -/

/-- Fields of the records `ρ` in declared order, and a function of their values. -/
inductive Layout (ρ : Type) : Type → Type 1 where
  | make {α : Type} (a : α) : Layout ρ α
  | field {α β : Type} (l : Layout ρ (β → α)) (f : Field ρ β) : Layout ρ α

namespace Layout

def slots : {α : Type} → Layout ρ α → List Slot
  | _, make _ => []
  | _, field l f => l.slots ++ [f.slot]

def size : {α : Type} → Layout ρ α → Nat
  | _, make _ => 0
  | _, field l _ => l.size + 1

/-- The function applied to the fields of a record. -/
def build : {α : Type} → Layout ρ α → ρ → α
  | _, make a, _ => a
  | _, field l f, r => l.build r (f.get r)

def ofMembers (members : List (String × Json)) : {α : Type} → Layout ρ α → Except ShapeError α
  | _, make a => .ok a
  | _, field l f => do
    let g ← l.ofMembers members
    return g (← f.ofMembers members)

/-- The fields given by a list; one that is short of a required field is refused with `tooShort`,
which gets the place of the field. -/
def ofItems (items : List Json) (tooShort : Nat → ShapeError) :
    {α : Type} → Layout ρ α → Except ShapeError α
  | _, make a => .ok a
  | _, field l f => do
    let g ← l.ofItems items tooShort
    match items[l.size]? with
    | some j => return g (← f.codec.ofJson j)
    | none => match f.short with
      | some b => return g b
      | none => .error (tooShort l.size)

def toMembers : {α : Type} → Layout ρ α → ρ → List (String × Json)
  | _, make _, _ => []
  | _, field l f, r => l.toMembers r ++ f.toMembers r

end Layout

namespace Codec

/-! ## Reading values -/

/-- Refuses members that no field accepts, the first one in the order of the object. A field is
given once, under one of its keys. -/
def checkMembers (slots : List Slot) : List String → List (String × Json) → Except ShapeError Unit
  | _, [] => .ok ()
  | seen, m :: ms =>
    match slots.find? (·.answersTo m.1) with
    | none => checkMembers slots seen ms
    | some s =>
      if seen.contains s.name then .error (.duplicateField s.name)
      else do
        s.check m.2
        checkMembers slots (s.name :: seen) ms

def recordName (name : String) : String := "struct " ++ name

/-- Says how many items a list for a record of the given size has. -/
def tooShort (name : String) (size place : Nat) : ShapeError :=
  .wrongLength place <|
    recordName name ++ " with " ++ toString size ++ if size = 1 then " element" else " elements"

def recordOf (name : String) (l : Layout ρ α) : Json → Except ShapeError α
  | .obj members => do
    checkMembers l.slots [] members
    l.ofMembers members
  | .arr items => do
    let a ← l.ofItems items (tooShort name l.size)
    if l.size < items.length then .error (.wrongLength items.length "fewer elements in array")
    return a
  | j => wrongType j (recordName name)

/-- The members of an object that belong to no field. -/
def rest (slots : List Slot) (members : List (String × Json)) : Dict Json :=
  Dict.ofList (members.filter fun m => !slots.any (·.answersTo m.1))

def openRecordOf (name : String) (l : Layout ρ (Dict Json → α)) : Json → Except ShapeError α
  | .obj members => do
    checkMembers l.slots [] members
    let f ← l.ofMembers members
    return f (rest l.slots members)
  | j => wrongType j (recordName name)

/-! ## Scanning texts -/

/-- Scans the members of an object. A member without a field is read by `other`, which says whether
to keep it. -/
def scanMembers (slots : List Slot) (other : Nat → Reader (Option Json)) : Scan := fun depth => do
  let member (known : List String × List (String × Json)) (key : String) := do
    match slots.find? (·.answersTo key) with
    | some s =>
      if known.1.contains s.name then throw (.shape (.duplicateField s.name))
      colon
      return (s.name :: known.1, (key, ← s.scan depth) :: known.2)
    | none =>
      colon
      match ← other depth with
      | some j => return (known.1, (key, j) :: known.2)
      | none => return known
  let (_, members) ← foldMembers member ([], [])
  return .obj members.reverse

/-- Scans the fields that a list gives, and stops at its end or behind the last field. -/
def scanSlots (depth : Nat) : Bool → List Slot → Reader (List Json)
  | _, [] => return []
  | first, s :: ss => do
    if ← nextItem first then
      let j ← s.scan depth
      return j :: (← scanSlots depth false ss)
    else return []

/-- Consumes the end of a list that has no items left for a field. -/
def endOfFields : Reader Unit := do
  let c ← peekOr .endInList
  advance
  if c = ',' && (← peek) == some ']' then Reader.refuse .trailingComma
  if c ≠ ']' then Reader.refuse .trailingText

/-- Scans a list of fields. -/
def scanFields (slots : List Slot) (check : Json → Except ShapeError α) : Scan := fun depth => do
  let items ← scanSlots depth true slots
  let _ ← Reader.accept (check (.arr items))
  endOfFields
  return .arr items

def skipOther (_ : Nat) : Reader (Option Json) := do
  skipValue
  return none

def keepOther (depth : Nat) : Reader (Option Json) := do
  return some (← readValue depth)

/-! ## Codecs -/

/-- Records that ignore further keys. -/
def record (name : String) (l : Layout ρ ρ) : Codec ρ where
  scan := fun depth => do
    let c ← peekOr .endInValue
    if c = '[' then enter depth (scanFields l.slots (recordOf name l))
    else if c = '\x7b' then
      let j ← enter depth (scanMembers l.slots skipOther)
      let _ ← Reader.accept (recordOf name l j)
      return j
    else scanLeaf (recordOf name l) depth
  ofJson := recordOf name l
  toJson r := .obj (l.toMembers r)

/-- Records that keep further keys; they are not read from lists. -/
def openRecord (name : String) (l : Layout ρ (Dict Json → ρ)) (extra : ρ → Dict Json) :
    Codec ρ where
  scan := fun depth => do
    if (← peekOr .endInValue) = '\x7b' then
      let j ← enter depth (scanMembers l.slots keepOther)
      let _ ← Reader.accept (openRecordOf name l j)
      return j
    else scanLeaf (openRecordOf name l) depth
  ofJson := openRecordOf name l
  toJson r := .obj (l.toMembers r ++ (extra r).entries)

end Codec

end DataPipeline
