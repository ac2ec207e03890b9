import DataPipeline.Json.Lexer

/-!
# Reading JSON texts

The bracketed parts of a text. A list or an object is read by a loop over its items or members,
given a reader for one of them; the loops are used for untyped values here and for typed records by
`Codec`. Values that nobody asks for are skipped: their brackets must match, but they may be nested
as deep as they like.

## Main definitions

* `Json.readItems`, `Json.foldMembers`: the loops over lists and objects
* `Json.readValue`: an untyped value, with the members of objects sorted
* `Json.skipValue`: consumes a value
* `Json.document`: applies a reader to a whole text
-/
namespace DataPipeline.Json

open Reader

/-- How deep the brackets of a value may be nested. -/
def maxDepth : Nat := 127

/-! ## Lists -/

/-- Moves to the next item of a list, if there is one. -/
def nextItem (first : Bool) : Reader Bool := do
  let c ← peekOr .endInList
  if c = ']' then return false
  else if first then return true
  else if c = ',' then
    advance
    if (← peekOr .endInValue) = ']' then refuse .trailingComma
    return true
  else refuse .noListComma

def itemsLoop (item : Reader Json) : Nat → Bool → Reader (List Json)
  | 0, _ => refuse .endInList
  | fuel + 1, first => do
    if ← nextItem first then
      let j ← item
      return j :: (← itemsLoop item fuel false)
    else
      advance
      return []

/-- Reads the items of a list behind its opening bracket. -/
def readItems (item : Reader Json) : Reader (List Json) := do
  itemsLoop item ((← get).length + 1) true

/-! ## Objects -/

/-- Reads a key at its opening quote. -/
def readKey : Reader String := do
  advance
  readString

/-- Moves to the next member of an object, if there is one, and reads its key. -/
def nextKey (first : Bool) : Reader (Option String) := do
  let c ← peekOr .endInObject
  if c = '\x7d' then return none
  else if first then
    if c = '"' then return some (← readKey) else refuse .keyNotText
  else if c = ',' then
    advance
    let d ← peekOr .endInValue
    if d = '"' then return some (← readKey)
    else if d = '\x7d' then refuse .trailingComma
    else refuse .keyNotText
  else refuse .noObjectComma

/-- Consumes the colon behind a key. -/
def colon : Reader Unit := do
  if (← peekOr .endInObject) = ':' then advance else refuse .noColon

def membersLoop {σ : Type} (member : σ → String → Reader σ) : Nat → Bool → σ → Reader σ
  | 0, _, _ => refuse .endInObject
  | fuel + 1, first, s => do
    match ← nextKey first with
    | some k => membersLoop member fuel false (← member s k)
    | none =>
      advance
      return s

/-- Runs through the members of an object behind its opening bracket. The reader for a member
starts behind its key, at the colon. -/
def foldMembers {σ : Type} (member : σ → String → Reader σ) (s : σ) : Reader σ := do
  membersLoop member ((← get).length + 1) true s

/-! ## Untyped values -/

/-- Reads the value that begins with the character `c`, which opens no list or object. -/
def readScalar (c : Char) : Reader Json := do
  if c = 'n' then
    word "null".toList
    return .null
  else if c = 't' then
    word "true".toList
    return .bool true
  else if c = 'f' then
    word "false".toList
    return .bool false
  else if c = '"' then
    advance
    return .str (← readString)
  else if c = '-' || c.isDigit then return .num (← readNumber)
  else refuse .noValue

/-- Reads a value with at most `depth` levels of brackets. -/
def readValue : Nat → Reader Json
  | 0 => do
    let c ← peekOr .endInValue
    if c = '[' || c = '\x7b' then refuse .tooDeep else readScalar c
  | depth + 1 => do
    let c ← peekOr .endInValue
    if c = '[' then
      advance
      return .arr (← readItems (readValue depth))
    else if c = '\x7b' then
      advance
      let members ← foldMembers (fun (d : Dict Json) k => do
        colon
        return d.insert k (← readValue depth)) Dict.empty
      return .ofDict members
    else readScalar c

/-! ## Skipped values -/

/-- The two kinds of containers. -/
inductive Bracket where
  | list
  | object
deriving DecidableEq

namespace Bracket

def close : Bracket → Char
  | list => ']'
  | object => '\x7d'

/-- The fault of a text that ends inside the container. -/
def endFault : Bracket → TextFault
  | list => .endInList
  | object => .endInObject

/-- The fault of a value that neither a comma nor the closing bracket follows. -/
def commaFault : Bracket → TextFault
  | list => .noListComma
  | object => .noObjectComma

/-- Consumes what stands before the next value: the key of a member, nothing in a list. -/
def skipKey : Bracket → Reader Unit
  | list => pure ()
  | object => do
    if (← peekOr .endInObject) ≠ '"' then refuse .keyNotText
    advance
    skipString
    colon

end Bracket

/-- Moves to the next value inside the open brackets, closing those that end before it. The answer
holds the brackets that are open there, and none when the outermost value is complete. A bracket is
fresh right behind its opening. -/
def nextSkipped : Bool → List Bracket → Reader (List Bracket)
  | _, [] => return []
  | fresh, b :: outer => do
    match ← peek with
    | none => refuse b.endFault
    | some c =>
      if c = ',' && !fresh then
        advance
        b.skipKey
        return b :: outer
      else if c = b.close then
        advance
        nextSkipped false outer
      else if fresh then
        b.skipKey
        return b :: outer
      else refuse b.commaFault

/-- Consumes the value that begins with the character `c`, which opens no list or object. -/
def skipScalar (c : Char) : Reader Unit := do
  if c = '"' then
    advance
    skipString
  else if c = '-' || c.isDigit then skipNumber
  else discard <| readScalar c

/-- Consumes the value that is due inside the open brackets and all that follows in them. -/
def skipLoop : Nat → List Bracket → Reader Unit
  | 0, _ => refuse .endInValue
  | fuel + 1, outer => do
    let c ← peekOr .endInValue
    let due ←
      if c = '[' then
        advance
        nextSkipped true (.list :: outer)
      else if c = '\x7b' then
        advance
        nextSkipped true (.object :: outer)
      else
        skipScalar c
        nextSkipped false outer
    if due.isEmpty then pure () else skipLoop fuel due

def skipValue : Reader Unit := do
  skipLoop ((← get).length + 1) []

/-! ## Whole texts -/

/-- Applies a reader to a text, of which it must leave nothing but white space. -/
def document {α : Type} (reader : Reader α) (text : String) : Except ReadError α :=
  let whole : Reader α := do
    let a ← reader
    if (← peek).isSome then refuse .trailingText
    return a
  (whole.run text.toList).map (·.1)

/-- Reads a text as an untyped value. -/
def ofText (text : String) : Except ReadError Json := document (readValue maxDepth) text

end DataPipeline.Json
