import DataPipeline.Json.Error

/-!
# Words, numbers and strings of a JSON text

The pieces of a text below the level of brackets. A `Reader` takes characters off the front of what
is left of the text.

## Main definitions

* `Json.Reader`: computations that consume a text
* `Json.readNumber`, `Json.readString`: numbers and strings with their values
* `Json.skipNumber`, `Json.skipString`: the same, checked only as far as they are written
-/
namespace DataPipeline.Json

/-- Takes characters off a text or refuses it. -/
abbrev Reader := StateT (List Char) (Except ReadError)

namespace Reader

def refuse {α : Type} (f : TextFault) : Reader α := throw (.fault f)

/-- Refuses the text when a value has the wrong shape. -/
def accept {α : Type} : Except ShapeError α → Reader α
  | .ok a => pure a
  | .error e => throw (.shape e)

end Reader

open Reader

/-- The four blanks between the pieces of a document. -/
def isWhite (c : Char) : Bool := c == ' ' || c == '\n' || c == '\t' || c == '\r'

/-- The next character after white space; it is left in the text. -/
def peek : Reader (Option Char) := do
  modify (·.dropWhile isWhite)
  return (← get).head?

/-- Drops the next character. -/
def advance : Reader Unit := modify (·.drop 1)

/-- The next character after white space when one is due. -/
def peekOr (f : TextFault) : Reader Char := do
  match ← peek with
  | some c => return c
  | none => refuse f

/-! ## Words -/

/-- Consumes the letters of a word. -/
def word (letters : List Char) : Reader Unit := do
  for l in letters do
    match ← get with
    | [] => refuse .endInValue
    | c :: rest =>
      set rest
      if c ≠ l then refuse .badWord

/-! ## Numbers -/

/-- The greatest number of 64 bits. -/
def maxWord : Nat := 18446744073709551615

/-- The greatest exponent that is added up. -/
def maxExponent : Nat := 2147483647

/-- The size of the least integer of 64 bits with a sign. -/
def minSigned : Nat := 9223372036854775808

def digitValue (c : Char) : Nat := c.toNat - '0'.toNat

/-- Consumes the digits at the front of the text. -/
def takeDigits : Reader (List Char) := do
  let cs ← get
  set (cs.dropWhile Char.isDigit)
  return cs.takeWhile Char.isDigit

/-- Reads digits behind a significand as long as it stays within `limit`: the significand and the
number of digits left over. -/
def absorb (limit : Nat) : Nat → List Char → Nat × Nat
  | sig, [] => (sig, 0)
  | sig, d :: ds =>
    if limit < sig * 10 + digitValue d then (sig, (d :: ds).length)
    else absorb limit (sig * 10 + digitValue d) ds

/-- The power of ten nearest to `10 ^ k`. -/
def tenTo (k : Nat) : Binary64 := (Binary64.ofRatio false (Nat.pow 10 k) 1).getD (.zero false)

/-- Multiplies a number of at most 64 bits by a power of ten, rounding after each factor of at most
`10 ^ 308`. Four rounds are enough, because a small power leaves nothing after three. -/
def scaleByTen (x : Binary64) (k : Int) : Nat → Option Binary64
  | 0 => some x
  | fuel + 1 =>
    if k.natAbs ≤ 308 then
      if 0 ≤ k then x.mul (tenTo k.natAbs) else x.div (tenTo k.natAbs)
    else if x.isZero then some x
    else if 0 ≤ k then none
    else (x.div (tenTo 308)).bind (scaleByTen · (k + 308) fuel)

/-- The floating-point number for a significand and a power of ten. -/
def floatOf (negative : Bool) (sig : Nat) (k : Int) : Reader Number :=
  match scaleByTen (Binary64.ofInt sig) k 4 with
  | some x => return .float { x with negative := negative }
  | none => refuse .numberTooLarge

/-- Reads an exponent behind its letter. -/
def readExponent (negative : Bool) (sig : Nat) (k : Int) : Reader Number := do
  advance
  let down := (← get).head? == some '-'
  if down || (← get).head? == some '+' then advance
  match ← takeDigits with
  | [] => if (← get).isEmpty then refuse .endInValue else refuse .badNumber
  | ds =>
    let (e, dropped) := absorb maxExponent 0 ds
    if 0 < dropped then
      if sig ≠ 0 ∧ !down then refuse .numberTooLarge else return .float (.zero negative)
    else floatOf negative sig (if down then k - e else k + e)

def isExponentMark (c : Option Char) : Bool := c == some 'e' || c == some 'E'

/-- Reads the rest of a number behind its point. -/
def readFraction (negative : Bool) (sig : Nat) (k : Int) : Reader Number := do
  advance
  match ← takeDigits with
  | [] => if (← get).isEmpty then refuse .endInValue else refuse .badNumber
  | ds =>
    let (sig, dropped) := absorb maxWord sig ds
    let k := k - (ds.length - dropped : Nat)
    if isExponentMark (← get).head? then readExponent negative sig k
    else floatOf negative sig k

/-- The number for an integer text: one of 64 bits with or without sign is an integer; a negative
zero and everything larger is a floating-point number. -/
def integerOf (negative : Bool) (sig : Nat) : Number :=
  if !negative then .int sig
  else if 0 < sig ∧ sig ≤ minSigned then .int (-sig)
  else .float { Binary64.ofInt sig with negative := true }

/-- Reads a number without its sign. -/
def readUnsigned (negative : Bool) : Reader Number := do
  match ← takeDigits with
  | [] => if (← get).isEmpty then refuse .endInValue else refuse .badNumber
  | '0' :: _ :: _ => refuse .badNumber
  | ds =>
    let (sig, dropped) := absorb maxWord 0 ds
    let next := (← get).head?
    if next == some '.' then readFraction negative sig dropped
    else if isExponentMark next then readExponent negative sig dropped
    else if 0 < dropped then floatOf negative sig dropped
    else return integerOf negative sig

def readNumber : Reader Number := do
  if (← get).head? == some '-' then
    advance
    readUnsigned true
  else readUnsigned false

/-- Consumes one digit or more. -/
def skipDigits : Reader Unit := do
  if (← takeDigits).isEmpty then refuse .badNumber

/-- Consumes a number of any size. -/
def skipNumber : Reader Unit := do
  if (← get).head? == some '-' then advance
  match ← takeDigits with
  | [] => refuse .badNumber
  | '0' :: _ :: _ => refuse .badNumber
  | _ => pure ()
  if (← get).head? == some '.' then
    advance
    skipDigits
  if isExponentMark (← get).head? then
    advance
    if (← get).head? == some '+' || (← get).head? == some '-' then advance
    skipDigits

/-! ## Strings -/

def hexValue (c : Char) : Option Nat :=
  if c.isDigit then some (c.toNat - '0'.toNat)
  else if 'a' ≤ c ∧ c ≤ 'f' then some (c.toNat - 'a'.toNat + 10)
  else if 'A' ≤ c ∧ c ≤ 'F' then some (c.toNat - 'A'.toNat + 10)
  else none

def utf8Size (cs : List Char) : Nat := cs.foldl (fun n c => n + c.utf8Size) 0

/-- Reads the four digits of a `\u` escape. A text that ends before four more bytes ends inside the
string. -/
def readHex : Reader Nat := do
  let cs ← get
  if utf8Size (cs.take 4) < 4 then refuse .endInString
  match (cs.take 4).mapM hexValue with
  | some [a, b, c, d] =>
    set (cs.drop 4)
    return ((a * 16 + b) * 16 + c) * 16 + d
  | _ => refuse .badEscape

/-- Consumes one character of a surrogate pair's second half. -/
def surrogateMark (mark : Char) : Reader Unit := do
  match ← get with
  | [] => refuse .endInString
  | c :: rest => if c = mark then set rest else refuse .unpairedSurrogate

/-- Reads a `\u` escape behind its letter; a character beyond the first plane takes two of them. -/
def readUnicode : Reader Char := do
  let n ← readHex
  if 0xDC00 ≤ n ∧ n ≤ 0xDFFF then refuse .loneSurrogate
  if n < 0xD800 ∨ 0xDBFF < n then return Char.ofNat n
  surrogateMark '\\'
  surrogateMark 'u'
  let m ← readHex
  if m < 0xDC00 ∨ 0xDFFF < m then refuse .loneSurrogate
  return Char.ofNat (0x10000 + (n - 0xD800) * 0x400 + (m - 0xDC00))

/-- The character that a one-letter escape stands for. -/
def shortEscape : Char → Option Char
  | '"' => some '"'
  | '\\' => some '\\'
  | '/' => some '/'
  | 'b' => some '\x08'
  | 'f' => some '\x0c'
  | 'n' => some '\n'
  | 'r' => some '\r'
  | 't' => some '\t'
  | _ => none

/-- Reads an escape behind its backslash. -/
def readEscape (unicode : Reader Char) : Reader Char := do
  match ← get with
  | [] => refuse .endInString
  | c :: rest =>
    set rest
    if c = 'u' then unicode
    else match shortEscape c with
      | some e => return e
      | none => refuse .badEscape

/-- Reads the characters of a string up to its closing quote, at most `fuel` of them. -/
def readChars (unicode : Reader Char) : Nat → Reader (List Char)
  | 0 => refuse .endInString
  | fuel + 1 => do
    match ← get with
    | [] => refuse .endInString
    | c :: rest =>
      set rest
      if c = '"' then return []
      else if c = '\\' then
        let e ← readEscape unicode
        return e :: (← readChars unicode fuel)
      else if c.toNat < 0x20 then refuse .controlCharacter
      else return c :: (← readChars unicode fuel)

/-- Reads a string behind its opening quote. -/
def readString : Reader String := do
  return String.ofList (← readChars readUnicode ((← get).length + 1))

/-- Consumes a string behind its opening quote; surrogates need not be paired. -/
def skipString : Reader Unit := do
  discard <| readChars (do return Char.ofNat (← readHex)) ((← get).length + 1)

end DataPipeline.Json
