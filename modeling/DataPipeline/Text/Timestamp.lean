/-!
# Timestamps

Points in time as RFC 3339 writes them: a date of the Gregorian calendar, a time of the day with an
optional fraction of a second, and an offset from universal time.

## Main definitions

* `Timestamp`, `Timestamp.Fault`
* `Timestamp.isDate`: which dates there are
* `Timestamp.parse`: reads a timestamp
-/
namespace DataPipeline

structure Timestamp where
  year : Nat
  month : Nat
  day : Nat
  hour : Nat
  minute : Nat
  second : Nat
  /-- The digits behind the decimal point. -/
  fraction : List Char
  /-- Minutes ahead of universal time. -/
  offset : Int

namespace Timestamp

inductive Fault where
  | tooShort
  | invalid
  | outOfRange
  | tooLong
deriving DecidableEq

def Fault.message : Fault → String
  | tooShort => "premature end of input"
  | invalid => "input contains invalid characters"
  | outOfRange => "input is out of range"
  | tooLong => "trailing input"

/-! ## The calendar -/

def isLeapYear (year : Nat) : Bool := year % 4 = 0 && (year % 100 ≠ 0 || year % 400 = 0)

def daysIn (year month : Nat) : Nat :=
  match month with
  | 1 | 3 | 5 | 7 | 8 | 10 | 12 => 31
  | 4 | 6 | 9 | 11 => 30
  | 2 => if isLeapYear year then 29 else 28
  | _ => 0

def isDate (year month day : Nat) : Bool := decide (1 ≤ day) && decide (day ≤ daysIn year month)

/-- Second 60 stands for a leap second and is allowed in every minute. -/
def isTime (hour minute second : Nat) : Bool :=
  decide (hour ≤ 23) && decide (minute ≤ 59) && decide (second ≤ 60)

/-! ## Reading -/

/-- Takes characters off a text. -/
abbrev Parser := StateT (List Char) (Except Fault)

/-- A decimal number of exactly `n` digits. -/
def number (n : Nat) : Parser Nat := do
  let cs ← get
  let ds := cs.take n
  if ds.length = n && ds.all Char.isDigit then
    set (cs.drop n)
    return ds.foldl (fun v d => 10 * v + (d.toNat - '0'.toNat)) 0
  else throw .invalid

/-- One of the given characters. -/
def oneOf (allowed : List Char) : Parser Char := do
  match ← get with
  | [] => throw .tooShort
  | c :: rest =>
    if allowed.contains c then
      set rest
      return c
    else throw .invalid

def byteCount (cs : List Char) : Nat := cs.foldl (fun n c => n + c.utf8Size) 0

/-- A number of two digits, told apart from a text that ends too early. -/
def twoDigits : Parser Nat := do
  if byteCount (← get) < 2 then throw .tooShort
  number 2

/-- The digits behind the decimal point, if there is one. -/
def fractionDigits : Parser (List Char) := do
  match ← get with
  | '.' :: rest =>
    match rest.takeWhile Char.isDigit with
    | [] => throw (if rest.isEmpty then .tooShort else .invalid)
    | ds =>
      set (rest.drop ds.length)
      return ds
  | _ => return []

/-- The offset in minutes: `Z`, or a sign, hours and minutes. -/
def offsetMinutes : Parser Int := do
  let sign ← oneOf ['Z', 'z', '+', '-', '−']
  if sign = 'Z' || sign = 'z' then return 0
  let hours ← twoDigits
  let _ ← oneOf [':']
  let minutes ← twoDigits
  if 59 < minutes then throw .outOfRange
  let total : Int := 60 * hours + minutes
  return if sign = '+' then total else -total

def timestamp : Parser Timestamp := do
  let year ← number 4
  let _ ← oneOf ['-']
  let month ← number 2
  let _ ← oneOf ['-']
  let day ← number 2
  if !isDate year month day then throw .outOfRange
  let _ ← oneOf ['T', 't', ' ']
  let hour ← number 2
  let _ ← oneOf [':']
  let minute ← number 2
  let _ ← oneOf [':']
  let second ← number 2
  let fraction ← fractionDigits
  if !isTime hour minute second then throw .outOfRange
  let offset ← offsetMinutes
  if !(← get).isEmpty then throw .tooLong
  if 24 * 60 ≤ offset.natAbs then throw .outOfRange
  return ⟨year, month, day, hour, minute, second, fraction, offset⟩

/-- Reads a text as a timestamp. Date and time take nineteen bytes; a shorter text is refused
before it is looked at. -/
def parse (s : String) : Except Fault Timestamp :=
  if byteCount s.toList < 19 then .error .tooShort else (·.1) <$> timestamp.run s.toList

end Timestamp

end DataPipeline
