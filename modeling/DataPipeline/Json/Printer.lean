import DataPipeline.Json.Basic
import DataPipeline.Number.Shortest

/-!
# Written JSON

The text of a document, on one line or indented by two blanks a level. Quotes, backslashes and
control characters are escaped, every other character stands for itself.

## Main definitions

* `Json.compact`, `Json.compress`: the text without white space
* `Json.pretty`, `Json.render`: the indented text
-/
namespace DataPipeline.Json

/-! ## Scalars -/

/-- The spelling of one character between quotes. -/
def escapeChar (c : Char) : List Char :=
  if c = '"' then ['\\', '"']
  else if c = '\\' then ['\\', '\\']
  else if c = '\x08' then ['\\', 'b']
  else if c = '\t' then ['\\', 't']
  else if c = '\n' then ['\\', 'n']
  else if c = '\x0c' then ['\\', 'f']
  else if c = '\r' then ['\\', 'r']
  else if c.toNat < 0x20 then
    ['\\', 'u', '0', '0', Nat.digitChar (c.toNat / 16), Nat.digitChar (c.toNat % 16)]
  else [c]

def quote (s : String) : List Char := '"' :: s.toList.flatMap escapeChar ++ ['"']

def intChars (n : Int) : List Char :=
  (if n < 0 then ['-'] else []) ++ Nat.toDigits 10 n.natAbs

def Number.chars : Number → List Char
  | .int n => intChars n
  | .float x => x.chars

def boolChars (b : Bool) : List Char := (if b then "true" else "false").toList

/-! ## Text on one line -/

mutual

def compact : Json → List Char
  | .null => "null".toList
  | .bool b => boolChars b
  | .num n => n.chars
  | .str s => quote s
  | .arr items => '[' :: compactItems items ++ [']']
  | .obj members => '\x7b' :: compactMembers members ++ ['\x7d']

def compactItems : List Json → List Char
  | [] => []
  | [j] => compact j
  | j :: k :: js => compact j ++ ',' :: compactItems (k :: js)

def compactMembers : List (String × Json) → List Char
  | [] => []
  | [(k, j)] => quote k ++ ':' :: compact j
  | (k, j) :: m :: ms => quote k ++ ':' :: compact j ++ ',' :: compactMembers (m :: ms)

end

def compress (j : Json) : String := String.ofList (compact j)

/-! ## Indented text -/

/-- A line break and the blanks of a level. -/
def lineBreak (level : Nat) : List Char := '\n' :: List.replicate (2 * level) ' '

mutual

/-- The text of a value that starts on a line of the given level. -/
def pretty (level : Nat) : Json → List Char
  | .null => "null".toList
  | .bool b => boolChars b
  | .num n => n.chars
  | .str s => quote s
  | .arr [] => ['[', ']']
  | .arr (j :: js) => '[' :: prettyItems (level + 1) (j :: js) ++ lineBreak level ++ [']']
  | .obj [] => ['\x7b', '\x7d']
  | .obj (m :: ms) =>
    '\x7b' :: prettyMembers (level + 1) (m :: ms) ++ lineBreak level ++ ['\x7d']

def prettyItems (level : Nat) : List Json → List Char
  | [] => []
  | [j] => lineBreak level ++ pretty level j
  | j :: k :: js => lineBreak level ++ pretty level j ++ ',' :: prettyItems level (k :: js)

def prettyMembers (level : Nat) : List (String × Json) → List Char
  | [] => []
  | [(k, j)] => lineBreak level ++ quote k ++ ':' :: ' ' :: pretty level j
  | (k, j) :: m :: ms =>
    lineBreak level ++ quote k ++ ':' :: ' ' :: pretty level j ++
      ',' :: prettyMembers level (m :: ms)

end

def render (j : Json) : String := String.ofList (pretty 0 j)

end DataPipeline.Json
