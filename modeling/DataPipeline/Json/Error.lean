import DataPipeline.Json.Printer
import DataPipeline.Text.Quoted

/-!
# Reasons why a document is refused

A text can break the rules of JSON, or hold a value that does not have the shape that is expected
there. Both are causes; their wording is in `message`.

## Main definitions

* `Json.TextFault`: the ways in which a text is not JSON
* `Json.Found`: what stands in a document where something else is expected
* `Json.ShapeError`: the ways in which a value does not have a shape
* `Json.ReadError`: either of the two
-/
namespace DataPipeline.Json

/-! ## Faults of the text -/

inductive TextFault where
  | endInValue
  | endInString
  | endInList
  | endInObject
  | noColon
  | noListComma
  | noObjectComma
  | badWord
  | noValue
  | keyNotText
  | trailingComma
  | trailingText
  | badNumber
  | numberTooLarge
  | badEscape
  | loneSurrogate
  | unpairedSurrogate
  | controlCharacter
  | tooDeep
deriving DecidableEq

def TextFault.message : TextFault → String
  | endInValue => "EOF while parsing a value"
  | endInString => "EOF while parsing a string"
  | endInList => "EOF while parsing a list"
  | endInObject => "EOF while parsing an object"
  | noColon => "expected `:`"
  | noListComma => "expected `,` or `]`"
  | noObjectComma => "expected `,` or `\x7d`"
  | badWord => "expected ident"
  | noValue => "expected value"
  | keyNotText => "key must be a string"
  | trailingComma => "trailing comma"
  | trailingText => "trailing characters"
  | badNumber => "invalid number"
  | numberTooLarge => "number out of range"
  | badEscape => "invalid escape"
  | loneSurrogate => "lone leading surrogate in hex escape"
  | unpairedSurrogate => "unexpected end of hex escape"
  | controlCharacter =>
    "control character (\\u0000-\\u001F) found while parsing a string"
  | tooDeep => "recursion limit exceeded"

/-! ## Values of the wrong shape -/

/-- What stands where something else is expected. -/
inductive Found where
  | null
  | bool (value : Bool)
  | int (value : Int)
  | float (value : Binary64)
  | text (value : String)
  | sequence
  | map
deriving DecidableEq

def Found.message : Found → String
  | null => "null"
  | bool b => "boolean `" ++ String.ofList (boolChars b) ++ "`"
  | int n => "integer `" ++ String.ofList (intChars n) ++ "`"
  | float x => "floating point `" ++ String.ofList x.chars ++ "`"
  | text s => "string " ++ Text.quoted s
  | sequence => "sequence"
  | map => "map"

/-- The sort of a value, as far as a message shows it. -/
def found : Json → Found
  | .null => .null
  | .bool b => .bool b
  | .num (.int n) => .int n
  | .num (.float x) => .float x
  | .str s => .text s
  | .arr _ => .sequence
  | .obj _ => .map

/-- Why a value does not have the expected shape. -/
inductive ShapeError where
  | wrongType (found : Found) (expected : String)
  | wrongValue (found : Found) (expected : String)
  | wrongLength (length : Nat) (expected : String)
  | missingField (name : String)
  | duplicateField (name : String)
  | unknownVariant (name : String) (known : List String)
  | unknownKind (name : String)
  | badSettings (kind id : String) (cause : ShapeError)
deriving DecidableEq

def ticked (name : String) : String := "`" ++ name ++ "`"

/-- The names that would have been right. -/
def oneOf : List String → String
  | [] => "there are no variants"
  | [a] => "expected " ++ ticked a
  | [a, b] => "expected " ++ ticked a ++ " or " ++ ticked b
  | names => "expected one of " ++ String.intercalate ", " (names.map ticked)

def ShapeError.message : ShapeError → String
  | wrongType f e => "invalid type: " ++ f.message ++ ", expected " ++ e
  | wrongValue f e => "invalid value: " ++ f.message ++ ", expected " ++ e
  | wrongLength n e => "invalid length " ++ toString n ++ ", expected " ++ e
  | missingField name => "missing field " ++ ticked name
  | duplicateField name => "duplicate field " ++ ticked name
  | unknownVariant name known => "unknown variant " ++ ticked name ++ ", " ++ oneOf known
  | unknownKind name => "unknown node type '" ++ name ++ "'"
  | badSettings kind id cause =>
    "invalid data for " ++ kind ++ " node '" ++ id ++ "': " ++ cause.message

/-! ## Refused texts -/

/-- Why a text is refused. -/
inductive ReadError where
  | fault (fault : TextFault)
  | shape (error : ShapeError)
deriving DecidableEq

def ReadError.message : ReadError → String
  | fault f => f.message
  | shape e => e.message

end DataPipeline.Json
