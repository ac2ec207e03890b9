/-!
# Texts

A text field counts only up to the white space around it, and a field of white space alone counts
as absent. White space is the Unicode property White_Space. Keywords in a workflow are compared
without regard to the case of their ASCII letters; every other character counts as it is. A text can
be cut in two at the first or the last place where a separator stands, which belongs to neither
part.

## Main definitions

* `Text.isSpace`: the characters of White_Space
* `Text.trim`: a text without the white space around it
* `Text.isBlank`: nothing but white space
* `Text.content`: the trimmed text of an optional field, if there is any
* `Text.lower`: a text in small letters
* `Text.cut`, `Text.cutLast`: the parts before and after a separator
-/
namespace DataPipeline.Text

/-! ## White space -/

/-- The 25 characters of the property White_Space. -/
def isSpace (c : Char) : Bool :=
  let n := c.toNat
  (decide (0x09 ≤ n) && decide (n ≤ 0x0D)) || n == 0x20 || n == 0x85 || n == 0xA0 || n == 0x1680 ||
    (decide (0x2000 ≤ n) && decide (n ≤ 0x200A)) || n == 0x2028 || n == 0x2029 || n == 0x202F ||
    n == 0x205F || n == 0x3000

/-- The characters of `cs` without leading and trailing white space. -/
def trimChars (cs : List Char) : List Char :=
  ((cs.dropWhile isSpace).reverse.dropWhile isSpace).reverse

def trim (s : String) : String := String.ofList (trimChars s.toList)

/-- Nothing but white space; the empty text is blank. -/
def isBlank (s : String) : Bool := s.toList.all isSpace

/-- The trimmed text of a field, or `none` if the field is absent or blank. -/
def content (field : Option String) : Option String :=
  match field with
  | none => none
  | some s => if isBlank s then none else some (trim s)

/-- Whether a field is absent or blank. -/
def isMissing (field : Option String) : Bool := field.all isBlank

/-! ## Lower case -/

/-- Replaces the ASCII capitals by small letters. -/
def lower (s : String) : String := String.ofList (s.toList.map Char.toLower)

/-! ## Cutting -/

/-- The parts before and after the first place where `sep` stands. -/
def cut (sep : List Char) : List Char → Option (List Char × List Char)
  | [] => if sep.isEmpty then some ([], []) else none
  | c :: cs =>
    if sep.isPrefixOf (c :: cs) then some ([], (c :: cs).drop sep.length)
    else (cut sep cs).map fun (before, after) => (c :: before, after)

/-- The parts before and after the last place where the character `sep` stands. -/
def cutLast (sep : Char) (cs : List Char) : Option (List Char × List Char) :=
  (cut [sep] cs.reverse).map fun (after, before) => (before.reverse, after.reverse)

end DataPipeline.Text
