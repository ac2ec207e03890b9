/-!
# Slugs

A slug stands for a name where only ASCII letters, digits and underscores are allowed. Characters
that a slug cannot hold become underscores, runs of underscores become one, and none is kept at
either end.

## Main definitions

* `Text.slug`: the slug of a name, `workflow` when the name has nothing to keep
* `Text.words`: the maximal runs of letters and digits of a text; a slug joins them by underscores
-/
namespace DataPipeline.Text

/-- ASCII letters and digits, the characters that a slug keeps. -/
def isWordChar (c : Char) : Bool := c.isAlphanum

/-! ## Slugs -/

def slugChar (c : Char) : Char := if isWordChar c then c.toLower else '_'

/-- Leaves one underscore of each run of them. -/
def collapse : List Char → List Char
  | [] => []
  | [c] => [c]
  | c :: d :: rest =>
    if c = '_' ∧ d = '_' then collapse (d :: rest) else c :: collapse (d :: rest)

/-- Removes the underscores at both ends. -/
def stripUnderscores (cs : List Char) : List Char :=
  ((cs.dropWhile (· == '_')).reverse.dropWhile (· == '_')).reverse

def slug (name : String) : String :=
  match stripUnderscores (collapse (name.toList.map slugChar)) with
  | [] => "workflow"
  | cs => String.ofList cs

/-! ## Words -/

/-- The maximal runs of word characters of `cs`, in order. -/
def words : List Char → List (List Char)
  | [] => []
  | [c] => if isWordChar c then [[c]] else []
  | c :: d :: rest =>
    if isWordChar c then
      if isWordChar d then
        match words (d :: rest) with
        | [] => [[c]]
        | w :: ws => (c :: w) :: ws
      else [c] :: words (d :: rest)
    else words (d :: rest)

end DataPipeline.Text
