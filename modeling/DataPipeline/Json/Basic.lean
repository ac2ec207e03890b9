import DataPipeline.Dict
import DataPipeline.Number.Binary64

/-!
# JSON values

Documents as trees. Integers and floating-point numbers are told apart: a number is an integer
when it is written without point and exponent. The members of an object stand in the order in
which they are written; an untyped value has them sorted, one for each key.

## Main definitions

* `Json.Number`, `Json`: numbers and values
* `Json.ofDict`, `Json.sorted`: objects with sorted members
* `Json.Sorted`: every object in the value has its keys in strictly rising order
* `Json.member`: look-up in an object
-/
namespace DataPipeline

/-- A number of a document. -/
inductive Json.Number where
  | int (value : Int)
  | float (value : Binary64)
deriving DecidableEq

/-- A document. -/
inductive Json where
  | null
  | bool (value : Bool)
  | num (value : Json.Number)
  | str (value : String)
  | arr (items : List Json)
  | obj (members : List (String × Json))

namespace Json

instance : Inhabited Json := ⟨null⟩

def int (n : Int) : Json := .num (.int n)

/-- An object with the members of a dictionary. -/
def ofDict (d : Dict Json) : Json := .obj d.entries

/-- The value of a member of an object. -/
def member (j : Json) (key : String) : Option Json :=
  match j with
  | .obj members => Dict.lookup key members
  | _ => none

/-- The text of a value that is one. -/
def text? : Json → Option String
  | .str s => some s
  | _ => none

/-! ## Sorted values -/

mutual

/-- Sorts the members of every object in a value; of repeated keys the last wins. -/
def sorted : Json → Json
  | .null => .null
  | .bool b => .bool b
  | .num n => .num n
  | .str s => .str s
  | .arr items => .arr (sortedItems items)
  | .obj members => .ofDict (.ofList (sortedMembers members))

def sortedItems : List Json → List Json
  | [] => []
  | j :: js => sorted j :: sortedItems js

def sortedMembers : List (String × Json) → List (String × Json)
  | [] => []
  | (k, j) :: ms => (k, sorted j) :: sortedMembers ms

end

/-- Every object in the value has its keys in strictly rising order. -/
inductive Sorted : Json → Prop
  | null : Sorted .null
  | bool (b : Bool) : Sorted (.bool b)
  | num (n : Number) : Sorted (.num n)
  | str (s : String) : Sorted (.str s)
  | arr {items : List Json} (h : ∀ j ∈ items, Sorted j) : Sorted (.arr items)
  | obj {members : List (String × Json)} (keys : members.Pairwise (fun a b => a.1 < b.1))
      (h : ∀ m ∈ members, Sorted m.2) : Sorted (.obj members)

end Json

end DataPipeline
