import DataPipeline.Graph.Basic

/-!
# Reachability

The vertices that can be reached from a vertex, by saturation: starting from the vertex alone, each
round goes through the edges and adds the targets of those that start at a vertex found before. A
round that finds nothing ends the search, and every other round finds a new target, so that as many
rounds as there are edges are enough.

## Main definitions

* `Graph.reached`: the vertices that can be reached, in the order in which they are found
* `Graph.reaches`, `Graph.hasCycle`: the decisions made with it
-/
namespace DataPipeline.Graph

/-- Adds the target of an edge that starts at a vertex found before. -/
def follow (found : List String) (c : Connection) : List String :=
  if found.contains c.source && !found.contains c.target then found ++ [c.target] else found

/-- Goes through the edges until nothing new is found, but at most a number of times. -/
def saturate (edges : List Connection) : Nat → List String → List String
  | 0, found => found
  | rounds + 1, found =>
    let more := edges.foldl follow found
    if more.length = found.length then found else saturate edges rounds more

/-- The vertices that can be reached from `start`, itself included; none if it is unknown. -/
def reached (g : Graph) (start : String) : List String :=
  if g.contains start then saturate g.edges g.edges.length [start] else []

/-- Whether a chain of edges leads from `a` to `b`. -/
def reaches (g : Graph) (a b : String) : Bool := g.contains b && (g.reached a).contains b

def hasCycle (g : Graph) : Bool := g.edges.any fun c => g.reaches c.target c.source

/-- The reachable vertices as a set. -/
def reachable (g : Graph) (start : String) : KeySet := KeySet.ofList (g.reached start)

end DataPipeline.Graph
