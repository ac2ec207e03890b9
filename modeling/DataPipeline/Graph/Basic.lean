import DataPipeline.Workflow.Basic

/-!
# The graph of a workflow

The nodes and connections of a workflow as a directed graph. Its vertices are the ids of the nodes
and its edges the connections between them; a connection that names an id without a node is left
aside as dangling. Edges may repeat and may be loops.

## Main definitions

* `Graph`, `Workflow.graph`
* `Graph.successors`, `Graph.predecessors`: neighbours along the edges, the newest edge first
* `Graph.Path`, `Graph.Cyclic`: chains of edges, and chains that come back
-/
namespace DataPipeline

structure Graph where
  vertices : List String
  edges : List Connection
  dangling : List Connection

namespace Graph

/-- The graph on the given ids. -/
def ofParts (ids : List String) (connections : List Connection) : Graph :=
  let joins (c : Connection) := ids.contains c.source && ids.contains c.target
  ⟨ids, connections.filter joins, connections.filter (!joins ·)⟩

def contains (g : Graph) (id : String) : Bool := g.vertices.contains id

/-! ## Neighbours -/

/-- The targets of the edges out of `id`. -/
def successors (g : Graph) (id : String) : List String :=
  ((g.edges.filter (·.source = id)).map (·.target)).reverse

/-- The sources of the edges into `id`. -/
def predecessors (g : Graph) (id : String) : List String :=
  ((g.edges.filter (·.target = id)).map (·.source)).reverse

def outgoing (g : Graph) (id : String) : Nat := (g.successors id).length

def incoming (g : Graph) (id : String) : Nat := (g.predecessors id).length

/-! ## Chains of edges -/

/-- A chain of zero or more edges between vertices. -/
inductive Path (g : Graph) : String → String → Prop
  | refl {a : String} (h : a ∈ g.vertices) : Path g a a
  | step {a b : String} {c : Connection} (p : Path g a b) (hc : c ∈ g.edges) (hs : c.source = b) :
      Path g a c.target

/-- Some edge is part of a chain that comes back to where it started. -/
def Cyclic (g : Graph) : Prop := ∃ c ∈ g.edges, Path g c.target c.source

end Graph

namespace Workflow

def graph (w : Workflow) : Graph := Graph.ofParts w.ids w.connections

end Workflow

end DataPipeline
