import DataPipeline.Proofs.Lists
import DataPipeline.Proofs.Validation.Rules
import DataPipeline.Proofs.Workflow.Editing

/-!
# What the removal of a node leaves

A connection dangles if an id of it has no node. A node takes all connections with it that touch its
id, even where another node has the same id, so the removal changes nothing for the connections that
stay: those that dangle did so before, and validation says the same of them as before.

## Main definitions

* `Workflow.danglingErrors`, `Workflow.endpointErrors`: the errors about dangling connections, and
  those about one connection
* `Workflow.Clears`: what is left of a workflow

## Main results

* `Workflow.danglingErrors_eq`: each connection has its own errors
* `Workflow.erase_clears`
-/
namespace DataPipeline.Workflow

variable {w w' : Workflow} {a id : String} {n : Node} {c : Connection}

/-! ## Errors about dangling connections -/

/-- The errors about connections that name an id without a node. -/
def danglingErrors (w : Workflow) : List Diagnostic :=
  w.validate.errors.filter (·.code = "V005")

/-- An error for each end of the connection that has no node, the source first. -/
def endpointErrors (w : Workflow) (c : Connection) : List Diagnostic :=
  ([c.source, c.target].filter (· ∉ w.ids)).map fun id => (Fault.unknownEndpoint c id).diagnostic

theorem endpointErrors_eq_nil (hs : c.source ∈ w.ids) (ht : c.target ∈ w.ids) :
    w.endpointErrors c = [] := by
  simp [endpointErrors, hs, ht]

theorem danglingErrors_eq (w : Workflow) :
    w.danglingErrors = w.connections.flatMap w.endpointErrors := by
  have hfaults : w.danglingErrors = w.unknownEndpoints.map Fault.diagnostic := by
    rw [← filter_faults_eq_unknownEndpoints, danglingErrors, validate, List.filter_map]
    rfl
  have hblocks : w.unknownEndpoints.map Fault.diagnostic =
      w.graph.dangling.flatMap w.endpointErrors := by
    rw [unknownEndpoints, List.map_flatMap]
    refine List.flatMap_congr fun c _ => ?_
    simp [endpointErrors, Function.comp_def]
  rw [hfaults, hblocks]
  refine flatMap_filter_of_nil fun c _ hc => ?_
  obtain ⟨hs, ht⟩ : c.source ∈ w.ids ∧ c.target ∈ w.ids := by simpa using hc
  exact endpointErrors_eq_nil hs ht

/-! ## Connections that stay -/

section Erased

variable (hids : w'.ids = w.ids.erase id)

include hids

/-- A connection that does not touch the id keeps its ends. -/
theorem mem_ids_of_not_touches (hc : c.touches id = false) :
    (c.source ∈ w'.ids ↔ c.source ∈ w.ids) ∧ (c.target ∈ w'.ids ↔ c.target ∈ w.ids) := by
  obtain ⟨hs, ht⟩ : c.source ≠ id ∧ c.target ≠ id := by simpa [Connection.touches] using hc
  rw [hids, List.mem_erase_of_ne hs, List.mem_erase_of_ne ht]
  exact ⟨Iff.rfl, Iff.rfl⟩

theorem endpointErrors_of_not_touches (hc : c.touches id = false) :
    w'.endpointErrors c = w.endpointErrors c := by
  obtain ⟨hs, ht⟩ := mem_ids_of_not_touches hids hc
  refine congrArg _ (List.filter_congr fun a ha => ?_)
  obtain rfl | rfl : a = c.source ∨ a = c.target := by simpa using ha
  · simp [hs]
  · simp [ht]

variable (hconn : w'.connections = w.connections.filter (!·.touches id))

include hconn

theorem dangling_erased : w'.graph.dangling = w.graph.dangling.filter (!·.touches id) := by
  have hdangling (w : Workflow) : w.graph.dangling =
      w.connections.filter fun c => !(w.ids.contains c.source && w.ids.contains c.target) := rfl
  rw [hdangling, hdangling, hconn, List.filter_filter, List.filter_filter]
  refine List.filter_congr fun c _ => ?_
  cases hc : c.touches id with
  | true => simp
  | false =>
    obtain ⟨hs, ht⟩ := mem_ids_of_not_touches hids hc
    simp [hs, ht]

theorem danglingErrors_erased :
    w'.danglingErrors = (w.connections.filter (!·.touches id)).flatMap w.endpointErrors := by
  rw [danglingErrors_eq, hconn]
  refine List.flatMap_congr fun c hc => endpointErrors_of_not_touches hids ?_
  simpa using (List.mem_filter.1 hc).2

end Erased

/-! ## Removal of a node -/

/-- What is left of a workflow after the node `n` is removed as the one with the id. -/
structure Clears (w : Workflow) (id : String) (n : Node) (w' : Workflow) : Prop where
  /-- The node is the first with the id. -/
  first : ∃ before after, w.nodes = before ++ n :: after ∧ n.id = id ∧
    (∀ m ∈ before, m.id ≠ id) ∧ w'.nodes = before ++ after
  unmentioned : ∀ c ∈ w'.connections, c.source ≠ id ∧ c.target ≠ id
  kept : w'.connections = w.connections.filter (!·.touches id)
  dangling : w'.graph.dangling = w.graph.dangling.filter (!·.touches id)
  /-- Of the errors about dangling connections those stay whose connection does. -/
  errors : w'.danglingErrors = (w.connections.filter (!·.touches id)).flatMap w.endpointErrors

/-- The removal of a node leaves no connection that mentions it, and makes none dangle: before and
after it, the errors about dangling connections are put together from those about each connection,
which are the same. -/
theorem erase_clears (w : Workflow) :
    w.danglingErrors = w.connections.flatMap w.endpointErrors ∧
      ∀ id n w', w.eraseNode id = .ok (n, w') → w.Clears id n w' := by
  refine ⟨danglingErrors_eq w, fun id n w' h => ?_⟩
  obtain ⟨hn, rfl⟩ := eraseNode_eq_ok_iff.1 h
  obtain ⟨before, after, hnodes, hbefore⟩ := exists_split_of_node hn
  have hid : n.id = id := (node_eq_some hn).2
  have hids := map_id_eraseP id w.nodes
  refine ⟨⟨before, after, hnodes, hid, hbefore, ?_⟩, fun c hc => ?_, rfl, dangling_erased hids rfl,
    danglingErrors_erased hids rfl⟩
  · exact hnodes ▸ eraseP_split hbefore hid
  · simpa [Connection.touches] using (List.mem_filter.1 hc).2

/-- A filter whose id repeats. Its connections repeat, loop and dangle, and so do others. -/
def thicket : Workflow where
  nodes := [
    { id := "in", settings := .readFile { path := some "in.csv" } },
    { id := "pick", settings := .filter {} },
    { id := "pick", settings := .inlineOutput {} }]
  connections := [⟨"in", "pick"⟩, ⟨"in", "in"⟩, ⟨"pick", "pick"⟩, ⟨"in", "lost"⟩, ⟨"lost", "pick"⟩,
    ⟨"in", "lost"⟩, ⟨"in", "pick"⟩, ⟨"gone", "lost"⟩]

theorem erase_clears_thicket :
    ∃ n w', thicket.eraseNode "pick" = .ok (n, w') ∧ thicket.Clears "pick" n w' :=
  ⟨_, _, rfl, (erase_clears thicket).2 "pick" _ _ rfl⟩

/-- The error about the connection from the lost node to the filter is gone. -/
example : (thicket.attempt (.eraseNode "pick")).danglingErrors =
    thicket.endpointErrors ⟨"in", "lost"⟩ ++ thicket.endpointErrors ⟨"in", "lost"⟩ ++
      thicket.endpointErrors ⟨"gone", "lost"⟩ := by
  decide +kernel

end DataPipeline.Workflow
