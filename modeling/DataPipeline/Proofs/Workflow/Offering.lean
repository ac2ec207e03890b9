import DataPipeline.Proofs.Catalogue.Inheritance
import DataPipeline.Proofs.Catalogue.Offer
import DataPipeline.Proofs.Settings.Forms
import DataPipeline.Proofs.Workflow.Editing

/-!
# Offers under edits

The fields available to a node are collected anew whenever they are asked for. An edit changes them
no more than it has to: it changes the sources of some ids or the block of one node, and what is
available is put together from blocks, one for each source. So a connection appends a block, the
removal of a connection or a node takes a block out, and new settings change a block where it
stands.

## Main definitions

* `Workflow.offersBeside`: the available fields that come from other nodes

## Main results

* `Workflow.feeders_disconnect` and its like: the sources after an edit
* `Workflow.handedOn_modifyFirst`, `Workflow.handedOn_eraseP`: the blocks after an edit
* `Workflow.offers_follow_edits`
-/
namespace DataPipeline

/-- A path that a node takes over is none of the fields that it hands on. -/
theorem Node.handedOn_inheritPath (source n : Node) :
    (source.inheritPath n).handedOn = n.handedOn := by
  have hfill (path : String) :
      ({ n with settings := n.settings.fill path } : Node).offers = n.offers := by
    simp only [offers, kind, label, Settings.kind_fill, Settings.label_fill,
      Settings.sourceColumns_fill]
  rw [inheritPath]
  split
  · rw [handedOn, hfill, handedOn]
  · rfl

namespace Workflow

variable {w w' : Workflow} {s t x id : String} {n : Node} {ns : List Node} {cs : List Connection}
  {f : Node → Node}

/-- The fields available to a node, without those that `x` hands on. -/
def offersBeside (w : Workflow) (x id : String) : List OfferedField :=
  (w.offersTo id).filter (·.origin.nodeId ≠ x)

/-! ## Blocks -/

theorem filter_flatMap_handedOn (w : Workflow) (x : String) (front : List String) :
    (front.flatMap w.handedOn).filter (·.origin.nodeId ≠ x) =
      (front.filter (· ≠ x)).flatMap w.handedOn := by
  have hself : (w.handedOn x).filter (·.origin.nodeId ≠ x) = [] := by
    rw [List.filter_eq_nil_iff]
    exact fun f hf => by simp [nodeId_of_mem_handedOn hf]
  have hother {s : String} (hs : s ≠ x) :
      (w.handedOn s).filter (·.origin.nodeId ≠ x) = w.handedOn s := by
    rw [List.filter_eq_self]
    exact fun f hf => by simp [nodeId_of_mem_handedOn hf, hs]
  rw [List.filter_flatMap, ← flatMap_filter_of_nil (p := (· ≠ x))]
  · exact List.flatMap_congr fun s hs => hother (by simpa using (List.mem_filter.1 hs).2)
  · intro s _ hs
    obtain rfl : s = x := by simpa using hs
    exact hself

/-- What comes from other nodes are the other blocks. -/
theorem offersBeside_eq (w : Workflow) (x id : String) :
    w.offersBeside x id = ((w.feeders id).filter (· ≠ x)).flatMap w.handedOn := by
  rw [offersBeside, offersTo_eq_flatMap, filter_flatMap_handedOn]

theorem handedOn_modifyFirst (hf : ∀ n, (f n).id = n.id) (h : s ≠ x) :
    handedOn ⟨modifyFirst x f ns, cs⟩ s = handedOn ⟨ns, cs⟩ s := by
  simp only [handedOn, node, find?_modifyFirst hf, if_neg h, Option.map_id']

theorem handedOn_modifyFirst_of_eq (hf : ∀ n, (f n).id = n.id)
    (h : ∀ n, (f n).handedOn = n.handedOn) (s : String) :
    handedOn ⟨modifyFirst x f ns, cs⟩ s = handedOn ⟨ns, cs⟩ s := by
  simp only [handedOn, node, find?_modifyFirst hf]
  cases ns.find? (·.id = s) with
  | none => rfl
  | some n =>
    simp only [Option.map_some]
    split_ifs
    · exact h n
    · rfl

theorem handedOn_eraseP (h : s ≠ x) :
    handedOn ⟨ns.eraseP (·.id = x), cs⟩ s = handedOn ⟨ns, cs⟩ s := by
  simp only [handedOn, node, find?_eraseP h]

/-! ## Sources -/

theorem feeders_congr (h : w'.connections = w.connections) : w'.feeders id = w.feeders id := by
  rw [feeders, feeders, sources, sources, h]

theorem feeders_connect (hnew : (⟨s, t⟩ : Connection) ∉ w.connections)
    (hconn : w'.connections = w.connections ++ [⟨s, t⟩]) :
    w'.feeders id = if id = t then w.feeders id ++ [s] else w.feeders id := by
  have hsources : w'.sources id = if id = t then w.sources id ++ [s] else w.sources id := by
    by_cases hid : id = t
    · simp [sources, hconn, hid]
    · simp [sources, hconn, hid, Ne.symm hid]
  rw [feeders, hsources]
  split_ifs with hid
  · have hfresh : s ∉ w.sources id := by
      rw [mem_sources, hid]
      exact hnew
    rw [firstOfEach_concat, if_neg (by simpa using hfresh), feeders]
  · rfl

/-- The sources after connections are removed, if their sources decide which. -/
theorem feeders_filter {p : Connection → Bool} (q : String → Bool)
    (hconn : w'.connections = w.connections.filter p) (hp : ∀ a, p ⟨a, id⟩ = q a) :
    w'.feeders id = (w.feeders id).filter q := by
  have hsources : w'.sources id = (w.sources id).filter q := by
    rw [sources, sources, hconn, List.filter_filter, List.filter_map, List.filter_filter]
    refine congrArg _ (List.filter_congr fun c _ => ?_)
    by_cases hc : c.target = id
    · subst hc
      simp [← hp]
    · simp [hc]
  rw [feeders, hsources]
  exact (filter_firstOfEach q (·) [] (w.sources id)).symm

theorem feeders_disconnect (hconn : w'.connections = w.connections.filter (· ≠ ⟨s, t⟩)) :
    w'.feeders t = (w.feeders t).filter (· ≠ s) :=
  feeders_filter _ hconn fun a => by simp

theorem feeders_disconnect_of_ne (hconn : w'.connections = w.connections.filter (· ≠ ⟨s, t⟩))
    (h : id ≠ t) : w'.feeders id = w.feeders id := by
  rw [feeders_filter (fun _ => true) hconn fun a => by simp [h], List.filter_true]

theorem feeders_eraseNode (hconn : w'.connections = w.connections.filter (!·.touches x)) :
    w'.feeders x = [] := by
  rw [feeders_filter (fun _ => false) hconn fun a => by simp [Connection.touches],
    List.filter_false]

theorem feeders_eraseNode_of_ne (hconn : w'.connections = w.connections.filter (!·.touches x))
    (h : id ≠ x) : w'.feeders id = (w.feeders id).filter (· ≠ x) :=
  feeders_filter _ hconn fun a => by simp [Connection.touches, h]

/-! ## What is available after an edit -/

/-- Blocks that stay as they are for ids that stay in front. -/
theorem offersTo_eq_of_feeders {front : List String} (hfeeders : w'.feeders id = front)
    (hblock : ∀ s ∈ front, w'.handedOn s = w.handedOn s) :
    w'.offersTo id = front.flatMap w.handedOn := by
  rw [offersTo_eq_flatMap, hfeeders]
  exact List.flatMap_congr hblock

theorem offersTo_modifyFirst (hf : ∀ n, (f n).id = n.id) (h : ∀ n, (f n).handedOn = n.handedOn) :
    offersTo ⟨modifyFirst x f ns, cs⟩ id = offersTo ⟨ns, cs⟩ id := by
  rw [offersTo_eq_flatMap ⟨ns, cs⟩]
  exact offersTo_eq_of_feeders (feeders_congr rfl) fun s _ => handedOn_modifyFirst_of_eq hf h s

/-- One more connection, without a path that is taken over. -/
theorem offersTo_connected (hnew : (⟨s, t⟩ : Connection) ∉ w.connections) :
    offersTo ⟨w.nodes, w.connections ++ [⟨s, t⟩]⟩ id =
      if id = t then w.offersTo id ++ w.handedOn s else w.offersTo id := by
  have hblocks : offersTo ⟨w.nodes, w.connections ++ [⟨s, t⟩]⟩ id =
      (if id = t then w.feeders id ++ [s] else w.feeders id).flatMap w.handedOn :=
    offersTo_eq_of_feeders (feeders_connect hnew rfl) fun _ _ => rfl
  rw [hblocks, offersTo_eq_flatMap w]
  split_ifs
  · rw [List.flatMap_append, List.flatMap_singleton]
  · rfl

theorem offersTo_disconnect (h : w.disconnect s t = .ok w') :
    w'.offersTo t = w.offersBeside s t ∧ ∀ id ≠ t, w'.offersTo id = w.offersTo id := by
  obtain ⟨-, rfl⟩ := disconnect_eq_ok_iff.1 h
  constructor
  · rw [offersBeside_eq]
    exact offersTo_eq_of_feeders (feeders_disconnect (w := w) rfl) fun _ _ => rfl
  · intro id hid
    rw [offersTo_eq_flatMap w]
    exact offersTo_eq_of_feeders (feeders_disconnect_of_ne (w := w) rfl hid) fun _ _ => rfl

theorem offersTo_eraseNode (h : w.eraseNode x = .ok (n, w')) :
    w'.offersTo x = [] ∧ ∀ id ≠ x, w'.offersTo id = w.offersBeside x id := by
  obtain ⟨-, rfl⟩ := eraseNode_eq_ok_iff.1 h
  constructor
  · rw [offersTo_eq_flatMap, feeders_eraseNode (w := w) rfl, List.flatMap_nil]
  · intro id hid
    rw [offersBeside_eq]
    refine offersTo_eq_of_feeders (feeders_eraseNode_of_ne (w := w) rfl hid) fun s hs => ?_
    exact handedOn_eraseP (by simpa using (List.mem_filter.1 hs).2)

/-- New settings change no block but that of their node. -/
theorem offersBeside_patchSettings {patch : Json} (h : w.patchSettings x patch = .ok w')
    (id : String) : w'.offersBeside x id = w.offersBeside x id := by
  obtain ⟨-, members, settings, -, -, -, rfl⟩ := patchSettings_eq_ok_iff.1 h
  rw [offersBeside_eq, offersBeside_eq, feeders_congr (w := w) rfl]
  refine List.flatMap_congr fun s hs => handedOn_modifyFirst (by intro; rfl) ?_
  simpa using (List.mem_filter.1 hs).2

/-- What is available follows the edits block by block. A path that is taken over changes nothing,
not even where the node that takes it over is itself a source. -/
theorem offers_follow_edits (w w' : Workflow) :
    (∀ s t, w.connect s t = .ok w' →
      (∃ n, w.node s = some n ∧ w'.offersTo t = w.offersTo t ++ n.handedOn) ∧
        (∀ id ≠ t, w'.offersTo id = w.offersTo id) ∧
        ∀ id, w'.offersTo id = offersTo ⟨w.nodes, w'.connections⟩ id) ∧
      (∀ s t, w.disconnect s t = .ok w' →
        w'.offersTo t = w.offersBeside s t ∧ ∀ id ≠ t, w'.offersTo id = w.offersTo id) ∧
      (∀ x n, w.eraseNode x = .ok (n, w') →
        w'.offersTo x = [] ∧ ∀ id ≠ x, w'.offersTo id = w.offersBeside x id) ∧
      ∀ x patch, w.patchSettings x patch = .ok w' →
        ∀ id, w'.offersBeside x id = w.offersBeside x id := by
  refine ⟨fun s t h => ?_, fun s t => offersTo_disconnect, fun x n => offersTo_eraseNode,
    fun x patch => offersBeside_patchSettings⟩
  obtain ⟨n, hs, -, -, hnew, -, rfl⟩ := connect_eq_ok_iff.1 h
  have hfilled (id : String) :
      offersTo ⟨modifyFirst t n.inheritPath w.nodes, w.connections ++ [⟨s, t⟩]⟩ id =
        offersTo ⟨w.nodes, w.connections ++ [⟨s, t⟩]⟩ id :=
    offersTo_modifyFirst (id_inheritPath n) n.handedOn_inheritPath
  refine ⟨⟨n, hs, ?_⟩, fun id hid => ?_, hfilled⟩
  · rw [hfilled, offersTo_connected hnew, if_pos rfl, handedOn, hs]
  · rw [hfilled, offersTo_connected hnew, if_neg hid]

/-- A copy between two files and a filter, on which the rows lead as well. The id of the copy
repeats, and so does its connection. -/
def relay : Workflow where
  nodes := [
    { id := "in", settings := .readFile { path := some "in.csv" } },
    { id := "copy", settings := .copyFile {} },
    { id := "gen", settings := .inlineInput { columns := [⟨"id", "text", true⟩] } },
    { id := "copy", settings := .readFile {} },
    { id := "pick", settings := .filter {} }]
  connections := [⟨"copy", "pick"⟩, ⟨"gen", "pick"⟩, ⟨"copy", "pick"⟩]

/-- Each of the edits goes through: the copy takes over the path of the file, both its connections
are removed, the first of the two copies is removed, and the rows get other columns. -/
theorem offers_follow_edits_relay :
    (∃ w', relay.connect "in" "copy" = .ok w' ∧
      (∃ n, relay.node "in" = some n ∧
        w'.offersTo "copy" = relay.offersTo "copy" ++ n.handedOn) ∧
      w'.offersTo "pick" = relay.offersTo "pick") ∧
    (∃ w', relay.disconnect "copy" "pick" = .ok w' ∧
      w'.offersTo "pick" = relay.offersBeside "copy" "pick") ∧
    (∃ n w', relay.eraseNode "copy" = .ok (n, w') ∧ w'.offersTo "copy" = [] ∧
      w'.offersTo "pick" = relay.offersBeside "copy" "pick") ∧
    ∃ w', relay.patchSettings "gen" (.obj [("schema", .arr [])]) = .ok w' ∧
      w'.offersBeside "gen" "pick" = relay.offersBeside "gen" "pick" := by
  refine ⟨⟨_, rfl, ?_⟩, ⟨_, rfl, ?_⟩, ⟨_, _, rfl, ?_⟩, _, rfl, ?_⟩
  · obtain ⟨hnew, hrest, -⟩ := (offers_follow_edits relay _).1 "in" "copy" rfl
    exact ⟨hnew, hrest "pick" (by decide)⟩
  · exact ((offers_follow_edits relay _).2.1 "copy" "pick" rfl).1
  · obtain ⟨hnone, hrest⟩ := (offers_follow_edits relay _).2.2.1 "copy" _ rfl
    exact ⟨hnone, hrest "pick" (by decide)⟩
  · exact (offers_follow_edits relay _).2.2.2 "gen" (.obj [("schema", .arr [])]) rfl "pick"

end Workflow

end DataPipeline
