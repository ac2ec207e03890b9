import DataPipeline.Proofs.Codec.Refinement
import DataPipeline.Proofs.Settings.Inherited
import DataPipeline.Proofs.Workflow.RoundTrip

/-!
# Workflows that are loaded

A document is loaded in two steps, first the envelopes and then every node, and each node that
cannot be read is reported. The codec for workflows reads it in one step and stops at the first
fault. Both read the same documents and texts as the same workflows.

## Main definitions

* `NodeEnvelope.Readable`, `NodeEnvelope.Holds`: which nodes can be read, and as what
* `NodeEnvelope.Reports`: what is said of a node that cannot be read
* `WorkflowEnvelope.Opens`: the outcome of reading the nodes from their envelopes

## Main results

* `Workflow.opens_ofEnvelope`: the nodes of a workflow are all read, or all faults are told
* `Workflow.refines_envelope`: one step reads what two steps read
* `Workflow.loads_texts_and_documents`: both about every text and every document
-/
namespace DataPipeline

open Codec
open Json (ReadError ShapeError)

/-! ## Nodes -/

namespace NodeEnvelope

variable {e : NodeEnvelope} {n : Node} {cause : ShapeError}

/-- The type of the node is known, and the settings fit it. -/
def Readable (e : NodeEnvelope) : Prop :=
  ∃ (k : Kind) (settings : Settings), k.name = e.type ∧ Settings.ofJson k e.data = .ok settings

/-- The node has its kind from the type in the envelope, its settings from the data, and all else as
it stands there. -/
structure Holds (e : NodeEnvelope) (n : Node) : Prop where
  kind : n.kind.name = e.type
  settings : Settings.ofJson n.kind e.data = .ok n.settings
  others : n = ⟨e.id, n.settings, e.position, e.status, e.output, e.error, e.configId,
    e.editedFields⟩

/-- Why the node cannot be read. -/
inductive Refused (e : NodeEnvelope) : String → Prop
  | unknownType (h : ∀ k : Kind, k.name ≠ e.type) :
      Refused e ("unknown node type '" ++ e.type ++ "'")
  | badData (k : Kind) (cause : ShapeError) (hk : k.name = e.type)
      (h : Settings.ofJson k e.data = .error cause) :
      Refused e ("invalid data for " ++ e.type ++ " node '" ++ e.id ++ "': " ++ cause.message)

/-- The diagnostic is about the node and says why it cannot be read. -/
structure Reports (e : NodeEnvelope) (d : Diagnostic) : Prop where
  code : d.code = "P002"
  phase : d.phase = .parse
  nodeId : d.nodeId = some e.id
  message : e.Refused d.message

theorem ofEnvelope_eq_ok_iff_holds : Node.ofEnvelope e = .ok n ↔ e.Holds n := by
  constructor
  · intro h
    obtain ⟨-, -, k, hk, hsettings⟩ := Node.ofEnvelope_eq_ok h
    obtain rfl : n.kind = k := Settings.kind_of_ofJson hsettings
    refine ⟨Kind.name_of_ofName hk, hsettings, ?_⟩
    simp only [Node.ofEnvelope, hk, hsettings, Except.ok.injEq] at h
    exact h.symm
  · rintro ⟨hkind, hsettings, hothers⟩
    have hk : Kind.ofName e.type = some n.kind := hkind ▸ Kind.ofName_name n.kind
    simp only [Node.ofEnvelope, hk, hsettings]
    exact congrArg Except.ok hothers.symm

theorem readable_iff : e.Readable ↔ ∃ n, Node.ofEnvelope e = .ok n := by
  constructor
  · rintro ⟨k, settings, hname, hsettings⟩
    have hk : Kind.ofName e.type = some k := hname ▸ Kind.ofName_name k
    refine ⟨⟨e.id, settings, e.position, e.status, e.output, e.error, e.configId,
      e.editedFields⟩, ?_⟩
    simp only [Node.ofEnvelope, hk, hsettings]
  · rintro ⟨n, h⟩
    obtain ⟨-, -, k, hk, hsettings⟩ := Node.ofEnvelope_eq_ok h
    exact ⟨k, n.settings, Kind.name_of_ofName hk, hsettings⟩

instance : DecidablePred Readable := fun e =>
  decidable_of_iff ((Node.ofEnvelope e).toBool = true) <| by
    rw [readable_iff]
    constructor
    · exact exists_of_toBool
    · rintro ⟨n, hn⟩
      rw [hn]
      rfl

theorem not_readable_of_error (h : Node.ofEnvelope e = .error cause) : ¬ e.Readable := by
  rw [readable_iff, h]
  rintro ⟨n, hn⟩
  cases hn

theorem reports_of_error (h : Node.ofEnvelope e = .error cause) :
    e.Reports (LoadError.node e.id cause).diagnostic := by
  refine ⟨rfl, rfl, rfl, ?_⟩
  change e.Refused cause.message
  cases hk : Kind.ofName e.type with
  | none =>
    simp only [Node.ofEnvelope, hk, Except.error.injEq] at h
    subst h
    refine .unknownType fun k hname => ?_
    rw [← hname, Kind.ofName_name] at hk
    cases hk
  | some k =>
    cases hsettings : Settings.ofJson k e.data with
    | ok settings => simp [Node.ofEnvelope, hk, hsettings] at h
    | error cause' =>
      simp only [Node.ofEnvelope, hk, hsettings, Except.error.injEq] at h
      have hname := Kind.name_of_ofName hk
      have hmessage : (ShapeError.badSettings e.type e.id cause').message =
          "invalid data for " ++ e.type ++ " node '" ++ e.id ++ "': " ++ cause'.message := rfl
      rw [← h, hname, hmessage]
      exact .badData k cause' hname hsettings

end NodeEnvelope

/-! ## All nodes of a workflow -/

/-- The nodes are read in their order if all of them can be. Otherwise there is one diagnostic for
each that cannot be read, in their order, and no other one. -/
structure WorkflowEnvelope.Opens (e : WorkflowEnvelope) (r : Except (List LoadError) Workflow) :
    Prop where
  succeeds : (∃ w, r = .ok w) ↔ ∀ n ∈ e.nodes, n.Readable
  workflow : ∀ w, r = .ok w →
    List.Forall₂ NodeEnvelope.Holds e.nodes w.nodes ∧ w.connections = e.connections
  faults : ∀ fs, r = .error fs → List.Forall₂ NodeEnvelope.Reports
    (e.nodes.filter fun n => ¬ n.Readable) (fs.map LoadError.diagnostic)

namespace Workflow

variable {e : NodeEnvelope} {es : List NodeEnvelope} {cs : List Connection}
  {fs : List LoadError} {cause : ShapeError}

theorem exists_ofEnvelope_eq_ok_iff :
    (∃ w, ofEnvelope ⟨es, cs⟩ = .ok w) ↔ ∀ e ∈ es, e.Readable := by
  simp only [ofEnvelope_eq_ok_iff, NodeEnvelope.readable_iff, ← exists_mapM_eq_ok_iff,
    mapM_eq_ok_iff]
  constructor
  · rintro ⟨w, -, hnodes⟩
    exact ⟨w.nodes, hnodes⟩
  · rintro ⟨ns, hnodes⟩
    exact ⟨⟨ns, cs⟩, rfl, hnodes⟩

/-- A node that cannot be read adds a fault to those of the others. -/
theorem ofEnvelope_cons_of_error (h : Node.ofEnvelope e = .error cause) :
    ∃ fs, ofEnvelope ⟨e :: es, cs⟩ = .error (.node e.id cause :: fs) ∧
      ((∃ w, ofEnvelope ⟨es, cs⟩ = .ok w) ∧ fs = [] ∨ ofEnvelope ⟨es, cs⟩ = .error fs) := by
  simp only [ofEnvelope, List.map_cons, h, Except.mapError, List.filterMap_cons]
  refine ⟨_, rfl, ?_⟩
  split_ifs with hnone
  · exact .inl ⟨⟨_, if_pos hnone⟩, List.isEmpty_iff.1 hnone⟩
  · exact .inr (if_neg hnone)

/-- The faults are those of the nodes that cannot be read, in their order. -/
theorem forall₂_of_ofEnvelope_eq_error (h : ofEnvelope ⟨es, cs⟩ = .error fs) :
    List.Forall₂ NodeEnvelope.Reports (es.filter fun e => ¬ e.Readable)
      (fs.map LoadError.diagnostic) := by
  induction es generalizing fs with
  | nil => cases h
  | cons e es ih =>
    cases he : Node.ofEnvelope e with
    | ok n =>
      have hreadable : e.Readable := NodeEnvelope.readable_iff.2 ⟨n, he⟩
      rw [ofEnvelope_cons_of_ok he] at h
      rw [List.filter_cons_of_neg (by simpa using hreadable)]
      cases hrest : ofEnvelope ⟨es, cs⟩ with
      | ok w =>
        rw [hrest] at h
        cases h
      | error fs' =>
        rw [hrest] at h
        cases h
        exact ih hrest
    | error cause =>
      have hunreadable : ¬ e.Readable := NodeEnvelope.not_readable_of_error he
      obtain ⟨fs', hfs, hrest⟩ := ofEnvelope_cons_of_error he
      obtain rfl := Except.error.inj (hfs.symm.trans h)
      rw [List.filter_cons_of_pos (by simpa using hunreadable), List.map_cons]
      refine .cons (NodeEnvelope.reports_of_error he) ?_
      -- The node may be the only one that cannot be read.
      rcases hrest with ⟨hread, rfl⟩ | hrest
      · have hnone : (es.filter fun e => ¬ e.Readable) = [] := by
          simpa using exists_ofEnvelope_eq_ok_iff.1 hread
        rw [hnone]
        exact .nil
      · exact ih hrest

theorem opens_ofEnvelope (e : WorkflowEnvelope) : e.Opens (ofEnvelope e) where
  succeeds := exists_ofEnvelope_eq_ok_iff
  workflow w h := by
    obtain ⟨hconnections, hnodes⟩ := ofEnvelope_eq_ok_iff.1 h
    exact ⟨hnodes.imp fun _ _ => NodeEnvelope.ofEnvelope_eq_ok_iff_holds.1, hconnections⟩
  faults fs h := forall₂_of_ofEnvelope_eq_error h

/-! ## One step and two steps -/

/-- What is read in one step is read in two steps. -/
theorem refines_envelope :
    codec.Refines WorkflowEnvelope.codec fun e w => ofEnvelope e = .ok w := by
  refine refines_pair (.orElse (refines_refine _ _ _).list (by simp [eq_comm]))
    (.orElse (reliable_record _ _).list.refines_self (by simp)) (by decide) fun es cs w => ?_
  rw [ofEnvelope_eq_ok_iff]
  constructor
  · rintro ⟨hconnections, hnodes⟩
    exact ⟨w.nodes, w.connections, hnodes, hconnections.symm, rfl⟩
  · rintro ⟨ns, _, hnodes, rfl, rfl⟩
    exact ⟨rfl, hnodes⟩

/-- A document is loaded as it is opened in its envelope, and it is loaded as a workflow exactly if
it is read as that workflow in one step. -/
structure Loads {ε : Type} (outer : Except ε WorkflowEnvelope) (whole : Except ε Workflow)
    (r : Except (List LoadError) Workflow) : Prop where
  opens : ∀ e, outer = .ok e → e.Opens r
  whole : ∀ w, r = .ok w ↔ whole = .ok w

/-- Every text and every document is loaded with all its nodes, or all nodes that cannot be read are
told, and what is loaded is what is read in one step. -/
theorem loads_texts_and_documents :
    (∀ text, Loads (WorkflowEnvelope.codec.ofText text) (codec.ofText text) (load text)) ∧
      ∀ j, Loads (WorkflowEnvelope.codec.ofJson j) (codec.ofJson j) (Workflow.ofJson j) := by
  refine ⟨fun text => ⟨fun e he => ?_, fun w => ?_⟩, fun j => ⟨fun e he => ?_, fun w => ?_⟩⟩
  · rw [load, he]
    exact opens_ofEnvelope e
  · rw [load_eq_ok_iff, refines_envelope.ofText_eq_ok_iff]
  · rw [Workflow.ofJson, he]
    exact opens_ofEnvelope e
  · rw [ofJson_eq_ok_iff, refines_envelope.ofJson]

/-- A node of an unknown type and one whose data does not fit its type. -/
def strangersText : String :=
  "\x7b\"nodes\":[\x7b\"id\":\"a\",\"type\":\"start\"\x7d," ++
    "\x7b\"id\":\"b\",\"type\":\"teleport\"\x7d," ++
    "\x7b\"id\":\"c\",\"type\":\"end\",\"data\":7\x7d]\x7d"

/-- Both are reported. -/
theorem reports_strangers : ∃ e fs, WorkflowEnvelope.codec.ofText strangersText = .ok e ∧
    load strangersText = .error fs ∧
      (e.nodes.filter fun n => ¬ n.Readable).map (·.id) = ["b", "c"] ∧
        List.Forall₂ NodeEnvelope.Reports (e.nodes.filter fun n => ¬ n.Readable)
          (fs.map LoadError.diagnostic) := by
  have h : (WorkflowEnvelope.codec.ofText strangersText).toOption.any (fun e =>
      (e.nodes.filter fun n => ¬ n.Readable).map (·.id) = ["b", "c"]) = true := by
    decide +kernel
  cases he : WorkflowEnvelope.codec.ofText strangersText with
  | error cause => simp [he, Except.toOption] at h
  | ok e =>
    rw [he] at h
    have hids := of_decide_eq_true h
    have hopens := (loads_texts_and_documents.1 strangersText).opens e he
    cases hload : load strangersText with
    | ok w =>
      have hall := hopens.succeeds.1 ⟨w, hload⟩
      have hnone : (e.nodes.filter fun n => ¬ n.Readable) = [] := by simpa using hall
      rw [hnone] at hids
      cases hids
    | error fs => exact ⟨e, fs, rfl, rfl, hids, hopens.faults fs hload⟩

end Workflow

end DataPipeline
