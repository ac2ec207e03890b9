import DataPipeline.Plan.Compile
import DataPipeline.Proofs.Plan.Chains

/-!
# Conversions of chains

The nodes of a chain are mapped one after the other: the source, the sink, the filter. The first
objection ends this; without one there is a conversion, made of what each node maps to.

## Main definitions

* `Converts`: a conversion that is made of the parts of three nodes
* `firstObjection`: what is objected to first

## Main results

* `Workflow.Links.conversion_of_firstObjection`, `Workflow.Links.exists_conversion`: the two
  outcomes of a chain
-/
namespace DataPipeline

variable {options : PlanOptions} {r s : Node} {f : Option Node} {e : MapError}

/-- The parts of the conversion are what the nodes map to. -/
structure Converts (options : PlanOptions) (r s : Node) (f : Option Node) (t : Conversion) :
    Prop where
  input : r.conversionInput = .ok (some t.input)
  output : s.conversionOutput = .ok (some t.output)
  clauses : clausesOf f = .ok ⟨t.filter, t.orderBy, t.aggregation⟩
  resources : t.resources = options.resources
  dagId : t.dagId = options.dagId

/-- The objection that comes first among the nodes of a chain. -/
def firstObjection (options : PlanOptions) (r s : Node) (f : Option Node) : Option MapError :=
  ([r, s] ++ f.toList).findSome? (·.objection options)

theorem firstObjection_eq_none_iff :
    firstObjection options r s f = none ↔
      ∀ n ∈ [r, s] ++ f.toList, n.objection options = none := List.findSome?_eq_none_iff

theorem firstObjection_eq_some_iff :
    firstObjection options r s f = some e ↔ ∃ before n after,
      [r, s] ++ f.toList = before ++ n :: after ∧ n.objection options = some e ∧
        ∀ m ∈ before, m.objection options = none := List.findSome?_eq_some_iff

namespace Workflow.Links

variable {w : Workflow} {c : Chain}

theorem conversion_eq (hw : w.ids.Nodup) (h : w.Links c r s f) :
    w.conversion options c =
      match Conversion.ofNodes r s f options.resources options.dagId with
      | .error e => .error (.unmapped e)
      | .ok none => .error (.brokenChain r.id)
      | .ok (some t) => .ok t := by
  have hread := node_of_mem hw h.read
  have hwrite := node_of_mem hw h.write
  rw [h.ids]
  cases f with
  | none => simp only [conversion, chainMember, hread, hwrite]; rfl
  | some m =>
    have hfilter := node_of_mem hw (h.filter m rfl)
    simp only [conversion, chainMember, hread, hwrite, Option.map_some, hfilter]; rfl

theorem exists_conversion (hw : w.ids.Nodup) (h : w.Links c r s f)
    (hnone : firstObjection options r s f = none) :
    ∃ t, w.conversion options c = .ok t ∧ Converts options r s f t := by
  rw [firstObjection_eq_none_iff] at hnone
  obtain ⟨input, hinput⟩ := Node.exists_conversionInput h.isSource (hnone r (by simp))
  obtain ⟨output, houtput⟩ := Node.exists_conversionOutput h.isSink (hnone s (by simp))
  obtain ⟨clauses, hclauses⟩ : ∃ clauses, clausesOf f = .ok clauses := by
    cases f with
    | none => exact ⟨{}, rfl⟩
    | some m => exact Node.exists_clauses (h.isFilter m rfl) (hnone m (by simp))
  refine ⟨⟨input, output, clauses.filter, clauses.orderBy, clauses.aggregation, options.resources,
    options.dagId⟩, ?_, hinput, houtput, hclauses, rfl, rfl⟩
  rw [h.conversion_eq hw, Conversion.ofNodes, hinput, houtput, hclauses]
  rfl

/-- The mappers run in the order of the nodes, so that the first objection is the one reported. -/
theorem conversion_of_firstObjection (hw : w.ids.Nodup) (h : w.Links c r s f)
    (hsome : firstObjection options r s f = some e) :
    w.conversion options c = .error (.unmapped e) := by
  have hr : r.objection options = MapError.ofResult r.conversionInput :=
    Node.complaint_of_isSource h.isSource
  have hs : s.objection options = MapError.ofResult s.conversionOutput :=
    Node.complaint_of_isSink h.isSink
  rw [h.conversion_eq hw, Conversion.ofNodes]
  simp only [firstObjection, List.cons_append, List.nil_append, List.findSome?_cons, hr, hs]
    at hsome
  rcases hinput : r.conversionInput with e' | _ | input
  · obtain rfl : e' = e := by simpa [hinput, MapError.ofResult] using hsome
    rfl
  · exact absurd hinput (Node.conversionInput_ne_none h.isSource)
  · rcases houtput : s.conversionOutput with e' | _ | output
    · obtain rfl : e' = e := by simpa [hinput, houtput, MapError.ofResult] using hsome
      rfl
    · exact absurd houtput (Node.conversionOutput_ne_none h.isSink)
    · cases f with
      | none => simp [hinput, houtput, MapError.ofResult] at hsome
      | some m =>
        have hm : m.objection options = some e := by
          simpa [hinput, houtput, MapError.ofResult] using hsome
        rw [Node.objection, Node.complaint_of_isFilter (h.isFilter m rfl),
          MapError.ofResult_eq_some_iff] at hm
        rw [clausesOf, hm]
        rfl

end Workflow.Links

end DataPipeline
