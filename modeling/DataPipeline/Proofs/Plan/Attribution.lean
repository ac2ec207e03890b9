import DataPipeline.Editor.Preview
import DataPipeline.Proofs.Plan.Diagnosis

/-!
# Whom the errors of a compilation name

A valid workflow that has no plan gets two kinds of errors. One is what the preview of a single node
fails with, whether it comes up in a chain or for a node on its own. The other names the sources
that start no chain and the sinks that end none. Chains themselves are never at fault.

## Main definitions

* `Workflow.isUnchained`: sources that start no chain and sinks that end none
* `Workflow.Attributes`: errors that are failed previews or name the unchained nodes

## Main results

* `Node.ofResult_preview`: a preview fails with the objection to its node
* `Workflow.unchained_errors_eq`: the errors that name unchained nodes, in their order
* `Workflow.attributes_errors`: all errors of a valid workflow
-/
namespace DataPipeline

/-! ## Previews -/

/-- Of all the mappers that a preview tries, only the one of its role can fail on a node. -/
theorem Node.ofResult_preview (n : Node) (options : PlanOptions) :
    MapError.ofResult (n.preview options) = n.objection options := by
  by_cases hown : n.hasOwnTask = true
  · rw [objection, complaint_of_hasOwnTask hown, preview]
    rcases htask : n.task options options.dagId with _ | _ | _
    · rfl
    · exact absurd htask (task_ne_none hown _)
    · rfl
  rw [Bool.not_eq_true] at hown
  rw [preview, task_of_not_hasOwnTask hown]
  by_cases hsource : n.isSource = true
  · rw [objection, complaint_of_isSource hsource]
    rcases hinput : n.conversionInput with _ | _ | _
    · rfl
    · exact absurd hinput (conversionInput_ne_none hsource)
    · rfl
  rw [Bool.not_eq_true] at hsource
  rw [conversionInput_of_not_isSource hsource]
  by_cases hsink : n.isSink = true
  · rw [objection, complaint_of_isSink hsink]
    rcases houtput : n.conversionOutput with _ | _ | _
    · rfl
    · exact absurd houtput (conversionOutput_ne_none hsink)
    · rfl
  rw [Bool.not_eq_true] at hsink
  rw [conversionOutput_of_not_isSink hsink]
  by_cases hfilter : n.isFilter = true
  · rw [objection, complaint_of_isFilter hfilter]
    rcases n.clauses with _ | _ <;> rfl
  · rw [Bool.not_eq_true] at hfilter
    rw [objection, complaint_of_no_role hsource hsink hfilter, task_of_not_hasOwnTask hown,
      clauses_of_not_isFilter hfilter]
    rfl

theorem MapError.code_mem (e : MapError) : e.code ∈ ["M001", "M002", "M003"] := by
  cases e <;> simp [code]

namespace Workflow

variable {w : Workflow} {options : PlanOptions} {c : Chain} {n r s : Node} {f : Option Node}
  {x : CompileError} {errors : List CompileError}

/-- A source that starts no chain, or a sink that ends none. -/
def isUnchained (w : Workflow) (n : Node) : Bool :=
  n.isSource && w.chains.all (·.read ≠ n.id) || n.isSink && w.chains.all (·.write ≠ n.id)

/-- Every error is that of the preview of a node or says that a node is unchained. The errors of the
second kind name each unchained node once, in the order of the nodes. -/
structure Attributes (w : Workflow) (options : PlanOptions) (errors : List CompileError) :
    Prop where
  previewed : ∀ x ∈ errors, x.diagnostic.code ≠ "L002" → ∃ n ∈ w.nodes, ∃ e,
    n.preview options = .error e ∧ x.diagnostic = e.diagnostic ∧ x.diagnostic.phase = .map ∧
      x.diagnostic.nodeId = some n.id
  unchained : errors.filter (·.diagnostic.code = "L002") =
    (w.nodes.filter w.isUnchained).map fun n => .unchained n.kind n.id n.label
  once : ((errors.filter (·.diagnostic.code = "L002")).map (·.diagnostic.nodeId)).Nodup
  codes : ∀ x ∈ errors, x.diagnostic.code ∈ ["M001", "M002", "M003", "L002"]

/-! ## Loose nodes and members -/

theorem isUnchained_of_loose (hloose : w.Loose n) :
    w.isUnchained n = (n.isSource || n.isSink) := by
  have hread : w.chains.all (·.read ≠ n.id) = true :=
    List.all_eq_true.2 fun c hc => by
      have := hloose c hc
      grind [Chain.members]
  have hwrite : w.chains.all (·.write ≠ n.id) = true :=
    List.all_eq_true.2 fun c hc => by
      have := hloose c hc
      grind [Chain.members]
  rw [isUnchained, hread, hwrite, Bool.and_true, Bool.and_true]

/-- The member of a chain that is a source starts it, and the one that is a sink ends it. -/
theorem Links.isUnchained_eq_false (hc : c ∈ w.chains) (h : w.Links c r s f)
    (hn : n ∈ [r, s] ++ f.toList) : w.isUnchained n = false := by
  have hread : c.read = r.id := by rw [h.ids]
  have hwrite : c.write = s.id := by rw [h.ids]
  rw [← Bool.not_eq_true, isUnchained, Bool.or_eq_true, Bool.and_eq_true, Bool.and_eq_true,
    List.all_eq_true, List.all_eq_true]
  rintro (⟨hsource, hall⟩ | ⟨hsink, hall⟩)
  · obtain rfl := h.eq_of_isSource hn hsource
    simpa [hread] using hall c hc
  · obtain rfl := h.eq_of_isSink hn hsink
    simpa [hwrite] using hall c hc

theorem errorsOf_assign_of_loose (hw : w.ids.Nodup) (hn : n ∈ w.nodes) (hloose : w.Loose n) :
    errorsOf (w.assign w.chains options n) = complaints options n := by
  by_cases hnil : complaints options n = []
  · rw [hnil, List.eq_nil_iff_forall_not_mem]
    intro x hx
    obtain ⟨xs, hxs, -⟩ := mem_errorsOf.1 hx
    exact assign_ne_error_of_loose hw hn hloose hnil hxs
  · rw [assign_of_complaints hw hn hloose hnil]
    rfl

/-! ## Unchained nodes -/

theorem code_unmapped_ne (e : MapError) :
    (CompileError.unmapped e).diagnostic.code ≠ "L002" := by
  intro h
  have hcode : e.code = "L002" := h
  exact absurd (hcode ▸ e.code_mem) (by decide)

theorem filter_complaints (options : PlanOptions) (n : Node) :
    (complaints options n).filter (·.diagnostic.code = "L002") =
      if n.isSource || n.isSink then [.unchained n.kind n.id n.label] else [] := by
  have hmapped : ((n.objection options).toList.map CompileError.unmapped).filter
      (·.diagnostic.code = "L002") = [] := by
    simp [List.filter_eq_nil_iff, code_unmapped_ne]
  rw [complaints, List.filter_append, hmapped, List.nil_append]
  split_ifs <;> rfl

/-- What a node contributes to the errors about unchained nodes. -/
theorem filter_errorsOf_assign (hw : w.ids.Nodup) (hn : n ∈ w.nodes) :
    (errorsOf (w.assign w.chains options n)).filter (·.diagnostic.code = "L002") =
      if w.isUnchained n then [.unchained n.kind n.id n.label] else [] := by
  rcases loose_or_member hw hn with hloose | ⟨c, hc, r, s, f, hlinks, hmem⟩
  · rw [errorsOf_assign_of_loose hw hn hloose, filter_complaints, isUnchained_of_loose hloose]
  · rw [hlinks.isUnchained_eq_false hc hmem, if_neg Bool.false_ne_true, List.filter_eq_nil_iff]
    intro x hx
    obtain ⟨xs, hxs, hx⟩ := mem_errorsOf.1 hx
    rcases (assign_eq_error_iff hw hn).1 hxs with
      ⟨hloose, -, -⟩ | ⟨_, _, _, _, e, _, _, rfl⟩
    · exact absurd (hlinks.id_mem_members hmem) (hloose c hc)
    · obtain rfl := List.mem_singleton.1 hx
      simp [code_unmapped_ne]

/-- Items that contribute one thing or nothing contribute in their order. -/
theorem filter_flatMap_eq {α β : Type} {g : α → List β} {p : β → Bool} {q : α → Bool} {k : α → β}
    {as : List α} (h : ∀ a ∈ as, (g a).filter p = if q a then [k a] else []) :
    (as.flatMap g).filter p = (as.filter q).map k := by
  induction as with
  | nil => rfl
  | cons a as ih =>
    have ih := ih fun b hb => h b (.tail a hb)
    rw [List.flatMap_cons, List.filter_append, ih, h a (.head as)]
    cases hq : q a <;> simp [hq]

theorem unchained_errors_eq (hw : w.ids.Nodup)
    (h : gather (w.assign w.chains options) w.nodes = .error errors) :
    errors.filter (·.diagnostic.code = "L002") =
      (w.nodes.filter w.isUnchained).map fun n => .unchained n.kind n.id n.label := by
  rw [eq_of_gather_eq_error h]
  exact filter_flatMap_eq fun n hn => filter_errorsOf_assign hw hn

/-! ## All errors -/

/-- An objection comes up in a chain or for a loose node, but it is always that to one node. -/
theorem objection_or_unchained (hvalid : w.validate.isValid = true)
    (h : w.compile options = .error errors) (hx : x ∈ errors) :
    (∃ n ∈ w.nodes, ∃ e, n.objection options = some e ∧ x = .unmapped e) ∨
      ∃ n ∈ w.nodes, x = .unchained n.kind n.id n.label := by
  rcases (mem_errors_iff hvalid h).1 hx with
    ⟨n, hn, -, hx⟩ | ⟨c, -, r, s, f, e, hlinks, hfirst, rfl⟩
  · rcases List.mem_append.1 hx with hx | hx
    · obtain ⟨e, he, rfl⟩ := List.mem_map.1 hx
      exact .inl ⟨n, hn, e, Option.mem_toList.1 he, rfl⟩
    · split_ifs at hx
      · exact .inr ⟨n, hn, List.mem_singleton.1 hx⟩
      · cases hx
  · obtain ⟨before, n, after, hsplit, he, -⟩ := firstObjection_eq_some_iff.1 hfirst
    exact .inl ⟨n, hlinks.mem_nodes (by simp [hsplit]), e, he, rfl⟩

/-- Where a valid workflow has no plan, every error is what the preview of one of its nodes fails
with, or it says that a source starts no chain or a sink ends none. -/
theorem attributes_errors (hvalid : w.validate.isValid = true)
    (h : w.compile options = .error errors) : w.Attributes options errors := by
  have hw := distinct_of_isValid hvalid
  have hunchained := unchained_errors_eq hw (gather_eq_of_compile_eq_error hvalid h)
  refine ⟨fun x hx hcode => ?_, hunchained, ?_, fun x hx => ?_⟩
  · rcases objection_or_unchained hvalid h hx with ⟨n, hn, e, he, rfl⟩ | ⟨n, -, rfl⟩
    · have hpreview : n.preview options = .error e := by
        rwa [← Node.ofResult_preview, MapError.ofResult_eq_some_iff] at he
      exact ⟨n, hn, e, hpreview, rfl, rfl, congrArg some (Node.nodeId_of_objection he)⟩
    · exact absurd rfl hcode
  · rw [hunchained, List.map_map]
    have hids : ((w.nodes.filter w.isUnchained).map (·.id)).Nodup :=
      hw.sublist (List.filter_sublist.map _)
    simpa [Function.comp_def, CompileError.diagnostic] using
      hids.map (Option.some_injective _)
  · rcases objection_or_unchained hvalid h hx with ⟨n, -, e, -, rfl⟩ | ⟨n, -, rfl⟩
    · exact List.mem_append_left ["L002"] e.code_mem
    · simp [CompileError.diagnostic]

/-- A chain from a file in an unknown format, with a reader and a writer beside it that are in no
chain. -/
def siding : Workflow where
  nodes := [
    { id := "start", settings := .start {} },
    { id := "odd", settings := .readFile { path := some "odd.dat", format := some "exotic" } },
    { id := "out", settings := .writeFile { path := some "out.csv" } },
    { id := "idle", settings := .readFile { path := some "idle.csv" } },
    { id := "spare", settings := .writeFile { path := some "spare.csv" } },
    { id := "end", settings := .finish {} }]
  connections := [⟨"start", "odd"⟩, ⟨"odd", "out"⟩, ⟨"out", "end"⟩, ⟨"start", "idle"⟩,
    ⟨"idle", "end"⟩, ⟨"start", "spare"⟩, ⟨"spare", "end"⟩]

def sidingErrors : List CompileError :=
  [.unmapped (.invalidValue "odd" "format" "exotic" "unsupported file format"),
    .unchained .readFile "idle" "Read File", .unchained .writeFile "spare" "Write File"]

theorem attributes_errors_siding :
    siding.validate.isValid = true ∧ siding.compile {} = .error sidingErrors ∧
      siding.Attributes {} sidingErrors := by
  have hvalid : siding.validate.isValid = true := by decide +kernel
  have herrors : siding.compile {} = .error sidingErrors := by
    refine compile_eq_error_iff.2 (.inr ⟨isValid_validate_iff.1 hvalid, ?_⟩)
    rw [gather_eq, if_neg (by decide +kernel)]
    exact congrArg _ (by decide +kernel)
  exact ⟨hvalid, herrors, attributes_errors hvalid herrors⟩

end Workflow

end DataPipeline
