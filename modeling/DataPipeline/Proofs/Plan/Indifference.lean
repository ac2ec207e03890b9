import DataPipeline.Proofs.Plan.Compilation
import DataPipeline.Proofs.Plan.Sequencing
import DataPipeline.Proofs.Workflow.Core
import DataPipeline.Proofs.Workflow.Reports

/-!
# What makes no difference to a plan

Two workflows that are alike have the same faults, and compilation either lists the same errors for
both or gives plans that differ only in the ids under which tasks are stored: each plan has those of
its own workflow. So it does not matter to a plan how earlier runs went, or what was stored.

The contributions of the nodes of a workflow are those of the nodes of its core, apart from the
config ids; these are brought back afterwards, for a plan has the ids of the workflow.

## Main definitions

* `Plan.keyedBy`: the plan with other config ids
* `Workflow.configIdOf`: the config ids of a workflow

## Main results

* `Workflow.draft_core`: what compilation makes of a core
* `Workflow.keyedBy_configIdOf`: a plan has the config ids of its workflow
* `Workflow.compile_indifferent`: validation and compilation of workflows that are alike
-/
namespace DataPipeline

/-! ## Config ids -/

/-- The assignment with the config id that belongs to its node. -/
def Assignment.keyedBy (key : String → Option String) (a : Assignment) : Assignment :=
  { a with configId := key a.nodeId }

/-- The entry with the config id that belongs to its node. -/
def Dag.Entry.keyedBy (key : String → Option String) (e : Dag.Entry) : Dag.Entry :=
  { e with configId := key e.id }

/-- The plan with the config ids that belong to the nodes. -/
def Plan.keyedBy (key : String → Option String) (p : Plan) : Plan where
  dag := { p.dag with entries := p.dag.entries.map (·.keyedBy key) }
  assignments := p.assignments.map (·.keyedBy key)

/-- Without config ids. -/
def unkeyed (_ : String) : Option String := none

theorem Plan.keyedBy_keyedBy (key key' : String → Option String) (p : Plan) :
    (p.keyedBy key).keyedBy key' = p.keyedBy key' := by
  simp [keyedBy, Assignment.keyedBy, Dag.Entry.keyedBy, Function.comp_def]

/-! ## Conversions -/

theorem clausesOf_core (filter : Option Node) :
    clausesOf (filter.map Node.core) = clausesOf filter := by
  cases filter with
  | none => rfl
  | some n => exact n.clauses_core

theorem Conversion.ofNodes_core (read write : Node) (filter : Option Node) (resources : Resources)
    (dagId : String) :
    ofNodes read.core write.core (filter.map Node.core) resources dagId =
      ofNodes read write filter resources dagId := by
  unfold ofNodes
  rw [Node.conversionInput_core, Node.conversionOutput_core, clausesOf_core]

/-- The config id of the first node with the id. -/
def Workflow.configIdOf (w : Workflow) (id : String) : Option String :=
  (w.node id).bind (·.configId)

namespace Workflow

variable {w w' : Workflow} {options : PlanOptions} {p q : Plan}

/-- A plan has the config ids of its workflow. -/
theorem keyedBy_configIdOf (h : w.compile options = .ok p) : p.keyedBy w.configIdOf = p := by
  have hw : w.ids.Nodup := distinct_of_isValid (compilable_of_compile h).valid
  have hkey : ∀ n ∈ w.nodes, w.configIdOf n.id = n.configId := fun n hn => by
    rw [configIdOf, node_of_mem hw hn, Option.bind_some]
  have hentries : p.dag.entries.map (·.keyedBy w.configIdOf) = p.dag.entries := by
    rw [(compile_eq_ok_iff.1 h).2.2, dag, dagEntries_eq hw, List.map_map]
    exact List.map_congr_left fun n hn => by simp [Dag.Entry.keyedBy, hkey n hn]
  have hassignments : p.assignments.map (·.keyedBy w.configIdOf) = p.assignments := by
    refine (List.map_congr_left fun a ha => ?_).trans (List.map_id _)
    obtain ⟨n, hn, hassigned⟩ := exists_assigned_of_compile h ha
    cases hassigned <;> simp [Assignment.keyedBy, hkey n hn]
  rw [Plan.keyedBy, hentries, hassignments]

/-! ## Chains and contributions -/

theorem soleSuccessor_core (w : Workflow) (id : String) :
    w.core.soleSuccessor id = (w.soleSuccessor id).map Node.core := by
  unfold soleSuccessor
  rw [connections_core]
  split
  · exact node_core w _
  · rfl

theorem chains_core (w : Workflow) : w.core.chains = w.chains := by
  have hfrom (n : Node) : w.core.chainFrom n.core = w.chainFrom n := by
    unfold chainFrom
    rw [Node.id_core, soleSuccessor_core]
    cases w.soleSuccessor n.id with
    | none => rfl
    | some next =>
      simp only [Option.map_some, Option.bind_eq_bind, Option.bind_some, Node.isSink_core,
        Node.isFilter_core, Node.id_core, soleSuccessor_core]
      cases w.soleSuccessor next.id <;> simp
  rw [chains, filter_nodes_core (by simp), List.filterMap_map, chains]
  exact List.filterMap_congr fun n _ => hfrom n

theorem chainMember_core (w : Workflow) (id : String) :
    w.core.chainMember id = Node.core <$> w.chainMember id := by
  unfold chainMember
  rw [node_core]
  cases w.node id <;> rfl

theorem conversion_core (w : Workflow) (options : PlanOptions) (c : Chain) :
    w.core.conversion options c = w.conversion options c := by
  unfold conversion
  simp only [chainMember_core, bind_map_left]
  refine bind_congr fun read => bind_congr fun write => ?_
  have hnodes (filter : Option Node) :=
    Conversion.ofNodes_core read write filter options.resources options.dagId
  cases c.filter with
  | none =>
    simp only [bind, Except.bind]
    rw [← hnodes none, Option.map_none]
  | some id =>
    refine bind_congr fun filter => ?_
    rw [← hnodes (some filter), Option.map_some]

theorem strayErrors_core (n : Node) : strayErrors n.core = strayErrors n := by
  simp [strayErrors]

/-- A node contributes the same, but for the config id. -/
theorem assign_core (w : Workflow) (chains : List Chain) (options : PlanOptions) (n : Node) :
    w.core.assign chains options n.core =
      (w.assign chains options n).map (·.map (·.keyedBy unkeyed)) := by
  unfold assign
  rw [Node.id_core]
  split
  · rw [conversion_core]
    cases w.conversion options _ <;> rfl
  · split_ifs
    · rfl
    · rw [Node.task_core, strayErrors_core]
      cases n.task options options.dagId with
      | error e => rfl
      | ok t =>
        cases t with
        | some t => rfl
        | none => cases strayErrors n <;> rfl

/-! ## Plans -/

/-- Gathering from the cores of nodes. -/
theorem gather_map {ε α β γ δ : Type} {f : α → Except (List ε) (Option β)}
    {g : γ → Except (List ε) (Option δ)} {c : α → γ} {u : β → δ}
    (h : ∀ a, g (c a) = (f a).map (·.map u)) (as : List α) :
    gather g (as.map c) = (gather f as).map (·.map u) := by
  have herrors (a : α) : errorsOf (g (c a)) = errorsOf (f a) := by
    rw [h]
    cases f a <;> rfl
  have hgiven (a : α) : givenBy (g (c a)) = (givenBy (f a)).map u := by
    rw [h]
    cases f a <;> rfl
  rw [gather_eq, gather_eq, List.flatMap_map, List.filterMap_map]
  simp only [herrors]
  split_ifs
  · simp only [Function.comp_def, hgiven, Except.map, List.map_filterMap]
  · rfl

theorem dagEntries_core (w : Workflow) :
    w.core.dagEntries = w.dagEntries.map (·.keyedBy unkeyed) := by
  have hnext (id : String) : w.core.next id = w.next id := by
    rw [next, connections_core, ids_core, next]
  rw [dagEntries, nodes_core, firstOfEach_map, dagEntries, List.map_map, List.map_map]
  exact List.map_congr_left fun n _ => by simp [hnext, Dag.Entry.keyedBy, unkeyed]

/-- What compilation makes of a workflow if there are no faults. -/
def draft (w : Workflow) (options : PlanOptions) : Except (List CompileError) Plan :=
  (gather (w.assign w.chains options) w.nodes).map (Plan.mk (w.dag options))

theorem compile_eq (w : Workflow) (options : PlanOptions) :
    w.compile options =
      if w.faults = [] then w.draft options else .error (w.faults.map .invalid) := by
  unfold compile draft
  simp only [List.isEmpty_iff]
  rfl

theorem draft_core (w : Workflow) (options : PlanOptions) :
    w.core.draft options = (w.draft options).map (·.keyedBy unkeyed) := by
  have hgather : gather (w.core.assign w.core.chains options) w.core.nodes =
      (gather (w.assign w.chains options) w.nodes).map (·.map (·.keyedBy unkeyed)) := by
    rw [chains_core]
    exact gather_map (assign_core w w.chains options) w.nodes
  rw [draft, hgather, dag, dagEntries_core, draft]
  cases gather (w.assign w.chains options) w.nodes <;> rfl

/-! ## Workflows that are alike -/

theorem configIdOf_eq (h : List.Forall₂ Node.Alike w.nodes w'.nodes)
    (hids : w'.nodes.map (·.configId) = w.nodes.map (·.configId)) (id : String) :
    w'.configIdOf id = w.configIdOf id := by
  unfold configIdOf node
  generalize w.nodes = ns, w'.nodes = ms at h hids
  induction h with
  | nil => rfl
  | @cons n m ns ms hnm _ ih =>
    obtain ⟨hhead, htail⟩ := List.cons_eq_cons.1 hids
    by_cases hid : n.id = id
    · simpa [← hnm.id, hid] using hhead
    · simpa [← hnm.id, hid] using ih htail

namespace Alike

variable (h : w.Alike w')

include h

theorem compile_unkeyed (options : PlanOptions) :
    (w'.compile options).map (·.keyedBy unkeyed) =
      (w.compile options).map (·.keyedBy unkeyed) := by
  rw [compile_eq, compile_eq, h.faults_eq]
  split_ifs
  · rw [← draft_core, ← draft_core, h.core_eq]
  · rfl

theorem compile_eq_keyedBy (options : PlanOptions) :
    w'.compile options = (w.compile options).map (·.keyedBy w'.configIdOf) := by
  have hplans := h.compile_unkeyed options
  cases hp : w.compile options with
  | error es =>
    cases hq : w'.compile options with
    | error es' => simpa [hp, hq, Except.map] using hplans
    | ok q => simp [hp, hq, Except.map] at hplans
  | ok p =>
    cases hq : w'.compile options with
    | error es' => simp [hp, hq, Except.map] at hplans
    | ok q =>
      have hbare : q.keyedBy unkeyed = p.keyedBy unkeyed := by
        simpa [hp, hq, Except.map] using hplans
      have hqp : q = p.keyedBy w'.configIdOf :=
        calc q = q.keyedBy w'.configIdOf := (keyedBy_configIdOf hq).symm
          _ = (q.keyedBy unkeyed).keyedBy w'.configIdOf := (q.keyedBy_keyedBy _ _).symm
          _ = (p.keyedBy unkeyed).keyedBy w'.configIdOf := by rw [hbare]
          _ = p.keyedBy w'.configIdOf := p.keyedBy_keyedBy _ _
      rw [hqp]
      rfl

/-- Where the config ids agree too, the plans are the same. -/
theorem compile_eq_compile (hids : w'.nodes.map (·.configId) = w.nodes.map (·.configId))
    (options : PlanOptions) : w'.compile options = w.compile options := by
  have hkey : w'.configIdOf = w.configIdOf := funext fun id => configIdOf_eq h.nodes hids id
  rw [h.compile_eq_keyedBy options, hkey]
  cases hp : w.compile options with
  | error es => rfl
  | ok p => exact congrArg Except.ok (keyedBy_configIdOf hp)

end Alike

theorem Alike.refl (w : Workflow) : w.Alike w where
  connections := rfl
  nodes := List.forall₂_same.2 fun _ _ => ⟨rfl, rfl, fun _ _ => rfl⟩

/-- The step: a report marks a node where it does not matter. -/
theorem Alike.attempt {e : Edit} (h : w.Alike w') (he : e.stream ≠ .user) :
    w.Alike (w'.attempt e) := by
  obtain ⟨id, hid⟩ := Edit.exists_addressee he
  rw [attempt_eq_touch hid]
  refine ⟨h.connections, forall₂_modifyFirst h.nodes fun n m _ hnm => ⟨?_, ?_⟩⟩
  · rw [hnm.id, Edit.id_mark]
  · rw [Edit.settings_mark]
    exact hnm.settings

/-- The run: by induction on the reports. -/
theorem Alike.run {es : List Edit} (h : w.Alike w') (hes : ∀ e ∈ es, e.stream ≠ .user) :
    w.Alike (w'.run es) := by
  induction es generalizing w' with
  | nil => exact h
  | cons e es ih => exact ih (h.attempt (hes e (.head es))) fun e he => hes e (.tail _ he)

/-- Workflows that are alike have the same faults and, for all options, the same errors or plans
that are the same but for the config ids, which are those of each workflow; and the engine and the
store only make workflows that are alike. -/
theorem compile_indifferent :
    (∀ (w w' : Workflow) (options : PlanOptions), w.Alike w' →
      w'.validate = w.validate ∧
        w'.compile options = (w.compile options).map (·.keyedBy w'.configIdOf) ∧
        (w'.nodes.map (·.configId) = w.nodes.map (·.configId) →
          w'.compile options = w.compile options)) ∧
      ∀ (w : Workflow) (es : List Edit) (options : PlanOptions), (∀ e ∈ es, e.stream ≠ .user) →
        (w.run es).validate = w.validate ∧
          (w.run es).compile options =
            (w.compile options).map (·.keyedBy (w.run es).configIdOf) := by
  have hvalidate {w w' : Workflow} (h : w.Alike w') : w'.validate = w.validate := by
    rw [validate, h.faults_eq, validate]
  constructor
  · intro w w' options h
    exact ⟨hvalidate h, h.compile_eq_keyedBy options, fun hids => h.compile_eq_compile hids options⟩
  · intro w es options hes
    have h : w.Alike (w.run es) := (Alike.refl w).run hes
    exact ⟨hvalidate h, h.compile_eq_keyedBy options⟩

/-- The node after it was moved, annotated, edited, run and stored. -/
def wear (key : String → Option String) (n : Node) : Node where
  id := n.id
  settings := n.settings.withExtra (Dict.ofList [("note", .str "to be checked")])
  position := ⟨.zero true, .zero true⟩
  status := .error
  output := some (.arr [])
  error := some "timeout"
  configId := key n.id
  editedFields := KeySet.ofList ["label", "path"]

/-- The workflow after all its nodes were used. -/
def worn (key : String → Option String) (w : Workflow) : Workflow :=
  { w with nodes := w.nodes.map (wear key) }

theorem alike_worn (key : String → Option String) (hw : ∀ n ∈ w.nodes, n.settings.Apart) :
    w.Alike (w.worn key) where
  connections := rfl
  nodes := by
    have hnote (k : Kind) : ∀ m ∈ (Dict.ofList [("note", Json.str "to be checked")]).entries,
        m.1 ∉ k.keys := by
      cases k <;> decide
    refine List.forall₂_map_right_iff.2 (List.forall₂_same.2 fun n hn => ⟨rfl, ?_⟩)
    refine .of_apart (hw n hn) (Settings.apart_withExtra (hnote _)) ?_
    rw [wear, Settings.known, Settings.known, Settings.withExtra_withExtra]

/-- A transfer as it was drawn, after it was used, and after one run. -/
theorem compile_indifferent_transfer :
    ∃ p, (transfer "csv").compile {} = .ok p ∧
      ((transfer "csv").worn fun _ => none).compile {} = .ok p ∧
      ((transfer "csv").worn some).compile {} =
        .ok (p.keyedBy ((transfer "csv").worn some).configIdOf) ∧
      let used := (transfer "csv").run
        [.recordRun "in" .error none (some "timeout"), .storeConfigId "in" "7"]
      used.compile {} = .ok (p.keyedBy used.configIdOf) := by
  obtain ⟨p, hp⟩ : ∃ p, (transfer "csv").compile {} = .ok p := ⟨_, rfl⟩
  have hextra : ∀ n ∈ (transfer "csv").nodes, n.settings.extra = Dict.empty := by decide
  have hapart : ∀ n ∈ (transfer "csv").nodes, n.settings.Apart := by
    intro n hn m hm
    rw [hextra n hn] at hm
    cases hm
  obtain ⟨-, -, hsame⟩ := compile_indifferent.1 _ _ {} (alike_worn (fun _ => none) hapart)
  obtain ⟨-, hworn, -⟩ := compile_indifferent.1 _ _ {} (alike_worn some hapart)
  obtain ⟨-, hused⟩ := compile_indifferent.2 (transfer "csv")
    [.recordRun "in" .error none (some "timeout"), .storeConfigId "in" "7"] {} (by decide)
  rw [hp] at hworn hused
  exact ⟨p, hp, (hsame rfl).trans hp, hworn, hused⟩

end Workflow

end DataPipeline
