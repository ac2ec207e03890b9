import DataPipeline.Proofs.Plan.Conversions
import DataPipeline.Proofs.Plan.Sequencing

/-!
# Which chains there are

Where no id repeats, the chains are the ways from a source to a sink, directly or through a filter,
on which the source and the filter have no other connection out of them. Dangling and repeated
connections count as connections here, so that one of them is enough to make a way ambiguous. What
leaves a node that is neither a source nor a filter makes no difference.

## Main definitions

* `Workflow.LeadsOnly`: one connection leaves a node, and it leads to another
* `Workflow.Unbranched`: the ways from a source to a sink without branches
* `Workflow.Recognizes`: a list has these ways, in the order of their sources, and they can be
  converted
* `Workflow.steers`: connections that leave a source or a filter

## Main results

* `Workflow.chainFrom_eq_some_iff_unbranched`: the chain that starts at a source
* `Workflow.chains_congr`: connections that steer nothing make no difference
* `Workflow.recognizes_chains`: both, for the chains of a workflow with distinct ids
-/
namespace DataPipeline

/-- The conversion of a source and a sink is refused or made. -/
theorem Conversion.ofNodes_ne_none {read write : Node} (hread : read.isSource = true)
    (hwrite : write.isSink = true) (filter : Option Node) (resources : Resources)
    (dagId : String) : ofNodes read write filter resources dagId ≠ .ok none := by
  intro h
  rw [ofNodes] at h
  rcases hinput : read.conversionInput with _ | _ | _
  · rw [hinput] at h
    cases h
  · exact Node.conversionInput_ne_none hread hinput
  · rcases houtput : write.conversionOutput with _ | _ | _
    · rw [hinput, houtput] at h
      cases h
    · exact Node.conversionOutput_ne_none hwrite houtput
    · rw [hinput, houtput] at h
      cases hclauses : clausesOf filter <;> rw [hclauses] at h <;> cases h

namespace Workflow

variable {w : Workflow} {c d : Chain} {m n r s : Node} {f : Option Node} {cs : List Connection}

/-- One connection leaves the first node, dangling and repeated ones counted, and it leads to the
second. -/
structure LeadsOnly (w : Workflow) (m n : Node) : Prop where
  mem : n ∈ w.nodes
  joined : w.Connects m.id n.id
  single : w.connections.countP (·.source = m.id) = 1

/-- The ways from `r` to a sink on which nothing branches. -/
inductive Unbranched (w : Workflow) (r : Node) : Chain → Prop
  | direct {s : Node} (hs : w.LeadsOnly r s) (hsink : s.isSink = true) :
      Unbranched w r ⟨r.id, s.id, none⟩
  | filtered {f s : Node} (hf : w.LeadsOnly r f) (hfilter : f.isFilter = true)
      (hs : w.LeadsOnly f s) (hsink : s.isSink = true) : Unbranched w r ⟨r.id, s.id, some f.id⟩

/-- The ids of a chain find a source, a sink and a filter, which have a conversion unless one of
their settings is objected to. -/
structure Resolves (w : Workflow) (c : Chain) (r s : Node) (f : Option Node) : Prop where
  read : w.node c.read = some r
  write : w.node c.write = some s
  filter : c.filter.map w.node = f.map some
  isSource : r.isSource = true
  isSink : s.isSink = true
  isFilter : ∀ m ∈ f, m.isFilter = true
  converted : ∀ resources dagId, Conversion.ofNodes r s f resources dagId ≠ .ok none

/-- The list has all ways without branches and nothing else, in the order of their sources. Each
source has at most one, no id has two roles, and all of them can be converted. -/
structure Recognizes (w : Workflow) (cs : List Chain) : Prop where
  mem_iff : ∀ c, c ∈ cs ↔ ∃ r ∈ w.nodes, r.isSource = true ∧ w.Unbranched r c
  ordered : (cs.map (·.read)).Sublist w.ids
  once : (cs.map (·.read)).Nodup
  apart : ∀ c ∈ cs, ∀ d ∈ cs, c.read ≠ d.write ∧ d.filter ≠ some c.read ∧ d.filter ≠ some c.write
  resolved : ∀ c ∈ cs, ∃ r s f, w.Resolves c r s f

/-- The connection leaves a source or a filter. -/
def steers (w : Workflow) (c : Connection) : Bool :=
  w.nodes.any fun n => n.id = c.source && (n.isSource || n.isFilter)

/-! ## Ways without branches -/

theorem soleSuccessor_eq_some_iff_leadsOnly (hw : w.ids.Nodup) :
    w.soleSuccessor m.id = some n ↔ w.LeadsOnly m n := by
  rw [soleSuccessor_eq_some_iff]
  constructor
  · rintro ⟨c, hc, htarget⟩
    obtain ⟨hn, hid⟩ := node_eq_some htarget
    have hmem : c ∈ w.connections.filter (·.source = m.id) := by simp [hc]
    obtain ⟨hconn, hsource⟩ := List.mem_filter.1 hmem
    have hsource : c.source = m.id := by simpa using hsource
    refine ⟨hn, ?_, by rw [List.countP_eq_length_filter, hc, List.length_singleton]⟩
    rwa [Connects, hid, ← hsource]
  · rintro ⟨hn, hconn, hsingle⟩
    rw [List.countP_eq_length_filter, List.length_eq_one_iff] at hsingle
    obtain ⟨c, hc⟩ := hsingle
    have hmem : (⟨m.id, n.id⟩ : Connection) ∈ w.connections.filter (·.source = m.id) :=
      List.mem_filter.2 ⟨hconn, by simp⟩
    rw [hc, List.mem_singleton] at hmem
    exact ⟨c, hc, hmem ▸ node_of_mem hw hn⟩

theorem chainFrom_eq_some_iff_unbranched (hw : w.ids.Nodup) :
    w.chainFrom r = some c ↔ w.Unbranched r c := by
  rw [chainFrom_eq_some_iff]
  constructor
  · rintro (⟨s, hs, hsink, rfl⟩ | ⟨f, s, hf, hfilter, hs, hsink, rfl⟩)
    · exact .direct ((soleSuccessor_eq_some_iff_leadsOnly hw).1 hs) hsink
    · exact .filtered ((soleSuccessor_eq_some_iff_leadsOnly hw).1 hf) hfilter
        ((soleSuccessor_eq_some_iff_leadsOnly hw).1 hs) hsink
  · intro h
    cases h with
    | direct hs hsink =>
      exact .inl ⟨_, (soleSuccessor_eq_some_iff_leadsOnly hw).2 hs, hsink, rfl⟩
    | filtered hf hfilter hs hsink =>
      exact .inr ⟨_, _, (soleSuccessor_eq_some_iff_leadsOnly hw).2 hf, hfilter,
        (soleSuccessor_eq_some_iff_leadsOnly hw).2 hs, hsink, rfl⟩

/-! ## The list of chains -/

theorem read_of_chainFrom (h : w.chainFrom r = some c) : c.read = r.id := by
  rcases chainFrom_eq_some_iff.1 h with ⟨_, _, _, rfl⟩ | ⟨_, _, _, _, _, _, rfl⟩ <;> rfl

/-- A list that has at most one item for each node has them in the order of the nodes. -/
theorem sublist_filterMap {α β γ : Type} {g : α → Option β} {key : α → γ} {key' : β → γ}
    (h : ∀ a b, g a = some b → key' b = key a) (as : List α) :
    ((as.filterMap g).map key').Sublist (as.map key) := by
  induction as with
  | nil => exact .slnil
  | cons a as ih =>
    cases hg : g a with
    | none => simpa [hg] using ih.cons _
    | some b => simpa [hg, h a b hg] using ih

theorem sublist_reads (w : Workflow) : (w.chains.map (·.read)).Sublist w.ids :=
  (sublist_filterMap (fun _ _ => read_of_chainFrom) _).trans (List.filter_sublist.map _)

/-! ## Roles and look-ups -/

namespace Links

theorem apart {r' s' : Node} {f' : Option Node} (hw : w.ids.Nodup) (h : w.Links c r s f)
    (h' : w.Links d r' s' f') :
    c.read ≠ d.write ∧ d.filter ≠ some c.read ∧ d.filter ≠ some c.write := by
  have hnoSink : r.isSink = false := Node.plays_only .source h.isSource .sink
  have hnoFilter : r.isFilter = false := Node.plays_only .source h.isSource .filter
  have hnoFilter' : s.isFilter = false := Node.plays_only .sink h.isSink .filter
  rw [h.ids, h'.ids]
  refine ⟨fun hid => ?_, fun hid => ?_, fun hid => ?_⟩
  · obtain rfl := eq_of_id_eq hw h.read h'.write hid
    exact absurd h'.isSink (by simp [hnoSink])
  · obtain ⟨m, hm, hid⟩ := Option.map_eq_some_iff.1 hid
    obtain rfl := eq_of_id_eq hw (h'.filter m hm) h.read hid
    exact absurd (h'.isFilter m hm) (by simp [hnoFilter])
  · obtain ⟨m, hm, hid⟩ := Option.map_eq_some_iff.1 hid
    obtain rfl := eq_of_id_eq hw (h'.filter m hm) h.write hid
    exact absurd (h'.isFilter m hm) (by simp [hnoFilter'])

theorem resolves (hw : w.ids.Nodup) (h : w.Links c r s f) : w.Resolves c r s f := by
  have hfilter : (f.map (·.id)).map w.node = f.map some := by
    cases f with
    | none => rfl
    | some m => exact congrArg some (node_of_mem hw (h.filter m rfl))
  rw [h.ids]
  exact ⟨node_of_mem hw h.read, node_of_mem hw h.write, hfilter, h.isSource, h.isSink, h.isFilter,
    Conversion.ofNodes_ne_none h.isSource h.isSink f⟩

end Links

/-! ## Connections that make no difference -/

theorem steers_of_role (hn : n ∈ w.nodes) (hrole : n.isSource = true ∨ n.isFilter = true)
    {c : Connection} (hc : c.source = n.id) : w.steers c = true := by
  rw [steers, List.any_eq_true]
  exact ⟨n, hn, by simp [hc, hrole]⟩

/-- All connections out of a source or a filter are among those that steer. -/
theorem soleSuccessor_congr (hcs : cs.filter w.steers = w.connections.filter w.steers)
    (hn : n ∈ w.nodes) (hrole : n.isSource = true ∨ n.isFilter = true) :
    ({ w with connections := cs } : Workflow).soleSuccessor n.id = w.soleSuccessor n.id := by
  have hout (l : List Connection) :
      l.filter (·.source = n.id) = (l.filter w.steers).filter (·.source = n.id) := by
    rw [List.filter_filter]
    refine List.filter_congr fun c _ => ?_
    by_cases hc : c.source = n.id
    · simp [hc, steers_of_role hn hrole hc]
    · simp [hc]
  rw [soleSuccessor, soleSuccessor, hout cs, hcs, ← hout w.connections]
  rfl

theorem chains_congr (hcs : cs.filter w.steers = w.connections.filter w.steers) :
    ({ w with connections := cs } : Workflow).chains = w.chains := by
  refine List.filterMap_congr fun r hr => ?_
  obtain ⟨hr, hsource⟩ := List.mem_filter.1 hr
  have hfirst := soleSuccessor_congr hcs hr (.inl hsource)
  have hsecond {m : Node} (hm : w.soleSuccessor r.id = some m) (hfilter : m.isFilter = true) :=
    soleSuccessor_congr hcs (mem_of_soleSuccessor hm) (.inr hfilter)
  refine Option.ext fun c => ?_
  rw [chainFrom_eq_some_iff, chainFrom_eq_some_iff, hfirst]
  refine or_congr_right (exists₂_congr fun m s => ?_)
  refine and_congr_right fun hm => and_congr_right fun hfilter => ?_
  rw [hsecond hm hfilter]

/-! ## All chains -/

/-- The chains of a workflow with distinct ids are its ways without branches from sources to sinks,
in the order of the sources and with roles apart, and all of them can be converted. Connections
that leave neither a source nor a filter can be drawn and erased without a change to them. -/
theorem recognizes_chains (hw : w.ids.Nodup) :
    w.Recognizes w.chains ∧ ∀ cs : List Connection,
      cs.filter w.steers = w.connections.filter w.steers →
        ({ w with connections := cs } : Workflow).chains = w.chains := by
  have hmem (c : Chain) : c ∈ w.chains ↔
      ∃ r ∈ w.nodes, r.isSource = true ∧ w.Unbranched r c := by
    rw [mem_chains_iff]
    simp only [chainFrom_eq_some_iff_unbranched hw]
  have hordered : (w.chains.map (·.read)).Sublist w.ids := sublist_reads w
  refine ⟨⟨hmem, hordered, hw.sublist hordered, fun c hc d hd => ?_, fun c hc => ?_⟩,
    fun cs => chains_congr⟩
  · obtain ⟨_, _, _, hlinks⟩ := exists_links hc
    obtain ⟨_, _, _, hlinks'⟩ := exists_links hd
    exact hlinks.apart hw hlinks'
  · obtain ⟨r, s, f, hlinks⟩ := exists_links hc
    exact ⟨r, s, f, hlinks.resolves hw⟩

/-- Two readers lead to sinks, one of them through a filter. A third one leads to a sink and to
nowhere, and the written file leads back to where it came from. -/
def yard : Workflow where
  nodes := [
    { id := "plain", settings := .readFile {} },
    { id := "sifted", settings := .readFile {} },
    { id := "split", settings := .inlineInput {} },
    { id := "sieve", settings := .filter {} },
    { id := "file", settings := .writeFile {} },
    { id := "table", settings := .database { access := .write } }]
  connections := [⟨"plain", "file"⟩, ⟨"sifted", "sieve"⟩, ⟨"file", "plain"⟩, ⟨"sieve", "table"⟩,
    ⟨"split", "file"⟩, ⟨"split", "nowhere"⟩]

/-- The connections of the yard with the way back erased and others out of the table drawn. -/
def yardRedrawn : List Connection :=
  [⟨"table", "sifted"⟩, ⟨"plain", "file"⟩, ⟨"sifted", "sieve"⟩, ⟨"sieve", "table"⟩,
    ⟨"table", "nowhere"⟩, ⟨"split", "file"⟩, ⟨"split", "nowhere"⟩, ⟨"table", "sifted"⟩]

theorem recognizes_chains_yard :
    yard.ids.Nodup ∧ yard.Recognizes yard.chains ∧
      yard.chains = [⟨"plain", "file", none⟩, ⟨"sifted", "table", some "sieve"⟩] ∧
      yardRedrawn.filter yard.steers = yard.connections.filter yard.steers ∧
      ({ yard with connections := yardRedrawn } : Workflow).chains = yard.chains := by
  have hw : yard.ids.Nodup := by decide
  have hsteers : yardRedrawn.filter yard.steers = yard.connections.filter yard.steers := by decide
  obtain ⟨hrecognizes, hredrawn⟩ := recognizes_chains hw
  exact ⟨hw, hrecognizes, by decide, hsteers, hredrawn yardRedrawn hsteers⟩

end Workflow

end DataPipeline
