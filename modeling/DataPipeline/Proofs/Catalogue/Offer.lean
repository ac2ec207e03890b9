import DataPipeline.Catalogue.Offer
import DataPipeline.Proofs.Dict
import DataPipeline.Proofs.Lists
import DataPipeline.Proofs.Validation.WellDrawn
import Mathlib.Data.List.Induction

/-!
# What is offered

The fields that a node can use are collected in one pass over the connections into it, with one list
of what was met so far for all sources. They fall apart into one block for each source: a source
adds its block at its first connection and nothing afterwards, and no block depends on another. What
is offered, and in which order, can be read off the blocks.

## Main definitions

* `Workflow.sources`, `Workflow.feeders`: the ids in front of an id, with repetitions and without
* `Node.handedOn`, `Workflow.handedOn`: the block of a node and of an id
* `Node.Names`, `Node.typeOf`: the names that a node hands on, and their types
* `Workflow.Precedes`: the order of fields
* `Workflow.OffersExactly`: what a list of available fields has to be

## Main results

* `Workflow.offersTo_eq_flatMap`: the pass and the blocks
* `Workflow.offers_exactly`
-/
namespace DataPipeline

/-! ## The block of a node -/

/-- Fields are told apart by their source and their name. -/
def OfferedField.key (f : OfferedField) : String × String := (f.origin.nodeId, f.name)

namespace Node

variable {n : Node} {f : OfferedField} {name : String}

/-- What a node hands on: of each name the first field. -/
def handedOn (n : Node) : List OfferedField := firstOfEach (·.name) [] n.offers

/-- The names of the fields of a node: those of its kind, then those of its columns. -/
def offeredNames (n : Node) : List String :=
  n.kind.outputs.map (·.name) ++ n.settings.sourceColumns.map (·.name)

/-- The name is that of a field of the kind or of a declared column. -/
def Names (n : Node) (name : String) : Prop :=
  (∃ field ∈ n.kind.outputs, field.name = name) ∨ ∃ c ∈ n.settings.sourceColumns, c.name = name

/-- The type of a field of the kind, or else of the first column with the name. -/
def typeOf (n : Node) (name : String) : Option String :=
  match n.kind.outputs.find? (·.name = name) with
  | some field => some field.type.name
  | none => (n.settings.sourceColumns.find? (·.name = name)).map (·.type)

theorem map_name_offers (n : Node) : n.offers.map (·.name) = n.offeredNames := by
  simp [offers, offeredNames, Function.comp_def]

theorem mem_offeredNames : name ∈ n.offeredNames ↔ n.Names name := by
  simp [offeredNames, Names]

theorem origin_of_mem_offers (hf : f ∈ n.offers) : f.origin = ⟨n.id, n.kind, n.label⟩ := by
  rcases List.mem_append.1 hf with hf | hf
  · obtain ⟨field, -, rfl⟩ := List.mem_map.1 hf
    rfl
  · obtain ⟨c, -, rfl⟩ := List.mem_map.1 hf
    rfl

/-- The first field with a name has the type of the name. -/
theorem type_of_find?_offers (h : n.offers.find? (·.name = name) = some f) :
    n.typeOf name = some f.type := by
  rw [offers, List.find?_append, List.find?_map, List.find?_map] at h
  rw [typeOf]
  cases hstatic : n.kind.outputs.find? (·.name = name) with
  | some field =>
    simp only [Function.comp_def, hstatic, Option.map_some, Option.some_or, Option.some.injEq] at h
    exact congrArg some (congrArg OfferedField.type h)
  | none =>
    simp only [Function.comp_def, hstatic, Option.map_none, Option.none_or] at h
    obtain ⟨c, hc, rfl⟩ := Option.map_eq_some_iff.1 h
    simp [hc]

theorem mem_offers_of_mem_handedOn (hf : f ∈ n.handedOn) : f ∈ n.offers :=
  List.mem_of_find?_eq_some (find?_of_mem_firstOfEach hf)

theorem origin_of_mem_handedOn (hf : f ∈ n.handedOn) : f.origin = ⟨n.id, n.kind, n.label⟩ :=
  origin_of_mem_offers (mem_offers_of_mem_handedOn hf)

theorem typeOf_of_mem_handedOn (hf : f ∈ n.handedOn) : n.typeOf f.name = some f.type :=
  type_of_find?_offers (find?_of_mem_firstOfEach hf)

theorem exists_mem_handedOn_iff : (∃ f ∈ n.handedOn, f.name = name) ↔ n.Names name := by
  rw [← List.mem_map, handedOn, map_firstOfEach, List.mem_eraseDups, map_name_offers,
    mem_offeredNames]

/-- The fields of a block stand in the order of their names. -/
theorem pairwise_handedOn (n : Node) : n.handedOn.Pairwise fun f g =>
    n.offeredNames.idxOf f.name < n.offeredNames.idxOf g.name := by
  rw [← map_name_offers]
  exact pairwise_firstOfEach _ _ _

end Node

/-! ## The pass over the connections -/

namespace Workflow

variable {w : Workflow} {n : Node} {f g : OfferedField} {s t id name : String}

theorem addFields_eq (known fields : List OfferedField) :
    addFields known fields =
      known ++ firstOfEach OfferedField.key (known.map OfferedField.key) fields := by
  induction fields generalizing known with
  | nil => simp [addFields, firstOfEach]
  | cons f fields ih =>
    have hknown : (known.any fun g => g.origin.nodeId = f.origin.nodeId && g.name = f.name) = true ↔
        f.key ∈ known.map OfferedField.key := by
      simp [OfferedField.key]
    rw [addFields, List.foldl_cons, ← addFields, firstOfEach]
    by_cases hf : f.key ∈ known.map OfferedField.key
    · rw [if_pos (hknown.2 hf), if_pos hf, ih]
    · rw [if_neg (mt hknown.1 hf), if_neg hf, ih, List.append_assoc, List.singleton_append]
      refine congrArg (fun rest => known ++ f :: rest) (firstOfEach_congr (by simp) fun g _ => ?_)
      simp [or_comm]

/-- The ids from which connections lead to `id`, in the order of the connections. -/
def sources (w : Workflow) (id : String) : List String :=
  (w.connections.filter (·.target = id)).map (·.source)

/-- The ids from which connections lead to `id`, in the order of the first of them. -/
def feeders (w : Workflow) (id : String) : List String := firstOfEach (·) [] (w.sources id)

/-- What the first node with the id hands on; nothing if there is none. -/
def handedOn (w : Workflow) (s : String) : List OfferedField :=
  match w.node s with
  | some n => n.handedOn
  | none => []

theorem mem_sources : s ∈ w.sources id ↔ w.Connects s id := by
  simp only [sources, List.mem_map, List.mem_filter, decide_eq_true_eq]
  constructor
  · rintro ⟨c, ⟨hc, rfl⟩, rfl⟩
    exact hc
  · intro h
    exact ⟨_, ⟨h, rfl⟩, rfl⟩

theorem mem_feeders : s ∈ w.feeders id ↔ w.Connects s id := by
  rw [feeders, mem_firstOfEach_id, mem_sources]
  simp

theorem mem_handedOn : f ∈ w.handedOn s ↔ ∃ n, w.node s = some n ∧ f ∈ n.handedOn := by
  cases h : w.node s <;> simp [handedOn, h]

theorem nodeId_of_mem_handedOn (hf : f ∈ w.handedOn s) : f.origin.nodeId = s := by
  obtain ⟨n, hn, hf⟩ := mem_handedOn.1 hf
  rw [Node.origin_of_mem_handedOn hf]
  exact (node_eq_some hn).2

/-- The step: to the blocks of some ids a node adds its own block, unless it is there. -/
theorem addFields_flatMap (ids : List String) (hn : w.node s = some n) :
    addFields (ids.flatMap w.handedOn) n.offers =
      ids.flatMap w.handedOn ++ if s ∈ ids then [] else n.handedOn := by
  have hid : n.id = s := (node_eq_some hn).2
  rw [addFields_eq]
  refine congrArg _ ?_
  split_ifs with hs
  · refine firstOfEach_eq_nil fun f hf => ?_
    obtain ⟨g, hg, hname⟩ := Node.exists_mem_handedOn_iff.2
      (Node.mem_offeredNames.1 (n.map_name_offers ▸ List.mem_map_of_mem hf))
    have horigin : g.origin = f.origin :=
      (Node.origin_of_mem_handedOn hg).trans (Node.origin_of_mem_offers hf).symm
    refine List.mem_map.2 ⟨g, List.mem_flatMap.2 ⟨s, hs, mem_handedOn.2 ⟨n, hn, hg⟩⟩, ?_⟩
    rw [OfferedField.key, OfferedField.key, horigin, hname]
  · refine firstOfEach_congr (fun f hf g hg => ?_) fun f hf =>
      iff_of_false (fun hkey => ?_) (by simp)
    · rw [OfferedField.key, OfferedField.key, Node.origin_of_mem_offers hf,
        Node.origin_of_mem_offers hg, Prod.mk.injEq, and_iff_right rfl]
    · obtain ⟨g, hg, hgf⟩ := List.mem_map.1 hkey
      obtain ⟨s', hs', hg⟩ := List.mem_flatMap.1 hg
      have hsource : s' = s := by
        rw [← nodeId_of_mem_handedOn hg, ← hid]
        exact (congrArg Prod.fst hgf).trans
          (congrArg FieldOrigin.nodeId (Node.origin_of_mem_offers hf))
      exact hs (hsource ▸ hs')

/-- The run: by induction on the connections, from the last one backwards. -/
theorem offersTo_eq_flatMap (w : Workflow) (id : String) :
    w.offersTo id = (w.feeders id).flatMap w.handedOn := by
  rw [offersTo, feeders, sources]
  induction w.connections.filter (·.target = id) using List.reverseRecOn with
  | nil => rfl
  | append_singleton cs c ih =>
    have hmet : c.source ∈ firstOfEach (·) [] (cs.map (·.source)) ↔
        c.source ∈ cs.map (·.source) := by
      simp [mem_firstOfEach_id]
    rw [List.foldl_append, ih, List.foldl_cons, List.foldl_nil, List.map_append, List.map_singleton,
      firstOfEach_concat, List.flatMap_append, List.map_id', List.append_nil]
    cases hn : w.node c.source with
    | none => split_ifs <;> simp [handedOn, hn]
    | some n =>
      refine (addFields_flatMap _ hn).trans ?_
      simp only [hmet]
      split_ifs <;> simp [handedOn, hn]

/-! ## Exactness -/

/-- The first connection of the source of `f` comes before that of `g`, or the two have the same
source and the name of `f` comes before that of `g` among its names. -/
def Precedes (w : Workflow) (id : String) (f g : OfferedField) : Prop :=
  (w.sources id).idxOf f.origin.nodeId < (w.sources id).idxOf g.origin.nodeId ∨
    f.origin.nodeId = g.origin.nodeId ∧ ∃ n, w.node f.origin.nodeId = some n ∧
      n.offeredNames.idxOf f.name < n.offeredNames.idxOf g.name

/-- The fields have the names of the nodes in front of the id, each name of each source once. -/
structure OffersExactly (w : Workflow) (id : String) (fields : List OfferedField) : Prop where
  exact (s name : String) : (∃ f ∈ fields, f.origin.nodeId = s ∧ f.name = name) ↔
    w.Connects s id ∧ ∃ n, w.node s = some n ∧ n.Names name
  single : (fields.map fun f => (f.origin.nodeId, f.name)).Nodup
  described : ∀ f ∈ fields, ∃ n, w.node f.origin.nodeId = some n ∧
    f.origin = ⟨n.id, n.kind, n.label⟩ ∧ n.typeOf f.name = some f.type
  ordered : fields.Pairwise (w.Precedes id)

theorem mem_offersTo : f ∈ w.offersTo id ↔ w.Connects f.origin.nodeId id ∧
    ∃ n, w.node f.origin.nodeId = some n ∧ f ∈ n.handedOn := by
  simp only [offersTo_eq_flatMap, List.mem_flatMap, mem_feeders]
  constructor
  · rintro ⟨s, hs, hf⟩
    obtain rfl := nodeId_of_mem_handedOn hf
    exact ⟨hs, mem_handedOn.1 hf⟩
  · rintro ⟨hs, hf⟩
    exact ⟨_, hs, mem_handedOn.2 hf⟩

theorem exists_mem_offersTo_iff : (∃ f ∈ w.offersTo id, f.origin.nodeId = s ∧ f.name = name) ↔
    w.Connects s id ∧ ∃ n, w.node s = some n ∧ n.Names name := by
  constructor
  · rintro ⟨f, hf, rfl, rfl⟩
    obtain ⟨hs, n, hn, hf⟩ := mem_offersTo.1 hf
    exact ⟨hs, n, hn, Node.exists_mem_handedOn_iff.1 ⟨f, hf, rfl⟩⟩
  · rintro ⟨hs, n, hn, hname⟩
    obtain ⟨f, hf, hname⟩ := Node.exists_mem_handedOn_iff.2 hname
    have hsource : f.origin.nodeId = s := nodeId_of_mem_handedOn (mem_handedOn.2 ⟨n, hn, hf⟩)
    exact ⟨f, mem_offersTo.2 (hsource ▸ ⟨hs, n, hn, hf⟩), hsource, hname⟩

/-- Within a block the names decide, and between two blocks the connections. -/
theorem pairwise_precedes (w : Workflow) (id : String) :
    (w.offersTo id).Pairwise (w.Precedes id) := by
  rw [offersTo_eq_flatMap, List.pairwise_flatMap]
  constructor
  · intro s _
    cases hn : w.node s with
    | none => simp [handedOn, hn]
    | some n =>
      have hblock : w.handedOn s = n.handedOn := by simp [handedOn, hn]
      rw [hblock]
      refine n.pairwise_handedOn.imp_of_mem fun hf hg hfg => ?_
      have hf := nodeId_of_mem_handedOn (hblock ▸ hf)
      have hg := nodeId_of_mem_handedOn (hblock ▸ hg)
      exact .inr ⟨hf.trans hg.symm, n, hf ▸ hn, hfg⟩
  · have hfeeders := pairwise_firstOfEach (fun s : String => s) [] (w.sources id)
    rw [List.map_id'] at hfeeders
    refine hfeeders.imp fun hst f hf g hg => .inl ?_
    rwa [nodeId_of_mem_handedOn hf, nodeId_of_mem_handedOn hg]

/-- No field precedes one with its own source and name. -/
theorem Precedes.key_ne (h : w.Precedes id f g) :
    (f.origin.nodeId, f.name) ≠ (g.origin.nodeId, g.name) := by
  intro heq
  obtain ⟨hsource, hname⟩ := Prod.mk.inj heq
  rcases h with h | ⟨-, n, -, h⟩
  · exact absurd (hsource ▸ h) (Nat.lt_irrefl _)
  · exact absurd (hname ▸ h) (Nat.lt_irrefl _)

theorem offersExactly_offersTo (w : Workflow) (id : String) :
    w.OffersExactly id (w.offersTo id) where
  exact _ _ := exists_mem_offersTo_iff
  single := List.pairwise_map.2 ((pairwise_precedes w id).imp Precedes.key_ne)
  described f hf := by
    obtain ⟨-, n, hn, hf⟩ := mem_offersTo.1 hf
    exact ⟨n, hn, Node.origin_of_mem_handedOn hf, Node.typeOf_of_mem_handedOn hf⟩
  ordered := pairwise_precedes w id

/-! ## Connections that do not count -/

theorem handedOn_eq_nil (hs : s ∉ w.ids) : w.handedOn s = [] := by
  rw [handedOn, node_eq_none_iff.2 hs]

/-- Unknown ids have empty blocks. -/
theorem flatMap_handedOn_filter (w : Workflow) (ids : List String) :
    (ids.filter (· ∈ w.ids)).flatMap w.handedOn = ids.flatMap w.handedOn :=
  flatMap_filter_of_nil fun _ _ hs => handedOn_eq_nil (by simpa using hs)

/-- What is offered depends on the known sources alone, and of them on the first occurrences. -/
theorem offersTo_eq_of_known (w : Workflow) (id : String) : w.offersTo id =
    (firstOfEach (·) [] ((w.sources id).filter (· ∈ w.ids))).flatMap w.handedOn := by
  rw [offersTo_eq_flatMap, feeders, ← flatMap_handedOn_filter,
    filter_firstOfEach (fun s => decide (s ∈ w.ids))]

theorem sources_append (ns : List Node) (cs ds : List Connection) (id : String) :
    sources ⟨ns, cs ++ ds⟩ id = sources ⟨ns, cs⟩ id ++ sources ⟨ns, ds⟩ id := by
  simp [sources]

theorem sources_cons (ns : List Node) (c : Connection) (cs : List Connection) (id : String) :
    sources ⟨ns, c :: cs⟩ id =
      if c.target = id then c.source :: sources ⟨ns, cs⟩ id else sources ⟨ns, cs⟩ id := by
  by_cases hc : c.target = id <;> simp [sources, hc]

/-- A connection that repeats an earlier one or that dangles might as well not be there. For an
unknown id this is said only of connections from unknown ids: those from nodes, though they dangle
as well, do offer something. -/
theorem offersTo_of_silent {ns : List Node} {before after : List Connection} {c : Connection}
    (hc : c ∈ before ∨ c.source ∉ ns.map (·.id) ∨ id ∈ ns.map (·.id) ∧ c.target ∉ ns.map (·.id)) :
    offersTo ⟨ns, before ++ c :: after⟩ id = offersTo ⟨ns, before ++ after⟩ id := by
  have hnodes : handedOn ⟨ns, before ++ c :: after⟩ = handedOn ⟨ns, before ++ after⟩ := rfl
  by_cases htarget : c.target = id
  · rcases hc with hc | hc | ⟨hid, hc⟩
    · have hmet : c.source ∈ sources ⟨ns, before⟩ id := mem_sources.2 (htarget ▸ hc)
      rw [offersTo_eq_flatMap, offersTo_eq_flatMap, hnodes, feeders, feeders, sources_append,
        sources_cons, if_pos htarget, sources_append, firstOfEach_append_cons (by simpa using hmet)]
    · rw [offersTo_eq_of_known, offersTo_eq_of_known, hnodes, sources_append, sources_cons,
        if_pos htarget, sources_append, List.filter_append, List.filter_append,
        List.filter_cons_of_neg (by simpa [ids] using hc)]
      rfl
    · exact absurd (htarget ▸ hid) hc
  · rw [offersTo_eq_flatMap, offersTo_eq_flatMap, hnodes, feeders, feeders, sources_append,
      sources_cons, if_neg htarget, sources_append]

theorem find?_allOffers (w : Workflow) (id : String) :
    w.allOffers.find? id = if id ∈ w.ids then some (w.offersTo id) else none :=
  Dict.find?_ofList_map w.offersTo w.ids id

/-- The fields available to a node are exactly those of the nodes in front of it, each name of each
source once, in the order of the connections; and only the first connection from each known source
matters. -/
theorem offers_exactly (w : Workflow) (id : String) :
    w.OffersExactly id (w.offersTo id) ∧
      (∀ before c after, w.connections = before ++ c :: after →
        c ∈ before ∨ c.source ∉ w.ids ∨ id ∈ w.ids ∧ c.target ∉ w.ids →
          offersTo ⟨w.nodes, before ++ after⟩ id = w.offersTo id) ∧
      w.allOffers.find? id = if id ∈ w.ids then some (w.offersTo id) else none := by
  refine ⟨offersExactly_offersTo w id, fun before c after hconn hc => ?_, find?_allOffers w id⟩
  have hw : w = ⟨w.nodes, before ++ c :: after⟩ := by rw [← hconn]
  rw [hw]
  exact (offersTo_of_silent hc).symm

/-- Two sources for a filter, one of which has its id twice, with columns that have the names of
fields and names that repeat; the connections repeat and dangle. -/
def stall : Workflow where
  nodes := [
    { id := "in", settings := .readFile {
        columns := [⟨"format", "integer", true⟩, ⟨"id", "integer", false⟩,
          ⟨"id", "text", true⟩] } },
    { id := "gen", settings := .inlineInput {
        label := some "Rows", columns := [⟨"id", "text", true⟩, ⟨"records", "text", true⟩] } },
    { id := "in", settings := .inlineInput { columns := [⟨"late", "text", true⟩] } },
    { id := "pick", settings := .filter {} }]
  connections := [⟨"nowhere", "pick"⟩, ⟨"gen", "pick"⟩, ⟨"in", "pick"⟩, ⟨"gen", "pick"⟩,
    ⟨"pick", "nowhere"⟩]

/-- The repeated connection, the one from nowhere and the one to nowhere can be left out. -/
theorem offers_exactly_stall :
    stall.OffersExactly "pick" (stall.offersTo "pick") ∧
      offersTo ⟨stall.nodes, [⟨"nowhere", "pick"⟩, ⟨"gen", "pick"⟩, ⟨"in", "pick"⟩,
        ⟨"pick", "nowhere"⟩]⟩ "pick" = stall.offersTo "pick" ∧
      offersTo ⟨stall.nodes, [⟨"gen", "pick"⟩, ⟨"in", "pick"⟩, ⟨"gen", "pick"⟩,
        ⟨"pick", "nowhere"⟩]⟩ "pick" = stall.offersTo "pick" ∧
      offersTo ⟨stall.nodes, [⟨"nowhere", "pick"⟩, ⟨"gen", "pick"⟩, ⟨"in", "pick"⟩,
        ⟨"gen", "pick"⟩]⟩ "pick" = stall.offersTo "pick" ∧
      stall.allOffers.find? "pick" = some (stall.offersTo "pick") := by
  obtain ⟨hexact, hsilent, hall⟩ := offers_exactly stall "pick"
  refine ⟨hexact, ?_, ?_, ?_, hall⟩
  · exact hsilent [⟨"nowhere", "pick"⟩, ⟨"gen", "pick"⟩, ⟨"in", "pick"⟩] ⟨"gen", "pick"⟩
      [⟨"pick", "nowhere"⟩] rfl (.inl (by decide))
  · exact hsilent [] ⟨"nowhere", "pick"⟩ _ rfl (.inr (.inl (by decide)))
  · exact hsilent [⟨"nowhere", "pick"⟩, ⟨"gen", "pick"⟩, ⟨"in", "pick"⟩, ⟨"gen", "pick"⟩]
      ⟨"pick", "nowhere"⟩ [] rfl (.inr (.inr ⟨by decide, by decide⟩))

/-- The filter is offered the fields of the rows first, and of the two columns with one name the
first. -/
example : (stall.offersTo "pick").map (fun f => (f.origin.nodeId, f.name, f.type)) =
    [("gen", "records", "array"), ("gen", "id", "text"), ("in", "file_path", "path"),
      ("in", "format", "string"), ("in", "records", "array"), ("in", "id", "integer")] := by
  decide +kernel

end Workflow

end DataPipeline
