import DataPipeline.Proofs.Workflow.Changes
import DataPipeline.Proofs.Workflow.RoundTrip

/-!
# Edited workflows are read back

What is loaded from a text has sound nodes, and edits keep them sound, so that at every moment the
workflow is read back from the document that it is written as. The keys of its settings that a kind
does not know have their values from the text; they are kept by every edit that does not set them,
and by being written and read.

## Main definitions

* `Edit.Plain`: edits that bring in nothing but values that are read from documents
* `Edit.Spares`: edits that neither remove a node nor set one of its keys
* `Workflow.Holds`: there is a node with a value under a key that its kind does not know
* `Workflow.Rereads`: what holds of a workflow that is written after some edits

## Main results

* `Edit.Changes.sound`, `Edit.Changes.member_eq`: what one edit preserves of a node
* `Workflow.sound_run`, `Workflow.Holds.run`: what every sequence of edits preserves
* `Workflow.rereads_run`: whatever is loaded and edited is read back with all its keys
-/
namespace DataPipeline

open Json (Sorted)

/-- The node has its id and type from the envelope, and every key of its settings that its kind does
not know has the value that it has there. -/
def Node.Preserves (n : Node) (e : NodeEnvelope) : Prop :=
  n.id = e.id ∧ n.kind.name = e.type ∧
    ∀ key, key ∉ n.kind.keys → n.settings.toJson.member key = e.data.member key

theorem Node.preserves_of_ofEnvelope {n : Node} {e : NodeEnvelope}
    (he : NodeEnvelope.codec.Given e) (h : ofEnvelope e = .ok n) : n.Preserves e := by
  obtain ⟨hid, -, k, hk, hread⟩ := ofEnvelope_eq_ok h
  obtain ⟨hkind, -, hmember⟩ := Settings.sound_of_ofJson (NodeEnvelope.sorted_of_given he).1 hread
  obtain rfl : n.kind = k := hkind
  exact ⟨hid, Kind.name_of_ofName hk, hmember⟩

/-! ## Edits -/

/-- Nodes are read from documents and outputs are not `null`. As everywhere, untyped values that
come from outside are sorted. -/
def Edit.Plain : Edit → Prop
  | .insertNode n => Node.codec.Given n
  | .patchSettings _ patch => Sorted patch
  | .recordRun _ _ output _ => ∀ j, output = some j → Sorted j ∧ j ≠ .null
  | _ => True

/-- The edit neither removes a node with the id nor sets the key of one. -/
def Edit.Spares (id key : String) : Edit → Prop
  | .eraseNode id' => id' ≠ id
  | .patchSettings id' patch => id' = id → patch.member key = none
  | _ => True

theorem Settings.exists_toJson (s : Settings) : ∃ d, s.toJson = .ofDict d := by
  cases s <;> exact ⟨_, Json.sorted_obj _⟩

namespace Workflow

variable {n : Node} {members : List (String × Json)}

theorem exists_mergedSettings (n : Node) (members : List (String × Json)) :
    ∃ d, n.settings.toJson = .ofDict d ∧
      mergedSettings n members = .ofDict (d.overlayList members) := by
  obtain ⟨d, hd⟩ := n.settings.exists_toJson
  refine ⟨d, hd, ?_⟩
  rw [mergedSettings, hd]
  exact congrArg (fun e : Dict Json => Json.ofDict (e.overlayList members)) (Dict.ofList_entries d)

theorem sorted_mergedSettings (h : Sorted (.obj members)) : Sorted (mergedSettings n members) := by
  obtain ⟨d, hd, hmerged⟩ := exists_mergedSettings n members
  have hown : Sorted (.ofDict d) := hd ▸ n.settings.sorted_toJson
  rw [hmerged]
  refine Json.sorted_ofDict fun m hm => ?_
  rcases Dict.mem_overlayList hm with hm | hm
  · exact h.of_mem_obj hm
  · exact hown.of_mem_obj hm

/-- A key of the patch has its value from there, any other one from the settings. -/
theorem member_mergedSettings (h : Sorted (.obj members)) (key : String) :
    (mergedSettings n members).member key =
      ((Json.obj members).member key).or (n.settings.toJson.member key) := by
  obtain ⟨d, hd, hmerged⟩ := exists_mergedSettings n members
  have hreverse : Dict.lookup key members.reverse = Dict.lookup key members :=
    (Dict.lookup_eq_of_perm members.reverse_perm.symm h.nodup_keys key).symm
  rw [hd, hmerged]
  exact (Dict.find?_overlayList d members key).trans (hreverse ▸ rfl)

end Workflow

/-! ## One edit and one node -/

namespace Edit.Changes

variable {e : Edit} {n n' : Node} {key : String}

theorem sound (h : e.Changes n n') (he : e.Plain) (hn : n.Sound) : n'.Sound := by
  cases h with
  | kept => exact hn
  | filled => exact ⟨hn.settings.fill _, hn.output⟩
  | patched hread =>
    exact ⟨(Settings.sound_of_ofJson (Workflow.sorted_mergedSettings he) hread).2.1, hn.output⟩
  | reported => exact ⟨hn.settings, he⟩
  | stored => exact ⟨hn.settings, hn.output⟩

theorem id_eq (h : e.Changes n n') : n'.id = n.id := by
  cases h <;> rfl

theorem kind_eq (h : e.Changes n n') (he : e.Plain) : n'.kind = n.kind := by
  cases h with
  | filled => exact Settings.kind_fill _ _
  | patched hread => exact (Settings.sound_of_ofJson (Workflow.sorted_mergedSettings he) hread).1
  | _ => rfl

/-- A key that the kind does not know keeps its value unless it is set. -/
theorem member_eq (h : e.Changes n n') (he : e.Plain) (hs : e.Spares n.id key) (hn : n.Sound)
    (hkey : key ∉ n.kind.keys) :
    n'.settings.toJson.member key = n.settings.toJson.member key := by
  cases h with
  | filled => exact hn.settings.member_fill _ hkey
  | @patched _ members settings hread =>
    obtain ⟨-, -, hmember⟩ := Settings.sound_of_ofJson (Workflow.sorted_mergedSettings he) hread
    have hfree : (Json.obj members).member key = none := hs rfl
    have hmerged := Workflow.member_mergedSettings (n := n) he key
    rw [hfree, Option.none_or] at hmerged
    exact (hmember key hkey).trans hmerged
  | _ => rfl

end Edit.Changes

/-! ## Sequences of edits -/

namespace Workflow

variable {w : Workflow} {e : Edit} {es : List Edit} {id key : String} {k : Kind} {v : Json}

theorem sound_attempt (hw : ∀ n ∈ w.nodes, n.Sound) (he : e.Plain) :
    ∀ n ∈ (w.attempt e).nodes, n.Sound := by
  rw [attempt]
  split
  · rename_i w' hw'
    intro n' hn'
    rcases (turned_of_apply hw').origin n' hn' with rfl | ⟨n, hn, hchanges⟩
    · exact Node.sound_of_given he
    · exact hchanges.sound he (hw n hn)
  · exact hw

theorem sound_run (hw : ∀ n ∈ w.nodes, n.Sound) (hes : ∀ e ∈ es, e.Plain) :
    ∀ n ∈ (w.run es).nodes, n.Sound := by
  induction es generalizing w with
  | nil => exact hw
  | cons e es ih =>
    exact ih (sound_attempt hw (hes e (.head es))) fun e' he' => hes e' (.tail e he')

/-- There is a node with the value under a key of its settings. -/
def Holds (w : Workflow) (id : String) (k : Kind) (key : String) (v : Json) : Prop :=
  ∃ n ∈ w.nodes, n.id = id ∧ n.kind = k ∧ n.settings.toJson.member key = some v

theorem Holds.attempt (h : w.Holds id k key v) (hw : ∀ n ∈ w.nodes, n.Sound)
    (hkey : key ∉ k.keys) (he : e.Plain) (hs : e.Spares id key) :
    (w.attempt e).Holds id k key v := by
  rw [Workflow.attempt]
  split
  · rename_i w' hw'
    obtain ⟨n, hn, rfl, rfl, hv⟩ := h
    rcases (turned_of_apply hw').outcome n hn with rfl | ⟨n', hn', hchanges⟩
    · exact absurd rfl hs
    · exact ⟨n', hn', hchanges.id_eq, hchanges.kind_eq he,
        (hchanges.member_eq he hs (hw n hn) hkey).trans hv⟩
  · exact h

/-- Induction on the edits; the nodes stay sound all the while. -/
theorem Holds.run (h : w.Holds id k key v) (hw : ∀ n ∈ w.nodes, n.Sound) (hkey : key ∉ k.keys)
    (hes : ∀ e ∈ es, e.Plain ∧ e.Spares id key) : (w.run es).Holds id k key v := by
  induction es generalizing w with
  | nil => exact h
  | cons e es ih =>
    obtain ⟨he, hs⟩ := hes e (.head es)
    exact ih (h.attempt hw hkey he hs) (sound_attempt hw he) fun e' he' => hes e' (.tail e he')

/-! ## Reading back -/

/-- After the edits the workflow is read back from its document, and every value under a key that a
kind does not know that was there at some moment is still there, unless the node was removed or the
key was set. -/
structure Rereads (w : Workflow) (es : List Edit) : Prop where
  reread : Workflow.ofJson (codec.toJson (w.run es)) = .ok (w.run es)
  holds (before after : List Edit) : es = before ++ after →
    ∀ id k key v, key ∉ k.keys → (∀ e ∈ after, e.Spares id key) →
      (w.run before).Holds id k key v → (w.run es).Holds id k key v

theorem rereads_of_sound (hw : ∀ n ∈ w.nodes, n.Sound) (hes : ∀ e ∈ es, e.Plain) :
    w.Rereads es where
  reread := ofJson_toJson (sound_run hw hes)
  holds before after heq id k key v hkey hs h := by
    subst heq
    have hbefore := sound_run hw fun e he => hes e (List.mem_append_left after he)
    rw [run_append]
    exact h.run hbefore hkey fun e he => ⟨hes e (List.mem_append_right before he), hs e he⟩

/-- The nodes of a workflow that is read are read from envelopes. -/
theorem given_of_mem_nodes {env : WorkflowEnvelope} (h : WorkflowEnvelope.codec.Given env) :
    ∀ e ∈ env.nodes, NodeEnvelope.codec.Given e := by
  have hgiven := Codec.each_of_given_record (by decide) (fun _ => rfl) h
  obtain h | h : NodeEnvelope.codec.list.Given env.nodes ∨ env.nodes = [] :=
    Field.given_or_eq rfl rfl hgiven.1.2
  · exact fun _ => Codec.given_of_mem_list h
  · simp [h]

/-- The nodes of a workflow that is loaded are read from envelopes in the text, one by one. -/
theorem read_of_load {text : String} (h : load text = .ok w) :
    ∃ env, WorkflowEnvelope.codec.ofText text = .ok env ∧
      List.Forall₂ (fun e n => NodeEnvelope.codec.Given e ∧ Node.ofEnvelope e = .ok n)
        env.nodes w.nodes := by
  obtain ⟨env, henv, hread⟩ := load_eq_ok_iff.1 h
  have hgiven := given_of_mem_nodes (Codec.given_of_ofText henv)
  exact ⟨env, henv, (List.forall₂_and_left _ _).2 ⟨hgiven, (ofEnvelope_eq_ok_iff.1 hread).2⟩⟩

theorem sound_of_load {text : String} (h : load text = .ok w) : ∀ n ∈ w.nodes, n.Sound := by
  obtain ⟨env, -, hnodes⟩ := read_of_load h
  exact ((List.forall₂_and_left _ _).1 (hnodes.flip.imp fun _ _ h =>
    ⟨Node.sound_of_ofEnvelope h.1 h.2, h⟩)).1

/-- Whatever is loaded from a text and edited, or built by edits alone, is read back from its
document, and its keys keep their values: every key that a kind does not know comes from the text
into the node, stays there while the node is edited, and is read back. -/
theorem rereads_run (es : List Edit) (hes : ∀ e ∈ es, e.Plain) :
    ({} : Workflow).Rereads es ∧
      (∀ text w, load text = .ok w → w.Rereads es ∧
        ∃ env, WorkflowEnvelope.codec.ofText text = .ok env ∧
          List.Forall₂ (fun e n => n.Preserves e) env.nodes w.nodes) ∧
      ∀ e n, NodeEnvelope.codec.Given e → Node.ofEnvelope e = .ok n → n.Preserves e := by
  refine ⟨rereads_of_sound (by simp) hes, fun text w h => ?_, fun e n he hread => ?_⟩
  · obtain ⟨env, henv, hnodes⟩ := read_of_load h
    exact ⟨rereads_of_sound (sound_of_load h) hes, env, henv,
      hnodes.imp fun _ _ h => Node.preserves_of_ofEnvelope h.1 h.2⟩
  · exact Node.preserves_of_ofEnvelope he hread

/-- A node that loads a file into an object, with a key that its kind does not know. -/
def shipmentText : String :=
  "\x7b\"nodes\":[\x7b\"id\":\"load\",\"type\":\"write-salesforce\"," ++
    "\"data\":\x7b\"note\":[1]\x7d\x7d]\x7d"

/-- A node that reads a file is added, patched and connected, so that its path is filled in, and the
node behind it is run. -/
def shipmentEdits : List Edit :=
  [.insertNode { id := "in", settings := .readFile {} },
    .patchSettings "in" (.obj [("owner", .str "ops"), ("path", .str "a.csv")]),
    .connect "in" "load", .recordRun "load" .success (some (.bool true)) none]

theorem sorted_pair {k l : String} (h : k < l) (s t : String) :
    Sorted (.obj [(k, .str s), (l, .str t)]) := by
  refine .obj (by simpa using h) fun m hm => ?_
  simp only [List.mem_cons, List.not_mem_nil, or_false] at hm
  rcases hm with rfl | rfl <;> exact .str _

theorem plain_shipmentEdits : ∀ e ∈ shipmentEdits, e.Plain := by
  intro e he
  simp only [shipmentEdits, List.mem_cons, List.not_mem_nil, or_false] at he
  rcases he with rfl | rfl | rfl | rfl
  · exact ⟨_, .inl (sorted_pair (by decide : "id" < "type") "in" "read-file"), rfl⟩
  · exact sorted_pair (by decide) "ops" "a.csv"
  · trivial
  · rintro j hj
    obtain rfl := Option.some.inj hj
    exact ⟨.bool true, fun h => by cases h⟩

theorem exists_load_shipmentText :
    ∃ w, load shipmentText = .ok w ∧ w.Holds "load" .salesforceWrite "note" (.arr [.int 1]) := by
  have h : (load shipmentText).toOption.any (fun w => w.nodes.any fun n => n.id = "load" ∧
      n.kind = .salesforceWrite ∧
        n.settings.toJson.member "note" = some (.arr [.int 1])) = true := by
    decide +kernel
  cases hw : load shipmentText with
  | error faults => simp [hw, Except.toOption] at h
  | ok w =>
    rw [hw] at h
    obtain ⟨n, hn, hnode⟩ := List.any_eq_true.1 h
    exact ⟨w, rfl, n, hn, of_decide_eq_true hnode⟩

/-- The text is loaded, and after the edits the workflow is read back with the key that it had. -/
theorem rereads_shipment :
    (∀ e ∈ shipmentEdits, e.Plain) ∧ ∃ w, load shipmentText = .ok w ∧
      Workflow.ofJson (codec.toJson (w.run shipmentEdits)) = .ok (w.run shipmentEdits) ∧
      (w.run shipmentEdits).Holds "load" .salesforceWrite "note" (.arr [.int 1]) := by
  obtain ⟨w, hw, hbefore⟩ := exists_load_shipmentText
  have hspares : ∀ e ∈ shipmentEdits, e.Spares "load" "note" := by
    simp [shipmentEdits, Edit.Spares]
  obtain ⟨hrereads, -⟩ := (rereads_run shipmentEdits plain_shipmentEdits).2.1 shipmentText w hw
  exact ⟨plain_shipmentEdits, w, hw, hrereads.reread, hrereads.holds [] shipmentEdits rfl "load"
    .salesforceWrite "note" (.arr [.int 1]) (by decide) hspares hbefore⟩

end Workflow

end DataPipeline
