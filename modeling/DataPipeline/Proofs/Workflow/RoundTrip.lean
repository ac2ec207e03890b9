import DataPipeline.Proofs.Settings.Forms
import DataPipeline.Workflow.Document

/-!
# Documents of workflows

A node is read back when its settings are sound and its output is a sorted value other than `null`;
every node that is read is of this sort. A workflow is read node by node, so that a workflow of
sound nodes is read back from its own document.

## Main definitions

* `Node.Sound`: the nodes that are read back

## Main results

* `Node.sound_of_ofEnvelope`: what is read from an envelope is sound
* `Workflow.ofEnvelope_eq_ok_iff`: which workflows are read
* `Workflow.ofJson_toJson`: a workflow of sound nodes is read back
-/
namespace DataPipeline

open Codec DataPipeline.Field
open Json (Sorted)

/-! ## Nodes -/

theorem Position.survives (p : Position) : codec.Survives p :=
  survives_record (by decide) rfl
    (Layout.keeps_make
      |>.field (keeps_required (survives_real _))
      |>.field (keeps_required (survives_real _)))

theorem RunState.survives (s : RunState) : codec.Survives s :=
  survives_choice (by cases s <;> decide)

theorem Kind.ofName_name (k : Kind) : ofName k.name = some k := by
  cases k <;> decide

theorem Kind.name_of_ofName {k : Kind} {name : String} (h : ofName name = some k) :
    k.name = name := by
  simpa using List.find?_some h

/-- The settings are sound, and the output of the last run is a sorted value other than `null`. -/
structure Node.Sound (n : Node) : Prop where
  settings : n.settings.Sound
  output : ∀ j, n.output = some j → Sorted j ∧ j ≠ .null

/-- The untyped parts of an envelope that is read are sorted values. -/
theorem NodeEnvelope.sorted_of_given {e : NodeEnvelope} (h : codec.Given e) :
    Sorted e.data ∧ ∀ j, e.output = some j → Sorted j ∧ j ≠ .null := by
  have hgiven := each_of_given_record (by decide) (fun _ => rfl) h
  have hdata := Layout.each_iff.1 hgiven (.orElse "data" .any .null (·.data))
    (by repeat constructor)
  have houtput := Layout.each_iff.1 hgiven (.optional "output" .any (·.output))
    (by repeat constructor)
  refine ⟨?_, Field.sorted_of_given houtput⟩
  obtain h | h : any.Given e.data ∨ e.data = .null := Field.given_or_eq rfl rfl hdata
  · exact sorted_of_given_any h
  · rw [h]
    exact .null

namespace Node

variable {n : Node} {e : NodeEnvelope}

/-- A node that is read from an envelope has its settings from the data in it. -/
theorem ofEnvelope_eq_ok (h : ofEnvelope e = .ok n) :
    n.id = e.id ∧ n.output = e.output ∧
      ∃ k, Kind.ofName e.type = some k ∧ Settings.ofJson k e.data = .ok n.settings := by
  cases hk : Kind.ofName e.type with
  | none => simp [ofEnvelope, hk] at h
  | some k =>
    cases hs : Settings.ofJson k e.data with
    | error cause => simp [ofEnvelope, hk, hs] at h
    | ok settings =>
      simp only [ofEnvelope, hk, hs, Except.ok.injEq] at h
      subst h
      exact ⟨rfl, rfl, k, rfl, hs⟩

theorem sound_of_ofEnvelope (he : NodeEnvelope.codec.Given e) (h : ofEnvelope e = .ok n) :
    n.Sound := by
  obtain ⟨hdata, houtput⟩ := NodeEnvelope.sorted_of_given he
  obtain ⟨-, hout, k, -, hsettings⟩ := ofEnvelope_eq_ok h
  exact ⟨(Settings.sound_of_ofJson hdata hsettings).2.1, hout ▸ houtput⟩

theorem sound_of_given (h : codec.Given n) : n.Sound := by
  obtain ⟨e, he, hread⟩ := given_of_refine h
  exact sound_of_ofEnvelope he hread

theorem Sound.ofEnvelope_toEnvelope (h : n.Sound) : ofEnvelope n.toEnvelope = .ok n := by
  have hread : Settings.ofJson n.kind n.settings.toJson = .ok n.settings :=
    h.settings.ofJson_toJson
  simp only [ofEnvelope, toEnvelope, Kind.ofName_name, hread]

theorem Sound.survives_toEnvelope (h : n.Sound) :
    NodeEnvelope.codec.Survives n.toEnvelope := by
  refine survives_record (by decide) rfl (Layout.keeps_make
    |>.field (keeps_required (survives_text _))
    |>.field (keeps_required (survives_text _))
    |>.field (keeps_orElse (Position.survives _))
    |>.field (keeps_orElse (survives_any ?_))
    |>.field (keeps_orElse (RunState.survives _))
    |>.field (keeps_any ?_)
    |>.field (keeps_text _)
    |>.field (keeps_text _)
    |>.field (keeps_keySet _))
  · exact n.settings.sorted_toJson
  · exact h.output

end Node

theorem Connection.survives (c : Connection) : codec.Survives c :=
  survives_record (by decide) rfl
    (Layout.keeps_make
      |>.field (keeps_required (survives_text _))
      |>.field (keeps_required (survives_text _)))

/-! ## Documents of workflows -/

namespace Workflow

variable {w w' : Workflow} {n : Node} {e : Edit}

theorem ofEnvelope_cons_of_ok {e : NodeEnvelope} {es : List NodeEnvelope} {cs : List Connection}
    (h : Node.ofEnvelope e = .ok n) :
    ofEnvelope ⟨e :: es, cs⟩ =
      (ofEnvelope ⟨es, cs⟩).map fun v => { v with nodes := n :: v.nodes } := by
  simp only [ofEnvelope, List.map_cons, h, Except.mapError, List.filterMap_cons, Except.toOption]
  split <;> rename_i hfaults
    <;> simp only [hfaults, Bool.false_eq_true, if_true, if_false, Except.map]

/-- A workflow is read node by node. -/
theorem ofEnvelope_eq_ok_iff {env : WorkflowEnvelope} :
    ofEnvelope env = .ok w ↔ w.connections = env.connections ∧
      List.Forall₂ (fun e n => Node.ofEnvelope e = .ok n) env.nodes w.nodes := by
  obtain ⟨es, cs⟩ := env
  induction es generalizing w with
  | nil =>
    cases w
    simp [ofEnvelope, eq_comm, and_comm]
  | cons e es ih =>
    rw [List.forall₂_cons_left_iff]
    cases he : Node.ofEnvelope e with
    | error cause => simp [ofEnvelope, he, Except.mapError]
    | ok n =>
      rw [ofEnvelope_cons_of_ok he]
      constructor
      · intro h
        obtain ⟨v, hv, rfl⟩ := exists_of_map_eq_ok h
        obtain ⟨hcs, hall⟩ := ih.1 hv
        exact ⟨hcs, n, v.nodes, rfl, hall, rfl⟩
      · rintro ⟨hcs, m, ns, hm, hall, hnodes⟩
        obtain rfl := Except.ok.inj hm
        have hv : ofEnvelope ⟨es, cs⟩ = .ok ⟨ns, cs⟩ := ih.2 ⟨rfl, hall⟩
        rw [hv]
        cases w
        simp_all [Except.map]

theorem load_eq_ok_iff {text : String} : load text = .ok w ↔
    ∃ e, WorkflowEnvelope.codec.ofText text = .ok e ∧ ofEnvelope e = .ok w := by
  rw [load]
  cases WorkflowEnvelope.codec.ofText text <;> simp

theorem ofJson_eq_ok_iff {j : Json} : Workflow.ofJson j = .ok w ↔
    ∃ e, WorkflowEnvelope.codec.ofJson j = .ok e ∧ ofEnvelope e = .ok w := by
  rw [Workflow.ofJson]
  cases WorkflowEnvelope.codec.ofJson j <;> simp

/-- A workflow of sound nodes is read back from its document. -/
theorem ofJson_toJson (h : ∀ n ∈ w.nodes, n.Sound) : Workflow.ofJson (codec.toJson w) = .ok w := by
  let env : WorkflowEnvelope := ⟨w.nodes.map Node.toEnvelope, w.connections⟩
  have hdocument : codec.toJson w = WorkflowEnvelope.codec.toJson env := by
    have hnodes : Node.codec.list.toJson w.nodes = NodeEnvelope.codec.list.toJson env.nodes := by
      simp only [Codec.list, env, List.map_map]
      rfl
    exact congrArg (fun j => Json.obj [("nodes", j), _]) hnodes
  have henv : WorkflowEnvelope.codec.Survives env := by
    refine survives_record (by decide) rfl (Layout.keeps_make
      |>.field (keeps_orElse (Survives.list fun e he => ?_))
      |>.field (keeps_orElse (Survives.list fun c _ => c.survives)))
    obtain ⟨n, hn, rfl⟩ := List.mem_map.1 he
    exact (h n hn).survives_toEnvelope
  have hread : WorkflowEnvelope.codec.ofJson (codec.toJson w) = .ok env := by
    rw [hdocument]
    exact henv id Json.rearranges_id
  have hnodes : List.Forall₂ (fun e n => Node.ofEnvelope e = .ok n) env.nodes w.nodes := by
    refine List.forall₂_map_left_iff.2 (List.forall₂_same.2 fun n hn => ?_)
    exact (h n hn).ofEnvelope_toEnvelope
  rw [Workflow.ofJson, hread]
  exact ofEnvelope_eq_ok_iff.2 ⟨rfl, hnodes⟩

end Workflow

end DataPipeline
