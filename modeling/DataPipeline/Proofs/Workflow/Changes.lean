import DataPipeline.Proofs.Workflow.Editing

/-!
# What edits do to nodes

Seen from the nodes, an edit adds one, removes one, or changes one in a way that depends on the
edit; all other nodes stay as they are. What is to be shown of every node of an edited workflow is
shown for the kinds of change.

## Main definitions

* `Edit.Changes`: what an edit may do to a node that it leaves in the workflow

## Main results

* `Workflow.turned_of_apply`: where the nodes come from, and what becomes of them
-/
namespace DataPipeline

open Workflow (mergedSettings modifyFirst patched)

/-- What an edit may do to a node that it does not remove. -/
inductive Edit.Changes : Edit → Node → Node → Prop
  | kept {e : Edit} {n : Node} : Changes e n n
  | filled {s t path : String} {n : Node} :
      Changes (.connect s t) n { n with settings := n.settings.fill path }
  | patched {n : Node} {members : List (String × Json)} {settings : Settings}
      (h : Settings.ofJson n.kind (mergedSettings n members) = .ok settings) :
      Changes (.patchSettings n.id (.obj members)) n (patched settings (members.map (·.1)) n)
  | reported {n : Node} {status : RunState} {output : Option Json} {error : Option String} :
      Changes (.recordRun n.id status output error) n
        { n with status := status, output := output, error := error }
  | stored {n : Node} {configId : String} :
      Changes (.storeConfigId n.id configId) n { n with configId := some configId }

namespace Workflow

variable {w w' : Workflow} {e : Edit} {id : String} {f : Node → Node} {n : Node}

/-! ## Edits -/

/-- Every node after an edit was added or comes from a node, and every node before it was removed or
becomes a node. -/
structure Turned (w w' : Workflow) (e : Edit) : Prop where
  origin : ∀ n' ∈ w'.nodes, e = .insertNode n' ∨ ∃ n ∈ w.nodes, e.Changes n n'
  outcome : ∀ n ∈ w.nodes, e = .eraseNode n.id ∨ ∃ n' ∈ w'.nodes, e.Changes n n'

theorem turned_of_modifyFirst (hf : ∀ n, w.node id = some n → e.Changes n (f n))
    (hnodes : w'.nodes = modifyFirst id f w.nodes) : Turned w w' e where
  origin n' hn' := by
    rcases mem_of_mem_modifyFirst (hnodes ▸ hn') with hn | ⟨n, hn, rfl⟩
    · exact .inr ⟨n', hn, .kept⟩
    · exact .inr ⟨n, (node_eq_some hn).1, hf n hn⟩
  outcome n hn := by
    rcases mem_modifyFirst_of_mem hn with hn' | ⟨hfind, hn'⟩
    · exact .inr ⟨n, hnodes ▸ hn', .kept⟩
    · exact .inr ⟨f n, hnodes ▸ hn', hf n hfind⟩

theorem changes_inheritPath (source : Node) (s t : String) (n : Node) :
    (Edit.connect s t).Changes n (source.inheritPath n) := by
  rw [Node.inheritPath]
  split
  · exact .filled
  · exact .kept

/-- The step, one case for each edit. -/
theorem turned_of_apply (h : w.apply e = .ok w') : Turned w w' e := by
  cases e with
  | insertNode n =>
    obtain ⟨-, rfl⟩ := insertNode_eq_ok_iff.1 h
    refine ⟨fun m hm => ?_, fun m hm => .inr ⟨m, List.mem_append_left _ hm, .kept⟩⟩
    rcases List.mem_append.1 hm with hm | hm
    · exact .inr ⟨m, hm, .kept⟩
    · exact .inl (congrArg _ (List.mem_singleton.1 hm).symm)
  | eraseNode id =>
    obtain ⟨-, rfl⟩ := apply_eraseNode_eq_ok_iff.1 h
    refine ⟨fun m hm => .inr ⟨m, List.mem_of_mem_eraseP hm, .kept⟩, fun m hm => ?_⟩
    by_cases hid : m.id = id
    · exact .inl (hid ▸ rfl)
    · exact .inr ⟨m, (List.mem_eraseP_of_neg (by simpa using hid)).2 hm, .kept⟩
  | connect s t =>
    obtain ⟨n, -, -, -, -, -, rfl⟩ := connect_eq_ok_iff.1 h
    exact turned_of_modifyFirst (fun m _ => changes_inheritPath n s t m) rfl
  | disconnect s t =>
    obtain ⟨-, rfl⟩ := disconnect_eq_ok_iff.1 h
    exact ⟨fun m hm => .inr ⟨m, hm, .kept⟩, fun m hm => .inr ⟨m, hm, .kept⟩⟩
  | patchSettings id patch =>
    obtain ⟨n, members, settings, hn, rfl, hsettings, rfl⟩ := patchSettings_eq_ok_iff.1 h
    refine turned_of_modifyFirst (fun m hm => ?_) rfl
    obtain rfl := Option.some.inj (hn.symm.trans hm)
    obtain ⟨-, rfl⟩ := node_eq_some hn
    exact .patched hsettings
  | recordRun id status output error =>
    obtain ⟨-, rfl⟩ := modifyNode_eq_ok_iff.1 h
    refine turned_of_modifyFirst (fun m hm => ?_) rfl
    obtain ⟨-, rfl⟩ := node_eq_some hm
    exact .reported
  | storeConfigId id configId =>
    obtain ⟨-, rfl⟩ := modifyNode_eq_ok_iff.1 h
    refine turned_of_modifyFirst (fun m hm => ?_) rfl
    obtain ⟨-, rfl⟩ := node_eq_some hm
    exact .stored

end Workflow

end DataPipeline
