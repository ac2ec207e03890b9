import DataPipeline.Graph.Reachability
import DataPipeline.Proofs.Graph.Path
import Mathlib.Data.List.Count

/-!
# Reachability is decided

Saturation keeps what it has found, finds only what the edges lead to, and ends with a set that the
edges do not leave: a round that finds nothing has found all targets, and every other round uses up
an edge whose target was not found before.

## Main results

* `Graph.mem_reached_iff`: the vertices found from a vertex are those that chains lead to
* `Graph.Closed.reaches_iff`, `Graph.Closed.hasCycle_iff`: the decisions are right
-/
namespace DataPipeline.Graph

open Relation

variable {g : Graph} {edges : List Connection} {found : List String} {a b v : String}

/-! ## One edge -/

theorem follow_of_new {c : Connection} (h : c.source ∈ found ∧ c.target ∉ found) :
    follow found c = found ++ [c.target] := by
  simp [follow, h]

theorem follow_of_old {c : Connection} (h : ¬ (c.source ∈ found ∧ c.target ∉ found)) :
    follow found c = found := by
  simpa [follow] using h

theorem subset_follow (c : Connection) (hv : v ∈ found) : v ∈ follow found c := by
  by_cases h : c.source ∈ found ∧ c.target ∉ found
  · simp [follow_of_new h, hv]
  · simpa [follow_of_old h] using hv

theorem target_mem_follow {c : Connection} (hs : c.source ∈ found) :
    c.target ∈ follow found c := by
  by_cases h : c.source ∈ found ∧ c.target ∉ found
  · simp [follow_of_new h]
  · simpa [follow_of_old h, hs] using h

/-! ## One round -/

theorem subset_round (edges : List Connection) (hv : v ∈ found) :
    v ∈ edges.foldl follow found := by
  induction edges generalizing found with
  | nil => exact hv
  | cons c edges ih => exact ih (subset_follow c hv)

theorem target_mem_round {c : Connection} (hc : c ∈ edges) (hs : c.source ∈ found) :
    c.target ∈ edges.foldl follow found := by
  induction edges generalizing found with
  | nil => simp at hc
  | cons d edges ih =>
    rcases List.mem_cons.1 hc with rfl | hc
    · exact subset_round edges (target_mem_follow hs)
    · exact ih hc (subset_follow d hs)

/-- A round adds targets of edges that start at what was found. -/
theorem round_induction {P : String → Prop} (hP : ∀ c ∈ edges, P c.source → P c.target)
    (h : ∀ v ∈ found, P v) : ∀ v ∈ edges.foldl follow found, P v := by
  induction edges generalizing found with
  | nil => exact h
  | cons c edges ih =>
    refine ih (fun d hd => hP d (by simp [hd])) fun v hv => ?_
    by_cases hc : c.source ∈ found ∧ c.target ∉ found
    · rw [follow_of_new hc] at hv
      rcases List.mem_append.1 hv with hv | hv
      · exact h v hv
      · obtain rfl := List.mem_singleton.1 hv
        exact hP c (by simp) (h _ hc.1)
    · rw [follow_of_old hc] at hv
      exact h v hv

/-- A round that changes anything finds the target of some edge. -/
theorem exists_new_of_round (h : edges.foldl follow found ≠ found) :
    ∃ c ∈ edges, c.target ∉ found ∧ c.target ∈ edges.foldl follow found := by
  induction edges generalizing found with
  | nil => simp at h
  | cons c edges ih =>
    by_cases hc : c.source ∈ found ∧ c.target ∉ found
    · refine ⟨c, by simp, hc.2, ?_⟩
      exact subset_round edges (target_mem_follow hc.1)
    · rw [List.foldl_cons, follow_of_old hc] at h ⊢
      obtain ⟨d, hd, hnew⟩ := ih h
      exact ⟨d, by simp [hd], hnew⟩

theorem length_le_round (edges : List Connection) (found : List String) :
    found.length ≤ (edges.foldl follow found).length := by
  induction edges generalizing found with
  | nil => simp
  | cons c edges ih =>
    by_cases hc : c.source ∈ found ∧ c.target ∉ found
    · have := ih (found ++ [c.target])
      rw [List.foldl_cons, follow_of_new hc]
      simp only [List.length_append] at this
      omega
    · rw [List.foldl_cons, follow_of_old hc]
      exact ih found

/-- A round that finds nothing leaves the list as it is. -/
theorem round_eq_of_length (h : (edges.foldl follow found).length = found.length) :
    edges.foldl follow found = found := by
  induction edges generalizing found with
  | nil => rfl
  | cons c edges ih =>
    have hc : ¬ (c.source ∈ found ∧ c.target ∉ found) := by
      intro hc
      have := length_le_round edges (found ++ [c.target])
      rw [List.foldl_cons, follow_of_new hc] at h
      simp only [List.length_append, List.length_singleton] at this
      omega
    rw [List.foldl_cons, follow_of_old hc] at h ⊢
    exact ih h

/-! ## Saturation -/

/-- The number of edges whose target is still to be found. -/
def unfound (edges : List Connection) (found : List String) : Nat :=
  edges.countP (fun c => c.target ∉ found)

theorem unfound_round_lt (h : edges.foldl follow found ≠ found) :
    unfound edges (edges.foldl follow found) < unfound edges found := by
  obtain ⟨c, hc, hold, hnew⟩ := exists_new_of_round h
  have hsub : unfound edges (edges.foldl follow found) =
      (edges.filter (fun d => d.target ∉ found)).countP
        (fun d => d.target ∉ edges.foldl follow found) := by
    rw [List.countP_filter]
    refine List.countP_congr fun d _ => ?_
    have hold : d.target ∈ found → d.target ∈ edges.foldl follow found := subset_round edges
    grind
  rw [hsub, unfound, List.countP_eq_length_filter (l := edges), List.countP_lt_length_iff]
  exact ⟨c, by simp [hc, hold], by simpa using hnew⟩

theorem subset_saturate (n : Nat) (hv : v ∈ found) : v ∈ saturate edges n found := by
  induction n generalizing found with
  | zero => exact hv
  | succ n ih =>
    rw [saturate]
    split
    · exact hv
    · exact ih (subset_round edges hv)

theorem saturate_induction {P : String → Prop} (n : Nat)
    (hP : ∀ c ∈ edges, P c.source → P c.target) (h : ∀ v ∈ found, P v) :
    ∀ v ∈ saturate edges n found, P v := by
  induction n generalizing found with
  | zero => exact h
  | succ n ih =>
    rw [saturate]
    split
    · exact h
    · exact ih (round_induction hP h)

/-- With a round for every target that is still to be found, no edge leads out of the result. -/
theorem target_mem_saturate {n : Nat} (hn : unfound edges found ≤ n) {c : Connection}
    (hc : c ∈ edges) (hs : c.source ∈ saturate edges n found) :
    c.target ∈ saturate edges n found := by
  induction n generalizing found with
  | zero =>
    have hnone : unfound edges found = 0 := by omega
    simpa [saturate] using List.countP_eq_zero.1 hnone c hc
  | succ n ih =>
    rw [saturate] at hs ⊢
    split at hs
    · rename_i hlen
      rw [if_pos hlen]
      have hfix := round_eq_of_length hlen
      exact hfix ▸ target_mem_round hc hs
    · rename_i hlen
      rw [if_neg hlen]
      have := unfound_round_lt (mt (congrArg List.length) hlen)
      exact ih (by omega) hs

/-! ## Decisions -/

theorem mem_reached_iff : b ∈ g.reached a ↔ g.Path a b := by
  rw [reached, path_iff]
  by_cases ha : g.contains a
  · have hv : a ∈ g.vertices := by simpa [contains] using ha
    rw [if_pos ha]
    constructor
    · intro hb
      refine ⟨hv, saturate_induction (P := ReflTransGen g.Adj a) _ ?_ ?_ b hb⟩
      · exact fun c hc hac => hac.tail hc
      · simp [ReflTransGen.refl]
    · rintro ⟨-, hab⟩
      induction hab with
      | refl => exact subset_saturate _ (by simp)
      | tail _ hbc ih => exact target_mem_saturate List.countP_le_length hbc ih
  · have hv : a ∉ g.vertices := by simpa [contains] using ha
    simp [ha, hv]

theorem Closed.reaches_iff (hg : g.Closed) : g.reaches a b = true ↔ g.Path a b := by
  have hb : g.Path a b → b ∈ g.vertices := Path.target_mem hg
  simp only [reaches, contains, Bool.and_eq_true, List.contains_iff_mem, mem_reached_iff]
  exact ⟨And.right, fun p => ⟨hb p, p⟩⟩

theorem Closed.hasCycle_iff (hg : g.Closed) : g.hasCycle = true ↔ g.Cyclic := by
  simp only [hasCycle, List.any_eq_true, hg.reaches_iff, Cyclic]

end DataPipeline.Graph
