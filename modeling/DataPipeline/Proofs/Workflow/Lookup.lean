import DataPipeline.Workflow.Edit
import Mathlib.Data.List.Nodup

/-!
# Nodes by their id

An id finds the first node that has it. Where no id repeats, every node is found by its own.

## Main results

* `Workflow.node_eq_some`, `Workflow.node_of_mem`, `Workflow.find?_of_findIdx?`: what an id finds
* `Workflow.map_id_eraseP`, `Workflow.map_id_modifyFirst`: the ids after a removal and a change
* `Workflow.find?_eraseP`, `Workflow.find?_modifyFirst`, `Workflow.getElem?_modifyFirst`: what is
  found after them
* `Workflow.exists_split_of_node`: the nodes before and after the one that is found
-/
namespace DataPipeline.Workflow

variable {w : Workflow} {a id : String} {m n : Node} {ns : List Node} {i : Nat}
  {f g : Node → Node}

theorem mem_ids : id ∈ w.ids ↔ ∃ n ∈ w.nodes, n.id = id := List.mem_map

theorem mem_ids_of_mem (hn : n ∈ w.nodes) : n.id ∈ w.ids := List.mem_map_of_mem hn

/-! ## Looking up -/

theorem node_eq_some (h : w.node id = some n) : n ∈ w.nodes ∧ n.id = id :=
  ⟨List.mem_of_find?_eq_some h, by simpa using List.find?_some h⟩

theorem node_eq_none_iff : w.node id = none ↔ id ∉ w.ids := by
  simp [node, mem_ids]

theorem isSome_node_iff : (w.node id).isSome ↔ id ∈ w.ids := by
  simp [node, mem_ids]

theorem exists_node (h : id ∈ w.ids) : ∃ n, w.node id = some n :=
  Option.isSome_iff_exists.1 (isSome_node_iff.2 h)

/-- Where no id repeats, an id belongs to one node. -/
theorem eq_of_id_eq (hw : w.ids.Nodup) (hm : m ∈ w.nodes) (hn : n ∈ w.nodes) (h : m.id = n.id) :
    m = n :=
  List.inj_on_of_nodup_map hw hm hn h

theorem node_of_mem (hw : w.ids.Nodup) (hn : n ∈ w.nodes) : w.node n.id = some n := by
  obtain ⟨m, hm⟩ := exists_node (mem_ids_of_mem hn)
  obtain ⟨hmem, hid⟩ := node_eq_some hm
  rw [hm, eq_of_id_eq hw hmem hn hid]

theorem id_eq_of_findIdx? (h : ns.findIdx? (·.id = id) = some i) (hn : ns[i]? = some n) :
    n.id = id := by
  obtain ⟨hlt, hid, -⟩ := List.findIdx?_eq_some_iff_getElem.1 h
  obtain ⟨-, rfl⟩ := List.getElem?_eq_some_iff.1 hn
  simpa using hid

/-- The node at the place that an id finds is the one that it finds. -/
theorem find?_of_findIdx? (h : ns.findIdx? (·.id = id) = some i) (hn : ns[i]? = some n) :
    ns.find? (·.id = id) = some n := by
  obtain ⟨hlt, hid, hfirst⟩ := List.findIdx?_eq_some_iff_getElem.1 h
  obtain ⟨-, rfl⟩ := List.getElem?_eq_some_iff.1 hn
  refine List.find?_eq_some_iff_getElem.2 ⟨hid, i, hlt, rfl, fun j hj => ?_⟩
  simpa using hfirst j hj

/-! ## After a removal -/

theorem map_id_eraseP (id : String) (ns : List Node) :
    (ns.eraseP (·.id = id)).map (·.id) = (ns.map (·.id)).erase id := by
  induction ns with
  | nil => rfl
  | cons n ns ih =>
    by_cases h : n.id = id
    · simp [h]
    · simp [h, ih]

theorem find?_eraseP (h : a ≠ id) :
    (ns.eraseP (·.id = id)).find? (·.id = a) = ns.find? (·.id = a) := by
  induction ns with
  | nil => rfl
  | cons n ns ih =>
    by_cases hn : n.id = id
    · simp [hn, Ne.symm h]
    · by_cases ha : n.id = a
      · simp [ha, h]
      · simp [hn, ha, ih]

theorem eraseP_split {before after : List Node} (hbefore : ∀ m ∈ before, m.id ≠ id)
    (hn : n.id = id) : (before ++ n :: after).eraseP (·.id = id) = before ++ after := by
  have hfree : ∀ m ∈ before, ¬ decide (m.id = id) = true := by simpa using hbefore
  rw [List.eraseP_append_right _ hfree, List.eraseP_cons_of_pos (by simpa using hn)]

/-! ## After a change to the first node with an id -/

theorem map_id_modifyFirst (hf : ∀ n, (f n).id = n.id) (id : String) (ns : List Node) :
    (modifyFirst id f ns).map (·.id) = ns.map (·.id) := by
  induction ns with
  | nil => rfl
  | cons n ns ih =>
    by_cases h : n.id = id
    · simp [modifyFirst, h, hf]
    · simp [modifyFirst, h, ih]

theorem modifyFirst_eq_self (h : id ∉ ns.map (·.id)) : modifyFirst id f ns = ns := by
  induction ns with
  | nil => rfl
  | cons n ns ih =>
    have hn : n.id ≠ id := fun heq => h (heq ▸ .head _)
    rw [modifyFirst, if_neg hn, ih fun hmem => h (.tail _ hmem)]

theorem forall₂_modifyFirst {R : Node → Node → Prop} {ms : List Node} (h : List.Forall₂ R ns ms)
    (hf : ∀ n m, m.id = id → R n m → R n (f m)) : List.Forall₂ R ns (modifyFirst id f ms) := by
  induction h with
  | nil => exact .nil
  | @cons n m ns ms hnm hrest ih =>
    rw [modifyFirst]
    split_ifs with hid
    · exact .cons (hf n m hid hnm) hrest
    · exact .cons hnm ih

theorem getElem?_modifyFirst (id : String) (f : Node → Node) (ns : List Node) (i : Nat) :
    (modifyFirst id f ns)[i]? =
      ns[i]?.map fun n => if ns.findIdx? (·.id = id) = some i then f n else n := by
  induction ns generalizing i with
  | nil => rfl
  | cons n ns ih =>
    by_cases hn : n.id = id
    · cases i <;> simp [modifyFirst, hn, List.findIdx?_cons]
    · cases i <;> simp [modifyFirst, hn, List.findIdx?_cons, ih]

theorem mem_of_mem_modifyFirst (h : n ∈ modifyFirst id f ns) :
    n ∈ ns ∨ ∃ m, ns.find? (·.id = id) = some m ∧ n = f m := by
  obtain ⟨i, hi⟩ := List.mem_iff_getElem?.1 h
  rw [getElem?_modifyFirst] at hi
  obtain ⟨m, hm, rfl⟩ := Option.map_eq_some_iff.1 hi
  split_ifs with hplace
  · exact .inr ⟨m, find?_of_findIdx? hplace hm, rfl⟩
  · exact .inl (List.mem_of_getElem? hm)

theorem mem_modifyFirst_of_mem (h : n ∈ ns) :
    n ∈ modifyFirst id f ns ∨ ns.find? (·.id = id) = some n ∧ f n ∈ modifyFirst id f ns := by
  obtain ⟨i, hi⟩ := List.mem_iff_getElem?.1 h
  have hafter := getElem?_modifyFirst id f ns i
  rw [hi, Option.map_some] at hafter
  split_ifs at hafter with hplace
  · exact .inr ⟨find?_of_findIdx? hplace hi, List.mem_of_getElem? hafter⟩
  · exact .inl (List.mem_of_getElem? hafter)

theorem modifyFirst_comm (hf : ∀ n, (f n).id = n.id) (hg : ∀ n, (g n).id = n.id)
    (hfg : ∀ n, f (g n) = g (f n)) (a b : String) (ns : List Node) :
    modifyFirst a f (modifyFirst b g ns) = modifyFirst b g (modifyFirst a f ns) := by
  induction ns with
  | nil => rfl
  | cons n ns ih => grind [modifyFirst]

theorem modifyFirst_append (h : n.id ≠ id) :
    modifyFirst id f (ns ++ [n]) = modifyFirst id f ns ++ [n] := by
  induction ns with
  | nil => simp [modifyFirst, h]
  | cons m ns ih => grind [modifyFirst]

/-- The node that an id finds has none with the id before it. -/
theorem exists_split_of_node (h : w.node id = some n) :
    ∃ before after, w.nodes = before ++ n :: after ∧ ∀ m ∈ before, m.id ≠ id := by
  obtain ⟨-, before, after, hnodes, hbefore⟩ := List.find?_eq_some_iff_append.1 h
  exact ⟨before, after, hnodes, by simpa using hbefore⟩

theorem modifyFirst_split {before after : List Node} (hbefore : ∀ m ∈ before, m.id ≠ id)
    (hn : n.id = id) : modifyFirst id f (before ++ n :: after) = before ++ f n :: after := by
  induction before with
  | nil => simp [modifyFirst, hn]
  | cons m before ih => grind [modifyFirst]

theorem modifyFirst_modifyFirst (hf : ∀ n, (f n).id = n.id) (id : String) (ns : List Node) :
    modifyFirst id g (modifyFirst id f ns) = modifyFirst id (fun n => g (f n)) ns := by
  induction ns with
  | nil => rfl
  | cons n ns ih => grind [modifyFirst]

theorem eraseP_modifyFirst (hf : ∀ n, (f n).id = n.id) (h : a ≠ id) :
    (modifyFirst id f ns).eraseP (·.id = a) = modifyFirst id f (ns.eraseP (·.id = a)) := by
  induction ns with
  | nil => rfl
  | cons m ns ih => grind [modifyFirst]

theorem find?_modifyFirst (hf : ∀ n, (f n).id = n.id) :
    (modifyFirst id f ns).find? (·.id = a) =
      (ns.find? (·.id = a)).map fun n => if a = id then f n else n := by
  induction ns with
  | nil => rfl
  | cons m ns ih =>
    by_cases hm : m.id = id
    · by_cases ha : id = a
      · simp [modifyFirst, hm, hf, ha]
      · simp [modifyFirst, hm, hf, ha, Ne.symm ha]
    · by_cases hma : m.id = a
      · have ha : a ≠ id := hma ▸ hm
        simp [modifyFirst, hma, ha]
      · simp [modifyFirst, hm, hma, ih]

end DataPipeline.Workflow
