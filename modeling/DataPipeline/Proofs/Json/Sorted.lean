import DataPipeline.Json.Basic
import DataPipeline.Proofs.Dict

/-!
# Sorted values

Sorting gives a sorted value and leaves a sorted value alone. What a reader may rely on when it gets
a sorted document instead of the one that was written is collected in `Json.Rearranges`: the members
of objects stand in another order, and nothing else has changed.

## Main definitions

* `Json.Rearranges`: transformations that only move the members of objects

## Main results

* `Json.sorted_of_sorted`, `Json.Sorted.sorted_eq`: sorting makes sorted values and keeps them
* `Json.rearranges_id`, `Json.rearranges_sorted`: doing nothing and sorting rearrange
* `Json.Rearranges.exists_view`: what stands under the keys of an object that was rearranged
-/
namespace DataPipeline.Json

variable {j : Json} {key : String} {items : List Json} {members : List (String × Json)}

/-! ## Changing the values of members -/

theorem map_fst_mapValue (t : Json → Json) (members : List (String × Json)) :
    (members.map fun m => (m.1, t m.2)).map (·.1) = members.map (·.1) := by
  simp [List.map_map, Function.comp_def]

theorem mapValue_eq_self {t : Json → Json} (h : ∀ m ∈ members, t m.2 = m.2) :
    (members.map fun m => (m.1, t m.2)) = members := by
  rw [List.map_congr_left fun m hm => congrArg (m.1, ·) (h m hm), List.map_id']

theorem sortedItems_eq_map (items : List Json) : sortedItems items = items.map sorted := by
  induction items with
  | nil => rfl
  | cons j items ih => rw [sortedItems, ih, List.map_cons]

theorem sortedMembers_eq_map (members : List (String × Json)) :
    sortedMembers members = members.map fun m => (m.1, sorted m.2) := by
  induction members with
  | nil => rfl
  | cons m members ih => rw [sortedMembers, ih, List.map_cons]

theorem sorted_arr (items : List Json) : (arr items).sorted = arr (items.map sorted) := by
  rw [sorted, sortedItems_eq_map]

theorem sorted_obj (members : List (String × Json)) :
    (obj members).sorted = ofDict (Dict.ofList (members.map fun m => (m.1, sorted m.2))) := by
  rw [sorted, sortedMembers_eq_map]

/-! ## Sorted values -/

theorem sorted_ofDict {d : Dict Json} (h : ∀ m ∈ d.entries, Sorted m.2) : Sorted (ofDict d) :=
  .obj d.sorted h

theorem Sorted.of_mem_arr (h : Sorted (.arr items)) (hj : j ∈ items) : Sorted j := by
  cases h with
  | arr h => exact h j hj

theorem Sorted.of_mem_obj {m : String × Json} (h : Sorted (.obj members)) (hm : m ∈ members) :
    Sorted m.2 := by
  cases h with
  | obj _ h => exact h m hm

theorem Sorted.nodup_keys (h : Sorted (.obj members)) : (members.map (·.1)).Nodup := by
  cases h with
  | obj hkeys _ => exact (⟨members, hkeys⟩ : Dict Json).nodup_keys

/-- Sorting leaves a sorted value alone. -/
theorem Sorted.sorted_eq (h : Sorted j) : j.sorted = j := by
  induction h with
  | arr _ ih =>
    rw [sorted_arr, List.map_congr_left ih, List.map_id']
  | @obj members hkeys _ ih =>
    rw [sorted_obj, mapValue_eq_self ih, Dict.ofList_entries ⟨members, hkeys⟩, ofDict]
  | _ => rw [sorted]

mutual

/-- Sorting makes a sorted value. -/
theorem sorted_of_sorted (j : Json) : Sorted j.sorted := by
  cases j with
  | null => exact .null
  | bool b => exact .bool b
  | num n => exact .num n
  | str s => exact .str s
  | arr items => exact .arr (sorted_of_mem_sortedItems items)
  | obj members =>
    refine sorted_ofDict fun m hm => ?_
    exact sorted_of_mem_sortedMembers members m (Dict.mem_of_mem_ofList hm)

theorem sorted_of_mem_sortedItems (items : List Json) : ∀ j ∈ sortedItems items, Sorted j := by
  cases items with
  | nil => simp [sortedItems]
  | cons i items =>
    intro j hj
    rcases List.mem_cons.1 hj with rfl | hj
    · exact sorted_of_sorted i
    · exact sorted_of_mem_sortedItems items j hj

theorem sorted_of_mem_sortedMembers (members : List (String × Json)) :
    ∀ m ∈ sortedMembers members, Sorted m.2 := by
  cases members with
  | nil => simp [sortedMembers]
  | cons n members =>
    intro m hm
    obtain ⟨k, i⟩ := n
    rcases List.mem_cons.1 hm with rfl | hm
    · exact sorted_of_sorted i
    · exact sorted_of_mem_sortedMembers members m hm

end

/-! ## Transformations that rearrange -/

/-- The members of an object are moved, if no key repeats, and everything else is kept. -/
structure Rearranges (t : Json → Json) : Prop where
  null : t .null = .null
  bool (b : Bool) : t (.bool b) = .bool b
  num (n : Number) : t (.num n) = .num n
  str (s : String) : t (.str s) = .str s
  arr (items : List Json) : t (.arr items) = .arr (items.map t)
  obj {members : List (String × Json)} : (members.map (·.1)).Nodup →
    ∃ ms, t (.obj members) = .obj ms ∧ ms.Perm (members.map fun m => (m.1, t m.2))
  /-- A sorted value has its members in their places. -/
  fixes {j : Json} : Sorted j → t j = j

theorem rearranges_id : Rearranges id where
  null := rfl
  bool _ := rfl
  num _ := rfl
  str _ := rfl
  arr items := by simp
  obj {members} _ := ⟨members, rfl, by simp⟩
  fixes _ := rfl

theorem rearranges_sorted : Rearranges sorted where
  null := by rw [sorted]
  bool _ := by rw [sorted]
  num _ := by rw [sorted]
  str _ := by rw [sorted]
  arr := sorted_arr
  obj {members} h := by
    have hkeys := (map_fst_mapValue sorted members).symm ▸ h
    exact ⟨_, sorted_obj members, Dict.perm_ofList hkeys⟩
  fixes := Sorted.sorted_eq

/-- The members of a rearranged object are at hand, and no key repeats. -/
theorem Rearranges.exists_members {t : Json → Json} (ht : Rearranges t)
    (h : (members.map (·.1)).Nodup) :
    ∃ ms, t (.obj members) = .obj ms ∧ ms.Perm (members.map fun m => (m.1, t m.2)) ∧
      (ms.map (·.1)).Nodup := by
  obtain ⟨ms, hms, hperm⟩ := ht.obj h
  exact ⟨ms, hms, hperm, (hperm.map _).nodup_iff.2 ((map_fst_mapValue t members).symm ▸ h)⟩

/-- Under each key of a rearranged object stands what stood there, rearranged. -/
theorem Rearranges.exists_view {t : Json → Json} (ht : Rearranges t)
    (h : (members.map (·.1)).Nodup) :
    ∃ ms, t (.obj members) = .obj ms ∧ (ms.map (·.1)).Nodup ∧
      ∀ key, (Json.obj ms).member key = (Dict.lookup key members).map t := by
  obtain ⟨ms, hms, hperm, hnodup⟩ := ht.exists_members h
  refine ⟨ms, hms, hnodup, fun key => ?_⟩
  rw [← Dict.lookup_map t key members]
  exact Dict.lookup_eq_of_perm hperm hnodup key

/-! ## Members of sorted objects -/

/-- The members of a sorted object are those that were there. -/
theorem member_sorted (h : (members.map (·.1)).Nodup) (key : String) :
    (obj members).sorted.member key = ((obj members).member key).map sorted := by
  have hkeys := (map_fst_mapValue sorted members).symm ▸ h
  rw [sorted_obj]
  exact (Dict.find?_ofList hkeys key).trans (Dict.lookup_map sorted key members)

end DataPipeline.Json
