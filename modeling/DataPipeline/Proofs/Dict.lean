import DataPipeline.Dict
import Mathlib.Data.List.Nodup
import Mathlib.Data.List.Perm.Basic
import Mathlib.Data.List.Sort

/-!
# Laws of dictionaries

A dictionary is determined by its entries in any order. Entering a list of entries without repeated
keys gives a dictionary with exactly these entries; of repeated keys the last one counts.

## Main results

* `Dict.lookup_eq_some_iff`, `Dict.lookup_append`: looking into lists of entries
* `Dict.find?_insert`, `Dict.find?_overlayList`, `Dict.find?_overlay`: looking into dictionaries
* `Dict.perm_ofList`, `Dict.ofList_eq_of_perm`, `Dict.ofList_entries`: dictionaries made of lists
* `Dict.ext_find?`: a dictionary is determined by what is found in it
-/
namespace DataPipeline.Dict

variable {α : Type} {k : String} {v : α} {es fs : List (String × α)} {d : Dict α}

/-! ## Looking into lists -/

theorem lookup_append (k : String) (es fs : List (String × α)) :
    lookup k (es ++ fs) = (lookup k es).or (lookup k fs) := by
  induction es with
  | nil => rfl
  | cons e es ih =>
    by_cases h : k = e.1
    · simp [lookup, h]
    · simp [lookup, h, ih]

theorem mem_of_lookup (h : lookup k es = some v) : (k, v) ∈ es := by
  induction es with
  | nil => cases h
  | cons e es ih =>
    by_cases hk : k = e.1
    · rw [lookup, if_pos hk] at h
      obtain rfl := Option.some.inj h
      exact hk ▸ .head es
    · rw [lookup, if_neg hk] at h
      exact .tail e (ih h)

theorem lookup_eq_none_iff : lookup k es = none ↔ ∀ e ∈ es, e.1 ≠ k := by
  induction es with
  | nil => simp [lookup]
  | cons e es ih =>
    by_cases hk : k = e.1
    · simp [lookup, hk]
    · simp only [lookup, hk, if_false, ih, List.forall_mem_cons, ne_eq, eq_comm (a := e.1),
        not_false_eq_true, true_and]

/-- Where no key repeats, every entry is found. -/
theorem lookup_eq_some_iff (h : (es.map (·.1)).Nodup) : lookup k es = some v ↔ (k, v) ∈ es := by
  refine ⟨mem_of_lookup, fun hmem => ?_⟩
  cases hfind : lookup k es with
  | none => exact absurd rfl (lookup_eq_none_iff.1 hfind (k, v) hmem)
  | some v' =>
    have heq := List.inj_on_of_nodup_map h (mem_of_lookup hfind) hmem rfl
    exact congrArg _ (Prod.mk.inj heq).2

theorem lookup_eq_of_perm (h : es.Perm fs) (hkeys : (es.map (·.1)).Nodup) (k : String) :
    lookup k es = lookup k fs := by
  refine Option.ext fun v => ?_
  rw [lookup_eq_some_iff hkeys, lookup_eq_some_iff ((h.map _).nodup_iff.1 hkeys), h.mem_iff]

theorem lookup_map (f : α → α) (k : String) (es : List (String × α)) :
    lookup k (es.map fun e => (e.1, f e.2)) = (lookup k es).map f := by
  induction es with
  | nil => rfl
  | cons e es ih =>
    by_cases hk : k = e.1
    · simp [lookup, hk]
    · simp [lookup, hk, ih]

/-! ## Insertion -/

theorem lookup_insertEntry (k k' : String) (v : α) (es : List (String × α)) :
    lookup k' (insertEntry k v es) = if k' = k then some v else lookup k' es := by
  induction es with
  | nil => simp [insertEntry, lookup]
  | cons e es ih => grind [insertEntry, lookup]

theorem perm_insertEntry (h : k ∉ es.map (·.1)) : (insertEntry k v es).Perm ((k, v) :: es) := by
  induction es with
  | nil => rfl
  | cons e es ih =>
    have hk : k ≠ e.1 := fun hk => h (hk ▸ .head _)
    have hes : k ∉ es.map (·.1) := fun hes => h (.tail _ hes)
    rw [insertEntry, if_neg hk]
    split
    · rfl
    · exact ((ih hes).cons e).trans (.swap _ _ _)

theorem nodup_keys (d : Dict α) : (d.entries.map (·.1)).Nodup := by
  refine (List.pairwise_map.2 d.sorted).imp fun h heq => ?_
  exact absurd (heq ▸ h) (String.lt_irrefl _)

theorem find?_insert (d : Dict α) (k k' : String) (v : α) :
    (d.insert k v).find? k' = if k' = k then some v else d.find? k' :=
  lookup_insertEntry k k' v d.entries

/-- The entries that are laid over others win, the last one first. -/
theorem find?_overlayList (d : Dict α) (es : List (String × α)) (k : String) :
    (d.overlayList es).find? k = (lookup k es.reverse).or (d.find? k) := by
  induction es generalizing d with
  | nil => rfl
  | cons e es ih =>
    have hstep : d.overlayList (e :: es) = (d.insert e.1 e.2).overlayList es := rfl
    rw [hstep, ih, find?_insert, List.reverse_cons, lookup_append]
    cases lookup k es.reverse with
    | some v => rfl
    | none => by_cases hk : k = e.1 <;> simp [lookup, hk]

/-- The members of a set of texts to which others are added. -/
theorem contains_addAll_iff {s : KeySet} {ks : List String} :
    (s.addAll ks).contains k = true ↔ k ∈ ks ∨ s.contains k = true := by
  have hnew : (lookup k (ks.map (·, ())).reverse).isSome = true ↔ k ∈ ks := by
    rw [Option.isSome_iff_ne_none, ne_eq, lookup_eq_none_iff]
    simp
  rw [contains, KeySet.addAll, find?_overlayList, Option.isSome_or, Bool.or_eq_true, hnew, contains]

theorem contains_ofList_iff {ks : List String} :
    (KeySet.ofList ks).contains k = true ↔ k ∈ ks := by
  have hempty : (empty : KeySet).contains k = false := rfl
  rw [show KeySet.ofList ks = KeySet.addAll empty ks from rfl, contains_addAll_iff, hempty]
  simp

theorem mem_overlayList {e : String × α} (h : e ∈ (d.overlayList es).entries) :
    e ∈ es ∨ e ∈ d.entries := by
  induction es generalizing d with
  | nil => exact .inr h
  | cons f es ih =>
    rcases ih (d := d.insert f.1 f.2) h with h | h
    · exact .inl (.tail f h)
    · rcases mem_insertEntry h with rfl | h
      · exact .inl (.head es)
      · exact .inr h

/-! ## Dictionaries made of lists -/

theorem ext_entries {d e : Dict α} (h : d.entries = e.entries) : d = e := by
  cases d
  cases e
  cases h
  rfl

/-- Entries with new keys are all kept. -/
theorem perm_overlayList (hkeys : ((es ++ d.entries).map (·.1)).Nodup) :
    (d.overlayList es).entries.Perm (es ++ d.entries) := by
  induction es generalizing d with
  | nil => rfl
  | cons e es ih =>
    have hnew : e.1 ∉ d.entries.map (·.1) := fun hmem => by
      have := (List.nodup_cons.1 hkeys).1
      simp_all
    have hinsert : (d.insert e.1 e.2).entries.Perm (e :: d.entries) := perm_insertEntry hnew
    have hmiddle : (es ++ (d.insert e.1 e.2).entries).Perm (e :: es ++ d.entries) :=
      (hinsert.append_left es).trans List.perm_middle
    exact (ih ((hmiddle.map _).nodup_iff.2 hkeys)).trans hmiddle

theorem perm_ofList (hkeys : (es.map (·.1)).Nodup) : (ofList es).entries.Perm es := by
  have hnil : es ++ (empty : Dict α).entries = es := List.append_nil es
  have h : (ofList es).entries.Perm (es ++ (empty : Dict α).entries) :=
    perm_overlayList (hnil.symm ▸ hkeys)
  rwa [hnil] at h

/-- The order of the entries is lost. -/
theorem ofList_eq_of_perm (h : es.Perm d.entries) : ofList es = d := by
  have hkeys : (es.map (·.1)).Nodup := (h.map _).nodup_iff.2 d.nodup_keys
  refine ext_entries (((perm_ofList hkeys).trans h).eq_of_pairwise ?_ (ofList es).sorted d.sorted)
  intro a b _ _ hab hba
  exact absurd (String.lt_trans hab hba) (String.lt_irrefl _)

theorem ofList_entries (d : Dict α) : ofList d.entries = d := ofList_eq_of_perm (.refl _)

theorem find?_ofList (hkeys : (es.map (·.1)).Nodup) (k : String) :
    (ofList es).find? k = lookup k es :=
  lookup_eq_of_perm (perm_ofList hkeys) ((perm_ofList hkeys).map _ |>.nodup_iff.2 hkeys) k

/-- A function of its keys, of which some may be entered more than once. -/
theorem find?_ofList_map (f : String → α) (ks : List String) (k : String) :
    (ofList (ks.map fun k => (k, f k))).find? k = if k ∈ ks then some (f k) else none := by
  have hlookup (ks : List String) :
      lookup k (ks.map fun k => (k, f k)) = if k ∈ ks then some (f k) else none := by
    induction ks with
    | nil => rfl
    | cons k' ks ih =>
      by_cases hk : k = k'
      · simp [lookup, hk]
      · simp [lookup, hk, ih]
  rw [ofList, find?_overlayList, ← List.map_reverse, hlookup]
  simp [find?, empty, lookup]

theorem mem_of_mem_ofList {e : String × α} (h : e ∈ (ofList es).entries) : e ∈ es :=
  (mem_overlayList h).resolve_right (by simp [empty])

/-- Dictionaries in which the same is found are equal. -/
theorem ext_find? {d e : Dict α} (h : ∀ k, d.find? k = e.find? k) : d = e := by
  have hmem (m : String × α) : m ∈ d.entries ↔ m ∈ e.entries := by
    rw [← lookup_eq_some_iff d.nodup_keys, ← lookup_eq_some_iff e.nodup_keys]
    exact Eq.congr_left (h m.1)
  have hperm : d.entries.Perm e.entries :=
    (List.perm_ext_iff_of_nodup d.nodup_keys.of_map e.nodup_keys.of_map).2 hmem
  rw [← ofList_entries d, ofList_eq_of_perm hperm]

/-- What is laid over others is found before them. -/
theorem find?_overlay (d e : Dict α) (k : String) :
    (d.overlay e).find? k = (e.find? k).or (d.find? k) := by
  have hreverse : lookup k e.entries.reverse = e.find? k :=
    lookup_eq_of_perm e.entries.reverse_perm
      ((e.entries.reverse_perm.map _).nodup_iff.2 e.nodup_keys) k
  rw [overlay, find?_overlayList, hreverse]

/-! ## Sets of texts -/

theorem mem_keys_iff {d : Dict α} : k ∈ d.keys ↔ d.contains k = true := by
  rw [contains, Option.isSome_iff_ne_none, ne_eq, find?, lookup_eq_none_iff, keys, List.mem_map]
  simp

theorem contains_overlay (d e : Dict α) (k : String) :
    (d.overlay e).contains k = (e.contains k || d.contains k) := by
  rw [contains, find?_overlay, Option.isSome_or, contains, contains]

/-- Sets with the same members are equal. -/
theorem ext_contains {s t : KeySet} (h : ∀ k, s.contains k = true ↔ t.contains k = true) :
    s = t := by
  refine ext_find? fun k => Option.ext fun _ => ?_
  have hunit (d : KeySet) : d.find? k = some () ↔ d.contains k = true := by
    rw [contains, Option.isSome_iff_exists]
    exact ⟨fun h => ⟨(), h⟩, fun h => h.choose_spec⟩
  exact (hunit s).trans ((h k).trans (hunit t).symm)

/-! ## Values -/

def values (d : Dict α) : List α := d.entries.map (·.2)

theorem forall_mem_values {d : Dict α} {p : α → Prop} :
    (∀ v ∈ d.values, p v) ↔ ∀ e ∈ d.entries, p e.2 :=
  List.forall_mem_map

end DataPipeline.Dict
