import DataPipeline.Codec.Choice
import DataPipeline.Codec.Record
import DataPipeline.Proofs.Json.Sorted

/-!
# Values that survive being written and read

A codec need not read back everything that it writes: an optional value that is written as `null`
is lost, and so is a field that is not written if its absence stands for something else. A value
survives in its codec when it is read back, even after the members of objects were rearranged. For
codecs made of codecs survival comes from the parts; for a record it is a matter of each field, as
long as no two fields share a key.

Sorted values stay as they are however the members of objects are rearranged. A value that holds
others can survive one rearrangement and not another, so that the laws are stated for one of them.

## Main definitions

* `Codec.SurvivesBy`: what is written for a value and then rearranged is read as this value
* `Codec.Survives`: a value survives by every rearrangement
* `Layout.KeepsBy`, `Layout.Keeps`: every field of a record survives, or is not written and filled
  in again

## Main results

* `Codec.survives_text` and its like: scalars, options, lists, dictionaries and choices
* `Codec.survives_record`, `Codec.survives_openRecord`: records
-/
namespace DataPipeline

open Json

variable {ρ α β : Type}

namespace Codec

variable {c : Codec α} {a : α} {t : Json → Json}

/-- What is written for the value and then changed by `t` is read as this value. -/
def SurvivesBy (t : Json → Json) (c : Codec α) (a : α) : Prop := c.ofJson (t (c.toJson a)) = .ok a

/-- What is written for the value is read as this value, wherever the members of objects stand. -/
def Survives (c : Codec α) (a : α) : Prop :=
  ∀ t, Rearranges t → c.ofJson (t (c.toJson a)) = .ok a

theorem Survives.survivesBy (h : c.Survives a) (ht : Rearranges t) : c.SurvivesBy t a := h t ht

/-! ## Scalars -/

theorem survivesBy_any {j : Json} (h : t j = j) : any.SurvivesBy t j := congrArg _ h

theorem survives_any {j : Json} (h : Sorted j) : any.Survives j :=
  fun _ ht => survivesBy_any (ht.fixes h)

theorem survives_boolean (b : Bool) : boolean.Survives b :=
  fun _ ht => congrArg _ (ht.bool b)

theorem survives_text (s : String) : text.Survives s :=
  fun _ ht => congrArg _ (ht.str s)

theorem survives_real (x : Binary64) : real.Survives x :=
  fun _ ht => congrArg _ (ht.num (.float x))

theorem survives_integer {name : String} {low high n : Int} (h : low ≤ n ∧ n ≤ high) :
    (integer name low high).Survives n :=
  fun _ ht => (congrArg _ (ht.num (.int n))).trans (if_pos h)

/-! ## Codecs made of codecs -/

theorem SurvivesBy.refine {f : α → Except ShapeError β} {g : β → α} {b : β}
    (h : c.SurvivesBy t (g b)) (hfg : f (g b) = .ok b) : (c.refine f g).SurvivesBy t b := by
  have hread : (c.refine f g).ofJson (t (c.toJson (g b))) = f (g b) := by
    simp only [Codec.refine, show c.ofJson _ = _ from h]
    rfl
  exact hread.trans hfg

theorem Survives.refine {f : α → Except ShapeError β} {g : β → α} {b : β} (h : c.Survives (g b))
    (hfg : f (g b) = .ok b) : (c.refine f g).Survives b :=
  fun _ ht => (h.survivesBy ht).refine hfg

theorem survives_int64 (n : Int64) : int64.Survives n := by
  have hlow := n.le_toInt
  have hhigh := n.toInt_lt
  refine Survives.refine (survives_integer (by omega)) ?_
  exact congrArg _ (Int64.ofInt_toInt n)

theorem survives_word32 (n : UInt32) : word32.Survives n := by
  have hhigh := n.toNat_lt
  refine Survives.refine (survives_integer (by omega)) ?_
  exact congrArg _ (UInt32.ofNat_toNat)

/-- A value that is not what `null` stands for survives being optional. -/
theorem SurvivesBy.some (h : c.SurvivesBy t a) (hnull : c.ofJson .null ≠ .ok a) :
    c.optional.SurvivesBy t (some a) := by
  have hread : c.ofJson (t (c.toJson a)) = .ok a := h
  have hoptional : optionalOf c (t (c.toJson a)) = .ok (Option.some a) := by
    cases hj : t (c.toJson a) with
    | null => exact absurd (hj ▸ hread) hnull
    | _ => rw [optionalOf, ← hj, hread] <;> simp [Except.map]
  exact hoptional

theorem SurvivesBy.optional (ht : Rearranges t) {o : Option α}
    (h : ∀ a, o = Option.some a → c.SurvivesBy t a ∧ c.ofJson .null ≠ .ok a) :
    c.optional.SurvivesBy t o := by
  cases o with
  | none => exact congrArg (optionalOf c) ht.null
  | some a => exact (h a rfl).1.some (h a rfl).2

theorem Survives.optional {o : Option α}
    (h : ∀ a, o = Option.some a → c.Survives a ∧ c.ofJson .null ≠ .ok a) :
    c.optional.Survives o :=
  fun _ ht => SurvivesBy.optional ht fun a ha => (h a ha).imp_left (·.survivesBy ht)

theorem SurvivesBy.list (ht : Rearranges t) {as : List α} (h : ∀ a ∈ as, c.SurvivesBy t a) :
    c.list.SurvivesBy t as := by
  have hitems : ((as.map c.toJson).map t).mapM c.ofJson = .ok as := by
    induction as with
    | nil => rfl
    | cons a as ih =>
      have hhead : c.ofJson (t (c.toJson a)) = .ok a := h a (.head as)
      have htail := ih fun b hb => h b (.tail a hb)
      simp only [List.map_cons, List.mapM_cons, hhead, htail]
      rfl
  exact (congrArg (listOf c) (ht.arr _)).trans hitems

theorem Survives.list {as : List α} (h : ∀ a ∈ as, c.Survives a) : c.list.Survives as :=
  fun _ ht => SurvivesBy.list ht fun a ha => (h a ha).survivesBy ht

/-- A dictionary survives if its values stay as they are. -/
theorem survivesBy_dict (ht : Rearranges t) {d : Dict Json} (h : ∀ j ∈ d.values, t j = j) :
    dict.SurvivesBy t d := by
  obtain ⟨ms, hms, hperm⟩ := ht.obj d.nodup_keys
  rw [mapValue_eq_self (Dict.forall_mem_values.1 h)] at hperm
  have hread : dictOf (.obj ms) = .ok d := congrArg Except.ok (Dict.ofList_eq_of_perm hperm)
  exact (congrArg dictOf hms).trans hread

theorem survives_dict {d : Dict Json} (h : ∀ m ∈ d.entries, Sorted m.2) : dict.Survives d :=
  fun _ ht => survivesBy_dict ht (Dict.forall_mem_values.2 fun m hm => ht.fixes (h m hm))

theorem survives_keySet (s : KeySet) : keySet.Survives s := by
  have hkeys : s.entries.map (fun e => (e.1, ())) = s.entries := List.map_id s.entries
  refine Survives.refine (Survives.list fun k _ => survives_text k) ?_
  rw [KeySet.ofList, KeySet.toList, Dict.keys, List.map_map]
  exact congrArg Except.ok ((congrArg Dict.ofList hkeys).trans (Dict.ofList_entries s))

theorem survives_choice {names : List (String × α)} {name : α → String} {b : α}
    (h : names.find? (·.1 = name b) = some (name b, b)) : (choice names name).Survives b := by
  intro t ht
  have hread : choiceOf names (t (.str (name b))) = .ok b := by
    rw [ht.str, choiceOf, chosen, h]
  exact hread

end Codec

/-! ## Fields -/

/-- The keys under which a field is read. -/
def Field.keys (f : Field ρ β) : List String := f.name :: f.aliases

/-- The value survives by `t`, or it is not written and stands in for a field that is absent. -/
def Field.KeepsBy (t : Json → Json) (f : Field ρ β) (b : β) : Prop :=
  f.codec.SurvivesBy t b ∧ (f.hidden b = true → f.absent = some b)

/-- The value survives, or it is not written and stands in for a field that is absent. -/
def Field.Keeps (f : Field ρ β) (b : β) : Prop :=
  f.codec.Survives b ∧ (f.hidden b = true → f.absent = some b)

/-- The members of an object that belong to the field are those that are written for it, the value
rearranged. -/
def Field.Shows (ms : List (String × Json)) (t : Json → Json) (f : Field ρ β) (r : ρ) : Prop :=
  ms.filter (fun m => f.answersTo m.1) = (f.toMembers r).map fun m => (m.1, t m.2)

namespace Field

variable {f : Field ρ β} {r : ρ} {t : Json → Json} {ms others : List (String × Json)} {key : String}

theorem answersTo_iff : f.answersTo key = true ↔ key ∈ f.keys := by
  simp [answersTo, keys]

theorem fst_of_mem_toMembers {m : String × Json} (h : m ∈ f.toMembers r) : m.1 = f.name := by
  rw [toMembers] at h
  split at h
  · cases h
  · rw [List.mem_singleton.1 h]

theorem fst_mem_keys_of_mem_toMembers {m : String × Json} (h : m ∈ f.toMembers r) :
    m.1 ∈ f.keys :=
  fst_of_mem_toMembers h ▸ List.mem_cons_self

theorem nodup_toMembers (f : Field ρ β) (r : ρ) : ((f.toMembers r).map (·.1)).Nodup := by
  rw [toMembers]
  split <;> simp

/-- A field is found among members with other keys, whatever their order is. -/
theorem shows_of_perm (h : ms.Perm ((f.toMembers r).map (fun m => (m.1, t m.2)) ++ others))
    (hothers : ∀ m ∈ others, m.1 ∉ f.keys) : f.Shows ms t r := by
  have hself : ((f.toMembers r).map (fun m => (m.1, t m.2))).filter (fun m => f.answersTo m.1) =
      (f.toMembers r).map (fun m => (m.1, t m.2)) := by
    refine List.filter_eq_self.2 fun m hm => ?_
    obtain ⟨n, hn, rfl⟩ := List.mem_map.1 hm
    have hkey : n.1 ∈ f.keys := fst_mem_keys_of_mem_toMembers hn
    exact answersTo_iff.2 hkey
  have hnone : others.filter (fun m => f.answersTo m.1) = [] :=
    List.filter_eq_nil_iff.2 fun m hm hkey => hothers m hm (answersTo_iff.1 hkey)
  have hperm := h.filter (fun m => f.answersTo m.1)
  rw [List.filter_append, hself, hnone, List.append_nil] at hperm
  rw [Shows]
  -- At most one member is written, and a list of at most one item has no other order.
  by_cases hhidden : f.hidden (f.get r) = true
  · rw [toMembers, if_pos hhidden] at hperm ⊢
    exact List.perm_nil.1 hperm
  · rw [toMembers, if_neg hhidden] at hperm ⊢
    exact List.perm_singleton.1 hperm

theorem ofMembers_of_shows (hf : f.Shows ms t r) (h : f.KeepsBy t (f.get r)) :
    f.ofMembers ms = .ok (f.get r) := by
  have hfind : ms.find? (fun m => f.answersTo m.1) =
      ((f.toMembers r).map fun m => (m.1, t m.2)).head? := by rw [← List.head?_filter, hf]
  rw [ofMembers, hfind, toMembers]
  by_cases hhidden : f.hidden (f.get r) = true
  · simp [hhidden, h.2 hhidden]
  · have hread : f.codec.ofJson (t (f.codec.toJson (f.get r))) = .ok (f.get r) := h.1
    simpa [hhidden] using hread

/-- The slot of a field accepts its member. -/
theorem accepts_of_shows (hf : f.Shows ms t r) (h : f.KeepsBy t (f.get r))
    {m : String × Json} (hm : m ∈ ms) (hkey : f.slot.answersTo m.1) :
    f.slot.name = m.1 ∧ f.slot.check m.2 = .ok () := by
  have hmem : m ∈ ms.filter (fun m => f.answersTo m.1) := List.mem_filter.2 ⟨hm, hkey⟩
  rw [show _ = _ from hf] at hmem
  obtain ⟨n, hn, rfl⟩ := List.mem_map.1 hmem
  have hvalue : n = (f.name, f.codec.toJson (f.get r)) := by
    rw [toMembers] at hn
    split at hn
    · cases hn
    · exact List.mem_singleton.1 hn
  subst hvalue
  have hread : f.codec.ofJson (t (f.codec.toJson (f.get r))) = .ok (f.get r) := h.1
  exact ⟨rfl, by simp only [slot, hread]; rfl⟩

/-! ### The usual fields -/

section

variable {name : String} {c : Codec β}

theorem Keeps.keepsBy {f : Field ρ β} {b : β} (h : f.Keeps b) (ht : Rearranges t) : f.KeepsBy t b :=
  ⟨h.1.survivesBy ht, h.2⟩

theorem keepsBy_required {get : ρ → β} {b : β} (h : c.SurvivesBy t b) :
    (required name c get).KeepsBy t b :=
  ⟨h, fun hhidden => Bool.noConfusion hhidden⟩

theorem keeps_required {get : ρ → β} {b : β} (h : c.Survives b) : (required name c get).Keeps b :=
  ⟨h, fun hhidden => Bool.noConfusion hhidden⟩

theorem keeps_orElse {get : ρ → β} {b value : β} (h : c.Survives b) :
    (orElse name c value get).Keeps b :=
  ⟨h, fun hhidden => Bool.noConfusion hhidden⟩

theorem keepsBy_optional (ht : Rearranges t) {get : ρ → Option β} {o : Option β}
    (h : ∀ b, o = some b → c.SurvivesBy t b ∧ c.ofJson .null ≠ .ok b) :
    (optional name c get).KeepsBy t o :=
  ⟨Codec.SurvivesBy.optional ht h,
    fun hnone => congrArg some (Option.isNone_iff_eq_none.1 hnone).symm⟩

theorem keeps_optional {get : ρ → Option β} {o : Option β}
    (h : ∀ b, o = some b → c.Survives b ∧ c.ofJson .null ≠ .ok b) :
    (optional name c get).Keeps o :=
  ⟨Codec.Survives.optional h, fun hnone => congrArg some (Option.isNone_iff_eq_none.1 hnone).symm⟩

theorem keeps_nullable {get : ρ → Option β} {o : Option β}
    (h : ∀ b, o = some b → c.Survives b ∧ c.ofJson .null ≠ .ok b) :
    (nullable name c get).Keeps o :=
  ⟨Codec.Survives.optional h, fun hhidden => Bool.noConfusion hhidden⟩

theorem keeps_items {get : ρ → List β} {bs : List β} (h : ∀ b ∈ bs, c.Survives b) :
    (items name c get).Keeps bs :=
  ⟨Codec.Survives.list h, fun hnil => congrArg some (List.isEmpty_iff.1 hnil).symm⟩

/-- A dictionary that is not written is the empty one. -/
theorem eq_empty_of_isEmpty {d : Dict β} (h : d.isEmpty = true) : d = Dict.empty :=
  Dict.ext_entries (List.isEmpty_iff.1 h)

theorem keeps_keySet {get : ρ → KeySet} (s : KeySet) : (keySet name get).Keeps s :=
  ⟨Codec.survives_keySet s, fun h => congrArg some (eq_empty_of_isEmpty h).symm⟩

theorem keepsBy_dict (ht : Rearranges t) {get : ρ → Dict Json} {d : Dict Json}
    (h : ∀ j ∈ d.values, t j = j) : (dict name get).KeepsBy t d :=
  ⟨Codec.survivesBy_dict ht h, fun h => congrArg some (eq_empty_of_isEmpty h).symm⟩

theorem keeps_dict {get : ρ → Dict Json} {d : Dict Json} (h : ∀ m ∈ d.entries, Sorted m.2) :
    (dict name get).Keeps d :=
  ⟨Codec.survives_dict h, fun h => congrArg some (eq_empty_of_isEmpty h).symm⟩

/-- An optional untyped value must not be `null`, which stands for no value. -/
theorem keeps_any {get : ρ → Option Json} {o : Option Json}
    (h : ∀ j, o = some j → Sorted j ∧ j ≠ .null) : (optional name .any get).Keeps o :=
  keeps_optional fun j hj => ⟨Codec.survives_any (h j hj).1, fun heq =>
    (h j hj).2 (Except.ok.inj heq).symm⟩

theorem keeps_text {get : ρ → Option String} (o : Option String) :
    (optional name .text get).Keeps o :=
  keeps_optional fun s _ => ⟨Codec.survives_text s, fun h => by cases h⟩

theorem keeps_boolean {get : ρ → Option Bool} (o : Option Bool) :
    (optional name .boolean get).Keeps o :=
  keeps_optional fun b _ => ⟨Codec.survives_boolean b, fun h => by cases h⟩

theorem keeps_int64 {get : ρ → Option Int64} (o : Option Int64) :
    (optional name .int64 get).Keeps o :=
  keeps_optional fun n _ => ⟨Codec.survives_int64 n, fun h => by cases h⟩

theorem keeps_alsoReadAs {f : Field ρ β} {key : String} {b : β} (h : f.Keeps b) :
    (f.alsoReadAs key).Keeps b := h

end

end Field

/-! ## Layouts -/

namespace Layout

/-- The keys under which the fields are read. -/
def keys : {α : Type} → Layout ρ α → List String
  | _, make _ => []
  | _, field l f => l.keys ++ f.keys

/-- Every field of the record is kept by `t`. -/
def KeepsBy (t : Json → Json) : {α : Type} → Layout ρ α → ρ → Prop
  | _, make _, _ => True
  | _, field l f, r => l.KeepsBy t r ∧ f.KeepsBy t (f.get r)

/-- Every field of the record is kept. -/
def Keeps : {α : Type} → Layout ρ α → ρ → Prop
  | _, make _, _ => True
  | _, field l f, r => l.Keeps r ∧ f.Keeps (f.get r)

/-- Every field is shown by the members of an object. -/
def Shows (ms : List (String × Json)) (t : Json → Json) : {α : Type} → Layout ρ α → ρ → Prop
  | _, make _, _ => True
  | _, field l f, r => l.Shows ms t r ∧ f.Shows ms t r

variable {l : Layout ρ α} {r : ρ} {t : Json → Json} {ms others : List (String × Json)}

theorem Keeps.keepsBy (h : l.Keeps r) (ht : Rearranges t) : l.KeepsBy t r := by
  induction l with
  | make a => trivial
  | field l f ih => exact ⟨ih h.1, h.2.keepsBy ht⟩

theorem keepsBy_make {a : α} : (make a).KeepsBy t r := trivial

theorem KeepsBy.field {l : Layout ρ (β → α)} {f : Field ρ β} (h : l.KeepsBy t r)
    (hf : f.KeepsBy t (f.get r)) : (l.field f).KeepsBy t r := ⟨h, hf⟩

/-- A field that every rearrangement keeps. -/
theorem KeepsBy.kept {l : Layout ρ (β → α)} {f : Field ρ β} (h : l.KeepsBy t r)
    (ht : Rearranges t) (hf : f.Keeps (f.get r)) : (l.field f).KeepsBy t r :=
  h.field (hf.keepsBy ht)

theorem keeps_make {a : α} : (make a).Keeps r := trivial

theorem Keeps.field {l : Layout ρ (β → α)} {f : Field ρ β} (h : l.Keeps r)
    (hf : f.Keeps (f.get r)) : (l.field f).Keeps r := ⟨h, hf⟩

theorem any_slots_iff {key : String} : l.slots.any (·.answersTo key) = true ↔ key ∈ l.keys := by
  induction l with
  | make a => simp [slots, keys]
  | field l f ih =>
    rw [slots, keys, List.any_append, Bool.or_eq_true, ih, List.mem_append]
    simp [Field.slot, Field.answersTo_iff]

theorem fst_mem_keys_of_mem_toMembers {m : String × Json} (h : m ∈ l.toMembers r) :
    m.1 ∈ l.keys := by
  induction l with
  | make a => cases h
  | field l f ih =>
    rcases List.mem_append.1 h with h | h
    · exact List.mem_append_left _ (ih h)
    · exact List.mem_append_right _ (Field.fst_mem_keys_of_mem_toMembers h)

theorem nodup_toMembers (hkeys : l.keys.Nodup) : ((l.toMembers r).map (·.1)).Nodup := by
  induction l with
  | make a => exact .nil
  | field l f ih =>
    obtain ⟨hl, -, hlf⟩ := List.nodup_append.1 hkeys
    rw [toMembers, List.map_append, List.nodup_append]
    refine ⟨ih hl, f.nodup_toMembers r, fun a ha b hb => ?_⟩
    obtain ⟨m, hm, rfl⟩ := List.mem_map.1 ha
    obtain ⟨n, hn, rfl⟩ := List.mem_map.1 hb
    exact hlf _ (fst_mem_keys_of_mem_toMembers hm) _
      (Field.fst_mem_keys_of_mem_toMembers hn)

/-- Fields and further members with keys of their own do not repeat a key. -/
theorem nodup_members {d : Dict Json} (hkeys : l.keys.Nodup)
    (hapart : ∀ m ∈ d.entries, m.1 ∉ l.keys) :
    ((l.toMembers r ++ d.entries).map (·.1)).Nodup := by
  rw [List.map_append, List.nodup_append]
  refine ⟨l.nodup_toMembers hkeys, d.nodup_keys, fun a ha b hb => ?_⟩
  obtain ⟨m, hm, rfl⟩ := List.mem_map.1 ha
  obtain ⟨n, hn, rfl⟩ := List.mem_map.1 hb
  exact fun heq => hapart n hn (heq ▸ fst_mem_keys_of_mem_toMembers hm)

/-- The fields are found among members with other keys, if no two of them share a key. -/
theorem shows_of_perm (hkeys : l.keys.Nodup)
    (h : ms.Perm ((l.toMembers r).map (fun m => (m.1, t m.2)) ++ others))
    (hothers : ∀ m ∈ others, m.1 ∉ l.keys) : l.Shows ms t r := by
  induction l generalizing others with
  | make a => trivial
  | field l f ih =>
    obtain ⟨hl, -, hlf⟩ := List.nodup_append.1 hkeys
    rw [toMembers, List.map_append, List.append_assoc] at h
    have hfield : ms.Perm ((f.toMembers r).map (fun m => (m.1, t m.2)) ++
        ((l.toMembers r).map (fun m => (m.1, t m.2)) ++ others)) :=
      h.trans (List.perm_append_comm_assoc _ _ _)
    refine ⟨ih hl h fun m hm hkey => ?_, Field.shows_of_perm hfield fun m hm hkey => ?_⟩
    · rcases List.mem_append.1 hm with hm | hm
      · obtain ⟨n, hn, rfl⟩ := List.mem_map.1 hm
        exact hlf _ hkey _ (Field.fst_mem_keys_of_mem_toMembers hn) rfl
      · exact hothers m hm (List.mem_append_left _ hkey)
    · rcases List.mem_append.1 hm with hm | hm
      · obtain ⟨n, hn, rfl⟩ := List.mem_map.1 hm
        exact hlf _ (fst_mem_keys_of_mem_toMembers hn) _ hkey rfl
      · exact hothers m hm (List.mem_append_right _ hkey)

theorem ofMembers_of_shows (hl : l.Shows ms t r) (h : l.KeepsBy t r) :
    l.ofMembers ms = .ok (l.build r) := by
  induction l with
  | make a => rfl
  | field l f ih =>
    simp only [ofMembers, ih hl.1 h.1, Field.ofMembers_of_shows hl.2 h.2]
    rfl

theorem accepts_of_shows (hl : l.Shows ms t r) (h : l.KeepsBy t r) {s : Slot}
    (hs : s ∈ l.slots) {m : String × Json} (hm : m ∈ ms) (hkey : s.answersTo m.1) :
    s.name = m.1 ∧ s.check m.2 = .ok () := by
  induction l with
  | make a => cases hs
  | field l f ih =>
    rcases List.mem_append.1 hs with hs | hs
    · exact ih hl.1 h.1 hs
    · obtain rfl := List.mem_singleton.1 hs
      exact Field.accepts_of_shows hl.2 h.2 hm hkey

end Layout

/-! ## Records -/

namespace Codec

variable {name : String} {r : ρ} {t : Json → Json}

/-- Members that their slots accept are not refused, if no key repeats. -/
theorem checkMembers_eq_ok {slots : List Slot} {seen : List String} {ms : List (String × Json)}
    (h : ∀ m ∈ ms, ∀ s ∈ slots, s.answersTo m.1 → s.name = m.1 ∧ s.check m.2 = .ok ())
    (hkeys : (ms.map (·.1)).Nodup) (hseen : ∀ m ∈ ms, m.1 ∉ seen) :
    checkMembers slots seen ms = .ok () := by
  induction ms generalizing seen with
  | nil => rfl
  | cons m ms ih =>
    obtain ⟨hm, hms⟩ := List.nodup_cons.1 hkeys
    have htail := fun n hn => h n (.tail m hn)
    rw [checkMembers]
    cases hfind : slots.find? (·.answersTo m.1) with
    | none => exact ih htail hms fun n hn => hseen n (.tail m hn)
    | some s =>
      have hs := List.find?_some hfind
      obtain ⟨hname, hcheck⟩ := h m (.head ms) s (List.mem_of_find?_eq_some hfind) hs
      have hnew : s.name ∉ seen := hname ▸ hseen m (.head ms)
      have hrest : checkMembers slots (s.name :: seen) ms = .ok () := by
        refine ih htail hms fun n hn hmem => ?_
        rcases List.mem_cons.1 hmem with heq | hmem
        · exact hm (List.mem_map.2 ⟨n, hn, heq.trans hname⟩)
        · exact hseen n (.tail m hn) hmem
      simp only [List.contains_iff_mem, hnew, if_false, hcheck]
      exact hrest

theorem checkMembers_of_shows {l : Layout ρ α} {ms : List (String × Json)} (hl : l.Shows ms t r)
    (h : l.KeepsBy t r) (hkeys : (ms.map (·.1)).Nodup) : checkMembers l.slots [] ms = .ok () :=
  checkMembers_eq_ok (fun _ hm _ hs => Layout.accepts_of_shows hl h hs hm) hkeys (by simp)

/-- A record survives when its fields are kept and no two of them share a key. -/
theorem survivesBy_record {l : Layout ρ ρ} (ht : Rearranges t) (hkeys : l.keys.Nodup)
    (hbuild : l.build r = r) (h : l.KeepsBy t r) : (record name l).SurvivesBy t r := by
  obtain ⟨ms, hms, hperm, hnodup⟩ := ht.exists_members (l.nodup_toMembers (r := r) hkeys)
  rw [← List.append_nil (List.map _ _)] at hperm
  have hshows : l.Shows ms t r := Layout.shows_of_perm hkeys hperm (by simp)
  have hread : recordOf name l (.obj ms) = .ok r := by
    simp only [recordOf, checkMembers_of_shows hshows h hnodup,
      Layout.ofMembers_of_shows hshows h, hbuild]
    rfl
  exact (congrArg (recordOf name l) hms).trans hread

theorem survives_record {l : Layout ρ ρ} (hkeys : l.keys.Nodup) (hbuild : l.build r = r)
    (h : l.Keeps r) : (record name l).Survives r :=
  fun _ ht => survivesBy_record ht hkeys hbuild (h.keepsBy ht)

/-- An open record survives when its fields are kept, no two of them share a key, and its further
members have other keys and sorted values. -/
theorem survives_openRecord {l : Layout ρ (Dict Json → ρ)} {extra : ρ → Dict Json}
    (hkeys : l.keys.Nodup) (hbuild : l.build r (extra r) = r) (h : l.Keeps r)
    (hapart : ∀ m ∈ (extra r).entries, m.1 ∉ l.keys)
    (hsorted : ∀ m ∈ (extra r).entries, Sorted m.2) : (openRecord name l extra).Survives r := by
  intro t ht
  obtain ⟨ms, hms, hperm, hmsnodup⟩ := ht.exists_members (l.nodup_members (r := r) hkeys hapart)
  rw [List.map_append, mapValue_eq_self fun m hm => ht.fixes (hsorted m hm)] at hperm
  have hshows : l.Shows ms t r := Layout.shows_of_perm hkeys hperm hapart
  have hrest : rest l.slots ms = extra r := by
    refine Dict.ofList_eq_of_perm ((hperm.filter _).trans ?_)
    rw [List.filter_append, List.filter_eq_nil_iff.2, List.filter_eq_self.2]
    · rfl
    · exact fun m hm => by simpa [← Layout.any_slots_iff] using hapart m hm
    · intro m hm
      obtain ⟨n, hn, rfl⟩ := List.mem_map.1 hm
      have := Layout.any_slots_iff.2 (Layout.fst_mem_keys_of_mem_toMembers hn)
      simp [this]
  have hread : openRecordOf name l (.obj ms) = .ok r := by
    simp only [openRecordOf, checkMembers_of_shows hshows (h.keepsBy ht) hmsnodup,
      Layout.ofMembers_of_shows hshows (h.keepsBy ht), hrest, bind, Except.bind, hbuild]
    rfl
  exact (congrArg (openRecordOf name l) hms).trans hread

end Codec

end DataPipeline
