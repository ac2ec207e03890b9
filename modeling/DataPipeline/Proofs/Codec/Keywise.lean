import DataPipeline.Proofs.Codec.Open
import Mathlib.Data.List.Pairwise

/-!
# Records read key by key

What stands under each key of an object is a view of it. An open record depends on nothing else of
the object that it is read from: a field has its value from the one of its keys under which
something stands, or stands in for what is absent, and the further members stand under the other
keys. This says exactly when an object with distinct keys is read.

## Main definitions

* `View`, `View.over`: what stands under each key; one view laid over another
* `Field.Reads`, `Layout.Shown`: a view has a value of a field, and a whole record
* `Layout.aliases`: the keys under which fields are read but not written

## Main results

* `Codec.checkMembers_eq_ok_iff`: which members are accepted
* `Codec.exists_pair_of_checkMembers_eq_error`: what members are refused for that the fields take
* `Layout.Lawful.ofJson_eq_ok_iff`: the objects that are read as a record
-/
namespace DataPipeline

open Json (ShapeError)

variable {ρ α β : Type}

/-- What stands under each key of an object. -/
abbrev View := String → Option Json

/-- The view that has what `v` has, and under the keys that `v` leaves free what `u` has. -/
def View.over (v u : View) : View := fun key => (v key).or (u key)

section

variable {v u : View} {key : String}

theorem View.over_of_none (h : v key = none) : v.over u key = u key := by
  rw [View.over, h, Option.none_or]

theorem View.over_of_some {j : Json} (h : v key = some j) : v.over u key = some j := by
  rw [View.over, h, Option.some_or]

theorem View.over_eq_none_iff : v.over u key = none ↔ v key = none ∧ u key = none :=
  Option.or_eq_none_iff

end

/-! ## Fields -/

/-- The value of a field stands under one of its keys and nothing under the others, or nothing under
any of them and the value stands in for what is absent. -/
inductive Field.Reads (v : View) (f : Field ρ β) (b : β) : Prop
  | given (key : String) (j : Json) (hkey : key ∈ f.keys) (hj : v key = some j)
      (hothers : ∀ k ∈ f.keys, k ≠ key → v k = none) (hread : f.codec.ofJson j = .ok b)
  | lacking (hnone : ∀ k ∈ f.keys, v k = none) (habsent : f.absent = some b)

namespace Field

variable {v u : View} {f : Field ρ β} {b b' : β} {key : String} {j : Json}
  {ms : List (String × Json)}

namespace Reads

theorem congr (h : f.Reads v b) (hvu : ∀ k ∈ f.keys, u k = v k) : f.Reads u b := by
  cases h with
  | given key j hkey hj hothers hread =>
    exact .given key j hkey ((hvu key hkey).trans hj)
      (fun k hk hne => (hvu k hk).trans (hothers k hk hne)) hread
  | lacking hnone habsent =>
    exact .lacking (fun k hk => (hvu k hk).trans (hnone k hk)) habsent

/-- What stands under a key of the field is its value, and nothing stands under the others. -/
theorem of_some (h : f.Reads v b) (hkey : key ∈ f.keys) (hj : v key = some j) :
    f.codec.ofJson j = .ok b ∧ ∀ k ∈ f.keys, k ≠ key → v k = none := by
  cases h with
  | given key' j' hkey' hj' hothers hread =>
    obtain rfl : key = key' := by
      by_contra hne
      rw [hothers key hkey hne] at hj
      cases hj
    obtain rfl := Option.some.inj (hj.symm.trans hj')
    exact ⟨hread, hothers⟩
  | lacking hnone _ =>
    rw [hnone key hkey] at hj
    cases hj

theorem unique (h : f.Reads v b) (h' : f.Reads v b') : b = b' := by
  cases h with
  | given key j hkey hj _ hread =>
    exact Except.ok.inj (hread.symm.trans (h'.of_some hkey hj).1)
  | lacking hnone habsent =>
    cases h' with
    | given key j hkey hj _ _ =>
      rw [hnone key hkey] at hj
      cases hj
    | lacking _ habsent' => exact Option.some.inj (habsent.symm.trans habsent')

end Reads

/-! ### Members of objects -/

theorem ofMembers_of_reads (hms : (ms.map (·.1)).Nodup) (h : f.Reads (Json.obj ms).member b) :
    f.ofMembers ms = .ok b := by
  rw [ofMembers]
  cases hfind : ms.find? fun m => f.answersTo m.1 with
  | some m =>
    have hanswers := List.find?_some hfind
    have hkey : m.1 ∈ f.keys := answersTo_iff.1 hanswers
    have hj : (Json.obj ms).member m.1 = some m.2 :=
      (Dict.lookup_eq_some_iff hms).2 (List.mem_of_find?_eq_some hfind)
    exact (h.of_some hkey hj).1
  | none =>
    cases h with
    | given key j hkey hj _ _ =>
      exact absurd (answersTo_iff.2 hkey) (List.find?_eq_none.1 hfind _ (Dict.mem_of_lookup hj))
    | lacking _ habsent => rw [habsent]

theorem reads_of_ofMembers (hms : (ms.map (·.1)).Nodup)
    (hsingle : ∀ m ∈ ms, ∀ m' ∈ ms, m.1 ∈ f.keys → m'.1 ∈ f.keys → m.1 = m'.1)
    (h : f.ofMembers ms = .ok b) : f.Reads (Json.obj ms).member b := by
  rw [ofMembers] at h
  cases hfind : ms.find? fun m => f.answersTo m.1 with
  | some m =>
    rw [hfind] at h
    have hmem := List.mem_of_find?_eq_some hfind
    have hanswers := List.find?_some hfind
    have hkey : m.1 ∈ f.keys := answersTo_iff.1 hanswers
    refine .given m.1 m.2 hkey ((Dict.lookup_eq_some_iff hms).2 hmem) (fun k hk hne => ?_) h
    refine Dict.lookup_eq_none_iff.2 fun m' hm' heq => hne ?_
    exact heq.symm.trans (hsingle m' hm' m hmem (heq ▸ hk) hkey)
  | none =>
    rw [hfind] at h
    have hnone : ∀ k ∈ f.keys, (Json.obj ms).member k = none := by
      intro k hk
      refine Dict.lookup_eq_none_iff.2 fun m hm heq => ?_
      exact List.find?_eq_none.1 hfind m hm (answersTo_iff.2 (heq ▸ hk))
    cases habsent : f.absent with
    | some b' =>
      rw [habsent] at h
      exact .lacking hnone (habsent.trans (congrArg some (Except.ok.inj h)))
    | none =>
      rw [habsent] at h
      cases h

end Field

/-! ## Layouts -/

namespace Layout

/-- The keys under which fields are read but not written. -/
def aliases : {α : Type} → Layout ρ α → List String
  | _, make _ => []
  | _, field l f => l.aliases ++ f.aliases

variable {l : Layout ρ α} {r r' : ρ} {f : Field ρ β} {key : String} {ms : List (String × Json)}

theorem Has.slot_mem (h : Has f l) : f.slot ∈ l.slots := by
  induction h with
  | last l => exact List.mem_append_right _ List.mem_cons_self
  | before _ g ih => exact List.mem_append_left _ ih

theorem exists_has_of_mem_slots {s : Slot} (h : s ∈ l.slots) :
    ∃ (β : Type) (f : Field ρ β), Has f l ∧ s = f.slot := by
  induction l with
  | make a => cases h
  | field l g ih =>
    rcases List.mem_append.1 h with h | h
    · obtain ⟨β, f, hf, hs⟩ := ih h
      exact ⟨β, f, hf.before g, hs⟩
    · exact ⟨_, g, .last l, List.mem_singleton.1 h⟩

theorem mem_keys_iff : key ∈ l.keys ↔ ∃ (β : Type) (f : Field ρ β), Has f l ∧ key ∈ f.keys := by
  rw [← any_slots_iff, List.any_eq_true]
  constructor
  · rintro ⟨s, hs, hkey⟩
    obtain ⟨β, f, hf, rfl⟩ := exists_has_of_mem_slots hs
    exact ⟨β, f, hf, Field.answersTo_iff.1 hkey⟩
  · rintro ⟨β, f, hf, hkey⟩
    exact ⟨f.slot, hf.slot_mem, Field.answersTo_iff.2 hkey⟩

theorem mem_aliases_iff :
    key ∈ l.aliases ↔ ∃ (β : Type) (f : Field ρ β), Has f l ∧ key ∈ f.aliases := by
  constructor
  · intro h
    induction l with
    | make a => cases h
    | field l g ih =>
      rcases List.mem_append.1 h with h | h
      · obtain ⟨β, f, hf, hkey⟩ := ih h
        exact ⟨β, f, hf.before g, hkey⟩
      · exact ⟨_, g, .last l, h⟩
  · rintro ⟨β, f, hf, hkey⟩
    induction hf with
    | last l => exact List.mem_append_right _ hkey
    | before _ g ih => exact List.mem_append_left _ ih

theorem aliases_subset_keys (h : key ∈ l.aliases) : key ∈ l.keys := by
  obtain ⟨β, f, hf, hkey⟩ := mem_aliases_iff.1 h
  exact mem_keys_iff.2 ⟨β, f, hf, List.mem_cons_of_mem _ hkey⟩

theorem Has.keys_sublist (h : Has f l) : f.keys.Sublist l.keys := by
  induction h with
  | last l => exact List.sublist_append_right _ _
  | before _ g ih => exact ih.trans (List.sublist_append_left _ _)

/-- The name of a field is not another key of a field. -/
theorem Has.name_not_mem_aliases (h : Has f l) (hkeys : l.keys.Nodup) : f.name ∉ l.aliases := by
  intro halias
  obtain ⟨β, g, hg, hname⟩ := mem_aliases_iff.1 halias
  have hslot : f.slot = g.slot := eq_of_answersTo hkeys h.slot_mem hg.slot_mem
    (Field.answersTo_iff.2 List.mem_cons_self)
    (Field.answersTo_iff.2 (List.mem_cons_of_mem _ hname))
  have heq : f.name = g.name := congrArg Slot.name hslot
  exact (List.nodup_cons.1 (hkeys.sublist hg.keys_sublist)).1 (heq ▸ hname)

theorem Has.eq_name_or_mem_aliases (h : Has f l) (hkey : key ∈ f.keys) :
    key = f.name ∨ key ∈ l.aliases :=
  (List.mem_cons.1 hkey).imp_right fun halias => mem_aliases_iff.2 ⟨β, f, h, halias⟩

theorem exists_has_of_mem_toMembers {m : String × Json} (h : m ∈ l.toMembers r) :
    ∃ (β : Type) (f : Field ρ β), Has f l ∧ m.1 = f.name := by
  induction l with
  | make a => cases h
  | field l g ih =>
    rcases List.mem_append.1 h with h | h
    · obtain ⟨β, f, hf, hname⟩ := ih h
      exact ⟨β, f, hf.before g, hname⟩
    · exact ⟨_, g, .last l, Field.fst_of_mem_toMembers h⟩

theorem ofMembers_of_each (h : l.Each (fun _ f b => f.ofMembers ms = .ok b) r) :
    l.ofMembers ms = .ok (l.build r) := by
  induction l with
  | make a => rfl
  | field l f ih =>
    have hfield : f.ofMembers ms = .ok (f.get r) := h.2
    simp only [ofMembers, ih h.1, hfield]
    rfl

end Layout

/-! ## Checked members -/

namespace Codec

variable {l : Layout ρ α} {seen : List String} {ms : List (String × Json)} {e : ShapeError}

theorem answersTo_name {s : Slot} (hs : s ∈ l.slots) : s.answersTo s.name = true := by
  obtain ⟨β, f, -, rfl⟩ := Layout.exists_has_of_mem_slots hs
  exact Field.answersTo_iff.2 List.mem_cons_self

/-- Members are accepted exactly if the fields that answer to them take their values, and no field
answers to two of them. -/
theorem checkMembers_eq_ok_iff (hkeys : l.keys.Nodup) :
    checkMembers l.slots seen ms = .ok () ↔
      (∀ m ∈ ms, ∀ s ∈ l.slots, s.answersTo m.1 → s.check m.2 = .ok () ∧ s.name ∉ seen) ∧
        ms.Pairwise fun m m' => ∀ s ∈ l.slots, s.answersTo m.1 → ¬ s.answersTo m'.1 := by
  induction ms generalizing seen with
  | nil => simp [checkMembers]
  | cons m ms ih =>
    rw [checkMembers, List.forall_mem_cons, List.pairwise_cons]
    cases hfind : l.slots.find? (·.answersTo m.1) with
    | none =>
      have hnone : ∀ s ∈ l.slots, ¬ s.answersTo m.1 := List.find?_eq_none.1 hfind
      refine ih.trans ⟨fun h => ?_, fun h => ⟨h.1.2, h.2.2⟩⟩
      exact ⟨⟨fun s hs hkey => absurd hkey (hnone s hs), h.1⟩,
        fun _ _ s hs hkey => absurd hkey (hnone s hs), h.2⟩
    | some s =>
      have hs : s ∈ l.slots := List.mem_of_find?_eq_some hfind
      have hkey := List.find?_some hfind
      have honly (s' : Slot) (hs' : s' ∈ l.slots) (hkey' : s'.answersTo m.1) : s' = s :=
        Layout.eq_of_answersTo hkeys hs' hs hkey' hkey
      have hname (s' : Slot) (hs' : s' ∈ l.slots) (heq : s'.name = s.name) : s' = s :=
        Layout.eq_of_answersTo hkeys hs' hs (heq ▸ answersTo_name hs') (answersTo_name hs)
      constructor
      · intro h
        by_cases hseen : s.name ∈ seen
        · simp [hseen] at h
        simp only [List.contains_iff_mem, hseen, if_false] at h
        obtain ⟨_, hcheck, hrest⟩ := exists_of_bind_eq_ok h
        obtain ⟨hall, hpair⟩ := ih.1 hrest
        refine ⟨⟨fun s' hs' hkey' => ?_, fun m' hm' s' hs' hkey' => ?_⟩,
          fun m' hm' s' hs' hkey' => ?_, hpair⟩
        · exact honly s' hs' hkey' ▸ ⟨hcheck, hseen⟩
        · obtain ⟨hcheck', hnew⟩ := hall m' hm' s' hs' hkey'
          exact ⟨hcheck', fun hold => hnew (List.mem_cons_of_mem _ hold)⟩
        · obtain rfl := honly s' hs' hkey'
          exact fun htwice => (hall m' hm' s' hs htwice).2 List.mem_cons_self
      · rintro ⟨⟨hm, hall⟩, hfirst, hpair⟩
        obtain ⟨hcheck, hseen⟩ := hm s hs hkey
        simp only [List.contains_iff_mem, hseen, if_false, hcheck]
        refine ih.2 ⟨fun m' hm' s' hs' hkey' => ?_, hpair⟩
        obtain ⟨hcheck', hnew⟩ := hall m' hm' s' hs' hkey'
        refine ⟨hcheck', fun hmem => ?_⟩
        rcases List.mem_cons.1 hmem with heq | hold
        · obtain rfl := hname s' hs' heq
          exact hfirst m' hm' s' hs hkey hkey'
        · exact hnew hold

/-- Where the fields take all values, members are refused for nothing but a field that answers to
two of them. -/
theorem exists_pair_of_checkMembers_eq_error
    (hcheck : ∀ m ∈ ms, ∀ s ∈ l.slots, s.answersTo m.1 → s.check m.2 = .ok ())
    (hkeys : l.keys.Nodup) (h : checkMembers l.slots seen ms = .error e) :
    ∃ s ∈ l.slots, e = .duplicateField s.name ∧ ∃ m ∈ ms, s.answersTo m.1 ∧
      (s.name ∈ seen ∨ ∃ m', [m', m].Sublist ms ∧ s.answersTo m'.1) := by
  induction ms generalizing seen with
  | nil => cases h
  | cons m ms ih =>
    have hrest := fun m' hm' => hcheck m' (List.mem_cons_of_mem m hm')
    have hlater {seen' : List String} (h : checkMembers l.slots seen' ms = .error e) :
        ∃ s ∈ l.slots, e = .duplicateField s.name ∧ ∃ m' ∈ ms, s.answersTo m'.1 ∧
          (s.name ∈ seen' ∨ ∃ m'', [m'', m'].Sublist (m :: ms) ∧ s.answersTo m''.1) := by
      obtain ⟨s, hs, he, m', hm', hkey', htwice⟩ := ih hrest h
      refine ⟨s, hs, he, m', hm', hkey', htwice.imp_right ?_⟩
      rintro ⟨m'', hsub, hkey''⟩
      exact ⟨m'', hsub.cons m, hkey''⟩
    rw [checkMembers] at h
    cases hfind : l.slots.find? (·.answersTo m.1) with
    | none =>
      rw [hfind] at h
      obtain ⟨s, hs, he, m', hm', htwice⟩ := hlater h
      exact ⟨s, hs, he, m', List.mem_cons_of_mem m hm', htwice⟩
    | some s =>
      rw [hfind] at h
      have hs : s ∈ l.slots := List.mem_of_find?_eq_some hfind
      have hkey := List.find?_some hfind
      by_cases hseen : s.name ∈ seen
      · simp only [List.contains_iff_mem, hseen, if_true, Except.error.injEq] at h
        exact ⟨s, hs, h.symm, m, List.mem_cons_self, hkey, .inl hseen⟩
      · simp only [List.contains_iff_mem, hseen, if_false,
          hcheck m List.mem_cons_self s hs hkey] at h
        obtain ⟨s', hs', he, m', hm', hkey', htwice⟩ := hlater h
        refine ⟨s', hs', he, m', List.mem_cons_of_mem m hm', hkey', ?_⟩
        rcases htwice with hmem | htwice
        · rcases List.mem_cons.1 hmem with heq | hold
          · obtain rfl := Layout.eq_of_answersTo hkeys hs' hs (heq ▸ answersTo_name hs')
              (answersTo_name hs)
            exact .inr ⟨m, (List.singleton_sublist.2 hm').cons_cons m, hkey⟩
          · exact .inl hold
        · exact .inr htwice

end Codec

/-! ## Records -/

namespace Layout

variable {l : Layout ρ (Dict Json → ρ)} {extra : ρ → Dict Json} {name : String} {r : ρ} {v : View}
  {ms : List (String × Json)}

/-- Of members that no field answers to two of, each field has at most one. -/
theorem Has.eq_of_pairwise {α : Type} {l : Layout ρ α} {f : Field ρ β} (hf : Has f l)
    (h : ms.Pairwise fun m m' => ∀ s ∈ l.slots, s.answersTo m.1 → ¬ s.answersTo m'.1)
    {m m' : String × Json} (hm : m ∈ ms) (hm' : m' ∈ ms) (hkey : m.1 ∈ f.keys)
    (hkey' : m'.1 ∈ f.keys) : m = m' := by
  let R (m m' : String × Json) := ¬ (m.1 ∈ f.keys ∧ m'.1 ∈ f.keys)
  have hsymm : Std.Symm R := ⟨fun _ _ h hboth => h hboth.symm⟩
  have hpair : ms.Pairwise R := h.imp fun h hboth =>
    h f.slot hf.slot_mem (Field.answersTo_iff.2 hboth.1) (Field.answersTo_iff.2 hboth.2)
  by_contra hne
  exact hpair.forall hm hm' hne ⟨hkey, hkey'⟩

/-- The view has the values of the fields, and the further members under the other keys. -/
structure Shown (l : Layout ρ (Dict Json → ρ)) (extra : ρ → Dict Json) (v : View) (r : ρ) :
    Prop where
  fields : l.Each (fun _ => Field.Reads v) r
  apart (key : String) : key ∈ l.keys → (extra r).find? key = none
  rest (key : String) : key ∉ l.keys → (extra r).find? key = v key

theorem Shown.reads (h : l.Shown extra v r) {f : Field ρ β} (hf : Has f l) : f.Reads v (f.get r) :=
  each_iff.1 h.fields f hf

theorem find?_rest_of_mem_keys {key : String} (hkey : key ∈ l.keys) :
    (Codec.rest l.slots ms).find? key = none :=
  Dict.lookup_eq_none_iff.2 fun _ hm heq => (mem_rest hm).2 (heq ▸ hkey)

section

variable (hms : (ms.map (·.1)).Nodup)
include hms

/-- An object with distinct keys shows what it is read as. -/
theorem Lawful.shown (hl : l.Lawful extra)
    (h : (Codec.openRecord name l extra).ofJson (.obj ms) = .ok r) :
    l.Shown extra (Json.obj ms).member r := by
  obtain ⟨_, hchecked, -⟩ := exists_of_bind_eq_ok h
  obtain ⟨-, hpair⟩ := (Codec.checkMembers_eq_ok_iff hl.keys).1 hchecked
  obtain ⟨hfields, hextra⟩ := hl.each_of_ofJson h
  refine ⟨each_iff.2 fun f hf => ?_, fun key hkey => ?_, fun key hkey => ?_⟩
  · refine Field.reads_of_ofMembers hms (fun m hm m' hm' hkey hkey' => ?_)
      (each_iff.1 hfields f hf)
    exact congrArg _ (hf.eq_of_pairwise hpair hm hm' hkey hkey')
  · rw [hextra, find?_rest_of_mem_keys hkey]
  · rw [hextra]
    exact find?_rest hms hkey

namespace Shown

variable (h : l.Shown extra (Json.obj ms).member r)
include h

theorem checkMembers_eq_ok (hkeys : l.keys.Nodup) : Codec.checkMembers l.slots [] ms = .ok () := by
  have hmember {m : String × Json} (hm : m ∈ ms) : (Json.obj ms).member m.1 = some m.2 :=
    (Dict.lookup_eq_some_iff hms).2 hm
  refine (Codec.checkMembers_eq_ok_iff hkeys).2 ⟨fun m hm s hs hkey => ?_, ?_⟩
  · obtain ⟨β, f, hf, rfl⟩ := exists_has_of_mem_slots hs
    obtain ⟨hread, -⟩ := (h.reads hf).of_some (Field.answersTo_iff.1 hkey) (hmember hm)
    exact ⟨congrArg (Except.map fun _ => ()) hread, List.not_mem_nil⟩
  · refine (List.pairwise_map.1 hms).imp_of_mem fun {m m'} hm hm' hne s hs hkey hkey' => ?_
    obtain ⟨β, f, hf, rfl⟩ := exists_has_of_mem_slots hs
    obtain ⟨-, hothers⟩ := (h.reads hf).of_some (Field.answersTo_iff.1 hkey) (hmember hm)
    have hnone := hothers m'.1 (Field.answersTo_iff.1 hkey') hne.symm
    rw [hmember hm'] at hnone
    cases hnone

theorem ofMembers_eq_ok : l.ofMembers ms = .ok (l.build r) :=
  ofMembers_of_each (each_iff.2 fun _ hf => Field.ofMembers_of_reads hms (h.reads hf))

theorem rest_eq : Codec.rest l.slots ms = extra r := by
  refine Dict.ext_find? fun key => ?_
  by_cases hkey : key ∈ l.keys
  · rw [find?_rest_of_mem_keys hkey, h.apart key hkey]
  · rw [h.rest key hkey]
    exact find?_rest hms hkey

end Shown

end

/-- An object with distinct keys is read as a record exactly if it shows the record. -/
theorem Lawful.ofJson_eq_ok_iff (hl : l.Lawful extra) (hms : (ms.map (·.1)).Nodup) :
    (Codec.openRecord name l extra).ofJson (.obj ms) = .ok r ↔
      l.Shown extra (Json.obj ms).member r := by
  refine ⟨hl.shown hms, fun h => ?_⟩
  simp only [Codec.openRecord, Codec.openRecordOf, h.checkMembers_eq_ok hms hl.keys,
    h.ofMembers_eq_ok hms, h.rest_eq hms, bind, Except.bind, hl.build]
  rfl

end Layout

end DataPipeline
