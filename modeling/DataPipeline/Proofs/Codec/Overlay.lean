import DataPipeline.Proofs.Codec.Keywise

/-!
# Records that are written, overlaid and read again

A view is laid over a written record, and what results is read. All of this happens key by key: a
field whose name the view leaves free keeps its value, any other one gets the value that stands in
the view. Only a key under which a field is read but not written is in the way: the value that it
brings is written under the name of the field, so that the same view meets it there when it is laid
over a second time, and the field stands there twice.

## Main definitions

* `Layout.written`: the view of a record that is written
* `View.Free`: nothing stands under some keys

## Main results

* `Layout.Sound.shown_written`: a sound record is shown by what is written of it
* `Layout.Shown.written_of_over`: what is not overlaid is written as before
* `Layout.Shown.over_over`: two views laid over one after the other are one laid over at once
* `Layout.Shown.over_again`: a view that was laid over can be laid over again, unless a field stands
  there twice then
* `Layout.Lawful.ofJson_eq_duplicate`: how an object is refused in which a field stands twice
-/
namespace DataPipeline

open Json (Sorted)

/-- Nothing stands under the keys. -/
def View.Free (v : View) (keys : List String) : Prop := ∀ key ∈ keys, v key = none

theorem View.over_assoc (u v w : View) : (u.over v).over w = u.over (v.over w) :=
  funext fun _ => Option.or_assoc

namespace Layout

variable {ρ β : Type} {l : Layout ρ (Dict Json → ρ)} {extra : ρ → Dict Json} {name : String}
  {r r' : ρ} {u v w : View} {f : Field ρ β} {key : String}

/-! ## Written records -/

/-- What stands under each key of the record that is written, with sorted members. -/
def written (l : Layout ρ (Dict Json → ρ)) (extra : ρ → Dict Json) (r : ρ) : View :=
  (Json.obj (l.toMembers r ++ (extra r).entries)).sorted.member

theorem written_eq (name : String) :
    l.written extra r = ((Codec.openRecord name l extra).toJson r).sorted.member := rfl

/-- A field is written under its name, unless it is hidden. -/
theorem Has.written_name (hf : Has f l) (hkeys : l.keys.Nodup) (hr : l.Sound extra r) :
    l.written extra r f.name =
      if f.hidden (f.get r) then none else some (f.codec.toJson (f.get r)).sorted := by
  have hnone : (extra r).find? f.name = none :=
    Dict.lookup_eq_none_iff.2 fun m hm heq => hr.apart m hm (heq ▸ hf.name_mem_keys)
  rw [written_eq "", member_sorted_toJson hkeys hr.apart, hf.lookup_toMembers hkeys, hnone,
    Field.toMembers]
  split <;> simp [Dict.lookup]

theorem Sound.written_rest (hr : l.Sound extra r) (hl : l.Lawful extra) (hkey : key ∉ l.keys) :
    l.written extra r key = (extra r).find? key := by
  rw [written_eq ""]
  exact hr.member_toJson hl hkey

/-- Nothing is written under the further keys of a field. -/
theorem Sound.free_written (hr : l.Sound extra r) (hkeys : l.keys.Nodup) :
    (l.written extra r).Free l.aliases := by
  intro key halias
  have hextra : (extra r).find? key = none := Dict.lookup_eq_none_iff.2 fun m hm heq =>
    hr.apart m hm (heq ▸ aliases_subset_keys halias)
  have hfields : Dict.lookup key (l.toMembers r) = none := by
    refine Dict.lookup_eq_none_iff.2 fun m hm heq => ?_
    obtain ⟨β, f, hf, hname⟩ := exists_has_of_mem_toMembers hm
    exact hf.name_not_mem_aliases hkeys (hname ▸ heq ▸ halias)
  rw [written_eq "", member_sorted_toJson hkeys hr.apart, hfields, hextra]
  rfl

/-- A view that leaves the name of a field free, and brings nothing under its further keys, leaves
the field alone. -/
theorem Has.over_eq (hf : Has f l) (hfree : v.Free l.aliases) (hname : v f.name = none) :
    ∀ k ∈ f.keys, v.over u k = u k := by
  intro k hk
  rcases hf.eq_name_or_mem_aliases hk with rfl | halias
  · exact View.over_of_none hname
  · exact View.over_of_none (hfree k halias)

section

variable (hl : l.Lawful extra)
include hl

/-- A sound record is shown by what is written of it. -/
theorem Sound.shown_written (hr : l.Sound extra r) : l.Shown extra (l.written extra r) r := by
  have hsurvives : (Codec.openRecord "" l extra).Survives r := hr.survives hl
  have hread := hsurvives Json.sorted Json.rearranges_sorted
  obtain ⟨ms, hms, hnodup⟩ : ∃ ms, ((Codec.openRecord "" l extra).toJson r).sorted = .obj ms ∧
      (ms.map (·.1)).Nodup := ⟨_, Json.sorted_obj _, Dict.nodup_keys _⟩
  rw [hms] at hread
  rw [written_eq "", hms]
  exact (hl.ofJson_eq_ok_iff hnodup).1 hread

/-! ## Overlaid records -/

namespace Shown

/-- A field under whose name nothing is laid over keeps its value. -/
theorem get_eq (h : l.Shown extra (v.over (l.written extra r)) r') (hr : l.Sound extra r)
    (hf : Has f l) (hfree : v.Free l.aliases) (hname : v f.name = none) : f.get r' = f.get r := by
  have hbefore := (hr.shown_written hl).reads hf
  exact ((h.reads hf).congr fun k hk => (hf.over_eq hfree hname k hk).symm).unique hbefore

/-- Under a key that is not overlaid the record is written as before. -/
theorem written_of_over (h : l.Shown extra (v.over (l.written extra r)) r')
    (hr : l.Sound extra r) (hr' : l.Sound extra r') (hfree : v.Free l.aliases)
    (hkey : v key = none) : l.written extra r' key = l.written extra r key := by
  by_cases hknown : key ∈ l.keys
  · obtain ⟨β, f, hf, hfkey⟩ := mem_keys_iff.1 hknown
    rcases hf.eq_name_or_mem_aliases hfkey with rfl | halias
    · rw [hf.written_name hl.keys hr', hf.written_name hl.keys hr,
        h.get_eq hl hr hf hfree hkey]
    · rw [hr.free_written hl.keys key halias, hr'.free_written hl.keys key halias]
  · rw [hr'.written_rest hl hknown, h.rest key hknown, View.over_of_none hkey]

/-- Two views that were laid over one after the other can be laid over at once. -/
theorem over_over (h : l.Shown extra (v.over w) r)
    (h' : l.Shown extra (u.over (l.written extra r)) r') (hr : l.Sound extra r)
    (hu : u.Free l.aliases) (hv : v.Free l.aliases) (hw : w.Free l.aliases) :
    l.Shown extra ((u.over v).over w) r' where
  fields := by
    rw [View.over_assoc]
    refine each_iff.2 fun {β} f hf => ?_
    cases hname : u f.name with
    | none =>
      -- The second view leaves the field alone, which has its value from the first step.
      rw [h'.get_eq hl hr hf hu hname]
      exact (h.reads hf).congr (hf.over_eq hu hname)
    | some j =>
      refine (h'.reads hf).congr fun k hk => ?_
      rcases hf.eq_name_or_mem_aliases hk with rfl | halias
      · rw [View.over_of_some hname, View.over_of_some hname]
      · rw [View.over_of_none (hu k halias), View.over_of_none (hu k halias),
          View.over_of_none (hv k halias), hw k halias, hr.free_written hl.keys k halias]
  apart := h'.apart
  rest key hkey := by
    have hfirst : l.written extra r key = v.over w key :=
      (hr.written_rest hl hkey).trans (h.rest key hkey)
    rw [h'.rest key hkey, View.over_assoc, View.over, View.over, hfirst]

/-- A view that was laid over a record can be laid over what results, unless it has a value for a
field under another key than the name under which the field is written by now. -/
theorem over_again (h : l.Shown extra (v.over w) r) (hr : l.Sound extra r)
    (honce : ∀ {β : Type} (f : Field ρ β), Has f l → ∀ k ∈ f.aliases, v k ≠ none →
      l.written extra r f.name = none) : l.Shown extra (v.over (l.written extra r)) r where
  fields := by
    refine each_iff.2 fun {β} f hf => ?_
    by_cases hnone : ∀ k ∈ f.keys, v k = none
    · exact ((hr.shown_written hl).reads hf).congr fun k hk =>
        View.over_of_none (hnone k hk)
    obtain ⟨key, hkey, hv⟩ : ∃ key ∈ f.keys, v key ≠ none := by simpa using hnone
    obtain ⟨j, hj⟩ := Option.ne_none_iff_exists'.1 hv
    obtain ⟨-, hothers⟩ := (h.reads hf).of_some hkey (View.over_of_some hj)
    refine (h.reads hf).congr fun k hk => ?_
    by_cases heq : k = key
    · rw [heq, View.over_of_some hj, View.over_of_some hj]
    have hbefore := hothers k hk heq
    have hwritten : l.written extra r k = none := by
      rcases hf.eq_name_or_mem_aliases hk with rfl | halias
      · exact honce f hf key ((List.mem_cons.1 hkey).resolve_left (Ne.symm heq)) hv
      · exact hr.free_written hl.keys k halias
    rw [hbefore, View.over_of_none (View.over_eq_none_iff.1 hbefore).1, hwritten]
  apart := h.apart
  rest key hkey := by
    cases hj : v key with
    | some j => rw [h.rest key hkey, View.over_of_some hj, View.over_of_some hj]
    | none => rw [View.over_of_none hj, hr.written_rest hl hkey]

/-- When a view is laid over again, the fields take what stands under their keys. -/
theorem taken_again (h : l.Shown extra (v.over w) r) (hr : l.Sound extra r) (hf : Has f l)
    (hkey : key ∈ f.keys) {j : Json} (hj : v.over (l.written extra r) key = some j) :
    ∃ b, f.codec.ofJson j = .ok b := by
  cases hv : v key with
  | some i =>
    have heq : some i = some j := (View.over_of_some hv).symm.trans hj
    exact ⟨_, ((h.reads hf).of_some hkey ((View.over_of_some hv).trans heq)).1⟩
  | none =>
    rw [View.over_of_none hv] at hj
    exact ⟨_, (((hr.shown_written hl).reads hf).of_some hkey hj).1⟩

end Shown

end

/-! ## Fields that stand there twice -/

/-- Of two keys of a field, one is not its name. -/
theorem Has.exists_mem_aliases {k k' : String} (hf : Has f l) (hne : k ≠ k') (hk : k ∈ f.keys)
    (hk' : k' ∈ f.keys) : ∃ key ∈ f.keys, key ∈ l.aliases := by
  rcases hf.eq_name_or_mem_aliases hk with rfl | halias
  · rcases hf.eq_name_or_mem_aliases hk' with rfl | halias
    · exact absurd rfl hne
    · exact ⟨k', hk', halias⟩
  · exact ⟨k, hk, halias⟩

/-- An object is refused because of a field that stands there twice, if this is the only field with
further keys and every field takes what stands under its keys. -/
theorem Lawful.ofJson_eq_duplicate (hl : l.Lawful extra) {ms : List (String × Json)}
    (hms : (ms.map (·.1)).Nodup) (hf : Has f l) (hsingle : l.aliases = f.aliases)
    (htaken : ∀ {β : Type} (g : Field ρ β), Has g l → ∀ k ∈ g.keys, ∀ j,
      (Json.obj ms).member k = some j → ∃ b, g.codec.ofJson j = .ok b)
    (hname : (Json.obj ms).member f.name ≠ none) {k : String} (hk : k ∈ f.aliases)
    (hkey : (Json.obj ms).member k ≠ none) :
    (Codec.openRecord name l extra).ofJson (.obj ms) = .error (.duplicateField f.name) := by
  have hmember {m : String × Json} (hm : m ∈ ms) : (Json.obj ms).member m.1 = some m.2 :=
    (Dict.lookup_eq_some_iff hms).2 hm
  have hcheck : ∀ m ∈ ms, ∀ s ∈ l.slots, s.answersTo m.1 → s.check m.2 = .ok () := by
    intro m hm s hs hans
    obtain ⟨β, g, hg, rfl⟩ := exists_has_of_mem_slots hs
    obtain ⟨b, hb⟩ := htaken g hg m.1 (Field.answersTo_iff.1 hans) m.2 (hmember hm)
    exact congrArg (Except.map fun _ => ()) hb
  have hdistinct : f.name ∉ f.aliases :=
    (List.nodup_cons.1 (hl.keys.sublist hf.keys_sublist)).1
  cases hchecked : Codec.checkMembers l.slots [] ms with
  | ok _ =>
    obtain ⟨-, hpair⟩ := (Codec.checkMembers_eq_ok_iff hl.keys).1 hchecked
    obtain ⟨i, hi⟩ := Option.ne_none_iff_exists'.1 hname
    obtain ⟨j, hj⟩ := Option.ne_none_iff_exists'.1 hkey
    have heq := hf.eq_of_pairwise hpair (Dict.mem_of_lookup hi) (Dict.mem_of_lookup hj)
      List.mem_cons_self (List.mem_cons_of_mem _ hk)
    exact absurd ((Prod.mk.inj heq).1 ▸ hk) hdistinct
  | error e =>
    obtain ⟨s, hs, rfl, m, -, hm, htwice⟩ :=
      Codec.exists_pair_of_checkMembers_eq_error hcheck hl.keys hchecked
    obtain ⟨m', hsub, hm'⟩ := htwice.resolve_left List.not_mem_nil
    have hne : m'.1 ≠ m.1 := by
      have hpair := hms.sublist (hsub.map (·.1))
      simpa using hpair
    obtain ⟨β, g, hg, rfl⟩ := exists_has_of_mem_slots hs
    obtain ⟨key, hans, halias⟩ := hg.exists_mem_aliases hne (Field.answersTo_iff.1 hm')
      (Field.answersTo_iff.1 hm)
    rw [hsingle] at halias
    have hslot : g.slot = f.slot := eq_of_answersTo hl.keys hs hf.slot_mem
      (Field.answersTo_iff.2 hans) (Field.answersTo_iff.2 (List.mem_cons_of_mem _ halias))
    have hnames : g.slot.name = f.name := congrArg Slot.name hslot
    simp only [Codec.openRecord, Codec.openRecordOf, hchecked, hnames]
    rfl

end Layout

end DataPipeline
