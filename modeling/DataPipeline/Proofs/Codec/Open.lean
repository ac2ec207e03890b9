import DataPipeline.Proofs.Codec.Reading

/-!
# Records that keep further keys

A record that is read from a sorted object survives, and its further members are those of the object
whose keys belong to no field. When it is written they stand beside the fields, in whose way they
never get. What this asks of a record is the same for all of them and collected in `Layout.Lawful`.

## Main definitions

* `Layout.Lawful`: the keys differ, and a record is made up of its fields and the further members
* `Layout.Sound`: the records that survive
* `Layout.Has`: the fields of a layout

## Main results

* `Layout.Sound.survives`: what is sound survives
* `Layout.Lawful.each_of_ofJson`: the fields and further members of a record that is read
* `Layout.Lawful.sound_of_ofJson`: what is read is sound
* `Layout.Sound.member_toJson`: a sound record writes its further members as they are
* `Layout.Has.member_sorted`: what stands under the name of a text field
-/
namespace DataPipeline

open Json

variable {ρ : Type} {l : Layout ρ (Dict Json → ρ)} {extra : ρ → Dict Json} {name : String} {r : ρ}

namespace Layout

/-- No two fields share a key, fields and further members make up the record, which has the values
and members that it is made of, and the fields keep the values that they can have. -/
structure Lawful (l : Layout ρ (Dict Json → ρ)) (extra : ρ → Dict Json) : Prop where
  keys : l.keys.Nodup
  build (r : ρ) : l.build r (extra r) = r
  restores (vs : l.Values) (d : Dict Json) :
    l.values (l.apply vs d) = vs ∧ extra (l.apply vs d) = d
  keeps (r : ρ) : l.Each (fun _ => Field.Given) r → l.Keeps r

/-- The fields are kept, and the further members are sorted values under keys of their own. -/
structure Sound (l : Layout ρ (Dict Json → ρ)) (extra : ρ → Dict Json) (r : ρ) : Prop where
  keeps : l.Keeps r
  apart : ∀ m ∈ (extra r).entries, m.1 ∉ l.keys
  sorted : ∀ m ∈ (extra r).entries, Sorted m.2

theorem Sound.survives (h : l.Sound extra r) (hl : l.Lawful extra) :
    (Codec.openRecord name l extra).Survives r :=
  Codec.survives_openRecord hl.keys (hl.build r) h.keeps h.apart h.sorted

/-! ## The further members -/

theorem mem_rest {ms : List (String × Json)} {m : String × Json}
    (hm : m ∈ (Codec.rest l.slots ms).entries) : m ∈ ms ∧ m.1 ∉ l.keys := by
  obtain ⟨hms, hnot⟩ := List.mem_filter.1 (Dict.mem_of_mem_ofList hm)
  exact ⟨hms, fun hkey => by simp [any_slots_iff.2 hkey] at hnot⟩

/-- The further members are those of the object. -/
theorem find?_rest {ms : List (String × Json)} (hms : (ms.map (·.1)).Nodup) {key : String}
    (hkey : key ∉ l.keys) : (Codec.rest l.slots ms).find? key = Dict.lookup key ms := by
  have hsub : (ms.filter fun m => !l.slots.any (·.answersTo m.1)).map (·.1) |>.Nodup :=
    hms.sublist (List.filter_sublist.map _)
  refine Option.ext fun j => ?_
  rw [Codec.rest, Dict.find?_ofList hsub, Dict.lookup_eq_some_iff hsub, Dict.lookup_eq_some_iff hms,
    List.mem_filter]
  have hnot : l.slots.any (·.answersTo key) = false := by simpa [← any_slots_iff] using hkey
  simp [hnot]

/-- A record that is read from an object has the values that its fields get from the members, and
the further members. -/
theorem Lawful.each_of_ofJson (hl : l.Lawful extra) {ms : List (String × Json)}
    (h : (Codec.openRecord name l extra).ofJson (.obj ms) = .ok r) :
    l.Each (fun _ f b => f.ofMembers ms = .ok b) r ∧ extra r = Codec.rest l.slots ms := by
  obtain ⟨vs, hvs, rfl⟩ := Codec.exists_values_of_openRecord h
  obtain ⟨hvalues, hextra⟩ := hl.restores vs (Codec.rest l.slots ms)
  refine ⟨?_, hextra⟩
  rwa [Each, hvalues]

/-- A record that is read from a sorted document is sound, and keeps what no field takes. -/
theorem Lawful.sound_of_ofJson (hl : l.Lawful extra) {j : Json} (hj : Sorted j)
    (h : (Codec.openRecord name l extra).ofJson j = .ok r) :
    l.Sound extra r ∧ ∀ key, key ∉ l.keys → (extra r).find? key = j.member key := by
  cases j with
  | obj ms =>
    obtain ⟨hfields, hextra⟩ := hl.each_of_ofJson h
    have htake : Slot.TakeMembers l.slots ms := (Codec.fits_of_sorted hj).members rfl
    have hgiven : l.Each (fun _ => Field.Given) r := hfields.imp fun f b hf hb =>
      Field.given_of_ofMembers hb fun m hm => htake m hm f.slot hf
    rw [hextra]
    refine ⟨⟨hl.keeps r hgiven, fun m hm => ?_, fun m hm => ?_⟩, fun key hkey => ?_⟩
    · exact (mem_rest (hextra ▸ hm)).2
    · exact hj.of_mem_obj (mem_rest (hextra ▸ hm)).1
    · exact find?_rest hj.nodup_keys hkey
  | _ => cases h

/-! ## Written records -/

/-- Under each key an open record is written with its further member, or else with the last of its
fields that have the key. -/
theorem member_sorted_openRecord (l : Layout ρ (Dict Json → ρ)) (extra : ρ → Dict Json)
    (name key : String) (r : ρ) :
    ((Codec.openRecord name l extra).toJson r).sorted.member key =
      (((extra r).find? key).or (Dict.lookup key (l.toMembers r).reverse)).map Json.sorted := by
  have hextra : Dict.lookup key (extra r).entries.reverse = (extra r).find? key :=
    Dict.lookup_eq_of_perm (List.reverse_perm _)
      (((List.reverse_perm _).map _).nodup_iff.2 (extra r).nodup_keys) key
  have hsorted : ((Codec.openRecord name l extra).toJson r).sorted =
      .ofDict (Dict.ofList ((l.toMembers r ++ (extra r).entries).map fun m => (m.1, m.2.sorted))) :=
    Json.sorted_obj _
  have hfind (d : Dict Json) : (Json.ofDict d).member key = d.find? key := rfl
  rw [hsorted, hfind, Dict.ofList, Dict.find?_overlayList, ← List.map_reverse, Dict.lookup_map,
    List.reverse_append, Dict.lookup_append, hextra]
  exact Option.or_none

/-- A record is written with its fields, and its further members beside them. -/
theorem member_sorted_toJson (hkeys : l.keys.Nodup)
    (hapart : ∀ m ∈ (extra r).entries, m.1 ∉ l.keys) (key : String) :
    ((Codec.openRecord name l extra).toJson r).sorted.member key =
      ((Dict.lookup key (l.toMembers r)).or ((extra r).find? key)).map Json.sorted := by
  refine (member_sorted (l.nodup_members hkeys hapart) key).trans ?_
  exact congrArg (·.map Json.sorted) (Dict.lookup_append key _ _)

theorem lookup_toMembers_eq_none {α : Type} {l : Layout ρ α} {key : String} (hkey : key ∉ l.keys) :
    Dict.lookup key (l.toMembers r) = none :=
  Dict.lookup_eq_none_iff.2 fun _ hm heq => hkey (heq ▸ fst_mem_keys_of_mem_toMembers hm)

/-- Under a key of no field a record is written with its further member. -/
theorem Sound.member_toJson (h : l.Sound extra r) (hl : l.Lawful extra) {key : String}
    (hkey : key ∉ l.keys) :
    ((Codec.openRecord name l extra).toJson r).sorted.member key = (extra r).find? key := by
  rw [member_sorted_toJson hl.keys h.apart, lookup_toMembers_eq_none hkey, Option.none_or]
  cases hfind : (extra r).find? key with
  | none => rfl
  | some j => exact congrArg some (h.sorted _ (Dict.mem_of_lookup hfind)).sorted_eq

/-! ## The written fields -/

/-- The field is one of the layout. -/
inductive Has {β : Type} (f : Field ρ β) : {α : Type} → Layout ρ α → Prop
  | last {α : Type} (l : Layout ρ (β → α)) : Has f (l.field f)
  | before {α γ : Type} {l : Layout ρ (γ → α)} (h : Has f l) (g : Field ρ γ) : Has f (l.field g)

theorem each_iff {α : Type} {l : Layout ρ α} {P : (β : Type) → Field ρ β → β → Prop} :
    l.Each P r ↔ ∀ {β : Type} (f : Field ρ β), Has f l → P β f (f.get r) := by
  induction l with
  | make a =>
    refine ⟨fun _ β f hf => ?_, fun _ => trivial⟩
    cases hf
  | field l g ih =>
    refine ⟨fun h β f hf => ?_, fun h => ⟨ih.2 fun f hf => h f (hf.before g), h g (.last l)⟩⟩
    cases hf with
    | last => exact h.2
    | before hf => exact ih.1 h.1 f hf

theorem Has.name_mem_keys {α β : Type} {f : Field ρ β} {l : Layout ρ α} (h : Has f l) :
    f.name ∈ l.keys := by
  induction h with
  | last l => exact List.mem_append_right _ List.mem_cons_self
  | before _ g ih => exact List.mem_append_left _ ih

/-- Among all that is written of a record the name of a field leads to this field. -/
theorem Has.lookup_toMembers {α β : Type} {f : Field ρ β} {l : Layout ρ α} (h : Has f l)
    (hkeys : l.keys.Nodup) :
    Dict.lookup f.name (l.toMembers r) = Dict.lookup f.name (f.toMembers r) := by
  induction h with
  | last l =>
    obtain ⟨-, -, hdisjoint⟩ := List.nodup_append.1 hkeys
    have hnone : Dict.lookup f.name (l.toMembers r) = none :=
      Dict.lookup_eq_none_iff.2 fun m hm =>
        hdisjoint m.1 (fst_mem_keys_of_mem_toMembers hm) f.name List.mem_cons_self
    rw [toMembers, Dict.lookup_append, hnone, Option.none_or]
  | before h g ih =>
    obtain ⟨hl, -, hdisjoint⟩ := List.nodup_append.1 hkeys
    have hnone : Dict.lookup f.name (g.toMembers r) = none :=
      Dict.lookup_eq_none_iff.2 fun m hm =>
        (hdisjoint f.name h.name_mem_keys m.1 (Field.fst_mem_keys_of_mem_toMembers hm)).symm
    rw [toMembers, Dict.lookup_append, hnone, Option.or_none, ih hl]

/-- A text field is written as the text that it has. A further member with its key gets in the
way. -/
theorem Has.member_sorted {key : String} {get : ρ → Option String}
    (h : Has (Field.optional key .text get) l) (hkeys : l.keys.Nodup) :
    ((Codec.openRecord name l extra).toJson r).sorted.member key =
      (((extra r).find? key).map Json.sorted).or ((get r).map .str) := by
  have hreverse : Dict.lookup key (l.toMembers r).reverse = Dict.lookup key (l.toMembers r) :=
    (Dict.lookup_eq_of_perm (List.reverse_perm _).symm (l.nodup_toMembers hkeys) key).symm
  have hfield : Dict.lookup key (l.toMembers r) = (get r).map .str := by
    refine (h.lookup_toMembers hkeys).trans ?_
    cases hget : get r with
    | none => simp [Field.toMembers, Field.optional, hget, Dict.lookup]
    | some s =>
      simp [Field.toMembers, Field.optional, hget, Dict.lookup, Codec.optional, Codec.text]
  rw [member_sorted_openRecord, hreverse, hfield]
  cases (extra r).find? key with
  | some j => rfl
  | none => cases get r <;> simp [Json.sorted]

end Layout

end DataPipeline
