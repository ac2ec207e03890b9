import DataPipeline.Proofs.Codec.Survival
import DataPipeline.Proofs.Json.Reading

/-!
# Values that are read

What a codec reads is a sorted value, or was scanned by the codec itself. In either case the untyped
values inside of it are sorted, so that nothing about them depends on the order of members. For a
record this is said field by field: what is read is made of a value for each field, and these are
values that the fields can have.

## Main definitions

* `Scan.Source`: the documents that a codec is given; `Codec.Given`: the values that it reads
* `Layout.Values`, `Layout.apply`: a value for each field, and what is made of them
* `Layout.Every`, `Layout.Each`: a property of every field and its value

## Main results

* `Codec.sorted_of_given_any`, `Codec.given_of_mem_list`, `Codec.given_of_optional`: the parts of
  what is read
* `Codec.each_of_given_record`, `Codec.exists_values_of_openRecord`: the values that records
  are made of
* `Codec.given_of_ofText`: whole texts
-/
namespace DataPipeline

open Json Json.Reader

variable {ρ α β : Type}

/-! ## Documents that are given to a codec -/

/-- An untyped value or a scanned one. -/
def Scan.Source (scan : Scan) (j : Json) : Prop :=
  Sorted j ∨ ∃ depth cs rest, (scan depth).run cs = .ok (j, rest)

namespace Scan.Source

variable {scan : Scan} {j : Json} {P : Json → Prop}

theorem of_yields (h : scan.Source j) (hsorted : Sorted j → P j)
    (hscan : ∀ depth, (scan depth).Yields P) : P j := by
  rcases h with h | ⟨depth, cs, rest, hrun⟩
  · exact hsorted h
  · exact hscan depth cs j rest hrun

end Scan.Source

theorem yields_source (scan : Scan) (depth : Nat) : (scan depth).Yields scan.Source :=
  fun cs _ rest hrun => .inr ⟨depth, cs, rest, hrun⟩

namespace Codec

variable {c : Codec α} {a : α} {P : Json → Prop}

/-- The codec reads the value. -/
def Given (c : Codec α) (a : α) : Prop := ∃ j, c.scan.Source j ∧ c.ofJson j = .ok a

theorem yields_scanLeaf (check : Json → Except ShapeError α) (depth : Nat) :
    (scanLeaf check depth).Yields Sorted := by
  have hshallow : scanShallow.Yields Sorted := by
    refine yields_bind fun c => yields_ite (fun _ => yields_pure (.arr (by simp))) fun _ => ?_
    refine yields_ite (fun _ => yields_pure (.obj .nil (by simp))) fun _ => ?_
    exact yields_readScalar c
  exact hshallow.bind fun j hj => yields_bind fun _ => yields_pure hj

theorem yields_enter {inside : Scan} (h : ∀ depth, (inside depth).Yields P) (depth : Nat) :
    (enter depth inside).Yields P := by
  cases depth with
  | zero => exact yields_refuse _
  | succ depth => exact yields_bind fun _ => h depth

/-! ## Codecs made of codecs -/

theorem sorted_of_given_any {j : Json} (h : any.Given j) : Sorted j := by
  obtain ⟨i, hi, hread⟩ := h
  obtain rfl := Except.ok.inj hread
  exact hi.of_yields id yields_readValue

theorem sorted_of_given_dict {d : Dict Json} (h : dict.Given d) {m : String × Json}
    (hm : m ∈ d.entries) : Sorted m.2 := by
  obtain ⟨j, hj, hread⟩ := h
  have hsorted : Sorted j := by
    refine hj.of_yields id fun depth => yields_bind fun c => ?_
    exact yields_ite (fun _ => yields_readValue depth) fun _ => yields_scanLeaf dictOf depth
  cases j with
  | obj members =>
    obtain rfl := Except.ok.inj hread
    exact hsorted.of_mem_obj (Dict.mem_of_mem_ofList hm)
  | _ => cases hread

theorem given_of_refine {f : α → Except ShapeError β} {g : β → α} {b : β}
    (h : (c.refine f g).Given b) : ∃ a, c.Given a ∧ f a = .ok b := by
  obtain ⟨j, hj, hread⟩ := h
  have hsource : c.scan.Source j := by
    refine hj.of_yields .inl fun depth => (yields_source c.scan depth).bind fun i hi => ?_
    exact yields_bind fun _ => yields_pure hi
  obtain ⟨a, hc, hf⟩ := exists_of_bind_eq_ok hread
  exact ⟨a, ⟨j, hsource, hc⟩, hf⟩

/-- An optional value that is there was read from something other than `null`. -/
theorem given_of_optional (h : c.optional.Given (some a)) :
    ∃ j, j ≠ .null ∧ c.scan.Source j ∧ c.ofJson j = .ok a := by
  obtain ⟨j, hj, hread⟩ := h
  have hsource : j = .null ∨ c.scan.Source j := by
    refine hj.of_yields (P := fun j => j = .null ∨ c.scan.Source j) (fun h => .inr (.inl h)) ?_
    refine fun depth => yields_bind fun first => yields_ite (fun _ => ?_) fun _ => ?_
    rotate_left
    · exact (yields_source c.scan depth).mono fun _ => .inr
    exact yields_ite (fun _ => yields_bind fun _ => yields_pure (.inl rfl)) fun h => absurd rfl h
  have hnull : j ≠ .null := by
    rintro rfl
    cases hread
  have hmap : (c.ofJson j).map some = .ok (some a) := by
    cases j with
    | null => exact absurd rfl hnull
    | _ => exact hread
  obtain ⟨b, hb, heq⟩ := exists_of_map_eq_ok hmap
  exact ⟨j, hnull, hsource.resolve_left hnull, hb.trans (congrArg _ (Option.some.inj heq))⟩

theorem given_of_mem_list {as : List α} (h : c.list.Given as) (ha : a ∈ as) : c.Given a := by
  obtain ⟨j, hj, hread⟩ := h
  let P (j : Json) := ∀ items, j = .arr items → ∀ i ∈ items, c.scan.Source i
  have hsorted : ∀ j, Sorted j → P j := by
    rintro _ hj items rfl i hi
    exact .inl (hj.of_mem_arr hi)
  have hsource : P j := by
    refine hj.of_yields (hsorted j) fun depth => yields_bind fun first => ?_
    refine yields_ite (fun _ => yields_enter (fun depth => ?_) depth) fun _ => ?_
    · refine (yields_readItems (yields_source c.scan depth)).bind fun items hitems => ?_
      exact yields_pure fun _ heq => Json.arr.inj heq ▸ hitems
    · exact (yields_scanLeaf (listOf c) depth).mono hsorted
  cases j with
  | arr items =>
    obtain ⟨i, hi, hia⟩ := exists_of_mem_mapM hread ha
    exact ⟨i, hsource items rfl i hi, hia⟩
  | _ => cases hread

end Codec

/-! ## Fields and layouts -/

/-- The members of an object are given to the fields that answer to their keys. -/
def Slot.TakeMembers (slots : List Slot) (ms : List (String × Json)) : Prop :=
  ∀ m ∈ ms, ∀ s ∈ slots, s.answersTo m.1 → s.scan.Source m.2

/-- The items of a list are given to the fields at their places. -/
def Slot.TakeItems (slots : List Slot) (items : List Json) : Prop :=
  ∀ (i : Nat) (j : Json) (s : Slot), items[i]? = some j → slots[i]? = some s → s.scan.Source j

/-- The field can have the value: it is read, or stands in for a field that is not there. -/
def Field.Given (f : Field ρ β) (b : β) : Prop :=
  f.codec.Given b ∨ f.absent = some b ∨ f.short = some b

namespace Field

variable {name : String} {c : Codec β}

/-- A field that need not be there has a value that was read, or the one that stands in for it. -/
theorem given_or_eq {f : Field ρ β} {value b : β} (habsent : f.absent = some value)
    (hshort : f.short = some value) (h : f.Given b) : f.codec.Given b ∨ b = value := by
  rcases h with h | h | h
  · exact .inl h
  · exact .inr (Option.some.inj (h.symm.trans habsent))
  · exact .inr (Option.some.inj (h.symm.trans hshort))

theorem keeps_items_of_given {get : ρ → List β} {bs : List β} (h : (items name c get).Given bs)
    (hc : ∀ b, c.Given b → c.Survives b) : (items name c get).Keeps bs := by
  refine keeps_items fun b hb => hc b ?_
  rcases given_or_eq rfl rfl h with h | rfl
  · exact Codec.given_of_mem_list h hb
  · cases hb

theorem keeps_dict_of_given {get : ρ → Dict Json} {d : Dict Json}
    (h : (dict name get).Given d) : (dict name get).Keeps d := by
  refine keeps_dict fun m hm => ?_
  rcases given_or_eq rfl rfl h with h | rfl
  · exact Codec.sorted_of_given_dict h hm
  · cases hm

/-- What a field gets from the members of an object is a value that it can have. -/
theorem given_of_ofMembers {f : Field ρ β} {b : β} {ms : List (String × Json)}
    (h : f.ofMembers ms = .ok b)
    (hms : ∀ m ∈ ms, f.answersTo m.1 → f.codec.scan.Source m.2) : f.Given b := by
  rw [ofMembers] at h
  split at h
  · rename_i m hm
    have hanswers := List.find?_some hm
    exact .inl ⟨m.2, hms m (List.mem_of_find?_eq_some hm) hanswers, h⟩
  · split at h
    · rename_i b' habsent
      exact .inr (.inl (habsent.trans (congrArg _ (Except.ok.inj h))))
    · cases h

/-- An optional untyped value is sorted and not `null` when it is there. -/
theorem sorted_of_given {get : ρ → Option Json} {o : Option Json}
    (h : (optional name .any get).Given o) : ∀ j, o = some j → Sorted j ∧ j ≠ .null := by
  rintro j rfl
  rcases h with h | h | h
  · obtain ⟨i, hi, hsource, hread⟩ := Codec.given_of_optional h
    obtain rfl := Except.ok.inj hread
    exact ⟨Codec.sorted_of_given_any ⟨i, hsource, rfl⟩, hi⟩
  all_goals cases h

end Field

namespace Layout

/-- A value for each field. -/
def Values : {α : Type} → Layout ρ α → Type
  | _, make _ => Unit
  | _, field (β := β) l _ => l.Values × β

/-- What the layout makes of values. -/
def apply : {α : Type} → (l : Layout ρ α) → l.Values → α
  | _, make a, _ => a
  | _, field l _, vs => l.apply vs.1 vs.2

/-- The values that a record has. -/
def values : {α : Type} → (l : Layout ρ α) → ρ → l.Values
  | _, make _, _ => ()
  | _, field l f, r => (l.values r, f.get r)

/-- The property holds of every field and its value. -/
def Every (P : (β : Type) → Field ρ β → β → Prop) : {α : Type} → (l : Layout ρ α) → l.Values → Prop
  | _, make _, _ => True
  | _, field l f, vs => l.Every P vs.1 ∧ P _ f vs.2

/-- The property holds of every field and the value that the record has. -/
def Each (P : (β : Type) → Field ρ β → β → Prop) (l : Layout ρ α) (r : ρ) : Prop :=
  l.Every P (l.values r)

variable {l : Layout ρ α} {vs : l.Values} {P Q : (β : Type) → Field ρ β → β → Prop} {a : α}

theorem Every.imp (h : l.Every P vs)
    (hPQ : ∀ {β : Type} (f : Field ρ β) (b : β), f.slot ∈ l.slots → P β f b → Q β f b) :
    l.Every Q vs := by
  induction l with
  | make a => trivial
  | field l f ih =>
    exact ⟨ih h.1 fun f b hf => hPQ f b (List.mem_append_left _ hf),
      hPQ f vs.2 (by simp [slots]) h.2⟩

theorem length_slots (l : Layout ρ α) : l.slots.length = l.size := by
  induction l with
  | make a => rfl
  | field l f ih => rw [slots, List.length_append, ih, List.length_singleton, size]

/-- Only one field answers to a key. -/
theorem eq_of_answersTo (hkeys : l.keys.Nodup) {s s' : Slot} (hs : s ∈ l.slots) (hs' : s' ∈ l.slots)
    {key : String} (h : s.answersTo key) (h' : s'.answersTo key) : s = s' := by
  induction l with
  | make a => cases hs
  | field l f ih =>
    obtain ⟨hl, -, hlf⟩ := List.nodup_append.1 hkeys
    have hin {s : Slot} (hs : s ∈ l.slots) (h : s.answersTo key) : key ∈ l.keys :=
      any_slots_iff.1 (List.any_eq_true.2 ⟨s, hs, h⟩)
    rcases List.mem_append.1 hs with hs | hs <;> rcases List.mem_append.1 hs' with hs' | hs'
    · exact ih hl hs hs'
    · obtain rfl := List.mem_singleton.1 hs'
      exact absurd rfl (hlf key (hin hs h) key (Field.answersTo_iff.1 h'))
    · obtain rfl := List.mem_singleton.1 hs
      exact absurd rfl (hlf key (hin hs' h') key (Field.answersTo_iff.1 h))
    · exact (List.mem_singleton.1 hs).trans (List.mem_singleton.1 hs').symm

/-- What is made of the members of an object is made of the values that the fields get from them. -/
theorem exists_values_of_ofMembers {ms : List (String × Json)} (h : l.ofMembers ms = .ok a) :
    ∃ vs : l.Values, l.Every (fun _ f b => f.ofMembers ms = .ok b) vs ∧ l.apply vs = a := by
  induction l with
  | make b => exact ⟨(), trivial, Except.ok.inj h⟩
  | field l f ih =>
    obtain ⟨g, hg, h⟩ := exists_of_bind_eq_ok h
    obtain ⟨b, hb, h⟩ := exists_of_bind_eq_ok h
    obtain ⟨vs, hvs, rfl⟩ := ih hg
    exact ⟨(vs, b), ⟨hvs, hb⟩, Except.ok.inj h⟩

theorem exists_values_of_ofItems {items : List Json} {tooShort : Nat → ShapeError}
    (h : l.ofItems items tooShort = .ok a) (hitems : Slot.TakeItems l.slots items) :
    ∃ vs : l.Values, l.Every (fun _ => Field.Given) vs ∧ l.apply vs = a := by
  induction l with
  | make b => exact ⟨(), trivial, Except.ok.inj h⟩
  | field l f ih =>
    obtain ⟨g, hg, h⟩ := exists_of_bind_eq_ok h
    have hlast : (l.field f).slots[l.size]? = some f.slot := by
      rw [slots, ← l.length_slots, List.getElem?_concat_length]
    have hinit : Slot.TakeItems l.slots items := by
      intro i j s hj hs
      refine hitems i j s hj ?_
      rw [slots, List.getElem?_append_left (List.getElem?_eq_some_iff.1 hs).1, hs]
    obtain ⟨vs, hvs, rfl⟩ := ih hg hinit
    split at h
    · rename_i j hj
      obtain ⟨b, hb, h⟩ := exists_of_bind_eq_ok h
      have hgiven : f.Given b := .inl ⟨j, hitems l.size j f.slot hj hlast, hb⟩
      exact ⟨(vs, b), ⟨hvs, hgiven⟩, Except.ok.inj h⟩
    · split at h
      · rename_i b hshort
        exact ⟨(vs, b), ⟨hvs, .inr (.inr hshort)⟩, Except.ok.inj h⟩
      · cases h

end Layout

/-! ## Records -/

namespace Codec

variable {name : String} {r : ρ}

/-- The members and items of a document are given to the fields that they belong to. -/
structure Fits (slots : List Slot) (j : Json) : Prop where
  members {ms : List (String × Json)} : j = .obj ms → Slot.TakeMembers slots ms
  items {items : List Json} : j = .arr items → Slot.TakeItems slots items

theorem fits_of_sorted {slots : List Slot} {j : Json} (h : Sorted j) : Fits slots j where
  members heq _ hm _ _ _ := .inl ((heq ▸ h).of_mem_obj hm)
  items heq _ _ _ hj _ := .inl ((heq ▸ h).of_mem_arr (List.mem_of_getElem? hj))

theorem yields_scanMembers {slots : List Slot} (other : Nat → Reader (Option Json))
    (huniq : ∀ s ∈ slots, ∀ s' ∈ slots, ∀ key, s.answersTo key → s'.answersTo key → s = s')
    (depth : Nat) : (scanMembers slots other depth).Yields (Fits slots) := by
  let P (known : List String × List (String × Json)) := Slot.TakeMembers slots known.2
  have hnil : P ([], []) := by simp [P, Slot.TakeMembers]
  refine (yields_foldMembers (fun known key hknown => ?_) hnil).bind fun known hknown => ?_
  · split
    · rename_i s hs
      have hkey := List.find?_some hs
      refine yields_ite (fun _ => yields_throw_bind _ _) fun _ => yields_bind fun _ => ?_
      refine (yields_source s.scan depth).bind fun j hj => yields_pure fun m hm s' hs' hkey' => ?_
      rcases List.mem_cons.1 hm with rfl | hm
      · exact huniq s (List.mem_of_find?_eq_some hs) s' hs' key hkey hkey' ▸ hj
      · exact hknown m hm s' hs' hkey'
    · rename_i hnone
      refine yields_bind fun _ => yields_bind fun o => ?_
      cases o with
      | none => exact yields_pure hknown
      | some j =>
        refine yields_pure fun m hm s hs hkey => ?_
        rcases List.mem_cons.1 hm with rfl | hm
        · exact absurd hkey (List.find?_eq_none.1 hnone s hs)
        · exact hknown m hm s hs hkey
  · refine yields_pure ⟨fun heq m hm => ?_, fun heq => by cases heq⟩
    obtain rfl := Json.obj.inj heq
    exact hknown m (List.mem_reverse.1 hm)

theorem yields_scanSlots (depth : Nat) (first : Bool) (slots : List Slot) :
    (scanSlots depth first slots).Yields (Slot.TakeItems slots) := by
  induction slots generalizing first with
  | nil => exact yields_pure (by simp [Slot.TakeItems])
  | cons s slots ih =>
    refine yields_bind fun more => yields_ite (fun _ => ?_) fun _ => ?_
    rotate_left
    · exact yields_pure (by simp [Slot.TakeItems])
    refine (yields_source s.scan depth).bind fun j hj => (ih false).bind fun items hitems => ?_
    refine yields_pure fun i j' s' hj' hs' => ?_
    cases i with
    | zero =>
      obtain rfl := Option.some.inj hj'
      obtain rfl := Option.some.inj hs'
      exact hj
    | succ i => exact hitems i j' s' hj' hs'

theorem yields_scanFields {slots : List Slot} (check : Json → Except ShapeError α) (depth : Nat) :
    (scanFields slots check depth).Yields (Fits slots) := by
  refine (yields_scanSlots depth true slots).bind fun items hitems => ?_
  refine yields_bind fun _ => yields_bind fun _ => yields_pure ⟨?_, ?_⟩
  · rintro _ heq
    cases heq
  · exact fun heq => Json.arr.inj heq ▸ hitems

/-- A record that is read has values that its fields can have. -/
theorem each_of_given_record {l : Layout ρ ρ} (hkeys : l.keys.Nodup)
    (hvalues : ∀ vs, l.values (l.apply vs) = vs) (h : (record name l).Given r) :
    l.Each (fun _ => Field.Given) r := by
  obtain ⟨j, hj, hread⟩ := h
  have hfits : Fits l.slots j := by
    refine hj.of_yields fits_of_sorted fun depth => yields_bind fun c => ?_
    refine yields_ite (fun _ => ?_) fun _ => yields_ite (fun _ => ?_) fun _ => ?_
    · exact yields_enter (yields_scanFields (recordOf name l)) depth
    · have hmembers := yields_scanMembers skipOther fun s hs s' hs' _ =>
        Layout.eq_of_answersTo hkeys hs hs'
      refine (yields_enter hmembers depth).bind fun j hj => ?_
      exact yields_bind fun _ => yields_pure hj
    · exact (yields_scanLeaf (recordOf name l) depth).mono fun _ => fits_of_sorted
  obtain ⟨vs, hvs, rfl⟩ : ∃ vs, l.Every (fun _ => Field.Given) vs ∧ l.apply vs = r := by
    cases j with
    | obj ms =>
      obtain ⟨_, -, hread⟩ := exists_of_bind_eq_ok hread
      obtain ⟨vs, hvs, hr⟩ := Layout.exists_values_of_ofMembers hread
      refine ⟨vs, hvs.imp fun f b hf hb => Field.given_of_ofMembers hb fun m hm => ?_, hr⟩
      exact hfits.members rfl m hm f.slot hf
    | arr items =>
      obtain ⟨r', hr', hread⟩ := exists_of_bind_eq_ok hread
      have hr : r' = r := by
        split at hread
        · cases hread
        · exact Except.ok.inj hread
      exact Layout.exists_values_of_ofItems (hr ▸ hr') (hfits.items rfl)
    | _ => cases hread
  rwa [Layout.Each, hvalues]

/-- An open record is made of the values that its fields get from an object and of the further
members. -/
theorem exists_values_of_openRecord {l : Layout ρ (Dict Json → ρ)} {extra : ρ → Dict Json}
    {ms : List (String × Json)} (h : (openRecord name l extra).ofJson (.obj ms) = .ok r) :
    ∃ vs : l.Values, l.Every (fun _ f b => f.ofMembers ms = .ok b) vs ∧
      l.apply vs (rest l.slots ms) = r := by
  obtain ⟨_, -, h⟩ := exists_of_bind_eq_ok h
  obtain ⟨f, hf, h⟩ := exists_of_bind_eq_ok h
  obtain ⟨vs, hvs, rfl⟩ := Layout.exists_values_of_ofMembers hf
  exact ⟨vs, hvs, Except.ok.inj h⟩

end Codec

/-! ## Whole texts -/

/-- What is read from a text was scanned. -/
theorem Codec.given_of_ofText {c : Codec α} {text : String} {a : α} (h : c.ofText text = .ok a) :
    c.Given a := by
  have hyields : (do Reader.accept (c.ofJson (← c.scan Json.maxDepth)) : Reader α).Yields
      c.Given := by
    refine (yields_source c.scan maxDepth).bind fun j hj => ?_
    exact (yields_accept (c.ofJson j)).mono fun a ha => ⟨j, hj, ha⟩
  exact of_document hyields h

end DataPipeline
