import DataPipeline.Proofs.Codec.Keywise
import DataPipeline.Proofs.Json.Narrowing

/-!
# Codecs that ask for more

A codec may read the documents that another one reads and ask for more of what they stand for. It
then reads the same texts as well, up to those that stand for nothing: a value that it refuses as
soon as it is scanned would be refused when the whole text had been scanned. Such codecs make lists
and records of the same sort.

## Main definitions

* `Codec.Decodes`, `Codec.Reliable`: documents that decode; codecs that find no other documents
* `Codec.Refines`, `Field.Refines`, `Slot.Refines`: codecs and fields that ask for more

## Main results

* `Codec.reliable_record`, `Codec.Reliable.list`: what is scanned decodes
* `Codec.refines_refine`, `Codec.Refines.list`, `Codec.refines_record`, `Codec.refines_pair`: codecs
  made of codecs
* `Codec.Refines.ofText_eq_ok_iff`: whole texts
-/
namespace DataPipeline

open Json Json.Reader

variable {ρ σ α β : Type}

/-! ## Documents that decode -/

namespace Codec

variable {c : Codec α} {d : Codec β} {j : Json}

/-- The document stands for a value. -/
def Decodes (c : Codec α) (j : Json) : Prop := ∃ a, c.ofJson j = .ok a

/-- What is scanned decodes. -/
def Reliable (c : Codec α) : Prop := ∀ depth, (c.scan depth).Yields c.Decodes

theorem ofText_eq_ok_iff {text : String} {a : α} :
    c.ofText text = .ok a ↔ ∃ j, document (c.scan maxDepth) text = .ok j ∧ c.ofJson j = .ok a := by
  have haccept (j : Json) (cs rest : List Char) :
      (accept (c.ofJson j)).run cs = .ok (a, rest) ↔ c.ofJson j = .ok a ∧ cs = rest := by
    cases c.ofJson j with
    | error e =>
      constructor
      · intro hrun
        cases hrun
      · rintro ⟨h, -⟩
        cases h
    | ok b =>
      constructor
      · intro hrun
        cases hrun
        exact ⟨rfl, rfl⟩
      · rintro ⟨h, rfl⟩
        cases h
        rfl
  simp only [ofText, document_eq_ok_iff, run_bind_eq_ok_iff, haccept]
  constructor
  · rintro ⟨rest, ⟨j, cs', hscan, hj, rfl⟩, hend⟩
    exact ⟨j, ⟨cs', hscan, hend⟩, hj⟩
  · rintro ⟨j, ⟨rest, hscan, hend⟩, hj⟩
    exact ⟨rest, ⟨j, rest, hscan, hj, rfl⟩, hend⟩

theorem yields_accept_bind {r : Except ShapeError α} {x : Reader β} {P : β → Prop}
    (h : ∀ a, r = .ok a → x.Yields P) : (accept r >>= fun _ => x).Yields P :=
  (yields_accept r).bind h

theorem yields_scanLeaf_decodes (check : Json → Except ShapeError α) (depth : Nat) :
    (scanLeaf check depth).Yields fun j => ∃ a, check j = .ok a :=
  yields_bind fun _ => yields_accept_bind fun a ha => yields_pure ⟨a, ha⟩

theorem reliable_record (name : String) (l : Layout ρ ρ) : (record name l).Reliable := by
  intro depth
  refine yields_bind fun c => yields_ite (fun _ => yields_enter (fun depth => ?_) depth) fun _ =>
    yields_ite (fun _ => ?_) fun _ => yields_scanLeaf_decodes (recordOf name l) depth
  · refine yields_bind fun items => yields_accept_bind fun r hr => yields_bind fun _ => ?_
    exact yields_pure ⟨r, hr⟩
  · exact yields_bind fun j => yields_accept_bind fun r hr => yields_pure ⟨r, hr⟩

theorem decodes_list_iff {items : List Json} :
    c.list.Decodes (.arr items) ↔ ∀ j ∈ items, c.Decodes j :=
  exists_mapM_eq_ok_iff

theorem Reliable.list (h : c.Reliable) : c.list.Reliable := by
  intro depth
  refine yields_bind fun first => yields_ite (fun _ => yields_enter (fun depth => ?_) depth)
    fun _ => yields_scanLeaf_decodes (listOf c) depth
  refine (yields_readItems (h depth)).bind fun items hitems => yields_pure ?_
  exact decodes_list_iff.2 hitems

/-! ## Codecs that ask for more -/

/-- `d` scans what `c` scans, up to what it does not decode, and decodes what `c` decodes as
something that `F` relates to it. -/
structure Refines (d : Codec β) (c : Codec α) (F : α → β → Prop) : Prop where
  scan : ∀ depth, (d.scan depth).Narrows (c.scan depth) d.Decodes
  ofJson : ∀ {j b}, d.ofJson j = .ok b ↔ ∃ a, c.ofJson j = .ok a ∧ F a b

variable {F : α → β → Prop}

theorem decodes_of_ofJson_iff
    (h : ∀ {j b}, d.ofJson j = .ok b ↔ ∃ a, c.ofJson j = .ok a ∧ F a b) (j : Json)
    (hj : d.Decodes j) : c.Decodes j := by
  obtain ⟨b, hb⟩ := hj
  obtain ⟨a, ha, -⟩ := h.1 hb
  exact ⟨a, ha⟩

/-- The same texts are read, up to those that stand for nothing. -/
theorem Refines.ofText_eq_ok_iff (h : d.Refines c F) {text : String} {b : β} :
    d.ofText text = .ok b ↔ ∃ a, c.ofText text = .ok a ∧ F a b := by
  simp only [Codec.ofText_eq_ok_iff, (h.scan maxDepth).document_eq_ok_iff]
  constructor
  · rintro ⟨j, ⟨hscan, -⟩, hj⟩
    obtain ⟨a, ha, hF⟩ := h.ofJson.1 hj
    exact ⟨a, ⟨j, hscan, ha⟩, hF⟩
  · rintro ⟨a, ⟨j, hscan, ha⟩, hF⟩
    have hj : d.ofJson j = .ok b := h.ofJson.2 ⟨a, ha, hF⟩
    exact ⟨j, ⟨hscan, b, hj⟩, hj⟩

theorem Reliable.refines_self (h : c.Reliable) : c.Refines c Eq where
  scan depth := narrows_self (h depth)
  ofJson := by simp

theorem refines_refine (c : Codec α) (f : α → Except ShapeError β) (g : β → α) :
    (c.refine f g).Refines c fun a b => f a = .ok b where
  scan depth := narrows_check (c.scan depth) (c.refine f g).ofJson
  ofJson {j b} := by
    constructor
    · exact exists_of_bind_eq_ok
    · rintro ⟨a, ha, hb⟩
      simp only [refine, ha]
      exact hb

/-- Leaves are checked at once. -/
theorem narrows_scanLeaf {check : Json → Except ShapeError β} {check' : Json → Except ShapeError α}
    (h : ∀ j, (∃ b, check j = .ok b) → ∃ a, check' j = .ok a) (depth : Nat) :
    (scanLeaf check depth).Narrows (scanLeaf check' depth) fun j => ∃ b, check j = .ok b :=
  narrows_bind fun j =>
    narrows_accept (h j) (yields_pure id) fun hj => narrows_self (yields_pure hj)

theorem narrows_enter {inside inside' : Scan} {P : Json → Prop}
    (h : ∀ depth, (inside depth).Narrows (inside' depth) P) (depth : Nat) :
    (enter depth inside).Narrows (enter depth inside') P := by
  cases depth with
  | zero => exact narrows_throw _ _
  | succ depth => exact narrows_bind fun _ => h depth

theorem Refines.ofJson_list_iff (h : d.Refines c F) {j : Json} {bs : List β} :
    d.list.ofJson j = .ok bs ↔ ∃ as, c.list.ofJson j = .ok as ∧ List.Forall₂ F as bs := by
  cases j with
  | arr items =>
    simp only [Codec.list, listOf, mapM_eq_ok_iff, h.ofJson]
    exact forall₂_exists_iff
  | _ =>
    constructor
    · intro hbs
      cases hbs
    · rintro ⟨as, has, -⟩
      cases has

theorem Refines.list (h : d.Refines c F) : d.list.Refines c.list (List.Forall₂ F) := by
  refine ⟨fun depth => ?_, h.ofJson_list_iff⟩
  refine narrows_bind fun first => narrows_ite (fun _ => narrows_enter (fun depth => ?_) depth)
    fun _ => narrows_scanLeaf (decodes_of_ofJson_iff h.ofJson_list_iff) depth
  have hitems := narrows_readItems (h.scan depth)
  simp only [← decodes_list_iff] at hitems
  exact hitems.map

end Codec

/-! ## Fields that ask for more -/

/-- Two fields have the same keys, and `s` asks for more than `t` of what stands there. -/
structure Slot.Refines (s t : Slot) : Prop where
  name : s.name = t.name
  answersTo : s.answersTo = t.answersTo
  scan : ∀ depth, (s.scan depth).Narrows (t.scan depth) fun j => s.check j = .ok ()

namespace Field

variable {f : Field ρ β} {g : Field σ α} {F : α → β → Prop} {b : β} {j : Json}

/-- The field gets the value from what is given for it, or without that from what stands in. -/
def Finds (f : Field ρ β) (given : Option Json) (otherwise : Option β) (b : β) : Prop :=
  match given with
  | some j => f.codec.ofJson j = .ok b
  | none => otherwise = some b

theorem ofMembers_eq_ok_iff {ms : List (String × Json)} :
    f.ofMembers ms = .ok b ↔
      f.Finds ((ms.find? fun m => f.answersTo m.1).map (·.2)) f.absent b := by
  rw [ofMembers]
  cases ms.find? fun m => f.answersTo m.1 with
  | some m => rfl
  | none => cases hf : f.absent <;> simp [Finds]

/-- Two fields have the same keys, and `f` reads what `g` reads as something related to it. -/
structure Refines (f : Field ρ β) (g : Field σ α) (F : α → β → Prop) : Prop where
  name : f.name = g.name
  aliases : f.aliases = g.aliases
  codec : f.codec.Refines g.codec F
  absent : ∀ {b}, f.absent = some b ↔ ∃ a, g.absent = some a ∧ F a b
  short : ∀ {b}, f.short = some b ↔ ∃ a, g.short = some a ∧ F a b

theorem check_slot_eq_ok_iff : f.slot.check j = .ok () ↔ f.codec.Decodes j := by
  constructor
  · intro h
    obtain ⟨b, hb, -⟩ := exists_of_map_eq_ok h
    exact ⟨b, hb⟩
  · rintro ⟨b, hb⟩
    exact congrArg (Except.map fun _ => ()) hb

namespace Refines

variable (h : f.Refines g F)
include h

theorem answersTo_eq : f.answersTo = g.answersTo := by
  funext key
  rw [Field.answersTo, Field.answersTo, h.name, h.aliases]

theorem slot : f.slot.Refines g.slot where
  name := h.name
  answersTo := h.answersTo_eq
  scan depth := by
    simp only [check_slot_eq_ok_iff]
    exact h.codec.scan depth

theorem finds_absent_iff {given : Option Json} :
    f.Finds given f.absent b ↔ ∃ a, g.Finds given g.absent a ∧ F a b := by
  cases given with
  | some j => exact h.codec.ofJson
  | none => exact h.absent

theorem finds_short_iff {given : Option Json} :
    f.Finds given f.short b ↔ ∃ a, g.Finds given g.short a ∧ F a b := by
  cases given with
  | some j => exact h.codec.ofJson
  | none => exact h.short

theorem ofMembers_iff {ms : List (String × Json)} :
    f.ofMembers ms = .ok b ↔ ∃ a, g.ofMembers ms = .ok a ∧ F a b := by
  simp only [ofMembers_eq_ok_iff, h.answersTo_eq]
  exact h.finds_absent_iff

end Refines

/-- What stands in for the one field stands in for the other one. -/
theorem Refines.orElse {name : String} {d : Codec β} {c : Codec α} {value : β} {value' : α}
    {get : ρ → β} {get' : σ → α} (h : d.Refines c F) (hvalue : ∀ b, F value' b ↔ value = b) :
    (orElse name d value get).Refines (orElse name c value' get') F where
  name := rfl
  aliases := rfl
  codec := h
  absent := by simp [Field.orElse, hvalue]
  short := by simp [Field.orElse, hvalue]

end Field

namespace Slot

variable {s : Slot} {slots slots' : List Slot} {j : Json} {ms : List (String × Json)}
  {items : List Json} {key : String}

/-- The fields that answer to the members take them. -/
def PassMembers (slots : List Slot) (ms : List (String × Json)) : Prop :=
  ∀ m ∈ ms, ∀ s, slots.find? (·.answersTo m.1) = some s → s.check m.2 = .ok ()

/-- The fields at the places of the items take them. -/
def PassItems (slots : List Slot) (items : List Json) : Prop :=
  ∀ (i : Nat) (s : Slot) (j : Json), slots[i]? = some s → items[i]? = some j → s.check j = .ok ()

theorem passMembers_cons : PassMembers slots ((key, j) :: ms) ↔
    (∀ s, slots.find? (·.answersTo key) = some s → s.check j = .ok ()) ∧ PassMembers slots ms :=
  List.forall_mem_cons

theorem passItems_cons : PassItems (s :: slots) (j :: items) ↔
    s.check j = .ok () ∧ PassItems slots items := by
  constructor
  · exact fun h => ⟨h 0 s j rfl rfl, fun i => h (i + 1)⟩
  · rintro ⟨hj, h⟩ i s' j' hs hj'
    cases i with
    | zero =>
      obtain rfl := Option.some.inj hs
      obtain rfl := Option.some.inj hj'
      exact hj
    | succ i => exact h i s' j' hs hj'

/-- The same field answers to a key. -/
theorem rel_find? (h : List.Forall₂ Slot.Refines slots slots') (key : String) :
    Option.Rel Slot.Refines (slots.find? (·.answersTo key)) (slots'.find? (·.answersTo key)) := by
  induction h with
  | nil => exact .none
  | @cons s t _ _ hst _ ih =>
    rw [List.find?_cons, List.find?_cons, ← hst.answersTo]
    cases s.answersTo key with
    | true => exact .some hst
    | false => exact ih

/-- The same keys belong to one field. -/
theorem apart_iff (h : List.Forall₂ Slot.Refines slots slots') (key key' : String) :
    (∀ s ∈ slots, s.answersTo key → ¬ s.answersTo key') ↔
      ∀ s ∈ slots', s.answersTo key → ¬ s.answersTo key' := by
  constructor
  · intro hslots t ht
    obtain ⟨s, hs, hst⟩ := exists_left_of_forall₂ h ht
    exact hst.answersTo ▸ hslots s hs
  · intro hslots s hs
    obtain ⟨t, ht, hst⟩ := exists_right_of_forall₂ h hs
    exact hst.answersTo ▸ hslots t ht

end Slot

namespace Codec

variable {slots slots' : List Slot} {check : Json → Except ShapeError α}
  {check' : Json → Except ShapeError β}

theorem narrows_scanMembers (h : List.Forall₂ Slot.Refines slots slots')
    (other : Nat → Reader (Option Json)) (depth : Nat) :
    (scanMembers slots other depth).Narrows (scanMembers slots' other depth) fun j =>
      ∀ ms, j = .obj ms → Slot.PassMembers slots ms := by
  -- The members that have been read pass at every moment. No later member takes that away, so that
  -- it can be asked for at once or at the end.
  let P (known : List String × List (String × Json)) := Slot.PassMembers slots known.2
  have hnil : P ([], []) := by simp [P, Slot.PassMembers]
  refine (narrows_foldMembers (P := P) (fun known key => ?_) (fun known key hknown => ?_) hnil).bind
    (fun known => yields_pure fun hpass => ?_) fun known hknown => narrows_self (yields_pure ?_)
  · split
    · refine yields_ite (fun _ => yields_throw_bind _ _) fun _ => yields_bind fun _ => ?_
      exact yields_bind fun j => yields_pure fun hpass => (Slot.passMembers_cons.1 hpass).2
    · refine yields_bind fun _ => yields_bind fun o => ?_
      cases o with
      | none => exact yields_pure id
      | some j => exact yields_pure fun hpass => (Slot.passMembers_cons.1 hpass).2
  · have hrel := Slot.rel_find? h key
    generalize hs : slots.find? (·.answersTo key) = o, slots'.find? (·.answersTo key) = o' at hrel
    cases hrel with
    | none =>
      have hnew (j : Json) : P (known.1, (key, j) :: known.2) := by
        refine Slot.passMembers_cons.2 ⟨fun s hfind => ?_, hknown⟩
        cases hs.symm.trans hfind
      refine narrows_bind fun _ => narrows_bind fun o => ?_
      cases o with
      | none => exact narrows_self (yields_pure hknown)
      | some j => exact narrows_self (yields_pure (hnew j))
    | @some s t hst =>
      have hnew (j : Json) (hj : s.check j = .ok ()) :
          P (s.name :: known.1, (key, j) :: known.2) := by
        refine Slot.passMembers_cons.2 ⟨fun s' hfind => ?_, hknown⟩
        obtain rfl := Option.some.inj (hs.symm.trans hfind)
        exact hj
      simp only [← hst.name]
      refine narrows_ite (fun _ => narrows_throw_bind _ _ _) fun _ => narrows_bind fun _ => ?_
      refine (hst.scan depth).bind (fun j => yields_pure fun hpass => ?_) fun j hj => ?_
      · exact (Slot.passMembers_cons.1 hpass).1 s hs
      · exact narrows_self (yields_pure (hnew j hj))
  · intro m hm
    exact hpass _ rfl m (List.mem_reverse.2 hm)
  · rintro ms heq m hm
    obtain rfl := Json.obj.inj heq
    exact hknown m (List.mem_reverse.1 hm)

theorem narrows_scanSlots (h : List.Forall₂ Slot.Refines slots slots') (depth : Nat)
    (first : Bool) : (scanSlots depth first slots).Narrows (scanSlots depth first slots')
      (Slot.PassItems slots) := by
  induction h generalizing first with
  | nil => exact narrows_self (yields_pure (by simp [Slot.PassItems]))
  | cons hst _ ih =>
    refine narrows_bind fun more => narrows_ite (fun _ => ?_) fun _ => ?_
    · refine (hst.scan depth).bind (fun j => yields_bind fun items => yields_pure ?_) fun j hj => ?_
      · exact fun hpass => (Slot.passItems_cons.1 hpass).1
      · refine (ih false).bind (fun items => yields_pure ?_) fun items hitems => ?_
        · exact fun hpass => (Slot.passItems_cons.1 hpass).2
        · exact narrows_self (yields_pure (Slot.passItems_cons.2 ⟨hj, hitems⟩))
    · exact narrows_self (yields_pure (by simp [Slot.PassItems]))

theorem narrows_scanFields (h : List.Forall₂ Slot.Refines slots slots')
    (hcheck : ∀ j, (∃ a, check j = .ok a) → ∃ b, check' j = .ok b)
    (hpass : ∀ items, (∃ a, check (.arr items) = .ok a) → Slot.PassItems slots items)
    (depth : Nat) : (scanFields slots check depth).Narrows (scanFields slots' check' depth)
      fun j => ∃ a, check j = .ok a := by
  refine (narrows_scanSlots h depth true).bind (fun items => ?_) fun items _ => ?_
  · exact yields_bind fun _ => yields_bind fun _ => yields_pure (hpass items)
  · refine narrows_accept (hcheck _) (yields_bind fun _ => yields_pure id) fun hitems => ?_
    exact narrows_bind fun _ => narrows_self (yields_pure hitems)

end Codec

/-! ## Records that ask for more -/

namespace Layout

variable {l : Layout ρ (β → α)} {f : Field ρ β} {a : α} {ms : List (String × Json)}
  {items : List Json} {tooShort : Nat → ShapeError}

theorem ofMembers_field_eq_ok_iff : (l.field f).ofMembers ms = .ok a ↔
    ∃ g b, l.ofMembers ms = .ok g ∧ f.ofMembers ms = .ok b ∧ g b = a := by
  constructor
  · intro h
    obtain ⟨g, hg, h⟩ := exists_of_bind_eq_ok h
    obtain ⟨b, hb, h⟩ := exists_of_bind_eq_ok h
    exact ⟨g, b, hg, hb, Except.ok.inj h⟩
  · rintro ⟨g, b, hg, hb, rfl⟩
    rw [ofMembers, hg, hb]
    rfl

theorem ofItems_field_eq_ok_iff : (l.field f).ofItems items tooShort = .ok a ↔
    ∃ g b, l.ofItems items tooShort = .ok g ∧ f.Finds items[l.size]? f.short b ∧ g b = a := by
  constructor
  · intro h
    obtain ⟨g, hg, h⟩ := exists_of_bind_eq_ok h
    split at h
    · rename_i j hj
      obtain ⟨b, hb, h⟩ := exists_of_bind_eq_ok h
      exact ⟨g, b, hg, hj ▸ hb, Except.ok.inj h⟩
    · rename_i hnone
      split at h
      · rename_i b hshort
        exact ⟨g, b, hg, hnone ▸ hshort, Except.ok.inj h⟩
      · cases h
  · rintro ⟨g, b, hg, hb, rfl⟩
    rw [ofItems, hg]
    generalize items[l.size]? = given at hb
    cases given with
    | some j =>
      have hread : f.codec.ofJson j = .ok b := hb
      simp only [bind, Except.bind, hread]
      rfl
    | none =>
      have hshort : f.short = some b := hb
      simp only [bind, Except.bind, hshort]
      rfl

section

variable {γ : Type} {make : β → γ → ρ} {g : Field ρ γ} {r : ρ}

theorem ofMembers_pair_eq_ok_iff :
    (((Layout.make make).field f).field g).ofMembers ms = .ok r ↔
      ∃ b c, f.ofMembers ms = .ok b ∧ g.ofMembers ms = .ok c ∧ make b c = r := by
  simp only [ofMembers_field_eq_ok_iff]
  constructor
  · rintro ⟨h, c, ⟨h', b, hmake, hb, rfl⟩, hc, rfl⟩
    exact ⟨b, c, hb, hc, by rw [Except.ok.inj hmake]⟩
  · rintro ⟨b, c, hb, hc, rfl⟩
    exact ⟨make b, c, ⟨make, b, rfl, hb, rfl⟩, hc, rfl⟩

theorem ofItems_pair_eq_ok_iff :
    (((Layout.make make).field f).field g).ofItems items tooShort = .ok r ↔
      ∃ b c, f.Finds items[0]? f.short b ∧ g.Finds items[1]? g.short c ∧ make b c = r := by
  simp only [ofItems_field_eq_ok_iff]
  constructor
  · rintro ⟨h, c, ⟨h', b, hmake, hb, rfl⟩, hc, rfl⟩
    exact ⟨b, c, hb, hc, by rw [Except.ok.inj hmake]⟩
  · rintro ⟨b, c, hb, hc, rfl⟩
    exact ⟨make b, c, ⟨make, b, rfl, hb, rfl⟩, hc, rfl⟩

end

theorem passItems_of_ofItems {l : Layout ρ α} (h : l.ofItems items tooShort = .ok a) :
    Slot.PassItems l.slots items := by
  induction l with
  | make b =>
    intro i s j hs
    cases hs
  | field l f ih =>
    obtain ⟨g, b, hg, hb, -⟩ := ofItems_field_eq_ok_iff.1 h
    intro i s j hs hj
    rw [slots, List.getElem?_append] at hs
    split at hs
    · exact ih hg i s j hs hj
    · simp only [List.getElem?_singleton, Option.ite_none_right_eq_some, Option.some.injEq,
        l.length_slots] at *
      obtain ⟨hplace, rfl⟩ := hs
      obtain rfl : i = l.size := by omega
      rw [hj] at hb
      exact Field.check_slot_eq_ok_iff.2 ⟨b, hb⟩

/-- All fields of what is read from the members of an object are read. -/
theorem Has.exists_ofMembers_eq_ok {l : Layout ρ α} (hf : Has f l) (h : l.ofMembers ms = .ok a) :
    ∃ b, f.ofMembers ms = .ok b := by
  induction hf with
  | last l =>
    obtain ⟨g, b, -, hb, -⟩ := ofMembers_field_eq_ok_iff.1 h
    exact ⟨b, hb⟩
  | before _ _ ih =>
    obtain ⟨g, b, hg, -, -⟩ := ofMembers_field_eq_ok_iff.1 h
    exact ih hg

/-- The one member that a field answers to is the one that it is read from. -/
theorem check_of_ofMembers {l : Layout ρ α} (h : l.ofMembers ms = .ok a)
    (hpair : ms.Pairwise fun m m' => ∀ s ∈ l.slots, s.answersTo m.1 → ¬ s.answersTo m'.1)
    {m : String × Json} (hm : m ∈ ms) {s : Slot} (hs : s ∈ l.slots) (hkey : s.answersTo m.1) :
    s.check m.2 = .ok () := by
  obtain ⟨β, f, hf, rfl⟩ := exists_has_of_mem_slots hs
  obtain ⟨b, hb⟩ := hf.exists_ofMembers_eq_ok h
  rw [Field.ofMembers_eq_ok_iff] at hb
  cases hfind : ms.find? fun m => f.answersTo m.1 with
  | none => exact absurd hkey (List.find?_eq_none.1 hfind m hm)
  | some m' =>
    have hkey' := List.find?_some hfind
    obtain rfl := hf.eq_of_pairwise hpair hm (List.mem_of_find?_eq_some hfind)
      (Field.answersTo_iff.1 hkey) (Field.answersTo_iff.1 hkey')
    rw [hfind] at hb
    exact Field.check_slot_eq_ok_iff.2 ⟨b, hb⟩

end Layout

namespace Codec

variable {name name' : String} {l : Layout ρ ρ} {l' : Layout σ σ} {F : σ → ρ → Prop}

/-- An object is read if no field answers to two members and all fields are read. -/
theorem recordOf_obj_eq_ok_iff {ms : List (String × Json)} {r : ρ} (hkeys : l.keys.Nodup) :
    recordOf name l (.obj ms) = .ok r ↔
      (ms.Pairwise fun m m' => ∀ s ∈ l.slots, s.answersTo m.1 → ¬ s.answersTo m'.1) ∧
        l.ofMembers ms = .ok r := by
  constructor
  · intro h
    obtain ⟨_, hchecked, hr⟩ := exists_of_bind_eq_ok h
    exact ⟨((checkMembers_eq_ok_iff hkeys).1 hchecked).2, hr⟩
  · rintro ⟨hpair, hr⟩
    have hchecked : checkMembers l.slots [] ms = .ok () := by
      refine (checkMembers_eq_ok_iff hkeys).2 ⟨fun m hm s hs hkey => ?_, hpair⟩
      exact ⟨Layout.check_of_ofMembers hr hpair hm hs hkey, List.not_mem_nil⟩
    rw [recordOf, hchecked]
    exact hr

/-- A list is read if all fields are read and nothing is left over. -/
theorem recordOf_arr_eq_ok_iff {items : List Json} {r : ρ} :
    recordOf name l (.arr items) = .ok r ↔
      items.length ≤ l.size ∧ l.ofItems items (tooShort name l.size) = .ok r := by
  constructor
  · intro h
    obtain ⟨r', hr', h⟩ := exists_of_bind_eq_ok h
    split at h
    · cases h
    · obtain rfl := Except.ok.inj h
      exact ⟨by omega, hr'⟩
  · rintro ⟨hlength, hr⟩
    rw [recordOf, hr]
    exact if_neg (by omega)

theorem passItems_of_decodes {items : List Json} (h : (record name l).Decodes (.arr items)) :
    Slot.PassItems l.slots items := by
  obtain ⟨r, hr⟩ := h
  exact Layout.passItems_of_ofItems (recordOf_arr_eq_ok_iff.1 hr).2

theorem passMembers_of_decodes {ms : List (String × Json)} (hkeys : l.keys.Nodup)
    (h : (record name l).Decodes (.obj ms)) : Slot.PassMembers l.slots ms := by
  obtain ⟨r, hr⟩ := h
  have hread : recordOf name l (.obj ms) = .ok r := hr
  obtain ⟨hpair, hmembers⟩ := (recordOf_obj_eq_ok_iff hkeys).1 hread
  intro m hm s hs
  have hkey := List.find?_some hs
  exact Layout.check_of_ofMembers hmembers hpair hm (List.mem_of_find?_eq_some hs) hkey

section

variable (h : List.Forall₂ Slot.Refines l.slots l'.slots) (hkeys : l.keys.Nodup)
  (hkeys' : l'.keys.Nodup)
  (hmembers : ∀ ms r, l.ofMembers ms = .ok r ↔ ∃ r', l'.ofMembers ms = .ok r' ∧ F r' r)
  (hitems : ∀ items r, l.ofItems items (tooShort name l.size) = .ok r ↔
    ∃ r', l'.ofItems items (tooShort name' l'.size) = .ok r' ∧ F r' r)
include h hkeys hkeys' hmembers hitems

theorem ofJson_record_iff {j : Json} {r : ρ} : (record name l).ofJson j = .ok r ↔
    ∃ r', (record name' l').ofJson j = .ok r' ∧ F r' r := by
  cases j with
  | obj ms =>
    have hapart (m m' : String × Json) := Slot.apart_iff h m.1 m'.1
    simp only [record, recordOf_obj_eq_ok_iff hkeys, recordOf_obj_eq_ok_iff hkeys', hapart,
      hmembers]
    tauto
  | arr items =>
    have hsize : l.size = l'.size := by
      rw [← l.length_slots, ← l'.length_slots, h.length_eq]
    simp only [record, recordOf_arr_eq_ok_iff, hitems]
    rw [hsize]
    tauto
  | _ =>
    constructor
    · intro hr
      cases hr
    · rintro ⟨r', hr', -⟩
      cases hr'

/-- A record refines another one if its fields do and it is made from them as the other one is. -/
theorem refines_record : (record name l).Refines (record name' l') F := by
  have hread {j : Json} {r : ρ} :=
    ofJson_record_iff h hkeys hkeys' hmembers hitems (j := j) (r := r)
  have hdecodes := decodes_of_ofJson_iff hread
  refine ⟨fun depth => narrows_bind fun c => ?_, hread⟩
  refine narrows_ite (fun _ => ?_) fun _ => narrows_ite (fun _ => ?_) fun _ => ?_
  · exact narrows_enter (narrows_scanFields h hdecodes fun _ => passItems_of_decodes) depth
  · refine (narrows_enter (narrows_scanMembers h skipOther) depth).bind (fun j => ?_) fun j _ => ?_
    · refine yields_bind fun _ => yields_pure fun hj ms heq => ?_
      exact passMembers_of_decodes hkeys (heq ▸ hj)
    · exact narrows_accept (hdecodes j) (yields_pure id) fun hj => narrows_self (yields_pure hj)
  · exact narrows_scanLeaf hdecodes depth

end

/-- Records of two fields. What `F` relates to a record is what is made of what `G` and `H` relate
to the fields. -/
theorem refines_pair {α' β' : Type} {make : α → β → ρ} {make' : α' → β' → σ} {f : Field ρ α}
    {g : Field ρ β} {f' : Field σ α'} {g' : Field σ β'} {G : α' → α → Prop} {H : β' → β → Prop}
    (hf : f.Refines f' G) (hg : g.Refines g' H) (hkeys : (f.keys ++ g.keys).Nodup)
    (hF : ∀ a' b' r, F (make' a' b') r ↔ ∃ a b, G a' a ∧ H b' b ∧ make a b = r) :
    (record name (((Layout.make make).field f).field g)).Refines
      (record name' (((Layout.make make').field f').field g')) F := by
  have hkeys' : (f'.keys ++ g'.keys).Nodup := by
    rw [Field.keys, Field.keys, ← hf.name, ← hf.aliases, ← hg.name, ← hg.aliases]
    exact hkeys
  have hparts (P : α' → Prop) (Q : β' → Prop) (r : ρ) :
      (∃ a b, (∃ a', P a' ∧ G a' a) ∧ (∃ b', Q b' ∧ H b' b) ∧ make a b = r) ↔
        ∃ r', (∃ a' b', P a' ∧ Q b' ∧ make' a' b' = r') ∧ F r' r := by
    constructor
    · rintro ⟨a, b, ⟨a', ha, hG⟩, ⟨b', hb, hH⟩, hr⟩
      exact ⟨_, ⟨a', b', ha, hb, rfl⟩, (hF a' b' r).2 ⟨a, b, hG, hH, hr⟩⟩
    · rintro ⟨_, ⟨a', b', ha, hb, rfl⟩, hr⟩
      obtain ⟨a, b, hG, hH, hr⟩ := (hF a' b' r).1 hr
      exact ⟨a, b, ⟨a', ha, hG⟩, ⟨b', hb, hH⟩, hr⟩
  refine refines_record (.cons hf.slot (.cons hg.slot .nil)) hkeys hkeys' (fun ms r => ?_)
    fun items r => ?_
  · simp only [Layout.ofMembers_pair_eq_ok_iff, hf.ofMembers_iff, hg.ofMembers_iff]
    exact hparts _ _ r
  · simp only [Layout.ofItems_pair_eq_ok_iff, hf.finds_short_iff, hg.finds_short_iff]
    exact hparts _ _ r

end Codec

end DataPipeline
