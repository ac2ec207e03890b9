import DataPipeline.Json.Reader
import DataPipeline.Proofs.Json.Sorted
import DataPipeline.Proofs.Results

/-!
# What is read from texts

A text has objects with their members in any order; an untyped value that is read from it is sorted.
The statement is about successful runs of a reader, and goes through the loops over items and
members with an invariant on what they have read so far.

## Main definitions

* `Json.Reader.Yields`: every successful run of a reader returns a value with a property

## Main results

* `Json.yields_readItems`, `Json.yields_foldMembers`: the loops over lists and objects
* `Json.yields_readValue`, `Json.sorted_of_ofText`: untyped values are sorted
-/
namespace DataPipeline.Json

variable {α β σ : Type}

namespace Reader

variable {P Q : α → Prop} {x : Reader α}

/-- What a successful run returns has the property. -/
def Yields (x : Reader α) (P : α → Prop) : Prop :=
  ∀ cs a rest, x.run cs = .ok (a, rest) → P a

theorem yields_true (x : Reader α) : x.Yields fun _ => True := fun _ _ _ _ => trivial

theorem yields_pure {a : α} (h : P a) : (pure a : Reader α).Yields P := by
  intro cs b rest hrun
  cases hrun
  exact h

theorem yields_refuse (f : TextFault) : (refuse f : Reader α).Yields P := by
  intro cs a rest hrun
  cases hrun

theorem yields_throw (e : ReadError) : (throw e : Reader α).Yields P := by
  intro cs a rest hrun
  cases hrun

theorem Yields.mono (h : x.Yields P) (hPQ : ∀ a, P a → Q a) : x.Yields Q :=
  fun cs a rest hrun => hPQ a (h cs a rest hrun)

theorem Yields.bind {R : β → Prop} {f : α → Reader β} (h : x.Yields P)
    (hf : ∀ a, P a → (f a).Yields R) : (x >>= f).Yields R := by
  intro cs b rest hrun
  rw [StateT.run_bind] at hrun
  cases hx : x.run cs with
  | error e =>
    rw [hx] at hrun
    cases hrun
  | ok r =>
    rw [hx] at hrun
    exact hf r.1 (h cs r.1 r.2 hx) r.2 b rest hrun

/-- Nothing need be known of a part whose result does not matter. -/
theorem yields_bind {R : β → Prop} {f : α → Reader β} (hf : ∀ a, (f a).Yields R) :
    (x >>= f).Yields R :=
  (yields_true x).bind fun a _ => hf a

/-- A part that is always refused. -/
theorem yields_throw_bind {R : β → Prop} (e : ReadError) (f : α → Reader β) :
    ((throw e : Reader α) >>= f).Yields R := by
  intro cs b rest hrun
  cases hrun

theorem yields_ite {p : Prop} [Decidable p] {y : Reader α} (hx : p → x.Yields P)
    (hy : ¬ p → y.Yields P) : (if p then x else y).Yields P := by
  split
  · exact hx ‹_›
  · exact hy ‹_›

/-- What is accepted is returned. -/
theorem yields_accept (r : Except ShapeError α) : (accept r).Yields fun a => r = .ok a := by
  cases r with
  | ok a => exact yields_pure rfl
  | error e => exact yields_throw _

end Reader

open Reader

/-! ## Loops -/

theorem yields_itemsLoop {item : Reader Json} {P : Json → Prop} (h : item.Yields P) (fuel : Nat)
    (first : Bool) : (itemsLoop item fuel first).Yields fun items => ∀ j ∈ items, P j := by
  induction fuel generalizing first with
  | zero => exact yields_refuse _
  | succ fuel ih =>
    refine yields_bind fun more => yields_ite (fun _ => ?_) fun _ => ?_
    · refine h.bind fun j hj => (ih false).bind fun items hitems => yields_pure ?_
      exact List.forall_mem_cons.2 ⟨hj, hitems⟩
    · exact yields_bind fun _ => yields_pure (by simp)

theorem yields_readItems {item : Reader Json} {P : Json → Prop} (h : item.Yields P) :
    (readItems item).Yields fun items => ∀ j ∈ items, P j :=
  yields_bind fun cs => yields_itemsLoop h (cs.length + 1) true

/-- What every member preserves holds of what all of them lead to. -/
theorem yields_membersLoop {member : σ → String → Reader σ} {P : σ → Prop}
    (h : ∀ s key, P s → (member s key).Yields P) (fuel : Nat) (first : Bool) {s : σ} (hs : P s) :
    (membersLoop member fuel first s).Yields P := by
  induction fuel generalizing first s with
  | zero => exact yields_refuse _
  | succ fuel ih =>
    refine yields_bind fun key => ?_
    cases key with
    | none => exact yields_bind fun _ => yields_pure hs
    | some key => exact (h s key hs).bind fun s' hs' => ih false hs'

theorem yields_foldMembers {member : σ → String → Reader σ} {P : σ → Prop}
    (h : ∀ s key, P s → (member s key).Yields P) {s : σ} (hs : P s) :
    (foldMembers member s).Yields P :=
  yields_bind fun cs => yields_membersLoop h (cs.length + 1) true hs

/-! ## Values -/

theorem yields_readScalar (c : Char) : (readScalar c).Yields Sorted := by
  refine yields_ite (fun _ => yields_bind fun _ => yields_pure .null) fun _ => ?_
  refine yields_ite (fun _ => yields_bind fun _ => yields_pure (.bool true)) fun _ => ?_
  refine yields_ite (fun _ => yields_bind fun _ => yields_pure (.bool false)) fun _ => ?_
  refine yields_ite (fun _ => ?_) fun _ => ?_
  · exact yields_bind fun _ => yields_bind fun s => yields_pure (.str s)
  refine yields_ite (fun _ => yields_bind fun n => yields_pure (.num n)) fun _ => ?_
  exact yields_refuse _

/-- An untyped value that is read from a text is sorted. -/
theorem yields_readValue (depth : Nat) : (readValue depth).Yields Sorted := by
  induction depth with
  | zero =>
    refine yields_bind fun c => yields_ite (fun _ => yields_refuse _) fun _ => ?_
    exact yields_readScalar c
  | succ depth ih =>
    refine yields_bind fun c => yields_ite (fun _ => ?_) fun _ => ?_
    · refine yields_bind fun _ => (yields_readItems ih).bind fun items hitems => ?_
      exact yields_pure (.arr hitems)
    refine yields_ite (fun _ => yields_bind fun _ => ?_) fun _ => yields_readScalar c
    -- The members that have been read make a sorted object at every moment.
    let P (d : Dict Json) := ∀ m ∈ d.entries, Sorted m.2
    have hempty : P Dict.empty := by simp [P, Dict.empty]
    refine (yields_foldMembers (fun d key hd => ?_) hempty).bind fun d hd => ?_
    · refine yields_bind fun _ => ih.bind fun j hj => yields_pure fun m hm => ?_
      rcases Dict.mem_insertEntry hm with rfl | hm
      · exact hj
      · exact hd m hm
    · exact yields_pure (sorted_ofDict hd)

/-! ## Whole texts -/

/-- What a reader yields is there if it reads a whole text. -/
theorem of_document {reader : Reader α} {P : α → Prop} (h : reader.Yields P) {text : String} {a : α}
    (hread : document reader text = .ok a) : P a := by
  obtain ⟨r, hrun, rfl⟩ := exists_of_map_eq_ok hread
  have hwhole : (do
      let a ← reader
      if (← peek).isSome then refuse .trailingText
      return a).Yields P := by
    refine h.bind fun a ha => yields_bind fun _ => ?_
    exact yields_ite (fun _ => yields_throw_bind _ _) fun _ => yields_pure ha
  exact hwhole _ r.1 r.2 hrun

theorem sorted_of_ofText {text : String} {j : Json} (h : ofText text = .ok j) : Sorted j :=
  of_document (yields_readValue maxDepth) h

end DataPipeline.Json
