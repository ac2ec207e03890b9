import Mathlib.Data.Fintype.Card
import Mathlib.Data.Set.Finite.List
import Mathlib.Logic.Relation

/-!
# Relations without cycles

Adding a pair to a relation makes no cycle if its second item does not lead to its first: what is on
a cycle then was on one before, and a relation without cycles stays so. Within a list, every item
leads to one from which nothing follows.

## Main results

* `reflTransGen_of_new`, `transGen_self_of_new`, `acyclic_of_new`: one more pair
* `reflTransGen_of_or`: any number of them
* `exists_last_of_acyclic`: an item from which nothing follows
-/
namespace DataPipeline

open Relation

variable {α : Type} {r r' : α → α → Prop} {s t : α}

/-! ## More pairs -/

/-- A chain through a relation with one more pair either does without the pair or goes up to its
first item and on from its second. -/
theorem reflTransGen_of_new (hr : ∀ a b, r' a b → r a b ∨ a = s ∧ b = t) {a b : α}
    (h : ReflTransGen r' a b) :
    ReflTransGen r a b ∨ ReflTransGen r a s ∧ ReflTransGen r t b := by
  induction h with
  | refl => exact .inl .refl
  | tail _ hbc ih =>
    rcases hr _ _ hbc with hbc | ⟨rfl, rfl⟩
    · rcases ih with ih | ⟨has, htb⟩
      · exact .inl (ih.tail hbc)
      · exact .inr ⟨has, htb.tail hbc⟩
    · rcases ih with ih | ⟨has, _⟩
      · exact .inr ⟨ih, .refl⟩
      · exact .inr ⟨has, .refl⟩

/-- A chain through two relations either does without the second or comes to a pair of it and goes
on from there. -/
theorem reflTransGen_of_or {p : α → α → Prop} (hr : ∀ a b, r' a b → r a b ∨ p a b) {a b : α}
    (h : ReflTransGen r' a b) :
    ReflTransGen r a b ∨ ∃ c d, p c d ∧ ReflTransGen r' a c ∧ ReflTransGen r' d b := by
  induction h with
  | refl => exact .inl .refl
  | @tail c d hac hcd ih =>
    rcases ih with ih | ⟨c', d', hp, hac', hdc'⟩
    · rcases hr _ _ hcd with hcd | hp
      · exact .inl (ih.tail hcd)
      · exact .inr ⟨c, d, hp, hac, .refl⟩
    · exact .inr ⟨c', d', hp, hac', hdc'.tail hcd⟩

/-- One more pair is no way from its second item to its first. -/
theorem reflTransGen_back_of_new (hr : ∀ a b, r' a b → r a b ∨ a = s ∧ b = t)
    (h : ReflTransGen r' t s) : ReflTransGen r t s := by
  rcases reflTransGen_of_new hr h with h | ⟨h, -⟩
  · exact h
  · exact h

/-- One more pair puts no item on a cycle that was on none, unless its second item leads to its
first. -/
theorem transGen_self_of_new (hr : ∀ a b, r' a b → r a b ∨ a = s ∧ b = t)
    (hts : ¬ ReflTransGen r t s) {a : α} (ha : TransGen r' a a) : TransGen r a a := by
  obtain ⟨b, hab, hba⟩ := TransGen.head'_iff.1 ha
  rcases hr a b hab with hab | ⟨rfl, rfl⟩
  · rcases reflTransGen_of_new hr hba with hba | ⟨hbs, hta⟩
    · exact .head' hab hba
    · exact absurd (hta.trans (.head hab hbs)) hts
  · exact absurd (reflTransGen_back_of_new hr hba) hts

theorem acyclic_of_new (hr : ∀ a b, r' a b → r a b ∨ a = s ∧ b = t) (hts : ¬ ReflTransGen r t s)
    (h : ∀ a, ¬ TransGen r a a) : ∀ a, ¬ TransGen r' a a :=
  fun a ha => h a (transGen_self_of_new hr hts ha)

/-! ## Ends -/

/-- Going along the relation ends somewhere, as no item of the list can come twice. -/
theorem exists_last_of_acyclic {l : List α} (hl : ∀ a b, r a b → b ∈ l)
    (h : ∀ a, ¬ TransGen r a a) {a : α} (ha : a ∈ l) :
    ∃ b ∈ l, ReflTransGen r a b ∧ ∀ c, ¬ r b c := by
  let after (y x : {x // x ∈ l}) : Prop := TransGen r x.1 y.1
  have : Finite {x // x ∈ l} := l.finite_toSet
  have : IsTrans {x // x ∈ l} after := ⟨fun _ _ _ hyx hzy => hzy.trans hyx⟩
  have : Std.Irrefl after := ⟨fun x hx => h x.1 hx⟩
  have hwf : WellFounded after := Finite.wellFounded_of_trans_of_irrefl after
  suffices key : ∀ x : {x // x ∈ l}, ∃ b ∈ l, ReflTransGen r x.1 b ∧ ∀ c, ¬ r b c from
    key ⟨a, ha⟩
  intro x
  induction x using hwf.induction with
  | _ x ih =>
    by_cases hx : ∃ c, r x.1 c
    · obtain ⟨c, hxc⟩ := hx
      obtain ⟨b, hb, hcb, hlast⟩ := ih ⟨c, hl _ _ hxc⟩ (.single hxc)
      exact ⟨b, hb, .head hxc hcb, hlast⟩
    · exact ⟨x.1, x.2, .refl, not_exists.1 hx⟩

end DataPipeline
