import DataPipeline.Plan.Dag
import Mathlib.Data.List.Nodup

/-!
# Passes over lists

Going through a list and leaving out every item whose key was met before. What is kept is told by
the keys alone, so that the passes over a list in two parts, over a part of the keys, or with other
keys that tell the same items apart can be compared.

## Main results

* `flatMap_filter_of_nil`: items that contribute nothing
* `firstOfEach_eq_eraseDups`, `find?_of_mem_firstOfEach`: what is kept
* `firstOfEach_append`, `filter_firstOfEach`: lists in two parts, and some of the keys
* `pairwise_firstOfEach`: the order in which the items are kept
-/
namespace DataPipeline

variable {α β : Type} [DecidableEq β] {key : α → β} {seen : List β} {as : List α} {a : α}

/-- Items that contribute nothing might as well be left out. -/
theorem flatMap_filter_of_nil {γ : Type} {p : α → Bool} {f : α → List γ}
    (h : ∀ a ∈ as, p a = false → f a = []) : (as.filter p).flatMap f = as.flatMap f := by
  induction as with
  | nil => rfl
  | cons a as ih =>
    have ih := ih fun b hb => h b (.tail a hb)
    cases hp : p a with
    | true => rw [List.filter_cons_of_pos hp, List.flatMap_cons, List.flatMap_cons, ih]
    | false =>
      rw [List.filter_cons_of_neg (by simp [hp]), List.flatMap_cons, h a (.head as) hp, ih,
        List.nil_append]

/-! ## What is kept -/

theorem firstOfEach_map {γ : Type} (key : α → β) (f : γ → α) (seen : List β) (as : List γ) :
    firstOfEach key seen (as.map f) = (firstOfEach (fun a => key (f a)) seen as).map f := by
  induction as generalizing seen with
  | nil => rfl
  | cons a as ih =>
    rw [List.map_cons, firstOfEach, firstOfEach, ih, ih]
    split_ifs <;> rfl

/-- The items that were seen before drop out, and of the others the first of each is kept. -/
theorem firstOfEach_eq_eraseDups [DecidableEq α] (seen as : List α) :
    firstOfEach (·) seen as = (as.filter (· ∉ seen)).eraseDups := by
  induction as generalizing seen with
  | nil => rfl
  | cons b as ih =>
    by_cases hb : b ∈ seen
    · rw [firstOfEach, if_pos hb, ih, List.filter_cons_of_neg (by simpa using hb)]
    · have hrest : (as.filter (· ∉ seen)).filter (fun a => !a == b) =
          as.filter (· ∉ b :: seen) := by
        rw [List.filter_filter]
        refine List.filter_congr fun a _ => ?_
        by_cases hab : a = b <;> simp [hab]
      rw [firstOfEach, if_neg hb, ih, List.filter_cons_of_pos (by simpa using hb),
        List.eraseDups_cons, hrest]

theorem map_firstOfEach (key : α → β) (as : List α) :
    (firstOfEach key [] as).map key = (as.map key).eraseDups := by
  rw [← firstOfEach_map (fun b : β => b) key, firstOfEach_eq_eraseDups]
  simp

theorem mem_firstOfEach_id [DecidableEq α] {seen as : List α} :
    a ∈ firstOfEach (·) seen as ↔ a ∈ as ∧ a ∉ seen := by
  simp [firstOfEach_eq_eraseDups]

theorem key_not_mem_of_mem_firstOfEach (ha : a ∈ firstOfEach key seen as) : key a ∉ seen := by
  induction as generalizing seen with
  | nil => simp [firstOfEach] at ha
  | cons b as ih =>
    by_cases hb : key b ∈ seen
    · rw [firstOfEach, if_pos hb] at ha
      exact ih ha
    · rw [firstOfEach, if_neg hb] at ha
      rcases List.mem_cons.1 ha with rfl | ha
      · exact hb
      · exact fun hmem => ih ha (.tail _ hmem)

/-- An item that is kept is the one that its key finds. -/
theorem find?_of_mem_firstOfEach (ha : a ∈ firstOfEach key seen as) :
    as.find? (key · = key a) = some a := by
  induction as generalizing seen with
  | nil => simp [firstOfEach] at ha
  | cons b as ih =>
    by_cases hb : key b ∈ seen
    · rw [firstOfEach, if_pos hb] at ha
      have hne : key b ≠ key a := fun heq => key_not_mem_of_mem_firstOfEach ha (heq ▸ hb)
      rw [List.find?_cons_of_neg (by simpa using hne), ih ha]
    · rw [firstOfEach, if_neg hb] at ha
      rcases List.mem_cons.1 ha with rfl | ha
      · exact List.find?_cons_of_pos (by simp)
      · have hne : key b ≠ key a := fun heq =>
          key_not_mem_of_mem_firstOfEach ha (heq ▸ .head _)
        rw [List.find?_cons_of_neg (by simpa using hne), ih ha]

theorem nodup_firstOfEach (key : α → β) (seen : List β) (as : List α) :
    ((firstOfEach key seen as).map key).Nodup := by
  induction as generalizing seen with
  | nil => simp [firstOfEach]
  | cons b as ih =>
    by_cases hb : key b ∈ seen
    · rw [firstOfEach, if_pos hb]
      exact ih seen
    · rw [firstOfEach, if_neg hb, List.map_cons, List.nodup_cons]
      refine ⟨fun hmem => ?_, ih _⟩
      obtain ⟨a, ha, hab⟩ := List.mem_map.1 hmem
      exact key_not_mem_of_mem_firstOfEach ha (hab ▸ .head _)

/-- Where no key repeats, every item is the first of its key. -/
theorem firstOfEach_eq_self (h : (as.map key).Nodup) (hseen : ∀ a ∈ as, key a ∉ seen) :
    firstOfEach key seen as = as := by
  induction as generalizing seen with
  | nil => rfl
  | cons b as ih =>
    obtain ⟨hb, has⟩ := List.nodup_cons.1 h
    rw [firstOfEach, if_neg (hseen b (.head as)), ih has]
    intro a ha hmem
    rcases List.mem_cons.1 hmem with hab | hmem
    · exact hb (hab ▸ List.mem_map_of_mem ha)
    · exact hseen a (.tail b ha) hmem

/-! ## Other keys and other lists -/

/-- Keys that tell the same items apart keep the same items. -/
theorem firstOfEach_congr {γ : Type} [DecidableEq γ] {key' : α → γ} {seen' : List γ}
    (hkey : ∀ a ∈ as, ∀ b ∈ as, key a = key b ↔ key' a = key' b)
    (hseen : ∀ a ∈ as, key a ∈ seen ↔ key' a ∈ seen') :
    firstOfEach key seen as = firstOfEach key' seen' as := by
  induction as generalizing seen seen' with
  | nil => rfl
  | cons b as ih =>
    obtain ⟨hb, has⟩ := List.forall_mem_cons.1 hseen
    have hkeys : ∀ a ∈ as, ∀ c ∈ as, key a = key c ↔ key' a = key' c :=
      fun a ha c hc => hkey a (.tail b ha) c (.tail b hc)
    by_cases hold : key b ∈ seen
    · rw [firstOfEach, firstOfEach, if_pos hold, if_pos (hb.1 hold), ih hkeys has]
    · rw [firstOfEach, firstOfEach, if_neg hold, if_neg (mt hb.2 hold)]
      refine congrArg (b :: ·) (ih hkeys fun a ha => ?_)
      rw [List.mem_cons, List.mem_cons, hkey a (.tail b ha) b (.head as), has a ha]

theorem firstOfEach_append (as bs : List α) :
    firstOfEach key seen (as ++ bs) =
      firstOfEach key seen as ++ firstOfEach key (as.map key ++ seen) bs := by
  induction as generalizing seen with
  | nil => rfl
  | cons b as ih =>
    by_cases hb : key b ∈ seen
    · rw [List.cons_append, firstOfEach, firstOfEach, if_pos hb, if_pos hb, ih]
      refine congrArg _ (firstOfEach_congr (by simp) fun a _ => ?_)
      grind
    · rw [List.cons_append, firstOfEach, firstOfEach, if_neg hb, if_neg hb, ih, List.cons_append]
      refine congrArg (fun rest => b :: (_ ++ rest)) (firstOfEach_congr (by simp) fun a _ => ?_)
      grind

theorem firstOfEach_concat (as : List α) (a : α) :
    firstOfEach key seen (as ++ [a]) =
      firstOfEach key seen as ++ if key a ∈ as.map key ++ seen then [] else [a] :=
  firstOfEach_append as [a]

/-- An item whose key stands before it might as well not be there. -/
theorem firstOfEach_append_cons {as bs : List α} (h : key a ∈ as.map key) :
    firstOfEach key seen (as ++ a :: bs) = firstOfEach key seen (as ++ bs) := by
  rw [firstOfEach_append, firstOfEach_append, firstOfEach, if_pos (List.mem_append_left _ h)]

theorem firstOfEach_eq_nil (h : ∀ a ∈ as, key a ∈ seen) : firstOfEach key seen as = [] := by
  induction as with
  | nil => rfl
  | cons b as ih =>
    obtain ⟨hb, has⟩ := List.forall_mem_cons.1 h
    rw [firstOfEach, if_pos hb, ih has]

/-- Which items of some keys are kept does not depend on the items of other keys. -/
theorem filter_firstOfEach (p : β → Bool) (key : α → β) (seen : List β) (as : List α) :
    (firstOfEach key seen as).filter (fun a => p (key a)) =
      firstOfEach key seen (as.filter fun a => p (key a)) := by
  induction as generalizing seen with
  | nil => rfl
  | cons b as ih =>
    by_cases hp : p (key b) = true
    · rw [List.filter_cons_of_pos (p := fun a => p (key a)) hp, firstOfEach, firstOfEach]
      split_ifs
      · exact ih seen
      · rw [List.filter_cons_of_pos (p := fun a => p (key a)) hp, ih]
    · rw [List.filter_cons_of_neg (p := fun a => p (key a)) hp, firstOfEach]
      split_ifs
      · exact ih seen
      · rw [List.filter_cons_of_neg (p := fun a => p (key a)) hp, ih]
        refine firstOfEach_congr (by simp) fun a ha => ?_
        have hne : key a ≠ key b := fun heq => hp (heq ▸ (List.mem_filter.1 ha).2)
        rw [List.mem_cons, or_iff_right hne]

/-! ## Order -/

/-- Items are kept in the order in which their keys first occur. -/
theorem pairwise_firstOfEach (key : α → β) (seen : List β) (as : List α) :
    (firstOfEach key seen as).Pairwise fun a b =>
      (as.map key).idxOf (key a) < (as.map key).idxOf (key b) := by
  induction as generalizing seen with
  | nil => exact .nil
  | cons c as ih =>
    -- Behind the first item every key but its own has moved by one place.
    have hmoved {seen : List β} (hc : key c ∈ seen) :
        (firstOfEach key seen as).Pairwise fun a b =>
          ((c :: as).map key).idxOf (key a) < ((c :: as).map key).idxOf (key b) := by
      refine (ih seen).imp_of_mem fun {a b} ha hb hab => ?_
      have ha : key c ≠ key a := fun heq => key_not_mem_of_mem_firstOfEach ha (heq ▸ hc)
      have hb : key c ≠ key b := fun heq => key_not_mem_of_mem_firstOfEach hb (heq ▸ hc)
      rw [List.map_cons, List.idxOf_cons_ne _ ha, List.idxOf_cons_ne _ hb]
      omega
    by_cases hc : key c ∈ seen
    · rw [firstOfEach, if_pos hc]
      exact hmoved hc
    · rw [firstOfEach, if_neg hc]
      refine List.pairwise_cons.2 ⟨fun b hb => ?_, hmoved (.head seen)⟩
      have hne : key c ≠ key b := fun heq =>
        key_not_mem_of_mem_firstOfEach hb (heq ▸ .head seen)
      rw [List.map_cons, List.idxOf_cons_self, List.idxOf_cons_ne _ hne]
      omega

end DataPipeline
