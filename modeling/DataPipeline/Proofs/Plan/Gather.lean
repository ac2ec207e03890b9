import DataPipeline.Plan.Compile
import DataPipeline.Proofs.Results

/-!
# Gathering

Gathering succeeds if every item does, and then lists what they give in the order of the items; if
one fails, the errors of all are listed.

## Main results

* `Workflow.forall₂_gather`: what is listed if all items succeed
* `Workflow.eq_of_gather_eq_error`, `Workflow.mem_of_gather_eq_error`: what is listed if one fails
-/
namespace DataPipeline.Workflow

variable {ε α β : Type} {f : α → Except (List ε) (Option β)} {a : α} {as : List α} {x : ε}
  {xs es : List ε} {bs : List β}

/-- The errors of an item. -/
def errorsOf : Except (List ε) (Option β) → List ε
  | .error es => es
  | .ok _ => []

/-- What an item gives. -/
def givenBy : Except (List ε) (Option β) → Option β
  | .ok b => b
  | .error _ => none

theorem gather_eq (f : α → Except (List ε) (Option β)) (as : List α) :
    gather f as =
      if as.flatMap (fun a => errorsOf (f a)) = [] then .ok (as.filterMap fun a => givenBy (f a))
      else .error (as.flatMap fun a => errorsOf (f a)) := by
  simp only [gather, List.isEmpty_iff, List.flatMap_map, List.filterMap_map]
  rfl

theorem gather_eq_ok_iff :
    gather f as = .ok bs ↔
      (∀ a ∈ as, errorsOf (f a) = []) ∧ bs = as.filterMap fun a => givenBy (f a) := by
  rw [gather_eq]
  split_ifs with h
  · rw [List.flatMap_eq_nil_iff] at h
    exact ⟨fun hok => ⟨h, (Except.ok.inj hok).symm⟩, fun hbs => hbs.2 ▸ rfl⟩
  · rw [List.flatMap_eq_nil_iff] at h
    simp [h]

theorem ne_error_of_gather_eq_ok (hnil : ∀ a ∈ as, f a ≠ .error []) (h : gather f as = .ok bs)
    (ha : a ∈ as) : f a ≠ .error es := by
  have hok := (gather_eq_ok_iff.1 h).1 a ha
  rintro herror
  obtain rfl : es = [] := by simpa [herror, errorsOf] using hok
  exact hnil a ha herror

theorem mem_errorsOf {r : Except (List ε) (Option β)} :
    x ∈ errorsOf r ↔ ∃ es, r = .error es ∧ x ∈ es := by
  cases r <;> simp [errorsOf]

theorem eq_of_gather_eq_error (h : gather f as = .error xs) :
    xs = as.flatMap fun a => errorsOf (f a) := by
  rw [gather_eq] at h
  split_ifs at h
  exact (Except.error.inj h).symm

theorem mem_of_gather_eq_error (h : gather f as = .error xs) :
    x ∈ xs ↔ ∃ a ∈ as, ∃ es, f a = .error es ∧ x ∈ es := by
  simp only [eq_of_gather_eq_error h, List.mem_flatMap, mem_errorsOf]

/-! ## What is given -/

/-- Some items give something, in their order, and the others nothing. -/
theorem forall₂_gather {p : α → Bool} {R : α → β → Prop}
    (hgive : ∀ a ∈ as, p a = true → ∃ b, f a = .ok (some b) ∧ R a b)
    (hnone : ∀ a ∈ as, p a = false → f a = .ok none) :
    ∃ bs, gather f as = .ok bs ∧ List.Forall₂ R (as.filter p) bs := by
  refine ⟨as.filterMap fun a => givenBy (f a), gather_eq_ok_iff.2 ⟨fun a ha => ?_, rfl⟩, ?_⟩
  · cases hp : p a with
    | true =>
      obtain ⟨b, hb, -⟩ := hgive a ha hp
      simp [hb, errorsOf]
    | false => simp [hnone a ha hp, errorsOf]
  · induction as with
    | nil => exact .nil
    | cons a as ih =>
      have ih := ih (fun b hb => hgive b (.tail a hb)) (fun b hb => hnone b (.tail a hb))
      cases hp : p a with
      | true =>
        obtain ⟨b, hb, hR⟩ := hgive a (.head as) hp
        simpa [hp, hb, givenBy] using ⟨hR, ih⟩
      | false => simpa [hp, hnone a (.head as) hp, givenBy] using ih

end DataPipeline.Workflow
