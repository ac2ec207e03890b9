import DataPipeline.Proofs.Json.Reading

/-!
# Readers that ask for more

A reader may run as another one does and ask for more of what it finds there: it succeeds exactly
where the other one does and the value that is found has a certain property. What is refused in the
middle of a text is then what would be refused at its end. The loops over items and members preserve
this, with the demands on what has been read so far.

## Main definitions

* `Json.Reader.Narrows`: a reader that runs as another one does, where that finds a certain value

## Main results

* `Json.Reader.Narrows.bind`, `Json.Reader.narrows_accept`: parts and checks
* `Json.narrows_readItems`, `Json.narrows_foldMembers`: the loops over lists and objects
* `Json.Reader.Narrows.document_eq_ok_iff`: whole texts
-/
namespace DataPipeline.Json

variable {α β γ σ : Type}

namespace Reader

variable {x y : Reader α} {P : α → Prop} {Q : β → Prop}

/-- `x` runs as `y` does where that leads to a value with the property, and fails elsewhere. -/
def Narrows (x y : Reader α) (P : α → Prop) : Prop :=
  ∀ cs a rest, x.run cs = .ok (a, rest) ↔ y.run cs = .ok (a, rest) ∧ P a

theorem run_bind_eq_ok_iff {f : α → Reader β} {cs rest : List Char} {b : β} :
    (x >>= f).run cs = .ok (b, rest) ↔
      ∃ a cs', x.run cs = .ok (a, cs') ∧ (f a).run cs' = .ok (b, rest) := by
  rw [StateT.run_bind]
  cases hx : x.run cs with
  | error e => simp [Bind.bind, Except.bind]
  | ok r =>
    constructor
    · intro h
      exact ⟨r.1, r.2, rfl, h⟩
    · rintro ⟨a, cs', heq, h⟩
      obtain rfl := Except.ok.inj heq
      exact h

theorem narrows_self (h : x.Yields P) : x.Narrows x P :=
  fun cs a rest => ⟨fun hrun => ⟨hrun, h cs a rest hrun⟩, And.left⟩

theorem narrows_throw (e e' : ReadError) : (throw e : Reader α).Narrows (throw e') P := by
  intro cs a rest
  constructor
  · intro hrun
    cases hrun
  · rintro ⟨hrun, -⟩
    cases hrun

theorem narrows_throw_bind (e e' : ReadError) (f : γ → Reader α) :
    ((throw e : Reader γ) >>= f).Narrows ((throw e' : Reader γ) >>= f) P := by
  intro cs a rest
  constructor
  · intro hrun
    cases hrun
  · rintro ⟨hrun, -⟩
    cases hrun

/-- One part after the other. A value with the property must come from a part that has its own. -/
theorem Narrows.bind {f g : α → Reader β} (h : x.Narrows y P)
    (hback : ∀ a, (g a).Yields fun b => Q b → P a) (hf : ∀ a, P a → (f a).Narrows (g a) Q) :
    (x >>= f).Narrows (y >>= g) Q := by
  intro cs b rest
  rw [run_bind_eq_ok_iff, run_bind_eq_ok_iff]
  constructor
  · rintro ⟨a, cs', hx, hrun⟩
    obtain ⟨hy, ha⟩ := (h cs a cs').1 hx
    obtain ⟨hrun, hb⟩ := (hf a ha cs' b rest).1 hrun
    exact ⟨⟨a, cs', hy, hrun⟩, hb⟩
  · rintro ⟨⟨a, cs', hy, hrun⟩, hb⟩
    have ha : P a := hback a cs' b rest hrun hb
    exact ⟨a, cs', (h cs a cs').2 ⟨hy, ha⟩, (hf a ha cs' b rest).2 ⟨hrun, hb⟩⟩

/-- Both begin with the same part. -/
theorem narrows_bind {z : Reader γ} {f g : γ → Reader β} (hf : ∀ c, (f c).Narrows (g c) Q) :
    (z >>= f).Narrows (z >>= g) Q := by
  refine (narrows_self (yields_true z)).bind (fun c => ?_) fun c _ => hf c
  exact fun _ _ _ _ _ => trivial

/-- The value is put into another one. -/
theorem Narrows.map {f : α → β} (h : x.Narrows y fun a => Q (f a)) :
    (do return f (← x)).Narrows (do return f (← y)) Q :=
  h.bind (fun _ => yields_pure id) fun _ ha => narrows_self (yields_pure ha)

theorem narrows_ite {p : Prop} [Decidable p] {x' y' : Reader α} (hx : p → x.Narrows y P)
    (hx' : ¬ p → x'.Narrows y' P) : (if p then x else x').Narrows (if p then y else y') P := by
  split
  · exact hx ‹_›
  · exact hx' ‹_›

/-- A check is replaced by a stronger one, which a value with the property passes. -/
theorem narrows_accept {r : Except ShapeError β} {r' : Except ShapeError γ} {k k' : Reader α}
    (hr : (∃ b, r = .ok b) → ∃ c, r' = .ok c)
    (hback : k'.Yields fun a => P a → ∃ b, r = .ok b) (hk : (∃ b, r = .ok b) → k.Narrows k' P) :
    (accept r >>= fun _ => k).Narrows (accept r' >>= fun _ => k') P := by
  intro cs a rest
  cases r with
  | ok b =>
    obtain ⟨c, rfl⟩ := hr ⟨b, rfl⟩
    exact hk ⟨b, rfl⟩ cs a rest
  | error e =>
    constructor
    · intro hrun
      cases hrun
    · rintro ⟨hrun, ha⟩
      obtain ⟨_, cs', -, hrun⟩ := run_bind_eq_ok_iff.1 hrun
      obtain ⟨b, hb⟩ := hback cs' a rest hrun ha
      cases hb

/-- A check is added. -/
theorem narrows_check (x : Reader α) (r : α → Except ShapeError β) :
    (do let a ← x
        let _ ← accept (r a)
        return a : Reader α).Narrows x fun a => ∃ b, r a = .ok b := by
  intro cs a rest
  refine run_bind_eq_ok_iff.trans ⟨?_, ?_⟩
  · rintro ⟨a', cs', hx, hrun⟩
    cases hr : r a' with
    | error e =>
      rw [hr] at hrun
      cases hrun
    | ok b =>
      rw [hr] at hrun
      cases hrun
      exact ⟨hx, b, hr⟩
  · rintro ⟨hx, b, hb⟩
    refine ⟨a, rest, hx, ?_⟩
    rw [hb]
    rfl

end Reader

open Reader

/-! ## Loops -/

theorem narrows_itemsLoop {item item' : Reader Json} {P : Json → Prop} (h : item.Narrows item' P)
    (fuel : Nat) (first : Bool) :
    (itemsLoop item fuel first).Narrows (itemsLoop item' fuel first) fun items =>
      ∀ j ∈ items, P j := by
  induction fuel generalizing first with
  | zero => exact narrows_throw _ _
  | succ fuel ih =>
    refine narrows_bind fun more => narrows_ite (fun _ => ?_) fun _ => ?_
    · refine h.bind (fun j => yields_bind fun items => yields_pure ?_) fun j hj => ?_
      · exact fun hitems => hitems j (by simp)
      · refine (ih false).bind (fun items => yields_pure ?_) fun items hitems => ?_
        · exact fun hall => (List.forall_mem_cons.1 hall).2
        · exact narrows_self (yields_pure (List.forall_mem_cons.2 ⟨hj, hitems⟩))
    · exact narrows_bind fun _ => narrows_self (yields_pure (by simp))

theorem narrows_readItems {item item' : Reader Json} {P : Json → Prop} (h : item.Narrows item' P) :
    (readItems item).Narrows (readItems item') fun items => ∀ j ∈ items, P j :=
  narrows_bind fun cs => narrows_itemsLoop h (cs.length + 1) true

/-- What no member takes away can be asked for at the end or at every member. -/
theorem narrows_membersLoop {member member' : σ → String → Reader σ} {P : σ → Prop}
    (hback : ∀ s key, (member' s key).Yields fun s' => P s' → P s)
    (h : ∀ s key, P s → (member s key).Narrows (member' s key) P) (fuel : Nat) (first : Bool)
    {s : σ} (hs : P s) : (membersLoop member fuel first s).Narrows
      (membersLoop member' fuel first s) P := by
  induction fuel generalizing first s with
  | zero => exact narrows_throw _ _
  | succ fuel ih =>
    refine narrows_bind fun key => ?_
    cases key with
    | none => exact narrows_bind fun _ => narrows_self (yields_pure hs)
    | some key =>
      refine (h s key hs).bind (fun s' => ?_) fun s' hs' => ih false hs'
      -- What holds at the end held behind this member: the later ones are followed backwards.
      refine yields_membersLoop (P := fun t => P t → P s') (fun t key ht => ?_) fuel false id
      exact (hback t key).mono fun t' ht' hP => ht (ht' hP)

theorem narrows_foldMembers {member member' : σ → String → Reader σ} {P : σ → Prop}
    (hback : ∀ s key, (member' s key).Yields fun s' => P s' → P s)
    (h : ∀ s key, P s → (member s key).Narrows (member' s key) P) {s : σ} (hs : P s) :
    (foldMembers member s).Narrows (foldMembers member' s) P :=
  narrows_bind fun cs => narrows_membersLoop hback h (cs.length + 1) true hs

/-! ## Whole texts -/

/-- A whole text is read if it is read up to its end. -/
theorem document_eq_ok_iff {reader : Reader α} {text : String} {a : α} :
    document reader text = .ok a ↔ ∃ rest, reader.run text.toList = .ok (a, rest) ∧
      ∃ after, peek.run rest = .ok (none, after) := by
  have hend (b : α) (rest after : List Char) :
      (do if (← peek).isSome then refuse .trailingText
          return b : Reader α).run rest = .ok (a, after) ↔
        peek.run rest = .ok (none, after) ∧ b = a := by
    rw [run_bind_eq_ok_iff]
    constructor
    · rintro ⟨o, cs', hpeek, hrun⟩
      cases o with
      | none =>
        cases hrun
        exact ⟨hpeek, rfl⟩
      | some c => cases hrun
    · rintro ⟨hpeek, rfl⟩
      exact ⟨none, after, hpeek, rfl⟩
  constructor
  · intro h
    obtain ⟨⟨b, after⟩, hrun, rfl⟩ := exists_of_map_eq_ok h
    obtain ⟨b, rest, hread, hrest⟩ := run_bind_eq_ok_iff.1 hrun
    obtain ⟨hpeek, rfl⟩ := (hend b rest after).1 hrest
    exact ⟨rest, hread, after, hpeek⟩
  · rintro ⟨rest, hread, after, hpeek⟩
    have hrun : (do
        let a ← reader
        if (← peek).isSome then refuse .trailingText
        return a : Reader α).run text.toList = .ok (a, after) :=
      run_bind_eq_ok_iff.2 ⟨a, rest, hread, (hend a rest after).2 ⟨hpeek, rfl⟩⟩
    exact congrArg (Except.map (·.1)) hrun

theorem Reader.Narrows.document_eq_ok_iff {x y : Reader α} {P : α → Prop} (h : x.Narrows y P)
    {text : String} {a : α} : document x text = .ok a ↔ document y text = .ok a ∧ P a := by
  simp only [Json.document_eq_ok_iff, h _ _ _]
  constructor
  · rintro ⟨rest, ⟨hy, ha⟩, hend⟩
    exact ⟨⟨rest, hy, hend⟩, ha⟩
  · rintro ⟨⟨rest, hy, hend⟩, ha⟩
    exact ⟨rest, ⟨hy, ha⟩, hend⟩

end DataPipeline.Json
