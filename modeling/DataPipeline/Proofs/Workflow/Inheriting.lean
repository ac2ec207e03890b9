import DataPipeline.Proofs.Settings.Inherited
import DataPipeline.Proofs.Workflow.Reports
import DataPipeline.Proofs.Workflow.Rereading

/-!
# Taking over a path once

A node is followed from its place in the list of nodes through a sequence of edits. Unless the user
sets the field himself, the field that is filled in from the node in front is filled in at most
once: a field that the user has edited stays as it is, and so does one that is not blank.

Ids may repeat, so a node is told from others by its place. Only a removal changes the place of a
node that stays.

## Main definitions

* `Workflow.placeAfter`, `Workflow.history`: where a node is after an edit, and all its states
* `Workflow.Leaves`: edits that neither remove a node nor set its field
* `Workflow.Fate`: what an edit makes of a node
* `Workflow.TakesOverOnce`: what becomes of the field

## Main results

* `Workflow.exists_fate`: an edit makes something of every node that it leaves in the workflow
* `Workflow.Fate.textAt_eq`: the step, seen from the field
* `Workflow.takes_over_once`
-/
namespace DataPipeline.Workflow

variable {w w' : Workflow} {i j : Nat} {n n' : Node} {e : Edit} {es : List Edit}
  {id field key : String} {f : Node → Node}

/-! ## Places -/

/-- Where the node at a place is after an edit, unless it is removed. -/
def placeAfter (w : Workflow) (i : Nat) : Edit → Option Nat
  | .eraseNode id =>
    match w.nodes.findIdx? (·.id = id) with
    | some j => if j = i then none else if j < i then some (i - 1) else some i
    | none => some i
  | _ => some i

/-- The states of the node at a place, from the first one until the edits are made or the node is
removed. -/
def history (w : Workflow) (i : Nat) : List Edit → List Node
  | [] => w.nodes[i]?.toList
  | e :: es => w.nodes[i]?.toList ++
    match w.placeAfter i e with
    | some j => (w.attempt e).history j es
    | none => []

theorem placeAfter_of_error {cause : EditError} (h : w.apply e = .error cause) :
    w.placeAfter i e = some i := by
  cases e with
  | eraseNode id =>
    have hid : id ∉ w.ids := fun hid => by
      rw [apply_eraseNode_eq_ok_iff.2 ⟨hid, rfl⟩] at h
      cases h
    have hnone : w.nodes.findIdx? (·.id = id) = none := by
      simpa [mem_ids] using hid
    rw [placeAfter, hnone]
  | _ => rfl

/-- A node that is not removed stands where it is expected. -/
theorem getElem?_eraseP (h : w.placeAfter i (.eraseNode id) = some j) :
    (w.nodes.eraseP (·.id = id))[j]? = w.nodes[i]? := by
  rw [placeAfter] at h
  rw [List.eraseP_eq_eraseIdx]
  cases hfind : w.nodes.findIdx? (·.id = id) with
  | none =>
    rw [hfind] at h
    obtain rfl := Option.some.inj h
    rfl
  | some p =>
    rw [hfind] at h
    simp only at h
    rw [List.getElem?_eraseIdx]
    split_ifs at h with hpi hlt
    · obtain rfl := Option.some.inj h
      rw [if_neg (by omega), Nat.sub_add_cancel (by omega)]
    · obtain rfl := Option.some.inj h
      rw [if_pos (by omega)]

/-! ## One edit -/

/-- The edit connects a node to the id, and this node leaves behind a file at the path. -/
inductive Supplies (w : Workflow) (id : String) : Edit → String → Prop
  | connect {s path : String} {source : Node} (hsource : w.node s = some source)
      (hpath : source.settings.producedPath = some path)
      (hok : ∃ w', w.connect s id = .ok w') : Supplies w id (.connect s id) path

/-- The edit is made and sets the field of the node at the place. -/
inductive Patches (w : Workflow) (i : Nat) (field : String) : Edit → Prop
  | patchSettings {id : String} {members : List (String × Json)}
      (hplace : w.nodes.findIdx? (·.id = id) = some i) (hfield : field ∈ members.map (·.1))
      (hok : ∃ w', w.patchSettings id (.obj members) = .ok w') :
      Patches w i field (.patchSettings id (.obj members))

/-- What an edit makes of the node at a place. -/
inductive Fate (w : Workflow) (i : Nat) (n : Node) : Edit → Node → Prop
  | kept {e : Edit} : Fate w i n e n
  | filled {e : Edit} {field path : String} (hsupplies : w.Supplies n.id e path)
      (hfield : n.kind.inheritedField = some field)
      (hedited : n.editedFields.contains field = false)
      (hblank : Text.isMissing n.settings.inheritedValue = true) :
      Fate w i n e { n with settings := n.settings.fill path }
  | patched {id : String} {members : List (String × Json)} {settings : Settings}
      (hplace : w.nodes.findIdx? (·.id = id) = some i)
      (hok : ∃ w', w.patchSettings id (.obj members) = .ok w')
      (hread : Settings.ofJson n.kind (mergedSettings n members) = .ok settings) :
      Fate w i n (.patchSettings id (.obj members)) (patched settings (members.map (·.1)) n)
  | marked {e : Edit} : Fate w i n e (e.mark n)

/-- A change to the first node with an id, if this is the node at the place. -/
theorem exists_fate_of_modifyFirst (hn : w.nodes[i]? = some n)
    (hf : w.nodes.findIdx? (·.id = id) = some i → w.Fate i n e (f n))
    (hnodes : w'.nodes = modifyFirst id f w.nodes) :
    ∃ n', w'.nodes[i]? = some n' ∧ w.Fate i n e n' := by
  rw [hnodes, getElem?_modifyFirst, hn]
  by_cases hplace : w.nodes.findIdx? (·.id = id) = some i
  · exact ⟨f n, by simp [hplace], hf hplace⟩
  · exact ⟨n, by simp [hplace], .kept⟩

/-- The step, one case for each edit. -/
theorem exists_fate (hn : w.nodes[i]? = some n) (hj : w.placeAfter i e = some j) :
    ∃ n', (w.attempt e).nodes[j]? = some n' ∧ w.Fate i n e n' := by
  cases happly : w.apply e with
  | error cause =>
    obtain rfl := Option.some.inj ((placeAfter_of_error happly).symm.trans hj)
    exact ⟨n, (congrArg (·.nodes[i]?) (attempt_of_error happly)).trans hn, .kept⟩
  | ok w' =>
    rw [attempt_of_ok happly]
    cases e with
    | insertNode m =>
      obtain rfl := Option.some.inj hj
      obtain ⟨-, rfl⟩ := insertNode_eq_ok_iff.1 happly
      have hlt : i < w.nodes.length := (List.getElem?_eq_some_iff.1 hn).1
      exact ⟨n, (List.getElem?_append_left hlt).trans hn, .kept⟩
    | eraseNode id =>
      obtain ⟨-, rfl⟩ := apply_eraseNode_eq_ok_iff.1 happly
      exact ⟨n, (getElem?_eraseP hj).trans hn, .kept⟩
    | connect s t =>
      obtain rfl := Option.some.inj hj
      obtain ⟨source, hs, -, -, -, -, rfl⟩ := connect_eq_ok_iff.1 happly
      refine exists_fate_of_modifyFirst hn (fun hplace => ?_) rfl
      obtain rfl := id_eq_of_findIdx? hplace hn
      rw [Node.inheritPath]
      split
      · rename_i field path hinherit
        obtain ⟨hfield, hpath, hedited, hblank⟩ := Node.inheritance_eq_some_iff.1 hinherit
        exact .filled (.connect hs hpath ⟨_, happly⟩) hfield hedited hblank
      · exact .kept
    | disconnect s t =>
      obtain rfl := Option.some.inj hj
      obtain ⟨-, rfl⟩ := disconnect_eq_ok_iff.1 happly
      exact ⟨n, hn, .kept⟩
    | patchSettings id patch =>
      obtain rfl := Option.some.inj hj
      obtain ⟨m, members, settings, hm, rfl, hread, rfl⟩ := patchSettings_eq_ok_iff.1 happly
      refine exists_fate_of_modifyFirst hn (fun hplace => ?_) rfl
      obtain rfl := Option.some.inj ((find?_of_findIdx? hplace hn).symm.trans hm)
      exact .patched hplace ⟨_, happly⟩ hread
    | recordRun id status output error =>
      obtain rfl := Option.some.inj hj
      obtain ⟨-, rfl⟩ := modifyNode_eq_ok_iff.1 happly
      exact exists_fate_of_modifyFirst hn (fun _ => .marked) rfl
    | storeConfigId id configId =>
      obtain rfl := Option.some.inj hj
      obtain ⟨-, rfl⟩ := modifyNode_eq_ok_iff.1 happly
      exact exists_fate_of_modifyFirst hn (fun _ => .marked) rfl

namespace Fate

theorem id_eq (h : w.Fate i n e n') : n'.id = n.id := by
  cases h with
  | marked => exact e.id_mark n
  | _ => rfl

theorem kind_eq (h : w.Fate i n e n') : n'.kind = n.kind := by
  cases h with
  | kept => rfl
  | filled => exact Settings.kind_fill _ _
  | patched _ _ hread => exact Settings.kind_of_ofJson hread
  | marked => exact congrArg Settings.kind (e.settings_mark n)

/-- A key that was edited remains so. -/
theorem contains_editedFields (h : w.Fate i n e n') (hkey : n.editedFields.contains key = true) :
    n'.editedFields.contains key = true := by
  cases h with
  | kept | filled => exact hkey
  | patched => exact Dict.contains_addAll_iff.2 (.inr hkey)
  | marked => rwa [e.editedFields_mark]

/-- Settings that were patched elsewhere have the text of the field as before, and no second
value. -/
theorem textAt_of_patch {members : List (String × Json)} {settings : Settings}
    (hk : n.kind.inheritedField = some field) (hfield : field ∉ members.map (·.1))
    (hread : Settings.ofJson n.kind (mergedSettings n members) = .ok settings) :
    settings.textAt field = n.settings.textAt field ∧ settings.extra.find? field = none := by
  obtain ⟨d, hd, hmerged⟩ := exists_mergedSettings n members
  rw [hmerged, Json.ofDict] at hread
  obtain ⟨hvalue, hextra⟩ := Settings.read_of_ofJson hk hread
  refine ⟨?_, hextra⟩
  have hkind : settings.kind.inheritedField = some field :=
    (Settings.kind_of_ofJson hread).symm ▸ hk
  have hmember : (d.overlayList members).find? field = d.find? field := by
    have hnone : Dict.lookup field members.reverse = none :=
      Dict.lookup_eq_none_iff.2 fun m hm heq =>
        hfield (List.mem_map.2 ⟨m, List.mem_reverse.1 hm, heq⟩)
    rw [Dict.find?_overlayList, hnone, Option.none_or]
  rw [Settings.textAt_eq hkind, hextra, Option.elim_none, hvalue, Settings.textAt, hd]
  exact congrArg (·.bind Json.text?) hmember

/-- No second value of the field comes up. -/
theorem find?_extra (h : w.Fate i n e n') (hk : n.kind.inheritedField = some field)
    (hextra : n.settings.extra.find? field = none) : n'.settings.extra.find? field = none := by
  cases h with
  | kept => exact hextra
  | filled => rwa [Settings.extra_fill]
  | @patched _ members _ _ _ hread =>
    obtain ⟨d, -, hmerged⟩ := exists_mergedSettings n members
    rw [hmerged] at hread
    exact (Settings.read_of_ofJson hk hread).2
  | marked => rwa [e.settings_mark]

/-- The step, seen from the field: it stays as it is, or the node takes over a path into it. -/
theorem textAt_eq (h : w.Fate i n e n') (hk : n.kind.inheritedField = some field)
    (hpatch : ¬ w.Patches i field e) :
    n'.settings.textAt field = n.settings.textAt field ∨
      n.editedFields.contains field = false ∧
        Text.isMissing (n.settings.textAt field) = true ∧
        ∃ path, w.Supplies n.id e path ∧ Text.isBlank path = false ∧
          n'.settings.textAt field = some path := by
  cases h with
  | kept => exact .inl rfl
  | marked => exact .inl (by rw [e.settings_mark])
  | patched hplace hok hread =>
    have hfield := fun hfield => hpatch (.patchSettings hplace hfield hok)
    exact .inl (textAt_of_patch hk hfield hread).1
  | @filled _ _ path hsupplies hfield hedited hblank =>
    obtain rfl := Option.some.inj (hk.symm.trans hfield)
    have hbefore := n.settings.textAt_eq hk
    have hafter := n.settings.textAt_fill hk path
    cases hextra : n.settings.extra.find? field with
    | some j =>
      rw [hextra] at hbefore hafter
      exact .inl (hafter.trans hbefore.symm)
    | none =>
      rw [hextra] at hbefore hafter
      have hpath : Text.isBlank path = false := by
        cases hsupplies with
        | connect _ hpath => exact Settings.isBlank_producedPath hpath
      exact .inr ⟨hedited, hbefore ▸ hblank, path, hsupplies, hpath, hafter⟩

end Fate

/-! ## Sequences of edits -/

/-- The edits neither remove the node at the place nor set its field. -/
def Leaves (field : String) : Workflow → Nat → List Edit → Prop
  | _, _, [] => True
  | w, i, e :: es =>
    ¬ w.Patches i field e ∧ ∃ j, w.placeAfter i e = some j ∧ Leaves field (w.attempt e) j es

theorem history_nil (hn : w.nodes[i]? = some n) : w.history i [] = [n] := by
  rw [history, hn]
  rfl

theorem history_cons (hn : w.nodes[i]? = some n) (hj : w.placeAfter i e = some j) :
    w.history i (e :: es) = n :: (w.attempt e).history j es := by
  rw [history, hn, hj]
  rfl

theorem history_cons_of_removed (hn : w.nodes[i]? = some n) (hj : w.placeAfter i e = none) :
    w.history i (e :: es) = [n] := by
  rw [history, hn, hj]
  rfl

/-- What holds of a node and is kept by every edit holds of all its later states. -/
theorem forall_mem_history {P : Node → Prop} (hn : w.nodes[i]? = some n) (h : P n)
    (hstep : ∀ (w : Workflow) (i : Nat) (e : Edit) (n n' : Node), w.Fate i n e n' → P n → P n') :
    ∀ m ∈ w.history i es, P m := by
  induction es generalizing w i n with
  | nil => simpa [history_nil hn] using h
  | cons e es ih =>
    cases hj : w.placeAfter i e with
    | none => simpa [history_cons_of_removed hn hj] using h
    | some j =>
      obtain ⟨n', hn', hfate⟩ := exists_fate hn hj
      rw [history_cons hn hj, List.forall_mem_cons]
      exact ⟨h, ih hn' (hstep w i e n n' hfate h)⟩

/-- The keys that were edited in one state were edited in the other. -/
def Grows (m m' : Node) : Prop :=
  ∀ key, m.editedFields.contains key = true → m'.editedFields.contains key = true

theorem pairwise_grows (hn : w.nodes[i]? = some n) : (w.history i es).Pairwise Grows := by
  induction es generalizing w i n with
  | nil => simp [history_nil hn]
  | cons e es ih =>
    cases hj : w.placeAfter i e with
    | none => simp [history_cons_of_removed hn hj]
    | some j =>
      obtain ⟨n', hn', hfate⟩ := exists_fate hn hj
      have hstep : Grows n n' := fun _ => hfate.contains_editedFields
      rw [history_cons hn hj, List.pairwise_cons]
      refine ⟨forall_mem_history hn' hstep fun w i e m m' hfate hm key hkey => ?_, ih hn'⟩
      exact hfate.contains_editedFields (hm key hkey)

/-- A field without a second value is what the document has. -/
theorem inheritedValue_of_mem_history (hn : w.nodes[i]? = some n)
    (hk : n.kind.inheritedField = some field) (hextra : n.settings.extra.find? field = none) :
    ∀ m ∈ w.history i es, m.settings.inheritedValue = m.settings.textAt field := by
  have hall : ∀ m ∈ w.history i es,
      m.kind.inheritedField = some field ∧ m.settings.extra.find? field = none :=
    forall_mem_history hn ⟨hk, hextra⟩ fun w i e m m' hfate hm =>
      ⟨hfate.kind_eq ▸ hm.1, hfate.find?_extra hm.1 hm.2⟩
  intro m hm
  obtain ⟨hk, hextra⟩ := hall m hm
  rw [Settings.textAt_eq hk, hextra, Option.elim_none]

section Leaves

variable (hn : w.nodes[i]? = some n) (hk : n.kind.inheritedField = some field)
  (hes : Leaves field w i es)

include hn hk hes

theorem length_history : (w.history i es).length = es.length + 1 := by
  induction es generalizing w i n with
  | nil => simp [history_nil hn]
  | cons e es ih =>
    obtain ⟨-, j, hj, hes⟩ := hes
    obtain ⟨n', hn', hfate⟩ := exists_fate hn hj
    rw [history_cons hn hj, List.length_cons, ih hn' (hfate.kind_eq ▸ hk) hes, List.length_cons]

/-- A field that the user has edited or that is not blank stays as it is. -/
theorem textAt_of_settled
    (hsettled : n.editedFields.contains field = true ∨
      Text.isMissing (n.settings.textAt field) = false) :
    ∀ m ∈ w.history i es, m.settings.textAt field = n.settings.textAt field := by
  induction es generalizing w i n with
  | nil => simp [history_nil hn]
  | cons e es ih =>
    obtain ⟨hpatch, j, hj, hes⟩ := hes
    obtain ⟨n', hn', hfate⟩ := exists_fate hn hj
    rw [history_cons hn hj, List.forall_mem_cons]
    refine ⟨rfl, ?_⟩
    rcases hfate.textAt_eq hk hpatch with hsame | ⟨hedited, hblank, -⟩
    · rw [← hsame] at hsettled ⊢
      exact ih hn' (hfate.kind_eq ▸ hk) hes (hsettled.imp_left hfate.contains_editedFields)
    · simp [hedited, hblank] at hsettled

/-- The run: by induction on the edits. Up to the first edit that fills the field in nothing happens
to it, and from then on it is settled. -/
theorem kept_or_supplied :
    (∀ m ∈ w.history i es, m.settings.textAt field = n.settings.textAt field) ∨
      ∃ t e path, es[t]? = some e ∧ (w.run (es.take t)).Supplies n.id e path ∧
        Text.isBlank path = false ∧ Text.isMissing (n.settings.textAt field) = true ∧
        (∀ m ∈ (w.history i es).take (t + 1),
          m.settings.textAt field = n.settings.textAt field) ∧
        ∀ m ∈ (w.history i es).drop (t + 1), m.settings.textAt field = some path := by
  induction es generalizing w i n with
  | nil => simp [history_nil hn]
  | cons e es ih =>
    obtain ⟨hpatch, j, hj, hes⟩ := hes
    obtain ⟨n', hn', hfate⟩ := exists_fate hn hj
    have hk' : n'.kind.inheritedField = some field := hfate.kind_eq ▸ hk
    rw [history_cons hn hj]
    rcases hfate.textAt_eq hk hpatch with hsame | ⟨-, hblank, path, hsupplies, hpath, hfilled⟩
    · rcases ih hn' hk' hes with hall | ⟨t, e', path, he', hsupplies, hpath, hblank, hold, hnew⟩
      · exact .inl (List.forall_mem_cons.2 ⟨rfl, hsame ▸ hall⟩)
      · refine .inr ⟨t + 1, e', path, he', hfate.id_eq ▸ hsupplies, hpath, hsame ▸ hblank, ?_, hnew⟩
        exact List.forall_mem_cons.2 ⟨rfl, hsame ▸ hold⟩
    · have hvisible : Text.isMissing (n'.settings.textAt field) = false := by
        simp [hfilled, Text.isMissing, hpath]
      have hsettled := textAt_of_settled hn' hk' hes (.inr hvisible)
      exact .inr ⟨0, e, path, rfl, hsupplies, hpath, hblank, by simp, hfilled ▸ hsettled⟩

end Leaves

/-- What becomes of a node and the field that is filled in. -/
structure TakesOverOnce (w : Workflow) (i : Nat) (n : Node) (field : String) (es : List Edit) :
    Prop where
  /-- The node is there all the while. -/
  length : (w.history i es).length = es.length + 1
  grows : (w.history i es).Pairwise Grows
  edited : n.editedFields.contains field = true →
    ∀ m ∈ w.history i es, m.settings.textAt field = n.settings.textAt field
  /-- The field is blank and then has the path that is taken over at the edit `t`, or it does not
  change. -/
  once : (∀ m ∈ w.history i es, m.settings.textAt field = n.settings.textAt field) ∨
    ∃ t e path, es[t]? = some e ∧ (w.run (es.take t)).Supplies n.id e path ∧
      Text.isBlank path = false ∧ Text.isMissing (n.settings.textAt field) = true ∧
      (∀ m ∈ (w.history i es).take (t + 1), m.settings.textAt field = n.settings.textAt field) ∧
      ∀ m ∈ (w.history i es).drop (t + 1), m.settings.textAt field = some path
  /-- Settings that keep no second value have in the field what their document has. -/
  value : n.settings.extra.find? field = none →
    ∀ m ∈ w.history i es, m.settings.inheritedValue = m.settings.textAt field

/-- Among edits that neither remove a node nor set the field that is filled in, the field is filled
in at most once, and never if the user has edited it; and he has edited what a patch sets, whatever
it sets it to. -/
theorem takes_over_once :
    (∀ (w : Workflow) (i : Nat) (n : Node) (field : String) (es : List Edit),
      w.nodes[i]? = some n → n.kind.inheritedField = some field → Leaves field w i es →
        w.TakesOverOnce i n field es) ∧
      ∀ (w w' : Workflow) (id field : String) (members : List (String × Json)),
        w.patchSettings id (.obj members) = .ok w' → field ∈ members.map (·.1) →
          ∃ i n', w.nodes.findIdx? (·.id = id) = some i ∧ w'.nodes[i]? = some n' ∧
            n'.editedFields.contains field = true := by
  constructor
  · intro w i n field es hn hk hes
    exact {
      length := length_history hn hk hes
      grows := pairwise_grows hn
      edited := fun hedited => textAt_of_settled hn hk hes (.inl hedited)
      once := kept_or_supplied hn hk hes
      value := inheritedValue_of_mem_history hn hk }
  · intro w w' id field members hok hfield
    obtain ⟨n, ms, settings, hn, hmembers, -, rfl⟩ := patchSettings_eq_ok_iff.1 hok
    obtain rfl := Json.obj.inj hmembers
    obtain ⟨i, hi⟩ : ∃ i, w.nodes.findIdx? (·.id = id) = some i := by
      rw [← Option.isSome_iff_exists, List.findIdx?_isSome]
      exact List.any_eq_true.2 ⟨n, (node_eq_some hn).1, by simp [(node_eq_some hn).2]⟩
    obtain ⟨hlt, -, -⟩ := List.findIdx?_eq_some_iff_getElem.1 hi
    refine ⟨i, patched settings (members.map (·.1)) w.nodes[i], hi, ?_,
      Dict.contains_addAll_iff.2 (.inl hfield)⟩
    rw [getElem?_modifyFirst, List.getElem?_eq_getElem hlt, Option.map_some, if_pos hi]

/-- Two files, and a copy that is not told yet which of them to copy. -/
def depot : Workflow where
  nodes := [
    { id := "old", settings := .start {} },
    { id := "in", settings := .readFile { path := some "in.csv" } },
    { id := "other", settings := .readFile { path := some "other.csv" } },
    { id := "copy", settings := .copyFile { sourcePath := some " " } }]

/-- The copy moves up, gets its path, is labelled and is connected to the other file as well. -/
def depotEdits : List Edit :=
  [.eraseNode "old", .connect "in" "copy", .patchSettings "copy" (.obj [("label", .str "Copy")]),
    .disconnect "in" "copy", .recordRun "copy" .success none none, .connect "other" "copy"]

theorem leaves_depot : Leaves "source_path" depot 3 depotEdits := by
  refine ⟨?_, 2, rfl, ?_, 2, rfl, ?_, 2, rfl, ?_, 2, rfl, ?_, 2, rfl, ?_, 2, rfl, trivial⟩
  case refine_3 =>
    rintro ⟨-, hfield, -⟩
    simp at hfield
  all_goals rintro ⟨⟩

theorem takes_over_once_depot :
    (∃ n, depot.nodes[3]? = some n ∧ Leaves "source_path" depot 3 depotEdits ∧
      depot.TakesOverOnce 3 n "source_path" depotEdits) ∧
    ∃ w', depot.patchSettings "copy" (.obj [("source_path", .null)]) = .ok w' ∧
      ∃ i n', depot.nodes.findIdx? (·.id = "copy") = some i ∧ w'.nodes[i]? = some n' ∧
        n'.editedFields.contains "source_path" = true := by
  obtain ⟨w', hw'⟩ : ∃ w', depot.patchSettings "copy" (.obj [("source_path", .null)]) = .ok w' :=
    ⟨_, rfl⟩
  have honce := takes_over_once.1 depot 3 _ "source_path" depotEdits rfl rfl leaves_depot
  exact ⟨⟨_, rfl, leaves_depot, honce⟩, w', hw', takes_over_once.2 depot w' _ _ _ hw' (by simp)⟩

/-- The values of the path from moment to moment. -/
example : (depot.history 3 depotEdits).map (·.settings.inheritedValue) =
    [some " ", some " ", some "in.csv", some "in.csv", some "in.csv", some "in.csv",
      some "in.csv"] := by decide +kernel

end DataPipeline.Workflow
