import DataPipeline.Proofs.Settings.Merging
import DataPipeline.Proofs.Workflow.Rereading

/-!
# Patches

A patch is laid over the settings of a node key by key. What is merged is the document that the
settings are written as, so that the settings after a patch depend on settings that were read,
written, overlaid and read again; that this comes to laying the patch over what the user once wrote
is a matter of settings alone. Here it is said of workflows, where a patch also marks its keys as
edited and touches nothing else.

A patch can be made twice, with one exception: a database node that gets its table under `path` is
written with the table under `table`, and then has two tables when it gets it under `path` again.

## Main definitions

* `Node.Merges`, `Workflow.Merges`: what a patch does to a node and to a workflow
* `Workflow.RefusesPatch`: why a patch is rejected
* `Workflow.Decoded`: workflows whose nodes were read from documents
* `Workflow.NamesTable`: the patch has a text under `path` for a database node

## Main results

* `Workflow.patchSettings_merges`: patches merge key by key, and two of them like one
* `Workflow.patchSettings_again`: what comes of making a patch again
-/
namespace DataPipeline

open Json (Sorted)

/-! ## Nodes -/

/-- The node keeps its values under the keys that the patch leaves free, has the values of the patch
under the keys that its kind does not know, and all keys of the patch count as edited. -/
structure Node.Merges (p : Dict Json) (n n' : Node) : Prop where
  rest : n' = { n with settings := n'.settings, editedFields := n'.editedFields }
  kind : n'.kind = n.kind
  kept (key : String) : p.find? key = none →
    n'.settings.toJson.member key = n.settings.toJson.member key
  set (key : String) (j : Json) : key ∉ n.kind.keys → p.find? key = some j →
    n'.settings.toJson.member key = some j
  edited (key : String) : n'.editedFields.contains key = true ↔
    n.editedFields.contains key = true ∨ p.contains key = true

namespace Workflow

variable {w w' w₁ w₂ : Workflow} {id : String} {n : Node} {p q d : Dict Json} {k : Kind}
  {s s' : Settings} {patch : Json} {cause : EditError}

/-- What a patch is merged with, seen key by key. -/
theorem exists_dict_mergedSettings (n : Node) (hp : Sorted (.ofDict p)) :
    ∃ d, mergedSettings n p.entries = .ofDict d ∧ Sorted (.ofDict d) ∧
      d.find? = View.over p.find? n.settings.toJson.member := by
  obtain ⟨d, -, hmerged⟩ := exists_mergedSettings n p.entries
  refine ⟨_, hmerged, hmerged ▸ sorted_mergedSettings hp, funext fun key => ?_⟩
  have hmember := member_mergedSettings (n := n) hp key
  rw [hmerged] at hmember
  exact hmember

/-- The merged settings are read as what they show. -/
theorem ofJson_mergedSettings_iff (hp : Sorted (.ofDict p)) :
    Settings.ofJson k (mergedSettings n p.entries) = .ok s ↔
      Settings.Shown (View.over p.find? n.settings.toJson.member) k s := by
  obtain ⟨d, hmerged, hsorted, hfind⟩ := exists_dict_mergedSettings n hp
  rw [hmerged, Settings.ofJson_eq_ok_iff hsorted, hfind]

theorem patchSettings_ofDict_iff (hp : Sorted (.ofDict p)) :
    w.patchSettings id (.ofDict p) = .ok w' ↔ ∃ n s, w.node id = some n ∧
      Settings.Shown (View.over p.find? n.settings.toJson.member) n.kind s ∧
      w' = { w with nodes := modifyFirst id (patched s p.keys) w.nodes } := by
  rw [patchSettings_eq_ok_iff]
  constructor
  · rintro ⟨n, members, s, hn, hmembers, hread, rfl⟩
    obtain rfl := Json.obj.inj hmembers
    exact ⟨n, s, hn, (ofJson_mergedSettings_iff hp).1 hread, rfl⟩
  · rintro ⟨n, s, hn, hshown, rfl⟩
    exact ⟨n, p.entries, s, hn, rfl, (ofJson_mergedSettings_iff hp).2 hshown, rfl⟩

theorem node_patched (hn : w.node id = some n) (s : Settings) (keys : List String) :
    ({ w with nodes := modifyFirst id (patched s keys) w.nodes } : Workflow).node id =
      some (patched s keys n) := by
  rw [node, find?_modifyFirst (by intro; rfl)]
  have hfind : w.nodes.find? (·.id = id) = some n := hn
  rw [hfind, Option.map_some, if_pos rfl]

/-! ## Marks -/

theorem patched_overlay (s s' : Settings) (p q : Dict Json) (n : Node) :
    patched s' q.keys (patched s p.keys n) = patched s' (p.overlay q).keys n := by
  have hkeys : (n.editedFields.addAll p.keys).addAll q.keys =
      n.editedFields.addAll (p.overlay q).keys := by
    refine Dict.ext_contains fun key => ?_
    simp only [Dict.contains_addAll_iff, Dict.mem_keys_iff, Dict.contains_overlay,
      Bool.or_eq_true, or_assoc]
  rw [patched, patched, patched, hkeys]

theorem patched_patched (s : Settings) (keys : List String) (n : Node) :
    patched s keys (patched s keys n) = patched s keys n := by
  have hkeys : (n.editedFields.addAll keys).addAll keys = n.editedFields.addAll keys := by
    refine Dict.ext_contains fun key => ?_
    simp only [Dict.contains_addAll_iff, or_self_left]
  rw [patched, patched, hkeys]

/-! ## Refused patches -/

/-- Why a patch is rejected: there is no node, the patch is no object, or the merged settings are
not read. -/
inductive RefusesPatch (w : Workflow) (id : String) (patch : Json) : EditError → Prop
  | unknown (hn : w.node id = none) : RefusesPatch w id patch (.unknownNode id)
  | shapeless (n : Node) (hn : w.node id = some n) (hpatch : ∀ members, patch ≠ .obj members) :
      RefusesPatch w id patch (.patchNotObject id)
  | unread (n : Node) (members : List (String × Json)) (cause : Json.ShapeError)
      (hn : w.node id = some n) (hpatch : patch = .obj members)
      (hread : Settings.ofJson n.kind (mergedSettings n members) = .error cause) :
      RefusesPatch w id patch (.badPatch id cause)

theorem patchSettings_eq_error_iff :
    w.patchSettings id patch = .error cause ↔ w.RefusesPatch id patch cause := by
  constructor
  · intro h
    cases hn : w.node id with
    | none =>
      simp only [patchSettings, hn, Except.error.injEq] at h
      exact h ▸ .unknown hn
    | some n =>
      cases patch with
      | obj members =>
        cases hread : Settings.ofJson n.kind (mergedSettings n members) with
        | error cause' =>
          simp only [patchSettings, hn, hread, Except.error.injEq] at h
          exact h ▸ .unread n members cause' hn rfl hread
        | ok s =>
          have hok := patchSettings_eq_ok_iff.2 ⟨n, members, s, hn, rfl, hread, rfl⟩
          rw [h] at hok
          cases hok
      | _ =>
        simp only [patchSettings, hn, Except.error.injEq] at h
        exact h ▸ .shapeless n hn fun _ heq => by cases heq
  · intro h
    cases h with
    | unknown hn => simp only [patchSettings, hn]
    | shapeless n hn hpatch =>
      cases patch with
      | obj members => exact absurd rfl (hpatch members)
      | _ => simp only [patchSettings, hn]
    | unread n members cause hn hpatch hread =>
      subst hpatch
      simp only [patchSettings, hn, hread]

/-! ## Merging -/

/-- The patch does to the first node with the id what it does to a node, and nothing else. -/
def Merges (w w' : Workflow) (id : String) (p : Dict Json) : Prop :=
  ∃ before n after n', w.nodes = before ++ n :: after ∧ (∀ m ∈ before, m.id ≠ id) ∧ n.id = id ∧
    w' = ⟨before ++ n' :: after, w.connections⟩ ∧ n.Merges p n'

/-- The nodes were read from documents, and may have been edited since. -/
def Decoded (w : Workflow) : Prop :=
  ∃ (v : Workflow) (es : List Edit),
    (∀ n ∈ v.nodes, ∃ e, NodeEnvelope.codec.Given e ∧ Node.ofEnvelope e = .ok n) ∧
      (∀ e ∈ es, e.Plain) ∧ w = v.run es

/-- The patch does not give a database node its table under `path`. -/
def SparesPath (w : Workflow) (id : String) (p : Dict Json) : Prop :=
  ∀ n, w.node id = some n → n.kind = .database → p.find? "path" = none

theorem Decoded.sound (h : w.Decoded) : ∀ n ∈ w.nodes, n.Sound := by
  obtain ⟨v, es, hv, hes, rfl⟩ := h
  refine sound_run (fun n hn => ?_) hes
  obtain ⟨e, he, hread⟩ := hv n hn
  exact Node.sound_of_ofEnvelope he hread

theorem merges_patched (hs : n.settings.Sound) (hfree : View.Free p.find? n.kind.aliases)
    (hshown : Settings.Shown (View.over p.find? n.settings.toJson.member) n.kind s) :
    n.Merges p (patched s p.keys n) where
  rest := rfl
  kind := hshown.kind_eq
  kept key hkey := hshown.member_of_over hs hfree hkey
  set key j hkey hj := (hshown.member_toJson hkey).trans (View.over_of_some hj)
  edited key := by
    rw [patched, Dict.contains_addAll_iff, Dict.mem_keys_iff, or_comm]

/-- A patch merges into the settings of a node key by key, and leaves all else as it is. Two patches
that go through one after the other amount to the second one laid over the first. A patch that is
rejected leaves the workflow as it is, whatever the reason. -/
theorem patchSettings_merges (hw : w.Decoded) (id : String) :
    (∀ p w', Sorted (.ofDict p) → w.SparesPath id p → w.patchSettings id (.ofDict p) = .ok w' →
      w.Merges w' id p) ∧
    (∀ p q w₁ w₂, Sorted (.ofDict p) → Sorted (.ofDict q) → w.SparesPath id p →
      w.SparesPath id q → w.patchSettings id (.ofDict p) = .ok w₁ →
      w₁.patchSettings id (.ofDict q) = .ok w₂ →
      w.patchSettings id (.ofDict (p.overlay q)) = .ok w₂) ∧
    ∀ patch cause, (w.patchSettings id patch = .error cause ↔ w.RefusesPatch id patch cause) ∧
      (w.patchSettings id patch = .error cause → w.attempt (.patchSettings id patch) = w) := by
  have hsound (n : Node) (hn : w.node id = some n) : n.settings.Sound :=
    (hw.sound n (node_eq_some hn).1).settings
  refine ⟨fun p w' hp hspares h => ?_, fun p q w₁ w₂ hp hq hpfree hqfree h₁ h₂ => ?_,
    fun patch cause => ⟨patchSettings_eq_error_iff, fun h => attempt_of_error h⟩⟩
  · obtain ⟨n, s, hn, hshown, rfl⟩ := (patchSettings_ofDict_iff hp).1 h
    obtain ⟨before, after, hnodes, hbefore⟩ := exists_split_of_node hn
    have hid : n.id = id := (node_eq_some hn).2
    refine ⟨before, n, after, patched s p.keys n, hnodes, hbefore, hid, ?_, ?_⟩
    · rw [hnodes, modifyFirst_split hbefore hid]
    · exact merges_patched (hsound n hn) (Kind.free_aliases_iff.2 (hspares n hn)) hshown
  · obtain ⟨n, s, hn, hshown, rfl⟩ := (patchSettings_ofDict_iff hp).1 h₁
    obtain ⟨m, s', hm, hshown', rfl⟩ := (patchSettings_ofDict_iff hq).1 h₂
    obtain rfl := Option.some.inj ((node_patched hn s p.keys).symm.trans hm)
    have hpq : Sorted (.ofDict (p.overlay q)) := by
      refine Json.sorted_ofDict fun m hm => ?_
      rcases Dict.mem_overlayList hm with hm | hm
      · exact hq.of_mem_obj hm
      · exact hp.of_mem_obj hm
    have hfind : (p.overlay q).find? = View.over q.find? p.find? := funext (Dict.find?_overlay p q)
    have hkind : (patched s p.keys n).kind = n.kind := hshown.kind_eq
    rw [hkind] at hshown'
    have hboth :
        Settings.Shown (View.over (p.overlay q).find? n.settings.toJson.member) n.kind s' :=
      hfind ▸ hshown.over_over hshown' (Kind.free_aliases_iff.2 (hqfree n hn))
        (Kind.free_aliases_iff.2 (hpfree n hn)) (hsound n hn).shown.free_member_toJson
    refine (patchSettings_ofDict_iff hpq).2 ⟨n, s', hn, hboth, ?_⟩
    rw [modifyFirst_modifyFirst (by intro; rfl)]
    simp only [patched_overlay]

/-- A database node with a key that its kind does not know, as it stands in a document. -/
def ledgerDocument : Json :=
  .obj [("data", .obj [("note", .str "x"), ("table", .str "t")]), ("id", .str "db"),
    ("type", .str "database")]

def ledgerNode : Node :=
  { id := "db"
    settings := .database { table := some "t", extra := ⟨[("note", .str "x")], by decide⟩ } }

/-- The database node on its own. -/
def ledger : Workflow := { nodes := [ledgerNode] }

theorem sorted_ledgerDocument : Sorted ledgerDocument := by
  refine .obj (by decide) ?_
  simp only [List.forall_mem_cons]
  exact ⟨sorted_pair (by decide) "x" "t", .str "db", .str "database", by simp⟩

theorem decoded_ledger : ledger.Decoded := by
  refine ⟨ledger, [], fun n hn => ?_, by simp, rfl⟩
  obtain rfl : n = ledgerNode := List.mem_singleton.1 hn
  have hgiven : Node.codec.Given ledgerNode := ⟨ledgerDocument, .inl sorted_ledgerDocument, rfl⟩
  exact Codec.given_of_refine hgiven

/-- A patch with a known and an unknown key. -/
def ownerPatch : Dict Json := ⟨[("mode", .str "append"), ("owner", .str "ops")], by decide⟩

/-- A patch that sets one key of the other patch anew. -/
def tablePatch : Dict Json := ⟨[("owner", .str "dev"), ("table", .str "u")], by decide⟩

/-- Both patches go through, one after the other, and amount to one. An unknown node is refused. -/
theorem patchSettings_merges_ledger :
    ledger.Decoded ∧ ∃ w₁ w₂, ledger.patchSettings "db" (.ofDict ownerPatch) = .ok w₁ ∧
      w₁.patchSettings "db" (.ofDict tablePatch) = .ok w₂ ∧
      ledger.Merges w₁ "db" ownerPatch ∧
      ledger.patchSettings "db" (.ofDict (ownerPatch.overlay tablePatch)) = .ok w₂ ∧
      ledger.attempt (.patchSettings "out" .null) = ledger := by
  obtain ⟨w₂, hrun⟩ : ∃ w₂, (ledger.patchSettings "db" (.ofDict ownerPatch) >>=
      fun w₁ => w₁.patchSettings "db" (.ofDict tablePatch)) = .ok w₂ :=
    exists_of_toBool (by decide +kernel)
  obtain ⟨w₁, h₁, h₂⟩ := exists_of_bind_eq_ok hrun
  have hp : Sorted (.ofDict ownerPatch) := sorted_pair (by decide) "append" "ops"
  have hq : Sorted (.ofDict tablePatch) := sorted_pair (by decide) "dev" "u"
  obtain ⟨hone, htwo, hrefused⟩ := patchSettings_merges decoded_ledger "db"
  have hunknown := (patchSettings_merges decoded_ledger "out").2.2 .null (.unknownNode "out")
  exact ⟨decoded_ledger, w₁, w₂, h₁, h₂, hone _ _ hp (by intro _ _ _; rfl) h₁,
    htwo _ _ _ _ hp hq (by intro _ _ _; rfl) (by intro _ _ _; rfl) h₁ h₂, hunknown.2 rfl⟩

/-! ## Making a patch again -/

/-- The patch has a text under `path` for a database node. -/
def NamesTable (w : Workflow) (id : String) (p : Dict Json) : Prop :=
  ∃ n table, w.node id = some n ∧ n.kind = .database ∧ p.find? "path" = some (.str table)

/-- A patch that went through goes through again and changes nothing more, unless it gives a
database node its table under `path`: this is rejected the second time, since the table stands under
its own key by then. -/
theorem patchSettings_again (hp : Sorted (.ofDict p))
    (h : w.patchSettings id (.ofDict p) = .ok w') :
    (¬ w.NamesTable id p → w'.patchSettings id (.ofDict p) = .ok w') ∧
      (w.NamesTable id p →
        w'.patchSettings id (.ofDict p) = .error (.badPatch id (.duplicateField "table"))) := by
  obtain ⟨n, s, hn, hshown, rfl⟩ := (patchSettings_ofDict_iff hp).1 h
  have hpatched := node_patched hn s p.keys
  have hkind : (patched s p.keys n).kind = n.kind := hshown.kind_eq
  constructor
  · intro hnames
    have hagain : Settings.Shown (View.over p.find? s.toJson.member) n.kind s :=
      hshown.over_again fun hk table hpath => hnames ⟨n, table, hn, hk, hpath⟩
    refine (patchSettings_ofDict_iff hp).2 ⟨_, s, hpatched, hkind ▸ hagain, ?_⟩
    rw [modifyFirst_modifyFirst (by intro; rfl)]
    simp only [patched_patched]
  · rintro ⟨m, table, hm, hk, hpath⟩
    obtain rfl := Option.some.inj (hn.symm.trans hm)
    obtain ⟨d, hmerged, -, hfind⟩ := exists_dict_mergedSettings (patched s p.keys n) hp
    rw [hk] at hshown
    have hread : Settings.ofJson (patched s p.keys n).kind
        (mergedSettings (patched s p.keys n) p.entries) = .error (.duplicateField "table") := by
      rw [hkind, hk, hmerged]
      exact hshown.ofJson_eq_duplicate hpath hfind
    exact patchSettings_eq_error_iff.2 (.unread _ _ _ hpatched rfl hread)

/-- A patch that gives a database node its table under the other key. -/
def pathPatch : Dict Json := ⟨[("path", .str "u")], by decide⟩

/-- A database node that has no table yet. -/
def untabled : Workflow := { nodes := [{ id := "db", settings := .database {} }] }

/-- One patch goes through twice, the other one only once. -/
theorem patchSettings_again_untabled :
    Sorted (.ofDict ownerPatch) ∧ Sorted (.ofDict pathPatch) ∧
      (∃ w', untabled.patchSettings "db" (.ofDict ownerPatch) = .ok w' ∧
        w'.patchSettings "db" (.ofDict ownerPatch) = .ok w') ∧
      ∃ w', untabled.patchSettings "db" (.ofDict pathPatch) = .ok w' ∧
        w'.patchSettings "db" (.ofDict pathPatch) =
          .error (.badPatch "db" (.duplicateField "table")) := by
  have hp : Sorted (.ofDict ownerPatch) := sorted_pair (by decide) "append" "ops"
  have hq : Sorted (.ofDict pathPatch) := Json.sorted_ofDict (by simp [pathPatch, Json.Sorted.str])
  obtain ⟨w₁, h₁⟩ : ∃ w', untabled.patchSettings "db" (.ofDict ownerPatch) = .ok w' :=
    exists_of_toBool (by decide +kernel)
  obtain ⟨w₂, h₂⟩ : ∃ w', untabled.patchSettings "db" (.ofDict pathPatch) = .ok w' :=
    exists_of_toBool (by decide +kernel)
  refine ⟨hp, hq, ⟨w₁, h₁, (patchSettings_again hp h₁).1 ?_⟩, w₂, h₂,
    (patchSettings_again hq h₂).2 ⟨_, "u", rfl, rfl, rfl⟩⟩
  rintro ⟨n, table, -, -, hpath⟩
  cases hpath

/-- A patch need not go through twice. -/
theorem not_patchSettings_again : ¬ ∀ (w w' : Workflow) (id : String) (p : Dict Json),
    Sorted (.ofDict p) → w.patchSettings id (.ofDict p) = .ok w' →
      w'.patchSettings id (.ofDict p) = .ok w' := by
  intro h
  have hq : Sorted (.ofDict pathPatch) := Json.sorted_ofDict (by simp [pathPatch, Json.Sorted.str])
  obtain ⟨w', hw'⟩ : ∃ w', untabled.patchSettings "db" (.ofDict pathPatch) = .ok w' :=
    exists_of_toBool (by decide +kernel)
  have htwice : (untabled.patchSettings "db" (.ofDict pathPatch) >>=
      fun w => w.patchSettings "db" (.ofDict pathPatch)).toBool = false := by
    decide +kernel
  have hbind : (untabled.patchSettings "db" (.ofDict pathPatch) >>=
      fun w => w.patchSettings "db" (.ofDict pathPatch)) = .ok w' := by
    rw [hw']
    exact h untabled w' "db" pathPatch hq hw'
  rw [hbind] at htwice
  cases htwice

end Workflow

end DataPipeline
