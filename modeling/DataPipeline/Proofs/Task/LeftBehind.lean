import DataPipeline.Proofs.Catalogue.Inheritance
import DataPipeline.Proofs.Task.WellFormed

/-!
# What a node leaves behind

The path that a node hands on when it is connected is found in its settings alone. The task of the
node names a path too, which is worked out by the mapper of its kind. Both are the same up to the
white space around them, with one exception: a code node that deletes a file hands on the
destination in its settings, while its task has none.

## Main definitions

* `Node.namedPath`: the path of the file that a node leaves behind, as its task names it
* `Node.Deletes`: the node is a code node that deletes a file

## Main results

* `Node.named_of_inheritance`: the path that is filled in is the one that the task names
-/
namespace DataPipeline

variable {id runner path : String} {o : Option String}

theorem Text.content_of_filter (h : o.filter (!Text.isBlank ·) = some path) :
    Text.content o = some (Text.trim path) := by
  obtain ⟨rfl, hblank⟩ := Option.filter_eq_some_iff.1 h
  simp only [Bool.not_eq_true'] at hblank
  simp only [Text.content, hblank, Bool.false_eq_true, if_false]

/-! ## Mappers -/

namespace Gives

theorem required_of_content {field : String} (h : Text.content o = some path) :
    Gives (· = path) (DataPipeline.required id field o) := by
  intro given hgiven
  exact Option.some.inj ((content_of_required hgiven).symm.trans h)

theorem path_readFile {s : ReadFileSettings} (h : Text.content s.path = some path) :
    Gives (fun t => t.path = path) (s.input id) :=
  (required_of_content h).bind fun _ hpath => bind_any fun _ => pure hpath

theorem path_writeFile {s : WriteFileSettings} (h : Text.content s.path = some path) :
    Gives (fun t => t.path = path) (s.output id) :=
  (required_of_content h).bind fun _ hpath => bind_any fun _ => bind_any fun _ => pure hpath

theorem path_inlineOutput {s : InlineOutputSettings} (h : Text.content s.path = some path) :
    Gives (fun t => t.path = path) (s.output id) := by
  have hlocation : inlineLocation id s.path = path := by rw [inlineLocation, h, Option.getD_some]
  exact bind_any fun _ => bind_any fun _ => pure hlocation

theorem filePath_query {s : SalesforceReadSettings} (h : Text.content s.filePath = some path) :
    Gives (fun t => t.filePath = path) (s.query id) := by
  refine bind_any fun object => ?_
  have hpath : (Text.content s.filePath).getD ("salesforce/" ++ object ++ ".csv") = path := by
    rw [h, Option.getD_some]
  dsimp only
  split
  · exact error_bind _ _
  · exact bind_any fun _ => pure hpath

/-- A command names a destination, unless it deletes. -/
theorem destinationPath_command {s : FileOperationSettings}
    (h : Text.content s.destinationPath = some path) (operation : FileOperation) :
    Gives (fun t => t.destinationPath = if operation = .delete then none else some path)
      (s.command id runner operation) := by
  refine bind_any fun _ => ?_
  have hdestination : Gives (fun d => d = some path)
      (some <$> DataPipeline.required id "destination_path" s.destinationPath) :=
    map fun given hgiven => congrArg some (required_of_content h given hgiven)
  cases operation with
  | delete => exact pure rfl
  | copy | move | rename => exact hdestination.bind fun _ hd => pure hd

/-- The path in a record that is there for sure. -/
theorem some_path {α : Type} {x : Except MapError α} {f : α → String}
    (h : Gives (fun t => f t = path) x) : Gives (· = some path) ((·.map f) <$> some <$> x) :=
  map (map fun t ht => congrArg some (h t ht))

end Gives

/-! ## Nodes -/

namespace Node

variable {n s t : Node} {field : String} {named : Option String}

/-- The path of the file that the node leaves behind, as its task names it. -/
def namedPath (n : Node) (runner : String) : Except MapError (Option String) :=
  match n.settings with
  | .readFile _ => (·.map (·.path)) <$> n.conversionInput
  | .writeFile _ | .inlineOutput _ => (·.map (·.path)) <$> n.conversionOutput
  | .salesforceRead _ => (·.map (·.filePath)) <$> n.salesforceQuery
  | .copyFile _ | .renameFile _ | .code _ => (·.bind (·.destinationPath)) <$> n.fileCommand runner
  | _ => .ok none

/-- The node is a code node that names deletion as its operation. -/
def Deletes (n : Node) : Prop :=
  ∃ s, n.settings = .code s ∧ s.namedOperation n.id = .ok .delete

/-- The path that a node hands on is the one that its task names, unless the node deletes. -/
theorem gives_namedPath (h : n.settings.producedPath = some path) (runner : String) :
    Gives (fun named => (¬ n.Deletes → named = some (Text.trim path)) ∧ (n.Deletes → named = none))
      (n.namedPath runner) := by
  have hkept {x : Except MapError (Option String)} (hcode : ∀ s, n.settings ≠ .code s)
      (hx : Gives (· = some (Text.trim path)) x) :
      Gives (fun named => (¬ n.Deletes → named = some (Text.trim path)) ∧
        (n.Deletes → named = none)) x := by
    refine fun named hnamed => ⟨fun _ => hx named hnamed, ?_⟩
    rintro ⟨s, hs, -⟩
    exact absurd hs (hcode s)
  cases hs : n.settings with
  | readFile s =>
    rw [hs] at h
    simp only [namedPath, conversionInput, hs]
    exact hkept (by simp [hs]) (Gives.path_readFile (Text.content_of_filter h)).some_path
  | writeFile s =>
    rw [hs] at h
    simp only [namedPath, conversionOutput, hs]
    exact hkept (by simp [hs]) (Gives.path_writeFile (Text.content_of_filter h)).some_path
  | inlineOutput s =>
    rw [hs] at h
    simp only [namedPath, conversionOutput, hs]
    exact hkept (by simp [hs]) (Gives.path_inlineOutput (Text.content_of_filter h)).some_path
  | salesforceRead s =>
    rw [hs] at h
    simp only [namedPath, salesforceQuery, hs]
    exact hkept (by simp [hs]) (Gives.filePath_query (Text.content_of_filter h)).some_path
  | copyFile s | renameFile s =>
    rw [hs] at h
    simp only [namedPath, fileCommand, hs]
    exact hkept (by simp [hs])
      (Gives.map (Gives.map (Gives.destinationPath_command (Text.content_of_filter h) _)))
  | code s =>
    rw [hs] at h
    intro named hnamed
    simp only [namedPath, fileCommand, hs] at hnamed
    obtain ⟨_, hcommand, rfl⟩ := exists_of_map_eq_ok hnamed
    obtain ⟨operation, hoperation, hmap⟩ := exists_of_bind_eq_ok hcommand
    obtain ⟨t, ht, rfl⟩ := exists_of_map_eq_ok hmap
    have hpath := Gives.destinationPath_command (Text.content_of_filter h) operation t ht
    have hdeletes : n.Deletes ↔ operation = .delete := by
      constructor
      · rintro ⟨s', hs', hdelete⟩
        obtain rfl := Settings.code.inj (hs.symm.trans hs')
        exact Except.ok.inj (hoperation.symm.trans hdelete)
      · rintro rfl
        exact ⟨s, hs, hoperation⟩
    rw [Option.bind_some, hpath, hdeletes]
    exact ⟨fun hne => if_neg hne, fun heq => if_pos heq⟩
  | _ =>
    rw [hs] at h
    cases h

/-- Where a node takes over a path, this is the path that the task of the other node names, if
it has a task; only a code node that deletes hands on a path that its task does not name. -/
theorem named_of_inheritance (h : s.inheritance t = some (field, path))
    (hnamed : s.namedPath runner = .ok named) :
    (s.inheritPath t).settings.inheritedValue = some path ∧
      (¬ s.Deletes → named = some (Text.trim path)) ∧ (s.Deletes → named = none) := by
  obtain ⟨hfield, hpath, -, -⟩ := inheritance_eq_some_iff.1 h
  have hfilled : s.inheritPath t = { t with settings := t.settings.fill path } := by
    simp only [inheritPath, h]
  rw [hfilled]
  exact ⟨Settings.inheritedValue_fill hfield, gives_namedPath hpath runner named hnamed⟩

/-- A copy that leaves a file behind. -/
def copier : Node :=
  { id := "a", settings := .copyFile
      { sourcePath := some "a.csv", destinationPath := some " b.csv" } }

/-- A code node with a destination that deletes its source. -/
def shredder : Node :=
  { id := "a", settings := .code
      { operation := some "delete", sourcePath := some "a.csv", destinationPath := some "b.csv" } }

/-- A node that loads a file that is not named yet. -/
def loader : Node := { id := "b", settings := .salesforceWrite {} }

/-- What is handed on by a copy is the file that the copy makes. -/
theorem named_of_inheritance_copier :
    copier.inheritance loader = some ("file_path", " b.csv") ∧
      copier.namedPath "shell" = .ok (some "b.csv") ∧
      (copier.inheritPath loader).settings.inheritedValue = some " b.csv" ∧
      some "b.csv" = some (Text.trim " b.csv") := by
  have h : copier.inheritance loader = some ("file_path", " b.csv") := by decide +kernel
  have hnamed : copier.namedPath "shell" = .ok (some "b.csv") := by decide +kernel
  obtain ⟨hfilled, hkept, -⟩ := named_of_inheritance h hnamed
  refine ⟨h, hnamed, hfilled, hkept ?_⟩
  rintro ⟨s, hs, -⟩
  cases hs

/-- A node that deletes hands on a path that its task does not name. -/
theorem inheritance_shredder :
    shredder.inheritance loader = some ("file_path", "b.csv") ∧
      shredder.namedPath "shell" = .ok none := by
  decide +kernel

end Node

end DataPipeline
