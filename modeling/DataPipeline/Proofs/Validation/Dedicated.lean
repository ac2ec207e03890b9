import DataPipeline.Proofs.Task.Required
import DataPipeline.Proofs.Validation.Missing

/-!
# Code nodes and dedicated nodes

Copies, renamings and deletions have a kind of node each, and a code node does any of them that it
names. What a node needs is said in three places: in the catalogue for each kind, by a further rule
for code nodes, and by the mapper for each operation. The three agree, however the operation is
spelled: a code node does what the dedicated node with the same settings does, and lacks what it
lacks.

## Main definitions

* `FileOperation.Dedicated`: the kind of node that is made for an operation
* `Node.StandsFor`: a code node with the settings of a dedicated node

## Main results

* `Node.StandsFor.fileCommand_eq`, `Node.StandsFor.missing_eq`: the same command, or the same
  error, and the same missing fields
* `Node.code_stands_for_dedicated`
-/
namespace DataPipeline

/-- A record that is read keeps no key that belongs to a field. -/
theorem FileOperationSettings.not_mem_keys_of_ofJson {j : Json} {s : FileOperationSettings}
    (h : codec.ofJson j = .ok s) : ∀ m ∈ s.extra.entries, m.1 ∉ layout.keys := by
  cases j with
  | obj members =>
    obtain ⟨-, hextra⟩ := lawful.each_of_ofJson h
    intro m hm
    exact (Layout.mem_rest (hextra ▸ hm)).2
  | _ => cases h

/-- The operation has a kind of node of its own, which does not heed the named operation. -/
inductive FileOperation.Dedicated : FileOperation → (FileOperationSettings → Settings) → Prop
  | copy : Dedicated .copy .copyFile
  | rename : Dedicated .rename .renameFile
  | delete : Dedicated .delete .deleteFile

namespace Node

/-- The code node `n` has the id and settings of the dedicated node `m`, but for its operation,
which it spells out. -/
structure StandsFor (n m : Node) (o : FileOperation) (s : FileOperationSettings)
    (spelling : String) : Prop where
  id_eq : n.id = m.id
  code : n.settings = .code { s with operation := some spelling }
  dedicated : ∃ kind, o.Dedicated kind ∧ m.settings = kind s
  spelled : Text.lower (Text.trim spelling) = o.name

namespace StandsFor

variable {n m : Node} {o : FileOperation} {s : FileOperationSettings} {spelling : String}

/-! ## Commands -/

theorem isBlank_spelling (h : n.StandsFor m o s spelling) : Text.isBlank spelling = false := by
  rw [← Text.isEmpty_lower_trim, h.spelled]
  cases o <;> decide

theorem namedOperation_eq (h : n.StandsFor m o s spelling) (id : String) :
    FileOperationSettings.namedOperation id { s with operation := some spelling } = .ok o := by
  have hcontent : Text.content (some spelling) = some (Text.trim spelling) := by
    simp [Text.content, h.isBlank_spelling]
  have hname : FileOperation.ofText (Text.trim spelling) = some o := by
    rw [FileOperation.ofText_eq_some_iff, Text.trim_trim, h.spelled]
  simp only [FileOperationSettings.namedOperation, required, hcontent]
  simp [hname, Bind.bind, Except.bind, Pure.pure, Except.pure]

theorem fileCommand_eq (h : n.StandsFor m o s spelling) (runner : String) :
    n.fileCommand runner = m.fileCommand runner := by
  have hcode : n.fileCommand runner = some <$> s.command n.id runner o := by
    rw [fileCommand, h.code]
    exact congrArg (· >>= fun o => some <$> s.command n.id runner o) (h.namedOperation_eq n.id)
  obtain ⟨kind, hkind, hm⟩ := h.dedicated
  rw [hcode, h.id_eq, fileCommand, hm]
  cases hkind <;> rfl

/-! ## Missing fields -/

theorem apart_iff {kind : FileOperationSettings → Settings} (hkind : o.Dedicated kind) :
    (kind s).Apart ↔ ∀ m ∈ s.extra.entries, m.1 ∉ FileOperationSettings.layout.keys := by
  cases hkind <;> exact Iff.rfl

/-- Both need a source, and a destination unless they delete. The operation of the code node is
given. -/
theorem missing_eq (h : n.StandsFor m o s spelling) (hapart : m.settings.Apart) :
    n.missing = m.missing := by
  obtain ⟨kind, hkind, hm⟩ := h.dedicated
  have hcode : n.settings.Apart := by
    rw [hm, apart_iff hkind] at hapart
    rw [h.code]
    exact hapart
  have hgiven : Text.isMissing (some spelling) = false := h.isBlank_spelling
  have hdelete : isOperation (some spelling) "delete" = decide (o.name = "delete") := by
    simp [isOperation, h.spelled]
  rw [Node.missing_eq hcode, Node.missing_eq hapart, h.code, hm]
  cases hkind <;> cases hsource : Text.isMissing s.sourcePath <;>
    cases hdestination : Text.isMissing s.destinationPath <;>
    simp [Settings.wanted, Settings.needs, hgiven, hdelete, hsource, hdestination,
      FileOperation.name]

end StandsFor

/-- Validation reports the same fields missing, in the same order. -/
def LacksSame (n m : Node) : Prop :=
  ∃ fields : List String, n.faults = fields.map (.missingField n.kind n.id n.label ·) ∧
    m.faults = fields.map (.missingField m.kind m.id m.label ·)

/-- A code node that spells out the operation of a dedicated node gives the same command or the same
error, whoever runs commands by default. It lacks the same fields if the settings keep no key that
they know, as those do that are read from a document. -/
theorem code_stands_for_dedicated {n m : Node} {o : FileOperation} {s : FileOperationSettings}
    {spelling : String} (h : n.StandsFor m o s spelling) :
    (∀ runner, n.fileCommand runner = m.fileCommand runner) ∧
      (m.settings.Apart → n.LacksSame m) ∧
      ∀ j, FileOperationSettings.codec.ofJson j = .ok s → n.LacksSame m := by
  have hlacks (hapart : m.settings.Apart) : n.LacksSame m :=
    ⟨m.missing, congrArg _ (h.missing_eq hapart), rfl⟩
  refine ⟨h.fileCommand_eq, hlacks, fun j hj => hlacks ?_⟩
  obtain ⟨kind, hkind, hm⟩ := h.dedicated
  rw [hm, StandsFor.apart_iff hkind]
  exact FileOperationSettings.not_mem_keys_of_ofJson hj

/-- A code node that is told to copy, next to a copy that was once told to move. -/
def porter : Node where
  id := "a"
  settings := .code { operation := some " COPY\t", sourcePath := some "in.csv" }

def courier : Node where
  id := "a"
  settings := .copyFile { operation := some "move", sourcePath := some "in.csv" }

/-- Neither says where to, which both the mapper and validation complain about. -/
theorem code_stands_for_dedicated_porter :
    porter.StandsFor courier .copy { operation := some "move", sourcePath := some "in.csv" }
        " COPY\t" ∧
      porter.fileCommand "cli" = .error (.missingField "a" "destination_path") ∧
      courier.fileCommand "cli" = .error (.missingField "a" "destination_path") ∧
      porter.LacksSame courier ∧ porter.missing = ["destination_path"] := by
  have h : porter.StandsFor courier .copy { operation := some "move", sourcePath := some "in.csv" }
      " COPY\t" :=
    ⟨rfl, rfl, ⟨.copyFile, .copy, rfl⟩, by decide +kernel⟩
  obtain ⟨hcommand, hlacks, hread⟩ := code_stands_for_dedicated h
  have hcourier : courier.fileCommand "cli" = .error (.missingField "a" "destination_path") := rfl
  have hsame := hread (.obj [("operation", .str "move"), ("source_path", .str "in.csv")]) rfl
  exact ⟨h, (hcommand "cli").trans hcourier, hcourier, hsame, by decide +kernel⟩

end Node

end DataPipeline
