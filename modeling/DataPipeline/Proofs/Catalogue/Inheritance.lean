import DataPipeline.Catalogue.Inheritance
import Mathlib.Data.Option.Basic

/-!
# Taking over a path

What a node takes over is not blank, fills its field and changes neither what the node itself leaves
behind nor what it hands on; and it is taken over exactly if the field is missing and the user has
not edited it.

## Main results

* `Node.inheritance_eq_some_iff`: when a node takes over a path
-/
namespace DataPipeline

namespace Settings

variable {s : Settings} {path : String}

theorem producedPath_fill (path : String) (s : Settings) :
    (s.fill path).producedPath = s.producedPath := by
  cases s <;> rfl

theorem label_fill (path : String) (s : Settings) : (s.fill path).label = s.label := by
  cases s <;> rfl

theorem sourceColumns_fill (path : String) (s : Settings) :
    (s.fill path).sourceColumns = s.sourceColumns := by
  cases s <;> rfl

theorem inheritedValue_fill {field : String} (h : s.kind.inheritedField = some field) :
    (s.fill path).inheritedValue = some path := by
  cases s with
  | salesforceWrite s | copyFile s | renameFile s | deleteFile s | code s => rfl
  | _ => cases h

theorem isBlank_producedPath (h : s.producedPath = some path) : Text.isBlank path = false := by
  simpa using (Option.filter_eq_some_iff.1 h).2

end Settings

theorem Node.inheritance_eq_some_iff {s t : Node} {field path : String} :
    s.inheritance t = some (field, path) ↔ t.kind.inheritedField = some field ∧
      s.settings.producedPath = some path ∧ t.editedFields.contains field = false ∧
      Text.isMissing t.settings.inheritedValue = true := by
  constructor
  · intro h
    obtain ⟨f, hfield, h⟩ := Option.bind_eq_some_iff.1 h
    obtain ⟨p, hpath, h⟩ := Option.bind_eq_some_iff.1 h
    obtain ⟨_, hguard, h⟩ := Option.bind_eq_some_iff.1 h
    obtain ⟨rfl, rfl⟩ := Prod.mk.inj (Option.some.inj h)
    have hopen := Bool.and_eq_true_iff.1 ((Option.guard_eq_some' _).1 hguard)
    exact ⟨hfield, hpath, by simpa using hopen⟩
  · rintro ⟨hfield, hpath, hopen⟩
    refine Option.bind_eq_some_iff.2 ⟨field, hfield, ?_⟩
    refine Option.bind_eq_some_iff.2 ⟨path, hpath, ?_⟩
    refine Option.bind_eq_some_iff.2 ⟨(), (Option.guard_eq_some' _).2 ?_, rfl⟩
    simpa using hopen

end DataPipeline
