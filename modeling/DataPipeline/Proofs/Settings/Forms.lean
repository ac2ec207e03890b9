import DataPipeline.Catalogue.Basic
import DataPipeline.Catalogue.Inheritance
import DataPipeline.Proofs.Settings.Records

/-!
# Settings of every kind as documents

The settings of each kind are an open record, so that what holds of open records holds of settings:
what is read is sound, what is sound survives, and keys that the kind does not know keep their
values. Filling in a path keeps settings sound and touches no other key.

## Main definitions

* `Settings.Form`, `Kind.form`: settings of a kind as an open record
* `Kind.keys`: the keys that the settings of a kind know
* `Settings.Sound`: the settings that survive
* `Settings.Apart`: settings that keep no key that their kind knows

## Main results

* `Settings.sound_of_ofJson`: what is read is sound and keeps its unknown keys
* `Settings.Sound.ofJson_toJson`: sound settings are read back
* `Settings.Sound.fill`, `Settings.Sound.member_fill`: after a path is filled in
-/
namespace DataPipeline

open Json

/-! ## The records that take over a path -/

theorem FileOperationSettings.sound_sourcePath {r : FileOperationSettings}
    (h : FileOperationSettings.layout.Sound (·.extra) r) (path : String) :
    FileOperationSettings.layout.Sound (·.extra) { r with sourcePath := some path } where
  keeps := by
    obtain ⟨⟨⟨⟨hinit, -⟩, hdestination⟩, hoptions⟩, hexecuted⟩ := h.keeps
    exact ⟨⟨⟨⟨hinit, Field.keeps_text _⟩, hdestination⟩, hoptions⟩, hexecuted⟩
  apart := h.apart
  sorted := h.sorted

theorem SalesforceWriteSettings.sound_filePath {r : SalesforceWriteSettings}
    (h : SalesforceWriteSettings.layout.Sound (·.extra) r) (path : String) :
    SalesforceWriteSettings.layout.Sound (·.extra) { r with filePath := some path } where
  keeps := ⟨h.keeps.1, Field.keeps_text _⟩
  apart := h.apart
  sorted := h.sorted

/-! ## Forms -/

namespace Settings

/-- The settings of a kind as an open record. -/
structure Form (k : Kind) where
  Record : Type
  name : String
  layout : Layout Record (Dict Json → Record)
  extra : Record → Dict Json
  lawful : layout.Lawful extra
  inject : Record → Settings
  kind_inject (r : Record) : (inject r).kind = k
  ofDocument_eq (j : Json) :
    ofDocument k j = inject <$> (Codec.openRecord name layout extra).ofJson j
  toDocument_inject (r : Record) :
    (inject r).toDocument = (Codec.openRecord name layout extra).toJson r

end Settings

open Settings (Form)

/-- The form of the settings of a kind. -/
def Kind.form : (k : Kind) → Form k
  | .start =>
    ⟨_, _, _, _, TerminalSettings.lawful, .start, fun _ => rfl, fun _ => rfl, fun _ => rfl⟩
  | .finish =>
    ⟨_, _, _, _, TerminalSettings.lawful, .finish, fun _ => rfl, fun _ => rfl, fun _ => rfl⟩
  | .readFile =>
    ⟨_, _, _, _, ReadFileSettings.lawful, .readFile, fun _ => rfl, fun _ => rfl, fun _ => rfl⟩
  | .writeFile =>
    ⟨_, _, _, _, WriteFileSettings.lawful, .writeFile, fun _ => rfl, fun _ => rfl, fun _ => rfl⟩
  | .copyFile =>
    ⟨_, _, _, _, FileOperationSettings.lawful, .copyFile, fun _ => rfl, fun _ => rfl, fun _ => rfl⟩
  | .renameFile =>
    ⟨_, _, _, _, FileOperationSettings.lawful, .renameFile, fun _ => rfl, fun _ => rfl,
      fun _ => rfl⟩
  | .deleteFile =>
    ⟨_, _, _, _, FileOperationSettings.lawful, .deleteFile, fun _ => rfl, fun _ => rfl,
      fun _ => rfl⟩
  | .inlineInput =>
    ⟨_, _, _, _, InlineInputSettings.lawful, .inlineInput, fun _ => rfl, fun _ => rfl, fun _ => rfl⟩
  | .inlineOutput =>
    ⟨_, _, _, _, InlineOutputSettings.lawful, .inlineOutput, fun _ => rfl, fun _ => rfl,
      fun _ => rfl⟩
  | .database =>
    ⟨_, _, _, _, DatabaseSettings.lawful, .database, fun _ => rfl, fun _ => rfl, fun _ => rfl⟩
  | .salesforceRead =>
    ⟨_, _, _, _, SalesforceReadSettings.lawful, .salesforceRead, fun _ => rfl, fun _ => rfl,
      fun _ => rfl⟩
  | .salesforceWrite =>
    ⟨_, _, _, _, SalesforceWriteSettings.lawful, .salesforceWrite, fun _ => rfl, fun _ => rfl,
      fun _ => rfl⟩
  | .filter =>
    ⟨_, _, _, _, FilterSettings.lawful, .filter, fun _ => rfl, fun _ => rfl, fun _ => rfl⟩
  | .scheduler =>
    ⟨_, _, _, _, SchedulerSettings.lawful, .scheduler, fun _ => rfl, fun _ => rfl, fun _ => rfl⟩
  | .code =>
    ⟨_, _, _, _, FileOperationSettings.lawful, .code, fun _ => rfl, fun _ => rfl, fun _ => rfl⟩

/-- The keys that the settings of a kind know. -/
def Kind.keys (k : Kind) : List String := k.form.layout.keys

/-- The catalogue lists fields that are known. -/
theorem Kind.name_mem_keys (k : Kind) : ∀ f ∈ k.inputs, f.name ∈ k.keys := by
  cases k <;> decide

namespace Settings

variable {s : Settings} {k : Kind} {j : Json} {key : String}

/-- The record of the settings is sound. -/
def Sound (s : Settings) : Prop :=
  ∃ k : Kind, ∃ r : k.form.Record, k.form.inject r = s ∧ k.form.layout.Sound k.form.extra r

theorem sorted_toJson (s : Settings) : s.toJson.Sorted := sorted_of_sorted _

/-- Settings that are read from a sorted document are sound, and every key that their kind does not
know has the value that it has in the document. -/
theorem sound_of_ofJson (hj : j.Sorted) (h : Settings.ofJson k j = .ok s) :
    s.kind = k ∧ s.Sound ∧ ∀ key, key ∉ k.keys → s.toJson.member key = j.member key := by
  have hsorted : Sorted (if j = .null then .obj [] else j) := by
    split
    · exact .obj .nil (by simp)
    · exact hj
  have hmember (key : String) : (if j = .null then .obj [] else j).member key = j.member key := by
    split
    · rename_i hnull
      rw [hnull]
      rfl
    · rfl
  rw [ofJson, k.form.ofDocument_eq] at h
  obtain ⟨r, hr, rfl⟩ := exists_of_map_eq_ok h
  obtain ⟨hsound, hextra⟩ := k.form.lawful.sound_of_ofJson hsorted hr
  refine ⟨k.form.kind_inject r, ⟨k, r, rfl, hsound⟩, fun key hkey => ?_⟩
  rw [toJson, k.form.toDocument_inject, hsound.member_toJson k.form.lawful hkey, hextra key hkey,
    hmember]

/-- Sound settings are read back from their document. -/
theorem Sound.ofJson_toJson (h : s.Sound) : Settings.ofJson s.kind s.toJson = .ok s := by
  obtain ⟨k, r, rfl, hr⟩ := h
  have hsurvives : (Codec.openRecord k.form.name k.form.layout k.form.extra).Survives r :=
    hr.survives k.form.lawful
  have hread := hsurvives sorted rearranges_sorted
  have hnull : (k.form.inject r).toJson ≠ .null := by
    rw [toJson, k.form.toDocument_inject]
    exact fun h => by cases h
  rw [k.form.kind_inject, ofJson, if_neg hnull, k.form.ofDocument_eq, toJson,
    k.form.toDocument_inject, hread]
  rfl

/-! ## Further keys -/

/-- The keys that the settings keep without knowing them. -/
def extra : Settings → Dict Json
  | start s | finish s => s.extra
  | readFile s => s.extra
  | writeFile s => s.extra
  | copyFile s | renameFile s | deleteFile s | code s => s.extra
  | inlineInput s => s.extra
  | inlineOutput s => s.extra
  | database s => s.extra
  | salesforceRead s => s.extra
  | salesforceWrite s => s.extra
  | filter s => s.extra
  | scheduler s => s.extra

/-- The settings keep no key that their kind knows. -/
def Apart (s : Settings) : Prop := ∀ m ∈ s.extra.entries, m.1 ∉ s.kind.keys

theorem Sound.apart (h : s.Sound) : s.Apart := by
  obtain ⟨k, r, rfl, hr⟩ := h
  cases k <;> exact hr.apart

/-! ## Filling in a path -/

/-- Before and after a path is filled in, settings are records of the same kind with the same
further members. -/
theorem Sound.exists_fill (h : s.Sound) (path : String) :
    ∃ k : Kind, ∃ r r' : k.form.Record, k.form.inject r = s ∧ k.form.inject r' = s.fill path ∧
      k.form.layout.Sound k.form.extra r ∧ k.form.layout.Sound k.form.extra r' ∧
      k.form.extra r' = k.form.extra r := by
  obtain ⟨k, r, rfl, hr⟩ := h
  cases k with
  | copyFile =>
    exact ⟨.copyFile, r, _, rfl, rfl, hr, FileOperationSettings.sound_sourcePath hr path, rfl⟩
  | renameFile =>
    exact ⟨.renameFile, r, _, rfl, rfl, hr, FileOperationSettings.sound_sourcePath hr path, rfl⟩
  | deleteFile =>
    exact ⟨.deleteFile, r, _, rfl, rfl, hr, FileOperationSettings.sound_sourcePath hr path, rfl⟩
  | code =>
    exact ⟨.code, r, _, rfl, rfl, hr, FileOperationSettings.sound_sourcePath hr path, rfl⟩
  | salesforceWrite =>
    exact ⟨.salesforceWrite, r, _, rfl, rfl, hr,
      SalesforceWriteSettings.sound_filePath hr path, rfl⟩
  | _ => exact ⟨_, r, r, rfl, rfl, hr, hr, rfl⟩

theorem Sound.fill (h : s.Sound) (path : String) : (s.fill path).Sound := by
  obtain ⟨k, r, r', -, hfill, -, hr', -⟩ := h.exists_fill path
  exact ⟨k, r', hfill, hr'⟩

theorem kind_fill (s : Settings) (path : String) : (s.fill path).kind = s.kind := by
  cases s <;> rfl

theorem Sound.member_fill (h : s.Sound) (path : String) {key : String} (hkey : key ∉ s.kind.keys) :
    (s.fill path).toJson.member key = s.toJson.member key := by
  obtain ⟨k, r, r', rfl, hfill, hr, hr', hextra⟩ := h.exists_fill path
  rw [k.form.kind_inject] at hkey
  rw [← hfill, toJson, toJson, k.form.toDocument_inject, k.form.toDocument_inject,
    hr.member_toJson k.form.lawful hkey, hr'.member_toJson k.form.lawful hkey, hextra]

end Settings

end DataPipeline
