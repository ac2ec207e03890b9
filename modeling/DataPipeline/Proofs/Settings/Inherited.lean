import DataPipeline.Proofs.Catalogue.Inheritance
import DataPipeline.Proofs.Validation.Missing

/-!
# The field that is filled in, as a document has it

Settings that are read from a document have in this field the text that the document has there, and
keep no second value under its key. The document of settings in turn has the text of the field,
unless they do keep a second value, which then stands in the document instead.

## Main definitions

* `Settings.textAt`: the text that the document of the settings has under a key

## Main results

* `Settings.textAt_eq`, `Settings.textAt_fill`: the text under the key of the field
* `Settings.read_of_ofJson`: what is read into the field
-/
namespace DataPipeline

open Json

/-! ## Fields of texts -/

variable {ρ : Type} {members : List (String × Json)} {key : String}

theorem Json.text?_sorted (j : Json) : j.sorted.text? = j.text? := by
  cases j with
  | arr items => rw [sorted_arr]; rfl
  | obj members => rw [sorted_obj]; rfl
  | _ => rw [sorted]

/-- What an optional text is read from. -/
theorem Codec.eq_of_ofJson_text {j : Json} {o : Option String}
    (h : Codec.text.optional.ofJson j = .ok o) : o = j.text? := by
  cases j with
  | null => exact (Except.ok.inj h).symm
  | str s => exact (Except.ok.inj h).symm
  | _ => cases h

/-- A field without further keys is found under its name. -/
theorem Field.find?_optional {β : Type} (key : String) (c : Codec β) (get : ρ → Option β)
    (members : List (String × Json)) :
    (members.find? fun m => (Field.optional key c get).answersTo m.1).map (·.2) =
      Dict.lookup key members := by
  induction members with
  | nil => rfl
  | cons m ms ih =>
    by_cases hm : key = m.1
    · simp [answersTo, optional, Dict.lookup, hm]
    · simpa [answersTo, optional, Dict.lookup, hm, Ne.symm hm] using ih

/-- A text field gets the text that stands under its key. -/
theorem Field.eq_of_ofMembers_text {get : ρ → Option String} {o : Option String}
    (h : (Field.optional key .text get).ofMembers members = .ok o) :
    o = (Dict.lookup key members).bind text? := by
  rw [ofMembers] at h
  rw [← Field.find?_optional key .text get members]
  cases hm : members.find? fun m => (Field.optional key .text get).answersTo m.1 with
  | none =>
    rw [hm] at h
    exact (Except.ok.inj h).symm
  | some m =>
    rw [hm] at h
    exact Codec.eq_of_ofJson_text h

theorem FileOperationSettings.eq_of_read {s : FileOperationSettings}
    (h : codec.ofJson (.obj members) = .ok s) :
    s.sourcePath = (Dict.lookup "source_path" members).bind text? ∧
      s.extra = Codec.rest layout.slots members := by
  obtain ⟨hfields, hextra⟩ := lawful.each_of_ofJson h
  exact ⟨Field.eq_of_ofMembers_text (Layout.each_iff.1 hfields _ has_sourcePath), hextra⟩

theorem SalesforceWriteSettings.eq_of_read {s : SalesforceWriteSettings}
    (h : codec.ofJson (.obj members) = .ok s) :
    s.filePath = (Dict.lookup "file_path" members).bind text? ∧
      s.extra = Codec.rest layout.slots members := by
  obtain ⟨hfields, hextra⟩ := lawful.each_of_ofJson h
  exact ⟨Field.eq_of_ofMembers_text (Layout.each_iff.1 hfields _ has_filePath), hextra⟩

/-! ## Documents of settings -/

namespace Settings

variable {s : Settings} {k : Kind} {field path : String}

/-- The text that the document of the settings has under a key. -/
def textAt (s : Settings) (key : String) : Option String := (s.toJson.member key).bind text?

theorem extra_fill (s : Settings) (path : String) : (s.fill path).extra = s.extra := by
  cases s <;> rfl

/-- Under the key of the field stands its text, unless there is a second value. -/
theorem textAt_eq (h : s.kind.inheritedField = some field) :
    s.textAt field = (s.extra.find? field).elim s.inheritedValue text? := by
  have helim (o : Option Json) (v : Option String) :
      ((o.map sorted).or (v.map .str)).bind text? = o.elim v text? := by
    cases o with
    | some j => exact text?_sorted j
    | none => cases v <;> rfl
  cases s with
  | salesforceWrite s =>
    obtain rfl := Option.some.inj h
    exact (congrArg (·.bind text?) (SalesforceWriteSettings.has_filePath.member_sorted
      SalesforceWriteSettings.lawful.keys)).trans (helim _ _)
  | copyFile s | renameFile s | deleteFile s | code s =>
    obtain rfl := Option.some.inj h
    exact (congrArg (·.bind text?) (FileOperationSettings.has_sourcePath.member_sorted
      FileOperationSettings.lawful.keys)).trans (helim _ _)
  | _ => cases h

theorem textAt_fill (h : s.kind.inheritedField = some field) (path : String) :
    (s.fill path).textAt field = (s.extra.find? field).elim (some path) text? := by
  rw [textAt_eq ((s.kind_fill path).symm ▸ h), extra_fill, inheritedValue_fill h]

/-! ## Settings that are read -/

theorem kind_of_ofJson {j : Json} (h : Settings.ofJson k j = .ok s) : s.kind = k := by
  rw [ofJson, k.form.ofDocument_eq] at h
  obtain ⟨r, -, rfl⟩ := exists_of_map_eq_ok h
  exact k.form.kind_inject r

/-- What is read from an object has the text that stands there, and no second value. -/
theorem read_of_ofJson (hk : k.inheritedField = some field)
    (h : Settings.ofJson k (.obj members) = .ok s) :
    s.inheritedValue = (Dict.lookup field members).bind text? ∧ s.extra.find? field = none := by
  have hrest {ρ : Type} {l : Layout ρ (Dict Json → ρ)} (hfield : field ∈ l.keys) :
      (Codec.rest l.slots members).find? field = none :=
    Dict.lookup_eq_none_iff.2 fun m hm heq => (Layout.mem_rest hm).2 (heq ▸ hfield)
  rw [ofJson, if_neg (by simp)] at h
  cases k with
  | salesforceWrite =>
    obtain rfl := Option.some.inj hk
    obtain ⟨r, hr, rfl⟩ := exists_of_map_eq_ok h
    obtain ⟨hvalue, hextra⟩ := SalesforceWriteSettings.eq_of_read hr
    exact ⟨hvalue, (congrArg (Dict.find? · _) hextra).trans (hrest (by decide))⟩
  | copyFile | renameFile | deleteFile | code =>
    obtain rfl := Option.some.inj hk
    obtain ⟨r, hr, rfl⟩ := exists_of_map_eq_ok h
    obtain ⟨hvalue, hextra⟩ := FileOperationSettings.eq_of_read hr
    exact ⟨hvalue, (congrArg (Dict.find? · _) hextra).trans (hrest (by decide))⟩
  | _ => cases hk

end Settings

end DataPipeline
