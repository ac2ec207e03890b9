import DataPipeline.Proofs.Settings.Merging
import DataPipeline.Proofs.Task.Options
import DataPipeline.Proofs.Workflow.RoundTrip

/-!
# Ends of conversions that are mapped again

The document of a mapped end is itself a document of settings, for a node of the kind that the end
was mapped from, and this node is mapped to the same end. The mappers leave nothing undone: what
they find by looking at the path, put in small letters, trim or fill in by default is spelled out in
the end, and what is spelled out is taken as it is.

## Main definitions

* `ConversionInput.Settled`, `ConversionOutput.Settled`: ends that a mapper takes as they are
* `ConversionInput.settings`, `ConversionOutput.settings`, `ConversionOutput.inlineSettings`: the
  settings that spell out an end

## Main results

* `Gives.settled_readFile` and its like: mapped ends are settled
* `ConversionInput.Settled.input_settings` and its like: the settings that spell out a settled end
  are mapped to it
* `ConversionInput.ofJson_settings` and its like: they are what the document of the end is read as
* `Node.remaps`: the document of a mapped end is read as a node that is mapped to this end
-/
namespace DataPipeline

open Json (Rearranges)

variable {id : String} {o : Option String}

/-! ## Fields -/

theorem required_of_isContent {field text : String} (h : Text.IsContent text) :
    required id field (some text) = .ok text := by
  rw [required, show Text.content (some text) = some text from h]

theorem isContent_of_mem_fileFormats : ∀ format ∈ fileFormats, Text.IsContent format := by
  unfold Text.IsContent
  decide

theorem formatNamed_of_mem {format : String} (h : format ∈ fileFormats) :
    formatNamed id format = .ok format := by
  have hname : ∀ f ∈ fileFormats, Text.lower (Text.trim f) = f := by decide
  simp only [formatNamed, hname format h, List.contains_iff_mem, h, if_true]

theorem chooseFormat_of_mem {format : String} (h : format ∈ fileFormats) (path : String) :
    chooseFormat id (some format) path = .ok format := by
  have hcontent : Text.content (some format) = some format := isContent_of_mem_fileFormats format h
  rw [chooseFormat, hcontent]
  exact formatNamed_of_mem h

theorem inlineFormat_of_mem {format : String} (h : format ∈ fileFormats) :
    inlineFormat id (some format) = .ok format := by
  have hcontent : Text.content (some format) = some format := isContent_of_mem_fileFormats format h
  rw [inlineFormat, hcontent]
  exact formatNamed_of_mem h

theorem chooseMode_of_mem {mode : String} (h : mode ∈ writingModes) (default : String) :
    chooseMode id (some mode) default = .ok mode := by
  have hmode : ∀ m ∈ writingModes, Text.content (some m) = some m ∧ Text.lower m = m := by decide
  obtain ⟨hcontent, hlower⟩ := hmode mode h
  simp only [chooseMode, hcontent, hlower, List.contains_iff_mem, h, if_true]

theorem chooseProvider_of_isContent {provider : String} (h : Text.IsContent provider)
    (hlower : Text.lower provider = provider) (path : String) :
    chooseProvider (some provider) path = provider := by
  rw [chooseProvider, show Text.content (some provider) = some provider from h]
  exact hlower

theorem isContent_chooseProvider (provider : Option String) (path : String) :
    Text.IsContent (chooseProvider provider path) ∧
      Text.lower (chooseProvider provider path) = chooseProvider provider path := by
  rw [chooseProvider]
  split
  · rename_i p hp
    exact ⟨(Text.isContent_of_content hp).lower, Text.lower_lower p⟩
  · rw [providerOfPath]
    unfold Text.IsContent
    split <;> decide

theorem isContent_inlineLocation (id : String) (path : Option String) :
    Text.IsContent (inlineLocation id path) := by
  rw [inlineLocation]
  cases h : Text.content path with
  | some p => exact Text.isContent_of_content h
  | none =>
    have hblank : Text.HasContent "inline/" := by decide
    have hchars : ("inline/" ++ id ++ ".json").toList =
        'i' :: ("nline/".toList ++ id.toList ++ ".jso".toList ++ ['n']) := by simp
    refine Text.isContent_iff.2 ⟨(hblank.append id).append ".json", ?_⟩
    rw [Option.getD_none, Text.trim, hchars, Text.trimChars_eq_self (by decide) (by decide),
      ← hchars, String.ofList_toList]

/-! ## Options -/

/-- Options that are set keep no default out. -/
theorem withDefaults_eq_self {options : Dict Json} {defaults : List (String × Json)}
    (h : ∀ e ∈ defaults, options.contains e.1 = true) :
    withDefaults options defaults = options := by
  induction defaults with
  | nil => rfl
  | cons e defaults ih =>
    obtain ⟨he, hdefaults⟩ := List.forall_mem_cons.1 h
    have hstep : withDefaults options (e :: defaults) =
        withDefaults (options.insertNew e.1 e.2) defaults := rfl
    have hsame : options.insertNew e.1 e.2 = options := if_pos he
    rw [hstep, hsame, ih hdefaults]

theorem contains_withDefaults_of_mem {options : Dict Json} {defaults : List (String × Json)} :
    ∀ e ∈ defaults, (withDefaults options defaults).contains e.1 = true := by
  intro e he
  have hdefault : Dict.lookup e.1 defaults ≠ none := fun hnone =>
    Dict.lookup_eq_none_iff.1 hnone e he rfl
  rw [Dict.contains, find?_withDefaults, Option.isSome_or, Bool.or_eq_true]
  exact .inr (Option.isSome_iff_ne_none.2 hdefault)

/-! ## Settled ends -/

/-- The input spells out all that its mapper would choose. -/
structure ConversionInput.Settled (r : ConversionInput) : Prop where
  provider : Text.IsContent r.provider
  lower_provider : Text.lower r.provider = r.provider
  format : r.format ∈ fileFormats
  path : Text.IsContent r.path
  options : ∀ e ∈ inputDefaults r.format, r.options.contains e.1 = true
  columns : r.columns ≠ some []
  rows : r.rows = none

/-- The output spells out all that its mapper would choose. -/
structure ConversionOutput.Settled (r : ConversionOutput) : Prop where
  provider : Text.IsContent r.provider
  format : r.format ∈ fileFormats
  path : Text.IsContent r.path
  mode : r.mode ∈ writingModes
  options : ∀ e ∈ outputDefaults r.format, r.options.contains e.1 = true

theorem declared_ne (columns : List Column) : declared columns ≠ some [] := by
  cases columns with
  | nil => simp [declared]
  | cons c columns => simp [declared]

theorem declared_getD {columns : Option (List Column)} (h : columns ≠ some []) :
    declared (columns.getD []) = columns := by
  cases columns with
  | none => rfl
  | some cs =>
    cases cs with
    | nil => exact absurd rfl h
    | cons c cs => rfl

namespace Gives

theorem required_isContent {field : String} :
    Gives Text.IsContent (DataPipeline.required id field o) :=
  fun _ h => Text.isContent_of_content (content_of_required h)

/-- What the mappers make is settled. -/
theorem settled_readFile (s : ReadFileSettings) : Gives ConversionInput.Settled (s.input id) := by
  refine required_isContent.bind fun path hpath => (chooseFormat _ _).bind fun format hformat => ?_
  obtain ⟨hprovider, hlower⟩ := isContent_chooseProvider s.provider path
  exact pure ⟨hprovider, hlower, hformat, hpath, contains_withDefaults_of_mem,
    declared_ne s.columns, rfl⟩

theorem settled_writeFile (s : WriteFileSettings) :
    Gives (fun r => r.Settled ∧ Text.lower r.provider = r.provider) (s.output id) := by
  refine required_isContent.bind fun path hpath => (chooseFormat _ _).bind fun format hformat => ?_
  refine (chooseMode _ (by decide)).bind fun mode hmode => ?_
  obtain ⟨hprovider, hlower⟩ := isContent_chooseProvider s.provider path
  exact pure ⟨⟨hprovider, hformat, hpath, hmode, contains_withDefaults_of_mem⟩, hlower⟩

theorem settled_inlineOutput (s : InlineOutputSettings) :
    Gives ConversionOutput.Settled (s.output id) := by
  refine (inlineFormat _).bind fun format hformat => ?_
  refine (chooseMode _ (by decide)).bind fun mode hmode => ?_
  have hprovider : Text.IsContent ((Text.content s.provider).getD "local") := by
    cases hp : Text.content s.provider with
    | none => exact (by unfold Text.IsContent; decide : Text.IsContent "local")
    | some p => exact Text.isContent_of_content hp
  exact pure ⟨hprovider, hformat, isContent_inlineLocation id s.path, hmode,
    contains_withDefaults_of_mem⟩

end Gives

/-! ## Mapping a settled end -/

/-- The settings that spell out an input. -/
def ConversionInput.settings (r : ConversionInput) : ReadFileSettings :=
  { provider := some r.provider, format := some r.format, path := some r.path
    options := r.options, columns := r.columns.getD [] }

/-- The settings that spell out an output to a file. -/
def ConversionOutput.settings (r : ConversionOutput) : WriteFileSettings :=
  { provider := some r.provider, format := some r.format, path := some r.path
    mode := some r.mode, options := r.options }

/-- The settings that spell out an output that is shown to the user. -/
def ConversionOutput.inlineSettings (r : ConversionOutput) : InlineOutputSettings :=
  { provider := some r.provider, format := some r.format, path := some r.path
    mode := some r.mode, options := r.options }

theorem ConversionInput.Settled.input_settings {r : ConversionInput} (h : r.Settled) (id : String) :
    r.settings.input id = .ok r := by
  obtain ⟨provider, format, path, options, columns, rows⟩ := r
  obtain rfl : rows = none := h.rows
  have hprovider := chooseProvider_of_isContent h.provider h.lower_provider path
  have hpath : required id "path" (some path) = .ok path := required_of_isContent h.path
  have hformat : chooseFormat id (some format) path = .ok format :=
    chooseFormat_of_mem h.format path
  simp only [ReadFileSettings.input, settings, hpath, hformat, hprovider, bind, Except.bind,
    withDefaults_eq_self h.options, declared_getD h.columns]
  rfl

theorem ConversionOutput.Settled.output_settings {r : ConversionOutput} (h : r.Settled)
    (hlower : Text.lower r.provider = r.provider) (id : String) : r.settings.output id = .ok r := by
  obtain ⟨provider, format, path, mode, options⟩ := r
  have hprovider := chooseProvider_of_isContent h.provider hlower path
  have hpath : required id "path" (some path) = .ok path := required_of_isContent h.path
  have hformat : chooseFormat id (some format) path = .ok format :=
    chooseFormat_of_mem h.format path
  have hmode : chooseMode id (some mode) "overwrite" = .ok mode := chooseMode_of_mem h.mode _
  simp only [WriteFileSettings.output, settings, hpath, hformat, hmode, hprovider, bind,
    Except.bind, withDefaults_eq_self h.options]
  rfl

theorem ConversionOutput.Settled.output_inlineSettings {r : ConversionOutput} (h : r.Settled)
    (id : String) : r.inlineSettings.output id = .ok r := by
  obtain ⟨provider, format, path, mode, options⟩ := r
  have hprovider : Text.content (some provider) = some provider := h.provider
  have hpath : inlineLocation id (some path) = path := by
    rw [inlineLocation, show Text.content (some path) = some path from h.path, Option.getD_some]
  have hformat : inlineFormat id (some format) = .ok format := inlineFormat_of_mem h.format
  have hmode : chooseMode id (some mode) "overwrite" = .ok mode := chooseMode_of_mem h.mode _
  simp only [InlineOutputSettings.output, inlineSettings, hpath, hformat, hmode, hprovider, bind,
    Except.bind, withDefaults_eq_self h.options, Option.getD_some]
  rfl

/-! ## Reading the document of an end -/

section

variable {ρ β : Type} {t : Json → Json} {v : View} {f : Field ρ β} {b : β}

/-- A field without further keys has the value that is written for it. -/
theorem Field.reads_of_survivesBy (hf : f.aliases = []) (h : f.codec.SurvivesBy t b)
    (hv : v f.name = some (t (f.codec.toJson b))) : f.Reads v b := by
  refine .given f.name _ List.mem_cons_self hv (fun k hk hne => ?_) h
  rw [Field.keys, hf] at hk
  exact absurd (List.mem_singleton.1 hk) hne

theorem Field.reads_of_absent (hf : f.aliases = []) (h : f.absent = some b)
    (hv : v f.name = none) : f.Reads v b := by
  refine .lacking (fun k hk => ?_) h
  rw [Field.keys, hf] at hk
  exact List.mem_singleton.1 hk ▸ hv

end

section

variable {ρ : Type} {t : Json → Json} (ht : Rearranges t)
include ht

theorem Field.reads_text {v : View} {name text : String} {get : ρ → Option String} {s : ρ}
    (hs : get s = some text) (hv : v name = some (t (.str text))) :
    (optional name .text get).Reads v (get s) :=
  hs ▸ reads_of_survivesBy rfl ((keeps_text (some text)).1.survivesBy ht) hv

theorem Field.reads_dict {v : View} {name : String} {get : ρ → Dict Json} {s : ρ} {d : Dict Json}
    (hs : get s = d) (hd : ∀ j ∈ d.values, t j = j) (hv : v name = some (t (Codec.dict.toJson d))) :
    (dict name get).Reads v (get s) :=
  hs ▸ reads_of_survivesBy rfl (Codec.survivesBy_dict ht hd) hv

/-- The document of a settled input is read as the settings that spell it out. -/
theorem ConversionInput.ofJson_settings {r : ConversionInput} (hr : r.Settled)
    (hoptions : ∀ j ∈ r.options.values, t j = j) :
    Settings.ofJson .readFile (t (codec.toJson r)) = .ok (.readFile r.settings) := by
  obtain ⟨ms, hms, hnodup, hv⟩ := ht.exists_view (layout.nodup_toMembers (r := r) (by decide))
  refine (congrArg (Settings.ofJson .readFile) hms).trans (Settings.ofJson_eq_inject hnodup ?_)
  obtain ⟨provider, format, path, options, columns, rows⟩ := r
  obtain rfl : rows = none := hr.rows
  refine ⟨⟨⟨⟨⟨⟨⟨trivial, ?label⟩, ?provider⟩, ?format⟩, ?path⟩, ?options⟩, ?columns⟩,
    fun _ _ => rfl, fun key hkey => ?rest⟩
  case label =>
    refine Field.reads_of_absent rfl rfl ((hv "label").trans ?_)
    cases columns <;> rfl
  case provider => exact Field.reads_text ht rfl (hv "provider")
  case format => exact Field.reads_text ht rfl (hv "format")
  case path => exact Field.reads_text ht rfl (hv "path")
  case options => exact Field.reads_dict ht rfl hoptions (hv "options")
  case columns =>
    cases columns with
    | none => exact Field.reads_of_absent rfl rfl (hv "schema")
    | some cs =>
      have hsurvives : Column.codec.list.Survives cs := .list fun c _ => c.survives
      exact Field.reads_of_survivesBy rfl (hsurvives.survivesBy ht) (hv "schema")
  case rest =>
    refine ((hv key).trans (congrArg (·.map t) (Dict.lookup_eq_none_iff.2 fun m hm heq => ?_))).symm
    -- The keys of the settings are the label and those of the document.
    refine hkey (heq ▸ List.mem_cons_of_mem "label" ?_)
    cases columns with
    | none => exact List.mem_append_left ["schema"] (List.mem_map_of_mem hm)
    | some cs => exact List.mem_map_of_mem hm

/-- Settings of both kinds of sinks are laid out in the same way, and are read alike. -/
theorem ConversionOutput.shown_settings {mk : Option String → Option String → Option String →
      Option String → Option String → Dict Json → Dict Json → ρ}
    {label provider format path mode : ρ → Option String} {options extra : ρ → Dict Json} {s : ρ}
    {r : ConversionOutput} {v : View}
    (hv : ∀ key, v key = (Dict.lookup key (layout.toMembers r)).map t)
    (hoptions : ∀ j ∈ r.options.values, t j = j) (hlabel : label s = none)
    (hprovider : provider s = some r.provider) (hformat : format s = some r.format)
    (hpath : path s = some r.path) (hmode : mode s = some r.mode) (hs : options s = r.options)
    (hextra : extra s = Dict.empty) :
    (Layout.make mk
      |>.field (.optional "label" .text label)
      |>.field (.optional "provider" .text provider)
      |>.field (.optional "format" .text format)
      |>.field (.optional "path" .text path)
      |>.field (.optional "mode" .text mode)
      |>.field (.dict "options" options)).Shown extra v s := by
  refine ⟨⟨⟨⟨⟨⟨⟨trivial, ?label⟩, ?provider⟩, ?format⟩, ?path⟩, ?mode⟩, ?options⟩,
    fun _ _ => ?apart, fun key hkey => ?rest⟩
  case label => exact Field.reads_of_absent rfl (congrArg some hlabel.symm) (hv "label")
  case provider => exact Field.reads_text ht hprovider (hv "provider")
  case format => exact Field.reads_text ht hformat (hv "format")
  case path => exact Field.reads_text ht hpath (hv "path")
  case mode => exact Field.reads_text ht hmode (hv "mode")
  case options => exact Field.reads_dict ht hs hoptions (hv "options")
  case apart => exact hextra ▸ rfl
  case rest =>
    have hnone : Dict.lookup key (layout.toMembers r) = none :=
      Dict.lookup_eq_none_iff.2 fun m hm heq =>
        hkey (heq ▸ List.mem_cons_of_mem "label" (List.mem_map_of_mem hm))
    rw [hextra, hv, hnone]
    rfl

theorem ConversionOutput.ofJson_settings {r : ConversionOutput}
    (hoptions : ∀ j ∈ r.options.values, t j = j) :
    Settings.ofJson .writeFile (t (codec.toJson r)) = .ok (.writeFile r.settings) := by
  obtain ⟨ms, hms, hnodup, hv⟩ := ht.exists_view (layout.nodup_toMembers (r := r) (by decide))
  refine (congrArg (Settings.ofJson .writeFile) hms).trans (Settings.ofJson_eq_inject hnodup ?_)
  exact shown_settings ht hv hoptions rfl rfl rfl rfl rfl rfl rfl

theorem ConversionOutput.ofJson_inlineSettings {r : ConversionOutput}
    (hoptions : ∀ j ∈ r.options.values, t j = j) :
    Settings.ofJson .inlineOutput (t (codec.toJson r)) = .ok (.inlineOutput r.inlineSettings) := by
  obtain ⟨ms, hms, hnodup, hv⟩ := ht.exists_view (layout.nodup_toMembers (r := r) (by decide))
  refine (congrArg (Settings.ofJson .inlineOutput) hms).trans (Settings.ofJson_eq_inject hnodup ?_)
  exact shown_settings ht hv hoptions rfl rfl rfl rfl rfl rfl rfl

end

/-! ## Nodes -/

section

variable {t : Json → Json} {e : NodeEnvelope}

/-- A node has the settings that are read from its envelope. -/
theorem Node.exists_of_settings {k : Kind} {s : Settings} (hk : e.type = k.name)
    (hs : Settings.ofJson k e.data = .ok s) : ∃ n, ofEnvelope e = .ok n ∧ n.settings = s := by
  simp only [ofEnvelope, hk, Kind.ofName_name, hs]
  exact ⟨_, rfl, rfl⟩

theorem ConversionInput.Settled.exists_readFile {r : ConversionInput} (h : r.Settled)
    (ht : Rearranges t) (hoptions : ∀ j ∈ r.options.values, t j = j)
    (htype : e.type = Kind.readFile.name) (hdata : e.data = t (codec.toJson r)) :
    ∃ n, Node.ofEnvelope e = .ok n ∧ n.conversionInput = .ok (some r) := by
  obtain ⟨n, hn, hs⟩ := Node.exists_of_settings htype (hdata ▸ ofJson_settings ht h hoptions)
  refine ⟨n, hn, ?_⟩
  simp only [Node.conversionInput, hs, h.input_settings n.id]
  rfl

theorem ConversionOutput.Settled.exists_writeFile {r : ConversionOutput} (h : r.Settled)
    (hlower : Text.lower r.provider = r.provider) (ht : Rearranges t)
    (hoptions : ∀ j ∈ r.options.values, t j = j) (htype : e.type = Kind.writeFile.name)
    (hdata : e.data = t (codec.toJson r)) :
    ∃ n, Node.ofEnvelope e = .ok n ∧ n.conversionOutput = .ok (some r) := by
  obtain ⟨n, hn, hs⟩ := Node.exists_of_settings htype (hdata ▸ ofJson_settings ht hoptions)
  refine ⟨n, hn, ?_⟩
  simp only [Node.conversionOutput, hs, h.output_settings hlower n.id]
  rfl

theorem ConversionOutput.Settled.exists_inlineOutput {r : ConversionOutput} (h : r.Settled)
    (ht : Rearranges t) (hoptions : ∀ j ∈ r.options.values, t j = j)
    (htype : e.type = Kind.inlineOutput.name) (hdata : e.data = t (codec.toJson r)) :
    ∃ n, Node.ofEnvelope e = .ok n ∧ n.conversionOutput = .ok (some r) := by
  obtain ⟨n, hn, hs⟩ := Node.exists_of_settings htype (hdata ▸ ofJson_inlineSettings ht hoptions)
  refine ⟨n, hn, ?_⟩
  simp only [Node.conversionOutput, hs, h.output_inlineSettings n.id]
  rfl

end

namespace Node

/-- The document of the end that a file node is mapped to, in whatever order its keys are, is read
as the settings of a node of the same kind, and this node is mapped to the same end. The options
alone are not made by the mapper, and must stay as they are when keys are moved. -/
theorem remaps {t : Json → Json} (ht : Rearranges t) (n : Node) (e : NodeEnvelope)
    (htype : e.type = n.kind.name) :
    (n.kind = .readFile → ∀ r, n.conversionInput = .ok (some r) →
      (∀ j ∈ r.options.values, t j = j) → e.data = t (ConversionInput.codec.toJson r) →
        ∃ m, ofEnvelope e = .ok m ∧ m.conversionInput = .ok (some r)) ∧
      (n.kind = .writeFile ∨ n.kind = .inlineOutput → ∀ r, n.conversionOutput = .ok (some r) →
        (∀ j ∈ r.options.values, t j = j) → e.data = t (ConversionOutput.codec.toJson r) →
          ∃ m, ofEnvelope e = .ok m ∧ m.conversionOutput = .ok (some r)) := by
  constructor
  · intro hkind r hr hoptions hdata
    rw [hkind] at htype
    cases hs : n.settings with
    | readFile s =>
      simp only [conversionInput, hs] at hr
      have hsettled := Gives.settled_readFile s r (eq_ok_of_map_some hr)
      exact hsettled.exists_readFile ht hoptions htype hdata
    | _ =>
      rw [kind, hs] at hkind
      cases hkind
  · intro hkind r hr hoptions hdata
    rw [kind] at htype hkind
    cases hs : n.settings with
    | writeFile s =>
      simp only [conversionOutput, hs] at hr
      rw [hs] at htype
      obtain ⟨hsettled, hlower⟩ := Gives.settled_writeFile s r (eq_ok_of_map_some hr)
      exact hsettled.exists_writeFile hlower ht hoptions htype hdata
    | inlineOutput s =>
      simp only [conversionOutput, hs] at hr
      rw [hs] at htype
      have hsettled := Gives.settled_inlineOutput s r (eq_ok_of_map_some hr)
      exact hsettled.exists_inlineOutput ht hoptions htype hdata
    | _ =>
      rw [hs] at hkind
      rcases hkind with hkind | hkind <;> cases hkind

/-- A reader that leaves the format to the path, and a preview that leaves everything open. -/
def looseReader : Node :=
  { id := "in", settings := .readFile
      { provider := some "S3", path := some " orders.CSV "
        options := ⟨[("delimiter", .str ";")], by decide⟩ } }

def loosePreview : Node := { id := "out", settings := .inlineOutput {} }

def ordersInput : ConversionInput :=
  { provider := "s3", format := "csv", path := "orders.CSV"
    options := ⟨[("delimiter", .str ";"), ("header", .bool true), ("inferSchema", .bool false)],
      by decide⟩
    columns := none, rows := none }

def previewOutput : ConversionOutput :=
  { provider := "local", format := "json", path := "inline/out.json", mode := "overwrite"
    options := Dict.empty }

/-- Both ends spell out what was left open, and are mapped to themselves. -/
theorem remaps_loose :
    looseReader.conversionInput = .ok (some ordersInput) ∧
      loosePreview.conversionOutput = .ok (some previewOutput) ∧
      (∃ m, ofEnvelope { looseReader.toEnvelope with
          data := (ConversionInput.codec.toJson ordersInput).sorted } = .ok m ∧
        m.conversionInput = .ok (some ordersInput)) ∧
      ∃ m, ofEnvelope { loosePreview.toEnvelope with
          data := (ConversionOutput.codec.toJson previewOutput).sorted } = .ok m ∧
        m.conversionOutput = .ok (some previewOutput) := by
  have hr : looseReader.conversionInput = .ok (some ordersInput) := by rfl
  have hs : loosePreview.conversionOutput = .ok (some previewOutput) := by rfl
  have hoptions : ∀ j ∈ ordersInput.options.values, j.sorted = j := by
    decide +kernel
  have hnone : ∀ j ∈ previewOutput.options.values, j.sorted = j := by
    decide +kernel
  refine ⟨hr, hs, (remaps Json.rearranges_sorted looseReader _ rfl).1 rfl _ hr hoptions rfl, ?_⟩
  exact (remaps Json.rearranges_sorted loosePreview _ rfl).2 (.inr rfl) _ hs hnone rfl

end Node

end DataPipeline
