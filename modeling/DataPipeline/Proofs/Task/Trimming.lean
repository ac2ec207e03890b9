import DataPipeline.Proofs.Task.Required
import DataPipeline.Proofs.Validation.Missing

/-!
# Text fields that agree

Of the text fields of a node only their content counts: the label apart, they may be trimmed, and
blank ones left out, and neither validation nor a mapper notices. Two fields have the same content
exactly if they are the same once they are trimmed, where an absent one counts as empty, see
`Text.content_eq_content_iff`.

One field is the exception. The address of a database is looked for among its options when its own
field is absent, but not when the field is blank, so that two nodes with the same contents are
mapped alike only if both look among the options or neither does.

## Main definitions

* `Settings.trimmed`, `Node.trimmed`: settings with the contents of their text fields, and what
  validation and mappers look at of a node with them
* `Settings.AddressedByOption`: a database whose address is looked for among the options

## Main results

* `Node.faults_trimmed`, `Node.task_trimmed`, `Node.clauses_trimmed`: one lemma for each function
* `DatabaseSettings.input_eq_iff`, `DatabaseSettings.output_eq_iff`: when what is mapped of a
  database agrees
* `Node.agree_of_trimmed`: nodes whose text fields agree
-/
namespace DataPipeline

variable {id : String} {o : Option String}

/-! ## Trimmed settings -/

def ReadFileSettings.trimmed (s : ReadFileSettings) : ReadFileSettings :=
  { s with
    provider := Text.content s.provider
    format := Text.content s.format
    path := Text.content s.path }

def WriteFileSettings.trimmed (s : WriteFileSettings) : WriteFileSettings :=
  { s with
    provider := Text.content s.provider
    format := Text.content s.format
    path := Text.content s.path
    mode := Text.content s.mode }

def FileOperationSettings.trimmed (s : FileOperationSettings) : FileOperationSettings :=
  { s with
    operation := Text.content s.operation
    sourcePath := Text.content s.sourcePath
    destinationPath := Text.content s.destinationPath
    executedBy := Text.content s.executedBy }

def InlineInputSettings.trimmed (s : InlineInputSettings) : InlineInputSettings :=
  { s with
    format := Text.content s.format
    path := Text.content s.path }

def InlineOutputSettings.trimmed (s : InlineOutputSettings) : InlineOutputSettings :=
  { s with
    provider := Text.content s.provider
    format := Text.content s.format
    path := Text.content s.path
    mode := Text.content s.mode }

def DatabaseSettings.trimmed (s : DatabaseSettings) : DatabaseSettings :=
  { s with
    connectionUrl := Text.content s.connectionUrl
    table := Text.content s.table
    query := Text.content s.query
    driver := Text.content s.driver
    username := Text.content s.username
    secretName := Text.content s.secretName
    mode := Text.content s.mode }

def SalesforceReadSettings.trimmed (s : SalesforceReadSettings) : SalesforceReadSettings :=
  { s with
    objectName := Text.content s.objectName
    soqlQuery := Text.content s.soqlQuery
    filePath := Text.content s.filePath }

def SalesforceWriteSettings.trimmed (s : SalesforceWriteSettings) : SalesforceWriteSettings :=
  { s with
    objectName := Text.content s.objectName
    operation := Text.content s.operation
    externalIdField := Text.content s.externalIdField
    filePath := Text.content s.filePath }

def SchedulerSettings.trimmed (s : SchedulerSettings) : SchedulerSettings :=
  { s with
    targetDagId := Text.content s.targetDagId
    startTime := Text.content s.startTime
    unit := Text.content s.unit }

namespace Settings

variable {s : Settings}

/-- The settings with the contents of their text fields in the place of these. The label is left as
it is. -/
def trimmed : Settings → Settings
  | start s => start s
  | finish s => finish s
  | readFile s => readFile s.trimmed
  | writeFile s => writeFile s.trimmed
  | copyFile s => copyFile s.trimmed
  | renameFile s => renameFile s.trimmed
  | deleteFile s => deleteFile s.trimmed
  | inlineInput s => inlineInput s.trimmed
  | inlineOutput s => inlineOutput s.trimmed
  | database s => database s.trimmed
  | salesforceRead s => salesforceRead s.trimmed
  | salesforceWrite s => salesforceWrite s.trimmed
  | filter s => filter s
  | scheduler s => scheduler s.trimmed
  | code s => code s.trimmed

@[simp] theorem kind_trimmed (s : Settings) : s.trimmed.kind = s.kind := by
  cases s <;> rfl

@[simp] theorem extra_trimmed (s : Settings) : s.trimmed.extra = s.extra := by
  cases s <;> rfl

@[simp] theorem label_trimmed (s : Settings) : s.trimmed.label = s.label := by
  cases s <;> rfl

theorem wanted_trimmed (s : Settings) :
    s.trimmed.wanted = s.wanted.map fun f => (f.1, Text.content f.2) := by
  cases s <;> rfl

/-! ### Validation -/

/-- An operation is named by the content of its field. -/
theorem isOperation_content {name : String} (hname : name ≠ "") (o : Option String) :
    isOperation (Text.content o) name = isOperation o name := by
  rw [Bool.eq_iff_iff, isOperation_iff hname, isOperation_iff hname, Text.content_content]

@[simp] theorem needs_trimmed (s : Settings) : s.trimmed.needs = s.needs := by
  have hupsert := isOperation_content (show "upsert" ≠ "" by decide)
  have hdelete := isOperation_content (show "delete" ≠ "" by decide)
  cases s with
  | database s => simp only [trimmed, needs, DatabaseSettings.trimmed, Text.isMissing_content]
  | salesforceRead s =>
    simp only [trimmed, needs, SalesforceReadSettings.trimmed, Text.isMissing_content]
  | salesforceWrite s =>
    simp only [trimmed, needs, SalesforceWriteSettings.trimmed, Text.isMissing_content, hupsert]
  | code s =>
    simp only [trimmed, needs, FileOperationSettings.trimmed, Text.isMissing_content, hdelete]
  | _ => rfl

/-- What is missing among the wanted fields is the same, whatever gets in their way. -/
theorem missing_trimmed (s : Settings) :
    s.kind.missing s.trimmed.toJson = s.kind.missing s.toJson := by
  have hgiven (f : String × Option String) (hf : f ∈ s.wanted) :
      Kind.isGiven (s.trimmed.toJson.member f.1) = Kind.isGiven (s.toJson.member f.1) := by
    have hmem : (f.1, Text.content f.2) ∈ s.trimmed.wanted :=
      s.wanted_trimmed ▸ List.mem_map_of_mem hf
    rw [s.member_wanted f hf, s.trimmed.member_wanted _ hmem, extra_trimmed]
    cases s.extra.find? f.1 with
    | some j => rfl
    | none =>
      rw [Option.map_none, Option.none_or, Option.none_or, Kind.isGiven_text, Kind.isGiven_text,
        Text.isMissing_content]
  have htrimmed := missing_toJson s.trimmed
  rw [kind_trimmed, wanted_trimmed, List.filter_map, List.map_map] at htrimmed
  rw [htrimmed, missing_toJson]
  refine congrArg _ (List.filter_congr fun f hf => ?_)
  exact congrArg (!·) (hgiven f hf)

end Settings

/-! ## Mappers -/

section

variable {field path default : String}

@[simp] theorem required_content : required id field (Text.content o) = required id field o := by
  rw [required, Text.content_content, required]

@[simp] theorem chooseProvider_content :
    chooseProvider (Text.content o) path = chooseProvider o path := by
  rw [chooseProvider, Text.content_content, chooseProvider]

@[simp] theorem chooseFormat_content :
    chooseFormat id (Text.content o) path = chooseFormat id o path := by
  rw [chooseFormat, Text.content_content, chooseFormat]

@[simp] theorem inlineFormat_content : inlineFormat id (Text.content o) = inlineFormat id o := by
  rw [inlineFormat, Text.content_content, inlineFormat]

@[simp] theorem inlineLocation_content :
    inlineLocation id (Text.content o) = inlineLocation id o := by
  rw [inlineLocation, Text.content_content, inlineLocation]

@[simp] theorem chooseMode_content :
    chooseMode id (Text.content o) default = chooseMode id o default := by
  rw [chooseMode, Text.content_content, chooseMode]

end

/-! ### One mapper after the other -/

@[simp] theorem ReadFileSettings.input_trimmed (s : ReadFileSettings) :
    s.trimmed.input id = s.input id := by
  simp [input, trimmed]

@[simp] theorem WriteFileSettings.output_trimmed (s : WriteFileSettings) :
    s.trimmed.output id = s.output id := by
  simp [output, trimmed]

@[simp] theorem InlineInputSettings.input_trimmed (s : InlineInputSettings) :
    s.trimmed.input id = s.input id := by
  simp [input, trimmed]

@[simp] theorem InlineOutputSettings.output_trimmed (s : InlineOutputSettings) :
    s.trimmed.output id = s.output id := by
  simp [output, trimmed]

@[simp] theorem FileOperationSettings.namedOperation_trimmed (s : FileOperationSettings) :
    s.trimmed.namedOperation id = s.namedOperation id := by
  simp [namedOperation, trimmed]

@[simp] theorem FileOperationSettings.command_trimmed (s : FileOperationSettings) (runner : String)
    (operation : FileOperation) : s.trimmed.command id runner operation =
      s.command id runner operation := by
  simp [command, trimmed]

@[simp] theorem SalesforceReadSettings.query_trimmed (s : SalesforceReadSettings) :
    s.trimmed.query id = s.query id := by
  simp [query, trimmed]

@[simp] theorem SalesforceWriteSettings.load_trimmed (s : SalesforceWriteSettings) :
    s.trimmed.load id = s.load id := by
  simp [load, loadOperation, trimmed]

@[simp] theorem SchedulerSettings.timer_trimmed (s : SchedulerSettings) (dagId : String) :
    s.trimmed.timer id dagId = s.timer id dagId := by
  simp [timer, checkedStart, timerUnit, trimmed]

namespace Node

variable {n m : Node}

/-- What validation and mappers look at of the node, with the contents of its text fields. -/
def trimmed (n : Node) : Node := { id := n.id, settings := n.settings.trimmed }

theorem trimmed_eq (hid : n.id = m.id) (h : n.settings.trimmed = m.settings.trimmed) :
    n.trimmed = m.trimmed := by
  rw [trimmed, trimmed, hid, h]

theorem faults_trimmed (n : Node) : n.trimmed.faults = n.faults := by
  have hkind : n.trimmed.kind = n.kind := n.settings.kind_trimmed
  have hlabel : n.trimmed.label = n.label := by
    rw [label, label, hkind, trimmed, Settings.label_trimmed]
  have hmissing : n.trimmed.missing = n.missing := by
    rw [missing, missing, hkind, trimmed, Settings.needs_trimmed]
    exact congrArg (· ++ _) n.settings.missing_trimmed
  rw [faults, faults, hmissing, hkind, hlabel, trimmed]

theorem clauses_trimmed (n : Node) : n.trimmed.clauses = n.clauses := by
  unfold clauses trimmed
  cases n.settings <;> rfl

theorem fileCommand_trimmed (n : Node) (runner : String) :
    n.trimmed.fileCommand runner = n.fileCommand runner := by
  unfold fileCommand trimmed
  cases n.settings <;> simp [Settings.trimmed]

theorem salesforceQuery_trimmed (n : Node) : n.trimmed.salesforceQuery = n.salesforceQuery := by
  unfold salesforceQuery trimmed
  cases n.settings <;> simp [Settings.trimmed]

theorem salesforceLoad_trimmed (n : Node) : n.trimmed.salesforceLoad = n.salesforceLoad := by
  unfold salesforceLoad trimmed
  cases n.settings <;> simp [Settings.trimmed]

theorem timer_trimmed (n : Node) (dagId : String) : n.trimmed.timer dagId = n.timer dagId := by
  unfold timer trimmed
  cases n.settings <;> simp [Settings.trimmed]

theorem task_trimmed (n : Node) (options : PlanOptions) (dagId : String) :
    n.trimmed.task options dagId = n.task options dagId := by
  simp only [task, fileCommand_trimmed, salesforceQuery_trimmed, salesforceLoad_trimmed,
    timer_trimmed]

/-- Databases apart, inputs and outputs are those of the trimmed node. -/
theorem conversionInput_trimmed (h : n.kind ≠ .database) :
    n.trimmed.conversionInput = n.conversionInput := by
  rw [kind] at h
  unfold conversionInput trimmed
  cases hs : n.settings with
  | database s => exact absurd (by rw [hs]; rfl) h
  | _ => simp [Settings.trimmed]

theorem conversionOutput_trimmed (h : n.kind ≠ .database) :
    n.trimmed.conversionOutput = n.conversionOutput := by
  rw [kind] at h
  unfold conversionOutput trimmed
  cases hs : n.settings with
  | database s => exact absurd (by rw [hs]; rfl) h
  | _ => simp [Settings.trimmed]

end Node

/-! ## Databases -/

namespace DatabaseSettings

variable {s q : DatabaseSettings}

/-- Without an address of its own a database is at the one among its options. -/
theorem exists_databaseAddress (h : s.AddressedByOption) :
    ∃ url, databaseAddress id s = .ok url := by
  obtain ⟨hnone, url, hoption, hblank⟩ := h
  have hcontent : Text.content (some url) = some (Text.trim url) := by simp [Text.content, hblank]
  have haddress : databaseAddress id s = required id "connection_url" (some url) := by
    rw [databaseAddress, hnone, hoption]
    rfl
  rw [haddress, required, hcontent]
  exact ⟨Text.trim url, rfl⟩

/-- Otherwise it is at the address that its field says. -/
theorem databaseAddress_eq_required (h : ¬ s.AddressedByOption) :
    databaseAddress id s = required id "connection_url" s.connectionUrl := by
  cases hurl : s.connectionUrl with
  | some url =>
    rw [databaseAddress, hurl]
    rfl
  | none =>
    have hnothing : Text.content ((s.options.find? "url").bind Json.text?) = none := by
      refine Text.content_eq_none_iff.2 ?_
      cases hoption : s.options.find? "url" with
      | none => rfl
      | some j =>
        cases j with
        | str url =>
          cases hblank : Text.isBlank url with
          | true => exact hblank
          | false => exact absurd ⟨hurl, url, hoption, hblank⟩ h
        | _ => rfl
    have hnone : databaseAddress id s =
        required id "connection_url" ((s.options.find? "url").bind Json.text?) := by
      rw [databaseAddress, hurl]
      rfl
    rw [hnone, required, hnothing, required]
    rfl

section

variable (h : s.trimmed = q.trimmed)
include h

/-- If the one looks for its address among the options and the other does not, the other has
none. -/
theorem databaseAddress_eq_missingField (hs : s.AddressedByOption) (hq : ¬ q.AddressedByOption) :
    databaseAddress id q = .error (.missingField id "connection_url") := by
  simp only [trimmed, mk.injEq] at h
  obtain ⟨-, -, hurl, -⟩ := h
  have hcontent : Text.content q.connectionUrl = none := by
    rw [← hurl, hs.1]
    rfl
  rw [databaseAddress_eq_required hq, required, hcontent]

/-- Addresses agree if both are looked for in the same place. -/
theorem databaseAddress_congr (hplace : s.AddressedByOption ↔ q.AddressedByOption) :
    databaseAddress id s = databaseAddress id q := by
  simp only [trimmed, mk.injEq] at h
  obtain ⟨-, -, hurl, -, -, -, -, -, -, hoptions, -⟩ := h
  by_cases hs : s.AddressedByOption
  · rw [databaseAddress, databaseAddress, hs.1, (hplace.1 hs).1, hoptions]
  · rw [databaseAddress_eq_required hs, databaseAddress_eq_required (hplace.not.1 hs), required,
      hurl, required]

theorem input_congr (haddress : databaseAddress id s = databaseAddress id q) :
    s.input id = q.input id := by
  simp only [trimmed, mk.injEq] at h
  obtain ⟨-, -, -, htable, hquery, hdriver, husername, hsecret, -, hoptions, hcolumns, -⟩ := h
  simp only [input, connectionOptions, haddress, htable, hquery, hdriver, husername, hsecret,
    hoptions, hcolumns]

theorem output_congr (haddress : databaseAddress id s = databaseAddress id q) :
    s.output id = q.output id := by
  simp only [trimmed, mk.injEq] at h
  obtain ⟨-, -, -, htable, -, hdriver, husername, hsecret, hmode, hoptions, -⟩ := h
  simp only [output, connectionOptions, required, chooseMode, haddress, htable, hdriver, husername,
    hsecret, hmode, hoptions]

end

/-- What is mapped of an address agrees exactly if both look for it in the same place: where there
is an address, nobody calls it missing. -/
theorem eq_iff_of_address {α : Type} {f : DatabaseSettings → Except MapError α}
    (h : s.trimmed = q.trimmed) (hcongr : databaseAddress id s = databaseAddress id q → f s = f q)
    (herror : ∀ s e, databaseAddress id s = .error e → f s = .error e)
    (hcomplains : ∀ s, Complains id (· ≠ "connection_url") (databaseAddress id s) →
      Complains id (· ≠ "connection_url") (f s)) :
    f s = f q ↔ (s.AddressedByOption ↔ q.AddressedByOption) := by
  have hne {s q : DatabaseSettings} (h : s.trimmed = q.trimmed) (hs : s.AddressedByOption)
      (hq : ¬ q.AddressedByOption) : f s ≠ f q := by
    intro heq
    obtain ⟨url, hurl⟩ : ∃ url, databaseAddress id s = .ok url := exists_databaseAddress hs
    have hmissing := heq.trans (herror q _ (databaseAddress_eq_missingField h hs hq))
    exact (hcomplains s (hurl ▸ Complains.ok url) _ hmissing).2 _ _ rfl rfl
  constructor
  · intro heq
    constructor
    · intro hs
      by_contra hq
      exact hne h hs hq heq
    · intro hq
      by_contra hs
      exact hne h.symm hq hs heq.symm
  · intro hplace
    exact hcongr (databaseAddress_congr h hplace)

theorem input_eq_iff (h : s.trimmed = q.trimmed) :
    s.input id = q.input id ↔ (s.AddressedByOption ↔ q.AddressedByOption) :=
  eq_iff_of_address h (input_congr h) (fun _ _ he => by simp only [input, he, bind, Except.bind])
    fun _ haddress => .databaseInput haddress fun _ => by decide

theorem output_eq_iff (h : s.trimmed = q.trimmed) :
    s.output id = q.output id ↔ (s.AddressedByOption ↔ q.AddressedByOption) :=
  eq_iff_of_address h (output_congr h) (fun _ _ he => by simp only [output, he, bind, Except.bind])
    fun _ haddress => .databaseOutput haddress fun _ => by decide

end DatabaseSettings

/-! ## Nodes whose text fields agree -/

/-- The settings are those of a database whose address is looked for among the options. -/
def Settings.AddressedByOption : Settings → Prop
  | database s => s.AddressedByOption
  | _ => False

theorem Settings.not_addressedByOption {s : Settings} (h : s.kind ≠ .database) :
    ¬ s.AddressedByOption := by
  cases s with
  | database s => exact absurd rfl h
  | _ => exact not_false

theorem Settings.exists_of_trimmed_eq_database {s : Settings} {q : DatabaseSettings}
    (h : s.trimmed = (database q).trimmed) : ∃ r, s = database r ∧ r.trimmed = q.trimmed := by
  cases s with
  | database r => exact ⟨r, rfl, database.inj h⟩
  | _ => cases h

theorem map_some_inj {α ε : Type} {x y : Except ε α} :
    (some <$> x : Except ε (Option α)) = some <$> y ↔ x = y := by
  cases x <;> cases y <;> simp [Functor.map, Except.map]

namespace Node

variable {n m : Node}

/-- Inputs and outputs agree exactly if both addresses are looked for in the same place. -/
theorem conversions_eq_iff (hid : n.id = m.id) (h : n.settings.trimmed = m.settings.trimmed) :
    n.conversionInput = m.conversionInput ∧ n.conversionOutput = m.conversionOutput ↔
      (n.settings.AddressedByOption ↔ m.settings.AddressedByOption) := by
  have hkind : n.kind = m.kind := by
    rw [kind, kind, ← Settings.kind_trimmed, h, Settings.kind_trimmed]
  by_cases hn : n.kind = .database
  · cases hm : m.settings with
    | database q =>
      obtain ⟨s, hs, hsq⟩ := Settings.exists_of_trimmed_eq_database (hm ▸ h)
      have haccess : s.access = q.access := by
        simp only [DatabaseSettings.trimmed, DatabaseSettings.mk.injEq] at hsq
        exact hsq.2.1
      simp only [conversionInput, conversionOutput, hs, hm, hid, haccess]
      cases q.access with
      | read =>
        simpa [map_some_inj, Settings.AddressedByOption] using DatabaseSettings.input_eq_iff hsq
      | write =>
        simpa [map_some_inj, Settings.AddressedByOption] using DatabaseSettings.output_eq_iff hsq
    | _ =>
      rw [hkind, kind, hm] at hn
      cases hn
  · have htrimmed := trimmed_eq hid h
    have hm : m.kind ≠ .database := hkind ▸ hn
    rw [← conversionInput_trimmed hn, ← conversionOutput_trimmed hn, htrimmed,
      conversionInput_trimmed hm, conversionOutput_trimmed hm]
    exact iff_of_true ⟨rfl, rfl⟩
      (iff_of_false (Settings.not_addressedByOption hn) (Settings.not_addressedByOption hm))

/-- Of the text fields of a node, the label apart, only the content counts: validation finds the
same faults, and the mappers have the same results, errors included. Input and output of a database
alone depend on more, and agree if and only if both addresses are looked for in the same place. -/
theorem agree_of_trimmed (n m : Node) (hid : n.id = m.id)
    (h : n.settings.trimmed = m.settings.trimmed) :
    n.faults = m.faults ∧ (∀ options dagId, n.task options dagId = m.task options dagId) ∧
      n.clauses = m.clauses ∧
        (n.conversionInput = m.conversionInput ∧ n.conversionOutput = m.conversionOutput ↔
          (n.settings.AddressedByOption ↔ m.settings.AddressedByOption)) := by
  have htrimmed := trimmed_eq hid h
  refine ⟨?_, fun options dagId => ?_, ?_, conversions_eq_iff hid h⟩
  · rw [← faults_trimmed, htrimmed, faults_trimmed]
  · rw [← task_trimmed, htrimmed, task_trimmed]
  · rw [← clauses_trimmed, htrimmed, clauses_trimmed]

/-- A reader of a database, with its address among the options and this one in its field. -/
def addressedReader (url : Option String) : Node :=
  { id := "db", settings := .database
      { connectionUrl := url, table := some "orders"
        options := ⟨[("url", .str "jdbc:mysql://db/shop")], by decide⟩ } }

/-- A reader of a file of orders, with this in the field for its provider and around its path. -/
def ordersReader (provider : Option String) (blank : String) : Node :=
  { id := "in", settings := .readFile
      { provider := provider, path := some (blank ++ "orders.csv" ++ blank) } }

/-- Blanks around its path change nothing for a file. Two blank addresses are treated alike, but
not a blank one and one that is absent. -/
theorem agree_of_trimmed_readers :
    (ordersReader (some " ") "\t").conversionInput = (ordersReader none "").conversionInput ∧
      (addressedReader (some " ")).conversionInput = (addressedReader (some "")).conversionInput ∧
        (addressedReader (some "")).faults = (addressedReader none).faults := by
  have hfile := agree_of_trimmed (ordersReader (some " ") "\t") (ordersReader none "") rfl
    (by rfl)
  have hblank := agree_of_trimmed (addressedReader (some " ")) (addressedReader (some "")) rfl
    (by rfl)
  have habsent := agree_of_trimmed (addressedReader (some "")) (addressedReader none) rfl
    (by rfl)
  have hown {url : String} : ¬ (addressedReader (some url)).settings.AddressedByOption := by
    rintro ⟨hnone, -⟩
    cases hnone
  exact ⟨(hfile.2.2.2.2 Iff.rfl).1, (hblank.2.2.2.2 (iff_of_false hown hown)).1, habsent.1⟩

/-- A blank address is an error where an absent one is not. -/
theorem addressedReader_conversionInput_ne :
    (addressedReader (some "")).settings.trimmed = (addressedReader none).settings.trimmed ∧
      (addressedReader (some "")).conversionInput =
        .error (.missingField "db" "connection_url") ∧
      ∃ r, (addressedReader none).conversionInput = .ok (some r) :=
  ⟨by rfl, by rfl, _, rfl⟩

end Node

end DataPipeline
