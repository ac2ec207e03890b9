import DataPipeline.Proofs.Task.Roles
import DataPipeline.Proofs.Validation.Missing
import DataPipeline.Proofs.Workflow.Rereading

/-!
# Validation and mappers agree

Validation looks for the required fields of a node in the document of its settings, the mappers look
at the settings themselves. For settings that keep no key that their kind knows the two find the
same fields missing. So the mapper of a valid node complains of no missing field, but for a format
and the parts of conditions, which validation leaves to it; and the mapper of an invalid node
fails, but for a database whose address stands among its options.

## Main definitions

* `Node.Leaves`: the fields that validation leaves to the mapper of a node
* `Node.Agrees`: validation and the mapper of a node want the same fields

## Main results

* `Node.agrees_of_apart`: they do if the settings keep no key that their kind knows
* `Node.agrees`: and so they do for all nodes that are read, loaded or edited
-/
namespace DataPipeline

open MapError (ofResult ofResult_map)

namespace Node

variable {n : Node} {options : PlanOptions} {dagId : String}

/-! ## What is left to mappers -/

/-- Neither the settings of a file node nor its path give a format. -/
def LacksFormat (n : Node) : Prop :=
  match n.settings with
  | .readFile s => Undetermined s.format s.path
  | .writeFile s => Undetermined s.format s.path
  | _ => False

/-- The fields that validation leaves to the mapper of a node. -/
def Leaves (n : Node) (field : String) : Prop :=
  (field = "format" ∧ n.LacksFormat) ∨
    (n.isFilter = true ∧ (field = "conditions.operator" ∨ field = "conditions.value"))

/-- Validation wants an address of its own from a database whose address stands among its
options, and nothing else. -/
def AddressedByOption (n : Node) : Prop :=
  ∃ s, n.settings = .database s ∧ s.AddressedByOption ∧
    n.faults = [.missingField n.kind n.id n.label "connection_url"]

/-- Validation and the mapper want the same fields. -/
structure Agrees (n : Node) (options : PlanOptions) (dagId : String) : Prop where
  /-- The mapper of a valid node calls no field missing that is not left to it. -/
  satisfied : n.faults = [] → ∀ id field,
    n.complaint options dagId = some (.missingField id field) → n.Leaves field
  /-- The mapper of an invalid node fails, unless it finds an address among the options. -/
  lacking : n.faults ≠ [] → n.complaint options dagId = none → n.AddressedByOption

/-! ## Agreement on results -/

/-- Mapper and validation agree if the result leaves validation's business to validation. -/
theorem agrees_of_result {α : Type} {x : Except MapError α}
    (hx : n.complaint options dagId = ofResult x)
    (hmiss : n.faults = [] → Complains n.id n.Leaves x)
    (hneeds : Needs (n.faults = [] ∨ n.AddressedByOption) x) : n.Agrees options dagId where
  satisfied h id field hcomplaint :=
    (hmiss h _ (MapError.ofResult_eq_some_iff.1 (hx.symm.trans hcomplaint))).2 id field rfl
  lacking h hcomplaint :=
    (hneeds (MapError.ofResult_eq_none_iff.1 (hx.symm.trans hcomplaint))).resolve_left h

/-! ## Conversions -/

theorem agrees_readFile {s : ReadFileSettings} (hs : n.settings = .readFile s)
    (h : n.settings.Apart) : n.Agrees options dagId := by
  have hfaults : n.faults = [] ↔ Text.isMissing s.path = false := by
    simp [faults_eq_nil_iff h, hs, Settings.wanted, Settings.needs]
  have hx : n.complaint options dagId = ofResult (s.input n.id) := by
    rw [complaint_of_isSource (by rw [isSource, hs]; rfl), conversionInput, hs, ofResult_map]
  refine agrees_of_result hx
    (fun hnil => .readFile (by simp [hfaults.1 hnil]) fun hlacks => .inl ⟨rfl, ?_⟩)
    fun hok => .inl (hfaults.2 (Needs.readFile s hok))
  simpa [LacksFormat, hs] using hlacks

theorem agrees_writeFile {s : WriteFileSettings} (hs : n.settings = .writeFile s)
    (h : n.settings.Apart) : n.Agrees options dagId := by
  have hfaults : n.faults = [] ↔ Text.isMissing s.path = false := by
    simp [faults_eq_nil_iff h, hs, Settings.wanted, Settings.needs]
  have hx : n.complaint options dagId = ofResult (s.output n.id) := by
    rw [complaint_of_isSink (by rw [isSink, hs]; rfl), conversionOutput, hs, ofResult_map]
  refine agrees_of_result hx
    (fun hnil => .writeFile (by simp [hfaults.1 hnil]) fun hlacks => .inl ⟨rfl, ?_⟩)
    fun hok => .inl (hfaults.2 (Needs.writeFile s hok))
  simpa [LacksFormat, hs] using hlacks

theorem agrees_inlineInput {s : InlineInputSettings} (hs : n.settings = .inlineInput s)
    (h : n.settings.Apart) : n.Agrees options dagId := by
  have hfaults : n.faults = [] := by
    simp [faults_eq_nil_iff h, hs, Settings.wanted, Settings.needs]
  have hx : n.complaint options dagId = ofResult (s.input n.id) := by
    rw [complaint_of_isSource (by rw [isSource, hs]; rfl), conversionInput, hs, ofResult_map]
  exact agrees_of_result hx (fun _ => .inlineInput s) fun _ => .inl hfaults

theorem agrees_inlineOutput {s : InlineOutputSettings} (hs : n.settings = .inlineOutput s)
    (h : n.settings.Apart) : n.Agrees options dagId := by
  have hfaults : n.faults = [] := by
    simp [faults_eq_nil_iff h, hs, Settings.wanted, Settings.needs]
  have hx : n.complaint options dagId = ofResult (s.output n.id) := by
    rw [complaint_of_isSink (by rw [isSink, hs]; rfl), conversionOutput, hs, ofResult_map]
  exact agrees_of_result hx (fun _ => .inlineOutput s) fun _ => .inl hfaults

theorem agrees_filter {s : FilterSettings} (hs : n.settings = .filter s) (h : n.settings.Apart) :
    n.Agrees options dagId := by
  have hfaults : n.faults = [] := by
    simp [faults_eq_nil_iff h, hs, Settings.wanted, Settings.needs]
  have hfilter : n.isFilter = true := by
    rw [isFilter, hs]
    rfl
  have hx : n.complaint options dagId = ofResult (s.clauses n.id) := by
    rw [complaint_of_isFilter hfilter, clauses, hs]
  exact agrees_of_result hx
    (fun _ => .filter (.inr ⟨hfilter, .inl rfl⟩) (.inr ⟨hfilter, .inr rfl⟩) s) fun _ => .inl hfaults

/-- A database that has all but an address of its own has all, or its address is an option. -/
theorem faults_database {s : DatabaseSettings} (hs : n.settings = .database s)
    (h : n.settings.Apart) (hneeds : n.settings.needs = [])
    (haddress : Text.isMissing s.connectionUrl = false ∨ s.AddressedByOption) :
    n.faults = [] ∨ n.AddressedByOption := by
  rcases haddress with hurl | haddress
  · exact .inl ((faults_eq_nil_iff h).2 ⟨by simp [hs, Settings.wanted, hurl], hneeds⟩)
  · have hmissing : n.missing = ["connection_url"] := by
      rw [missing_eq h, hneeds, hs]
      simp [Settings.wanted, haddress.1, Text.isMissing]
    exact .inr ⟨s, hs, haddress, by rw [faults, hmissing, List.map_singleton]⟩

theorem agrees_database {s : DatabaseSettings} (hs : n.settings = .database s)
    (h : n.settings.Apart) : n.Agrees options dagId := by
  cases haccess : s.access with
  | read =>
    have hfaults : n.faults = [] ↔ Text.isMissing s.connectionUrl = false ∧
        (Text.isMissing s.table && Text.isMissing s.query) = false := by
      simp [faults_eq_nil_iff h, hs, Settings.wanted, Settings.needs, haccess]
    have hx : n.complaint options dagId = ofResult (s.input n.id) := by
      rw [complaint_of_isSource (by simp [isSource, hs, Settings.isSource, haccess]),
        conversionInput, hs]
      simp only [haccess, if_true, ofResult_map]
    refine agrees_of_result hx
      (fun hnil => .databaseInput (.databaseAddress (by simp [hfaults.1 hnil]))
        (by simp [hfaults.1 hnil]))
      fun hok => ?_
    have hrecords := Needs.databaseInput s hok
    refine faults_database hs h ?_ (Needs.left (Needs.databaseAddress s) hok)
    simp [hs, Settings.needs, haccess, hrecords]
  | write =>
    have hfaults : n.faults = [] ↔ Text.isMissing s.connectionUrl = false ∧
        Text.isMissing s.table = false := by
      simp [faults_eq_nil_iff h, hs, Settings.wanted, Settings.needs, haccess]
    have hx : n.complaint options dagId = ofResult (s.output n.id) := by
      rw [complaint_of_isSink (by simp [isSink, hs, Settings.isSink, haccess]),
        conversionOutput, hs]
      simp only [haccess, if_true, ofResult_map]
    refine agrees_of_result hx
      (fun hnil => .databaseOutput (.databaseAddress (by simp [hfaults.1 hnil]))
        (by simp [hfaults.1 hnil]))
      fun hok => ?_
    have htable := Needs.databaseOutput s hok
    refine faults_database hs h ?_ (Needs.left (Needs.databaseAddress s) hok)
    simp [hs, Settings.needs, haccess, htable]

/-! ## Tasks -/

theorem task_of_fileCommand {x : Except MapError FileCommand}
    (h : n.fileCommand options.executedBy = some <$> x) :
    ofResult (n.task options dagId) = ofResult x := by
  rw [task, h]
  cases x <;> rfl

theorem agrees_command (s : FileOperationSettings) (operation : FileOperation)
    (htask : n.hasOwnTask = true)
    (hcommand : n.fileCommand options.executedBy =
      some <$> s.command n.id options.executedBy operation)
    (hfaults : n.faults = [] ↔ Text.isMissing s.sourcePath = false ∧
      (operation.hasDestination = true → Text.isMissing s.destinationPath = false)) :
    n.Agrees options dagId := by
  have hx : n.complaint options dagId =
      ofResult (s.command n.id options.executedBy operation) := by
    rw [complaint_of_hasOwnTask htask, task_of_fileCommand hcommand]
  refine agrees_of_result hx (fun hnil => ?_) fun hok => .inl (hfaults.2 ⟨?_, fun hhas => ?_⟩)
  · obtain ⟨hsource, hdestination⟩ := hfaults.1 hnil
    exact .command _ (by simp [hsource]) fun hhas => by simp [hdestination hhas]
  · exact Needs.sourcePath s hok
  · exact Needs.destinationPath s hhas hok

/-- A code node needs a destination exactly if validation says so, because both take the same words
for a deletion. -/
theorem agrees_code {s : FileOperationSettings} (hs : n.settings = .code s)
    (h : n.settings.Apart) : n.Agrees options dagId := by
  have hfaults : n.faults = [] ↔
      (Text.isMissing s.operation = false ∧ Text.isMissing s.sourcePath = false) ∧
        (!isOperation s.operation "delete" && Text.isMissing s.destinationPath) = false := by
    simp [faults_eq_nil_iff h, hs, Settings.wanted, Settings.needs]
  have hcommand : n.fileCommand options.executedBy = some <$>
      (s.namedOperation n.id >>= fun o => s.command n.id options.executedBy o) := by
    simp only [fileCommand, hs, map_bind]
  have hx : n.complaint options dagId =
      ofResult (s.namedOperation n.id >>= fun o => s.command n.id options.executedBy o) := by
    rw [complaint_of_hasOwnTask (by simp [hasOwnTask, kind, hs, Settings.kind]),
      task_of_fileCommand hcommand]
  have hdelete {o : FileOperation} (ho : s.namedOperation n.id = .ok o) :
      o.hasDestination = !isOperation s.operation "delete" := by
    rw [Bool.eq_iff_iff, Bool.not_eq_true', ← Bool.not_eq_true, ← namedOperation_eq_delete_iff, ho]
    simp [FileOperation.hasDestination]
  refine agrees_of_result hx (fun hnil => ?_) fun hok => .inl (hfaults.2 ⟨⟨?_, ?_⟩, ?_⟩)
  · obtain ⟨⟨hoperation, hsource⟩, hdestination⟩ := hfaults.1 hnil
    refine .bind (.namedOperation (by simp [hoperation])) fun o ho =>
      .command _ (by simp [hsource]) fun hhas => ?_
    rw [← hdelete ho, hhas, Bool.true_and] at hdestination
    simp [hdestination]
  · exact Needs.left (Needs.namedOperation s) hok
  · exact Needs.right (fun _ _ => Needs.sourcePath s) hok
  · refine Needs.right (fun o ho => ?_) hok
    rw [← hdelete ho]
    cases hhas : o.hasDestination with
    | false => exact fun _ => rfl
    | true => exact Needs.destinationPath s hhas

theorem task_of_salesforceQuery {x : Except MapError SalesforceQuery}
    (hcommand : n.fileCommand options.executedBy = .ok none) (h : n.salesforceQuery = some <$> x) :
    ofResult (n.task options dagId) = ofResult x := by
  rw [task, hcommand, h]
  cases x <;> rfl

theorem agrees_salesforceRead {s : SalesforceReadSettings} (hs : n.settings = .salesforceRead s)
    (h : n.settings.Apart) : n.Agrees options dagId := by
  have hfaults : n.faults = [] ↔ Text.isMissing s.objectName = false ∧
      (Text.isMissing s.soqlQuery && s.fields.all Text.isBlank) = false := by
    simp [faults_eq_nil_iff h, hs, Settings.wanted, Settings.needs]
  have hx : n.complaint options dagId = ofResult (s.query n.id) := by
    rw [complaint_of_hasOwnTask (by simp [hasOwnTask, kind, hs, Settings.kind])]
    exact task_of_salesforceQuery (by simp only [fileCommand, hs])
      (by simp only [salesforceQuery, hs])
  refine agrees_of_result hx (fun hnil => ?_) fun hok => .inl (hfaults.2 ⟨?_, ?_⟩)
  · exact .query (by simp [hfaults.1 hnil]) (by simp [hfaults.1 hnil])
  · exact Needs.queryObject s hok
  · exact Needs.query s hok

theorem task_of_salesforceLoad {x : Except MapError SalesforceLoad}
    (hcommand : n.fileCommand options.executedBy = .ok none) (hquery : n.salesforceQuery = .ok none)
    (h : n.salesforceLoad = some <$> x) : ofResult (n.task options dagId) = ofResult x := by
  rw [task, hcommand, hquery, h]
  cases x <;> rfl

theorem agrees_salesforceWrite {s : SalesforceWriteSettings} (hs : n.settings = .salesforceWrite s)
    (h : n.settings.Apart) : n.Agrees options dagId := by
  have hfaults : n.faults = [] ↔
      (Text.isMissing s.objectName = false ∧ Text.isMissing s.filePath = false) ∧
        (isOperation s.operation "upsert" && Text.isMissing s.externalIdField) = false := by
    simp [faults_eq_nil_iff h, hs, Settings.wanted, Settings.needs]
  have hx : n.complaint options dagId = ofResult (s.load n.id) := by
    rw [complaint_of_hasOwnTask (by simp [hasOwnTask, kind, hs, Settings.kind])]
    exact task_of_salesforceLoad (by simp only [fileCommand, hs])
      (by simp only [salesforceQuery, hs]) (by simp only [salesforceLoad, hs])
  refine agrees_of_result hx (fun hnil => ?_) fun hok => .inl (hfaults.2 ⟨⟨?_, ?_⟩, ?_⟩)
  · obtain ⟨⟨hobject, hpath⟩, hneeds⟩ := hfaults.1 hnil
    exact .load (by simp [hobject]) (by simp [hpath]) (by simp [hneeds])
  · exact Needs.loadObject s hok
  · exact Needs.loadPath s hok
  · exact Needs.load s hok

theorem task_of_timer {x : Except MapError Timer}
    (hcommand : n.fileCommand options.executedBy = .ok none) (hquery : n.salesforceQuery = .ok none)
    (hload : n.salesforceLoad = .ok none) (h : n.timer dagId = some <$> x) :
    ofResult (n.task options dagId) = ofResult x := by
  rw [task, hcommand, hquery, hload, h]
  cases x <;> rfl

theorem agrees_scheduler {s : SchedulerSettings} (hs : n.settings = .scheduler s)
    (h : n.settings.Apart) : n.Agrees options dagId := by
  have hfaults : n.faults = [] ↔ Text.isMissing s.startTime = false := by
    simp [faults_eq_nil_iff h, hs, Settings.wanted, Settings.needs]
  have hx : n.complaint options dagId = ofResult (s.timer n.id dagId) := by
    rw [complaint_of_hasOwnTask (by simp [hasOwnTask, kind, hs, Settings.kind])]
    exact task_of_timer (by simp only [fileCommand, hs]) (by simp only [salesforceQuery, hs])
      (by simp only [salesforceLoad, hs]) (by simp only [timer, hs])
  exact agrees_of_result hx (fun hnil => .timer dagId (by simp [hfaults.1 hnil]))
    fun hok => .inl (hfaults.2 (Needs.timer s dagId hok))

/-- Start and end need nothing and give no task. -/
theorem agrees_terminal {s : TerminalSettings}
    (hs : n.settings = .start s ∨ n.settings = .finish s) (h : n.settings.Apart) :
    n.Agrees options dagId := by
  have hfaults : n.faults = [] := by
    rcases hs with hs | hs <;> simp [faults_eq_nil_iff h, hs, Settings.wanted, Settings.needs]
  have hx : n.complaint options dagId = ofResult (n.task options dagId) := by
    rcases hs with hs | hs <;> simp [complaint, isSource, isSink, isFilter, hs, Settings.isSource,
      Settings.isSink, Settings.isFilter]
  have htask : n.task options dagId = .ok none := by
    refine task_of_not_hasOwnTask ?_ dagId
    rcases hs with hs | hs <;> simp [hasOwnTask, kind, hs, Settings.kind]
  exact agrees_of_result hx (fun _ => by rw [htask]; exact .ok none) fun _ => .inl hfaults

/-! ## All nodes -/

/-- Validation and mapper agree on every node whose settings keep no key that their kind knows. -/
theorem agrees_of_apart (h : n.settings.Apart) (options : PlanOptions) (dagId : String) :
    n.Agrees options dagId := by
  cases hs : n.settings with
  | start s => exact agrees_terminal (.inl hs) h
  | finish s => exact agrees_terminal (.inr hs) h
  | readFile s => exact agrees_readFile hs h
  | writeFile s => exact agrees_writeFile hs h
  | copyFile s =>
    refine agrees_command s .copy ?_ ?_ ?_
    · simp [hasOwnTask, kind, hs, Settings.kind]
    · simp only [fileCommand, hs]
    · simp [faults_eq_nil_iff h, hs, Settings.wanted, Settings.needs, FileOperation.hasDestination]
  | renameFile s =>
    refine agrees_command s .rename ?_ ?_ ?_
    · simp [hasOwnTask, kind, hs, Settings.kind]
    · simp only [fileCommand, hs]
    · simp [faults_eq_nil_iff h, hs, Settings.wanted, Settings.needs, FileOperation.hasDestination]
  | deleteFile s =>
    refine agrees_command s .delete ?_ ?_ ?_
    · simp [hasOwnTask, kind, hs, Settings.kind]
    · simp only [fileCommand, hs]
    · simp [faults_eq_nil_iff h, hs, Settings.wanted, Settings.needs, FileOperation.hasDestination]
  | inlineInput s => exact agrees_inlineInput hs h
  | inlineOutput s => exact agrees_inlineOutput hs h
  | database s => exact agrees_database hs h
  | salesforceRead s => exact agrees_salesforceRead hs h
  | salesforceWrite s => exact agrees_salesforceWrite hs h
  | filter s => exact agrees_filter hs h
  | scheduler s => exact agrees_scheduler hs h
  | code s => exact agrees_code hs h

/-- Validation and mapper agree on every node whose settings keep no key that their kind knows. Such
are the nodes that are read from documents, and those of workflows that are loaded from a text and
edited, or built by edits alone. -/
theorem agrees (options : PlanOptions) (dagId : String) :
    (∀ n : Node, n.settings.Apart → n.Agrees options dagId) ∧
      (∀ n, codec.Given n → n.Agrees options dagId) ∧
      ∀ es : List Edit, (∀ e ∈ es, e.Plain) →
        (∀ n ∈ (({} : Workflow).run es).nodes, n.Agrees options dagId) ∧
        ∀ text w, Workflow.load text = .ok w → ∀ n ∈ (w.run es).nodes, n.Agrees options dagId := by
  have hsound {n : Node} (h : n.Sound) : n.Agrees options dagId :=
    agrees_of_apart h.settings.apart options dagId
  refine ⟨fun n h => agrees_of_apart h options dagId, fun n h => hsound (sound_of_given h),
    fun es hes => ⟨fun n hn => ?_, fun text w hw n hn => ?_⟩⟩
  · exact hsound (Workflow.sound_run (by simp) hes n hn)
  · exact hsound (Workflow.sound_run (Workflow.sound_of_load hw) hes n hn)

/-- A node that reads a file and does not say which. -/
def bareReader : Node := { id := "in", settings := .readFile {} }

/-- A database that is addressed by an option. -/
def draftText : String :=
  "\x7b\"nodes\":[\x7b\"id\":\"db\",\"type\":\"database\",\"data\":\x7b\"table\":\"orders\"," ++
    "\"options\":\x7b\"url\":\"jdbc:h2:mem\"\x7d\x7d\x7d]\x7d"

/-- A reader is added, and then told to read a file whose path says nothing about its format. -/
def draftEdits : List Edit :=
  [.insertNode bareReader, .patchSettings "in" (.obj [("path", .str "data")])]

theorem given_bareReader : codec.Given bareReader :=
  ⟨_, .inl (Workflow.sorted_pair (by decide : "id" < "type") "in" "read-file"), rfl⟩

theorem plain_draftEdits : ∀ e ∈ draftEdits, e.Plain := by
  intro e he
  simp only [draftEdits, List.mem_cons, List.not_mem_nil, or_false] at he
  rcases he with rfl | rfl
  · exact given_bareReader
  · exact Json.Sorted.obj (by simp) fun m hm => by
      obtain rfl := List.mem_singleton.1 hm
      exact .str _

/-- The text is loaded, and once the edits are made there are both a reader that has all it needs
but no format, and a database that lacks its address but gives a task. -/
theorem exists_run_draft :
    ∃ w, Workflow.load draftText = .ok w ∧
      (∃ n ∈ (w.run draftEdits).nodes, n.missing = [] ∧
        n.complaint {} "daily" = some (.missingField "in" "format")) ∧
      ∃ n ∈ (w.run draftEdits).nodes, n.missing ≠ [] ∧ n.complaint {} "daily" = none := by
  have h : (Workflow.load draftText).toOption.any (fun w =>
      ((w.run draftEdits).nodes.any fun n => n.missing = [] ∧
        n.complaint {} "daily" = some (.missingField "in" "format")) &&
      (w.run draftEdits).nodes.any fun n => n.missing ≠ [] ∧
        n.complaint {} "daily" = none) = true := by
    decide +kernel
  cases hw : Workflow.load draftText with
  | error faults => simp [hw, Except.toOption] at h
  | ok w =>
    rw [hw] at h
    obtain ⟨hreader, hdatabase⟩ := Bool.and_eq_true_iff.1 h
    obtain ⟨reader, hmem, hreader⟩ := List.any_eq_true.1 hreader
    obtain ⟨database, hmem', hdatabase⟩ := List.any_eq_true.1 hdatabase
    exact ⟨w, rfl, ⟨reader, hmem, of_decide_eq_true hreader⟩, database, hmem',
      of_decide_eq_true hdatabase⟩

/-- A bare reader fails. The reader of the draft, which has all it needs, complains of nothing but
its format, and the database, which lacks its address, has one among its options. -/
theorem agrees_draft :
    (bareReader.settings.Apart ∧ bareReader.faults ≠ [] ∧
        bareReader.complaint {} "daily" ≠ none) ∧
      (∀ e ∈ draftEdits, e.Plain) ∧ ∃ w, Workflow.load draftText = .ok w ∧
        (∃ n ∈ (w.run draftEdits).nodes, n.faults = [] ∧
          n.complaint {} "daily" = some (.missingField "in" "format") ∧ n.Leaves "format") ∧
        ∃ n ∈ (w.run draftEdits).nodes, n.faults ≠ [] ∧ n.complaint {} "daily" = none ∧
          n.AddressedByOption := by
  obtain ⟨hapart, -, hrun⟩ := agrees {} "daily"
  have hbare : bareReader.settings.Apart := fun m hm => by cases hm
  have hfaults : bareReader.faults ≠ [] := by decide +kernel
  obtain ⟨w, hw, ⟨reader, hreader, hfull, hformat⟩, database, hdatabase, hlacks, hmapped⟩ :=
    exists_run_draft
  have hagrees := (hrun draftEdits plain_draftEdits).2 draftText w hw
  have hfull : reader.faults = [] := by rw [faults, hfull, List.map_nil]
  have hlacks : database.faults ≠ [] := fun hnil => hlacks (List.map_eq_nil_iff.1 hnil)
  refine ⟨⟨hbare, hfaults, fun hnone => ?_⟩, plain_draftEdits, w, hw,
    ⟨reader, hreader, hfull, hformat, (hagrees reader hreader).satisfied hfull _ _ hformat⟩,
    database, hdatabase, hlacks, hmapped, (hagrees database hdatabase).lacking hlacks hmapped⟩
  obtain ⟨s, hs, -⟩ := (hapart bareReader hbare).lacking hfaults hnone
  cases hs

end Node

end DataPipeline
