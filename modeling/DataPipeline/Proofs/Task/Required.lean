import DataPipeline.Proofs.Text.Blank
import DataPipeline.Task.Basic
import DataPipeline.Validation.Node

/-!
# What mappers ask for

Every mapper asks for fields that must not be missing. It fails without them, and with them it
complains of a missing field only where it finds out late: a format that neither the settings nor
the path give, and the operator or the value of a condition. Whatever it complains of, it says of
the node that it was given.

## Main definitions

* `Complains`: whom errors name, and which fields they call missing
* `Needs`: a condition without which there is no result
* `Undetermined`: neither the settings nor the path give a format
-/
namespace DataPipeline

variable {α β : Type} {P : String → Prop} {Q : Prop} {x : Except MapError α} {id field : String}
  {value : Option String}

/-- Whatever goes wrong is said of the node `id`, and only fields with the property are called
missing. -/
def Complains (id : String) (P : String → Prop) (x : Except MapError α) : Prop :=
  ∀ e, x = .error e → e.nodeId = id ∧ ∀ i f, e = .missingField i f → P f

/-- There is no result unless the condition holds. -/
def Needs (Q : Prop) (x : Except MapError α) : Prop := (∃ a, x = .ok a) → Q

/-- Neither the settings nor the path give a format. -/
def Undetermined (format path : Option String) : Prop :=
  Text.content format = none ∧ (Text.content path).bind extension = none

/-- The address stands among the options, and nothing stands in its own field. -/
def DatabaseSettings.AddressedByOption (s : DatabaseSettings) : Prop :=
  s.connectionUrl = none ∧ ∃ url, s.options.find? "url" = some (.str url) ∧ Text.isBlank url = false

theorem content_of_required {s : String} (h : required id field value = .ok s) :
    Text.content value = some s := by
  rw [required] at h
  split at h
  · rename_i t ht
    exact ht.trans (congrArg _ (Except.ok.inj h))
  · cases h

/-! ## Operations and fields -/

theorem isOperation_iff {name : String} (hname : name ≠ "") :
    isOperation value name = true ↔ ∃ s, Text.content value = some s ∧ Text.lower s = name := by
  cases value with
  | none => simp [isOperation, Text.content]
  | some s =>
    by_cases hblank : Text.isBlank s = true
    · have hlower : Text.lower (Text.trim s) = "" := by rw [Text.trim_eq_empty hblank]; rfl
      simp [isOperation, Text.content, hblank, hlower, hname.symm]
    · simp [isOperation, Text.content, hblank]

theorem LoadOperation.ofText_eq_some_iff {s : String} {o : LoadOperation} :
    ofText s = some o ↔ Text.lower s = o.name := by
  constructor
  · intro h
    have hname : o.name = Text.lower s := by simpa using List.find?_some h
    exact hname.symm
  · intro h
    rw [ofText, h]
    cases o <;> decide

theorem FileOperation.ofText_eq_some_iff {s : String} {o : FileOperation} :
    ofText s = some o ↔ Text.lower (Text.trim s) = o.name := by
  constructor
  · intro h
    have hname : o.name = Text.lower (Text.trim s) := by simpa using List.find?_some h
    exact hname.symm
  · intro h
    rw [ofText, h]
    cases o <;> decide

theorem loadOperation_eq_upsert_iff {s : SalesforceWriteSettings} :
    s.loadOperation id = .ok .upsert ↔ isOperation s.operation "upsert" = true := by
  rw [isOperation_iff (by decide), SalesforceWriteSettings.loadOperation]
  cases hcontent : Text.content s.operation with
  | none => simp
  | some name =>
    have hname : LoadOperation.ofText name = some .upsert ↔ Text.lower name = "upsert" :=
      LoadOperation.ofText_eq_some_iff
    cases hoperation : LoadOperation.ofText name <;> simp_all

/-- A code node names the deletion in the words that validation takes for it. -/
theorem namedOperation_eq_delete_iff {s : FileOperationSettings} :
    s.namedOperation id = .ok .delete ↔ isOperation s.operation "delete" = true := by
  rw [isOperation_iff (by decide), FileOperationSettings.namedOperation, required]
  cases hcontent : Text.content s.operation with
  | none => simp [Bind.bind, Except.bind]
  | some name =>
    obtain ⟨t, -, rfl⟩ := Text.eq_trim_of_content hcontent
    have hname : FileOperation.ofText (Text.trim t) = some .delete ↔
        Text.lower (Text.trim t) = "delete" := by
      rw [FileOperation.ofText_eq_some_iff, Text.trim_trim]
      rfl
    cases hoperation : FileOperation.ofText (Text.trim t) <;>
      simp_all [Bind.bind, Except.bind, Pure.pure, Except.pure]

theorem isEmpty_givenFields (fields : List String) :
    (givenFields fields).isEmpty = fields.all Text.isBlank := by
  rw [Bool.eq_iff_iff]
  simp [givenFields]

/-! ## Complaints -/

namespace Complains

@[simp] theorem ok (a : α) : Complains id P (.ok a : Except MapError α) := by
  simp [Complains]

@[simp] theorem pure (a : α) : Complains id P (pure a : Except MapError α) := ok a

@[simp] theorem missingField_iff :
    Complains id P (.error (.missingField id field) : Except MapError α) ↔ P field := by
  simp [Complains, MapError.nodeId]

@[simp] theorem outOfBounds (min max n : Int) :
    Complains id P (.error (.outOfBounds id field min max n) : Except MapError α) := by
  simp [Complains, MapError.nodeId]

@[simp] theorem invalidValue (given reason : String) :
    Complains id P (.error (.invalidValue id field given reason) : Except MapError α) := by
  simp [Complains, MapError.nodeId]

theorem bind {f : α → Except MapError β} (hx : Complains id P x)
    (hf : ∀ a, x = .ok a → Complains id P (f a)) : Complains id P (x >>= f) := by
  cases x with
  | error e => exact fun e' he => hx e' (by simpa [Bind.bind, Except.bind] using he)
  | ok a => exact hf a rfl

theorem map {f : α → β} (hx : Complains id P x) : Complains id P (f <$> x) := by
  cases x with
  | error e => exact fun e' he => hx e' (by simpa [Functor.map, Except.map] using he)
  | ok a => exact ok (f a)

theorem mapM {f : α → Except MapError β} (hf : ∀ a, Complains id P (f a)) (as : List α) :
    Complains id P (as.mapM f) := by
  induction as with
  | nil => exact pure []
  | cons a as ih =>
    rw [List.mapM_cons]
    exact bind (hf a) fun b _ => bind ih fun bs _ => pure (b :: bs)

/-! ### Fields -/

theorem required (h : Text.isMissing value = true → P field) :
    Complains id P (required id field value) := by
  rw [DataPipeline.required]
  split
  · exact ok _
  · rename_i hnone
    exact missingField_iff.2 (h (Text.content_eq_none_iff.1 hnone))

theorem formatNamed (format : String) : Complains id P (formatNamed id format) := by
  simp only [DataPipeline.formatNamed]
  split <;> simp

theorem chooseFormat {format : Option String} {path : String}
    (h : Text.content format = none → extension path = none → P "format") :
    Complains id P (chooseFormat id format path) := by
  rw [DataPipeline.chooseFormat]
  split
  · exact formatNamed _
  · rename_i hformat
    split
    · exact formatNamed _
    · rename_i hpath
      exact missingField_iff.2 (h hformat hpath)

theorem inlineFormat (format : Option String) : Complains id P (inlineFormat id format) := by
  rw [DataPipeline.inlineFormat]
  split
  · exact formatNamed _
  · exact ok _

theorem chooseMode (mode : Option String) (default : String) :
    Complains id P (chooseMode id mode default) := by
  rw [DataPipeline.chooseMode]
  split
  · exact ok _
  · split <;> simp

theorem within (min max : Int) (n : Int64) : Complains id P (within id field min max n) := by
  rw [DataPipeline.within]
  split <;> simp

theorem bulkBatch (size : Option Int64) : Complains id P (bulkBatch id size) := by
  cases size with
  | none => exact ok 2000
  | some n => exact within _ _ n

/-! ### Conversions -/

theorem readFile {s : ReadFileSettings} (hpath : Text.isMissing s.path = true → P "path")
    (hformat : Undetermined s.format s.path → P "format") : Complains id P (s.input id) := by
  refine bind (required hpath) fun path hgiven => bind (chooseFormat fun hnone hext => ?_)
    fun _ _ => pure _
  exact hformat ⟨hnone, by rw [content_of_required hgiven, Option.bind_some, hext]⟩

theorem inlineInput (s : InlineInputSettings) : Complains id P (s.input id) :=
  bind (inlineFormat _) fun _ _ => pure _

theorem databaseAddress {s : DatabaseSettings}
    (h : Text.isMissing s.connectionUrl = true → P "connection_url") :
    Complains id P (databaseAddress id s) := by
  refine required fun hmissing => h ?_
  cases hurl : s.connectionUrl with
  | none => rfl
  | some url => simpa [hurl] using hmissing

theorem databaseInput {s : DatabaseSettings}
    (haddress : Complains id P (DataPipeline.databaseAddress id s))
    (hrecords : (Text.isMissing s.table && Text.isMissing s.query) = true → P "table") :
    Complains id P (s.input id) := by
  refine bind haddress fun url _ => ?_
  dsimp only
  split
  · exact bind (ok _) fun _ _ => pure _
  · exact bind (ok _) fun _ _ => pure _
  · rename_i htable hquery
    rw [Text.content_eq_none_iff] at htable hquery
    exact bind (missingField_iff.2 (hrecords (by rw [htable, hquery]; rfl))) fun _ _ => pure _

theorem writeFile {s : WriteFileSettings} (hpath : Text.isMissing s.path = true → P "path")
    (hformat : Undetermined s.format s.path → P "format") : Complains id P (s.output id) := by
  refine bind (required hpath) fun path hgiven => bind (chooseFormat fun hnone hext => ?_)
    fun _ _ => bind (chooseMode _ _) fun _ _ => pure _
  exact hformat ⟨hnone, by rw [content_of_required hgiven, Option.bind_some, hext]⟩

theorem inlineOutput (s : InlineOutputSettings) : Complains id P (s.output id) :=
  bind (inlineFormat _) fun _ _ => bind (chooseMode _ _) fun _ _ => pure _

theorem databaseOutput {s : DatabaseSettings}
    (haddress : Complains id P (DataPipeline.databaseAddress id s))
    (htable : Text.isMissing s.table = true → P "table") : Complains id P (s.output id) :=
  bind haddress fun _ _ => bind (required htable) fun _ _ => bind (chooseMode _ _) fun _ _ => pure _

theorem operand (hvalue : P "conditions.value") (operator : String) (c : Condition) :
    Complains id P (c.operand id operator) := by
  rw [Condition.operand]
  split
  · exact ok _
  · split
    · split <;> simp [hvalue]
    · exact invalidValue _ _

theorem condition (hoperator : P "conditions.operator") (hvalue : P "conditions.value")
    (c : Condition) : Complains id P (c.normalize id) := by
  rw [Condition.normalize]
  split
  · exact pure _
  · dsimp only
    split
    · exact bind (missingField_iff.2 hoperator) fun _ _ => bind (operand hvalue _ c) fun _ _ =>
        pure _
    · exact bind (operand hvalue _ c) fun _ _ => pure _

theorem aggregate (a : Aggregate) : Complains id P (a.normalize id) := by
  rw [Aggregate.normalize]
  split
  · exact ok _
  · dsimp only
    split <;> simp

theorem filter (hoperator : P "conditions.operator") (hvalue : P "conditions.value")
    (s : FilterSettings) : Complains id P (s.clauses id) := by
  refine bind (bind (mapM (condition hoperator hvalue) _) fun _ _ => pure _) fun _ _ => ?_
  dsimp only
  split
  · exact bind (ok _) fun _ _ => pure _
  · exact bind (bind (mapM aggregate _) fun _ _ => pure _) fun _ _ => pure _

/-! ### Other tasks -/

theorem namedOperation {s : FileOperationSettings}
    (h : Text.isMissing s.operation = true → P "operation") :
    Complains id P (s.namedOperation id) := by
  refine bind (required h) fun _ _ => ?_
  split <;> simp

theorem command {s : FileOperationSettings} (runner : String) {operation : FileOperation}
    (hsource : Text.isMissing s.sourcePath = true → P "source_path")
    (hdestination : operation.hasDestination = true → Text.isMissing s.destinationPath = true →
      P "destination_path") :
    Complains id P (s.command id runner operation) := by
  refine bind (required hsource) fun _ _ => ?_
  dsimp only
  split
  · rename_i hoperation
    exact bind (map (required (hdestination hoperation))) fun _ _ => pure _
  · exact bind (ok _) fun _ _ => pure _

theorem query {s : SalesforceReadSettings}
    (hobject : Text.isMissing s.objectName = true → P "object_name")
    (hneeds : (Text.isMissing s.soqlQuery && s.fields.all Text.isBlank) = true → P "soql_query") :
    Complains id P (s.query id) := by
  refine bind (required hobject) fun _ _ => ?_
  dsimp only
  split
  · rename_i hnone
    rw [Text.isNone_content, isEmpty_givenFields] at hnone
    exact bind (missingField_iff.2 (hneeds hnone)) fun _ _ => bind (bulkBatch _) fun _ _ => pure _
  · exact bind (bulkBatch _) fun _ _ => pure _

theorem loadOperation (s : SalesforceWriteSettings) : Complains id P (s.loadOperation id) := by
  rw [SalesforceWriteSettings.loadOperation]
  split
  · exact ok _
  · split <;> simp

theorem load {s : SalesforceWriteSettings}
    (hobject : Text.isMissing s.objectName = true → P "object_name")
    (hpath : Text.isMissing s.filePath = true → P "file_path")
    (hneeds : (isOperation s.operation "upsert" && Text.isMissing s.externalIdField) = true →
      P "external_id_field") :
    Complains id P (s.load id) := by
  refine bind (required hobject) fun _ _ => bind (required hpath) fun _ _ =>
    bind (loadOperation s) fun operation hoperation => ?_
  dsimp only
  split
  · rename_i hnone
    obtain ⟨hupsert, hexternal⟩ := Bool.and_eq_true_iff.1 hnone
    obtain rfl := of_decide_eq_true hupsert
    rw [Text.isNone_content] at hexternal
    have hfield := hneeds (by rw [loadOperation_eq_upsert_iff.1 hoperation, hexternal]; rfl)
    exact bind (missingField_iff.2 hfield) fun _ _ => bind (bulkBatch _) fun _ _ => pure _
  · exact bind (bulkBatch _) fun _ _ => pure _

theorem timerUnit (s : SchedulerSettings) : Complains id P (s.timerUnit id) := by
  rw [SchedulerSettings.timerUnit]
  split
  · exact ok _
  · split <;> simp

theorem checkedStart {s : SchedulerSettings}
    (h : Text.isMissing s.startTime = true → P "start_time") :
    Complains id P (s.checkedStart id) := by
  refine bind (required h) fun _ _ => ?_
  split <;> simp

theorem timer (dagId : String) {s : SchedulerSettings}
    (h : Text.isMissing s.startTime = true → P "start_time") :
    Complains id P (s.timer id dagId) := by
  refine bind (checkedStart h) fun _ _ => bind (within _ _ _) fun _ _ =>
    bind (timerUnit s) fun _ _ => ?_
  dsimp only
  split
  · exact bind (ok _) fun _ _ => pure _
  · exact bind (map (within _ _ _)) fun _ _ => pure _

end Complains

/-! ## What must not be missing -/

namespace Needs

@[simp] theorem error (e : MapError) : Needs Q (.error e : Except MapError α) := by
  simp [Needs]

theorem left {f : α → Except MapError β} (h : Needs Q x) : Needs Q (x >>= f) := by
  rintro ⟨b, hb⟩
  cases x with
  | error e => cases hb
  | ok a => exact h ⟨a, rfl⟩

theorem right {f : α → Except MapError β} (h : ∀ a, x = .ok a → Needs Q (f a)) :
    Needs Q (x >>= f) := by
  rintro ⟨b, hb⟩
  cases x with
  | error e => cases hb
  | ok a => exact h a rfl ⟨b, hb⟩

theorem map {f : α → β} (h : Needs Q x) : Needs Q (f <$> x) := by
  rintro ⟨b, hb⟩
  cases x with
  | error e => cases hb
  | ok a => exact h ⟨a, rfl⟩

theorem required : Needs (Text.isMissing value = false) (required id field value) := by
  rintro ⟨s, h⟩
  exact Text.isMissing_of_content (content_of_required h)

/-! ### Conversions -/

theorem readFile (s : ReadFileSettings) : Needs (Text.isMissing s.path = false) (s.input id) :=
  left required

theorem writeFile (s : WriteFileSettings) : Needs (Text.isMissing s.path = false) (s.output id) :=
  left required

/-- Without an address of its own a database has one among its options. -/
theorem databaseAddress (s : DatabaseSettings) :
    Needs (Text.isMissing s.connectionUrl = false ∨ s.AddressedByOption)
      (databaseAddress id s) := by
  intro h
  have hgiven := required h
  cases hurl : s.connectionUrl with
  | some url => exact .inl (by simpa [hurl] using hgiven)
  | none =>
    refine .inr ⟨hurl, ?_⟩
    cases hoption : s.options.find? "url" with
    | none => simp [hurl, hoption, Text.isMissing] at hgiven
    | some j =>
      cases j with
      | str url =>
        exact ⟨url, rfl, by simpa [hurl, hoption, Json.text?, Text.isMissing] using hgiven⟩
      | _ => simp [hurl, hoption, Json.text?, Text.isMissing] at hgiven

theorem databaseInput (s : DatabaseSettings) :
    Needs ((Text.isMissing s.table && Text.isMissing s.query) = false) (s.input id) := by
  refine right fun _ _ => ?_
  dsimp only
  split
  · rename_i hquery
    exact fun _ => by simp [Text.isMissing_of_content hquery]
  · rename_i htable _
    exact fun _ => by simp [Text.isMissing_of_content htable]
  · exact left (error _)

theorem databaseOutput (s : DatabaseSettings) :
    Needs (Text.isMissing s.table = false) (s.output id) :=
  right fun _ _ => left required

/-! ### Other tasks -/

variable {runner : String} {operation : FileOperation}

theorem sourcePath (s : FileOperationSettings) :
    Needs (Text.isMissing s.sourcePath = false) (s.command id runner operation) :=
  left required

theorem destinationPath (s : FileOperationSettings) (h : operation.hasDestination = true) :
    Needs (Text.isMissing s.destinationPath = false) (s.command id runner operation) := by
  refine right fun _ _ => ?_
  rw [if_pos h]
  exact left (map required)

theorem namedOperation (s : FileOperationSettings) :
    Needs (Text.isMissing s.operation = false) (s.namedOperation id) :=
  left required

theorem queryObject (s : SalesforceReadSettings) :
    Needs (Text.isMissing s.objectName = false) (s.query id) :=
  left required

theorem query (s : SalesforceReadSettings) :
    Needs ((Text.isMissing s.soqlQuery && s.fields.all Text.isBlank) = false) (s.query id) := by
  refine right fun _ _ => ?_
  dsimp only
  split
  · exact left (error _)
  · rename_i hnone
    rw [Text.isNone_content, isEmpty_givenFields] at hnone
    exact fun _ => Bool.eq_false_iff.2 hnone

theorem loadObject (s : SalesforceWriteSettings) :
    Needs (Text.isMissing s.objectName = false) (s.load id) :=
  left required

theorem loadPath (s : SalesforceWriteSettings) :
    Needs (Text.isMissing s.filePath = false) (s.load id) :=
  right fun _ _ => left required

theorem load (s : SalesforceWriteSettings) :
    Needs ((isOperation s.operation "upsert" && Text.isMissing s.externalIdField) = false)
      (s.load id) := by
  refine right fun _ _ => right fun _ _ => right fun operation hoperation => ?_
  dsimp only
  split
  · exact left (error _)
  · rename_i hnone
    intro _
    rw [Text.isNone_content] at hnone
    cases hupsert : isOperation s.operation "upsert" with
    | false => rfl
    | true =>
      obtain rfl := Except.ok.inj (hoperation.symm.trans (loadOperation_eq_upsert_iff.2 hupsert))
      exact Bool.eq_false_iff.2 hnone

theorem timer (s : SchedulerSettings) (dagId : String) :
    Needs (Text.isMissing s.startTime = false) (s.timer id dagId) :=
  left (left required)

end Needs

end DataPipeline
