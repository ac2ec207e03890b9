import DataPipeline.Proofs.Dict
import DataPipeline.Proofs.Results
import DataPipeline.Proofs.Task.Roles
import DataPipeline.Proofs.Text.Blank
import DataPipeline.Task.Basic

/-!
# Well-formed tasks

What the engine may rely on in a task that it is given. Names, paths and addresses are not blank,
keywords are among those that are known, numbers lie between their bounds and are those of the
settings, and a clause that is there says something.

Every mapper is a sequence of steps of which each hands on what it has found, so what holds of its
result is put together from what holds of the steps.

## Main definitions

* `Gives`: every result of a mapper has a property
* `Takes`: a number of a task is that of the settings
* `ConversionInput.WellFormed`, `ConversionOutput.WellFormed`, `Clauses.WellFormed`,
  `FileCommand.WellFormed`, `SalesforceQuery.WellFormed`, `SalesforceLoad.WellFormed`,
  `Timer.WellFormed`

## Main results

* `Gives.bind`, `Gives.map`: what steps give together
* `Node.wellFormed_of_conversionInput` and its like: what the mappers of a node give is well formed
* `PlanOptions.hasContent_dagId`: the id of a DAG says something
-/
namespace DataPipeline

variable {α β : Type} {P : α → Prop} {Q : β → Prop} {x : Except MapError α} {id field : String}

/-! ## Properties -/

/-- Every result has the property. -/
def Gives (P : α → Prop) (x : Except MapError α) : Prop := ∀ a, x = .ok a → P a

/-- The text says something. -/
def Text.HasContent (s : String) : Prop := isBlank s = false

instance (s : String) : Decidable (Text.HasContent s) :=
  inferInstanceAs (Decidable (Text.isBlank s = false))

/-- A field says something, or what stands in for it does. -/
theorem Text.hasContent_getD {default : String} (h : HasContent default) (field : Option String) :
    HasContent ((content field).getD default) := by
  cases hfield : content field with
  | none => exact h
  | some s => exact isBlank_of_content hfield

theorem Text.HasContent.append {s : String} (h : HasContent s) (t : String) :
    HasContent (s ++ t) := by
  rw [HasContent, isBlank_append, h, Bool.false_and]

/-- An option is a text that says something. -/
def Dict.GivesText (options : Dict Json) (key : String) : Prop :=
  ∃ s, options.find? key = some (.str s) ∧ Text.HasContent s

/-- The number is the given one, which lies between the bounds. -/
structure Takes (value : Int64) (min max : Nat) (n : UInt32) : Prop where
  eq : (n.toNat : Int) = value.toInt
  lower : min ≤ n.toNat
  upper : n.toNat ≤ max

/-- Only a database is reached by `jdbc`, and it needs an address and something to read. -/
structure ConversionInput.WellFormed (n : Node) (t : ConversionInput) : Prop where
  provider : Text.HasContent t.provider
  path : Text.HasContent t.path
  format : t.format = "jdbc" ∨ t.format ∈ fileFormats
  database : t.format = "jdbc" ↔ n.kind = .database
  url : t.format = "jdbc" → t.options.GivesText "url"
  records : t.format = "jdbc" → t.options.GivesText "query" ∨ t.options.GivesText "dbtable"

structure ConversionOutput.WellFormed (n : Node) (t : ConversionOutput) : Prop where
  provider : Text.HasContent t.provider
  path : Text.HasContent t.path
  format : t.format = "jdbc" ∨ t.format ∈ fileFormats
  database : t.format = "jdbc" ↔ n.kind = .database
  mode : t.mode ∈ writingModes
  url : t.format = "jdbc" → t.options.GivesText "url"
  table : t.format = "jdbc" → t.options.GivesText "dbtable"

/-- No clause is there without a row. -/
structure Clauses.WellFormed (c : Clauses) : Prop where
  filter : ∀ f, c.filter = some f → f.conditions ≠ []
  orderBy : c.orderBy ≠ some []
  aggregation : ∀ a, c.aggregation = some a → a.aggregates ≠ []

structure FileCommand.WellFormed (t : FileCommand) : Prop where
  sourcePath : Text.HasContent t.sourcePath
  destinationPath : t.operation ≠ .delete →
    ∃ path, t.destinationPath = some path ∧ Text.HasContent path
  noDestination : t.operation = .delete → t.destinationPath = none

structure SalesforceQuery.WellFormed (s : SalesforceReadSettings) (t : SalesforceQuery) :
    Prop where
  objectName : Text.HasContent t.objectName
  filePath : Text.HasContent t.filePath
  fields : ∀ f ∈ t.fields, Text.HasContent f
  query : ∀ q, t.query = some q → Text.HasContent q
  asks : t.query ≠ none ∨ t.fields ≠ []
  batch : Takes (s.bulkBatchSize.getD 2000) 1 10000 t.bulkBatchSize

structure SalesforceLoad.WellFormed (s : SalesforceWriteSettings) (t : SalesforceLoad) : Prop where
  objectName : Text.HasContent t.objectName
  filePath : Text.HasContent t.filePath
  fields : ∀ f ∈ t.fields, Text.HasContent f
  externalId : t.operation = .upsert → ∃ f, t.externalIdField = some f ∧ Text.HasContent f
  batch : Takes (s.bulkBatchSize.getD 2000) 1 10000 t.bulkBatchSize

structure Timer.WellFormed (s : SchedulerSettings) (t : Timer) : Prop where
  dagId : Text.HasContent t.dagId
  startTime : ∃ start, Timestamp.parse t.startTime = .ok start
  interval : Takes (s.interval.getD 1) 1 4294967295 t.interval
  occurrenceLimit : Option.Rel (Takes · 1 4294967295) s.occurrenceLimit t.occurrenceLimit

namespace Gives

/-! ## Steps -/

theorem ok {a : α} (h : P a) : Gives P (.ok a) := by
  intro b hb
  obtain rfl := Except.ok.inj hb
  exact h

theorem pure {a : α} (h : P a) : Gives P (pure a : Except MapError α) := ok h

theorem error (e : MapError) : Gives P (.error e) := by
  intro a ha
  cases ha

theorem bind {f : α → Except MapError β} (hx : Gives P x) (hf : ∀ a, P a → Gives Q (f a)) :
    Gives Q (x >>= f) := by
  intro b hb
  cases x with
  | error e => cases hb
  | ok a => exact hf a (hx a rfl) b hb

theorem error_bind (e : MapError) (f : α → Except MapError β) : Gives Q (.error e >>= f) := error e

/-- A step that says nothing about what comes after it. -/
theorem bind_any {f : α → Except MapError β} (hf : ∀ a, Gives Q (f a)) : Gives Q (x >>= f) := by
  intro b hb
  cases x with
  | error e => cases hb
  | ok a => exact hf a b hb

theorem map {f : α → β} (hx : Gives (fun a => Q (f a)) x) : Gives Q (f <$> x) := by
  intro b hb
  cases x with
  | error e => cases hb
  | ok a =>
    obtain rfl := Except.ok.inj hb
    exact hx a rfl

/-! ## Fields -/

theorem required {value : Option String} : Gives Text.HasContent (required id field value) := by
  intro s h
  exact Text.isBlank_of_content (content_of_required h)

theorem formatNamed (format : String) : Gives (· ∈ fileFormats) (formatNamed id format) := by
  simp only [DataPipeline.formatNamed]
  split
  · rename_i hknown
    exact ok (List.contains_iff_mem.1 hknown)
  · exact error _

theorem chooseFormat (format : Option String) (path : String) :
    Gives (· ∈ fileFormats) (chooseFormat id format path) := by
  rw [DataPipeline.chooseFormat]
  split
  · exact formatNamed _
  · split
    · exact formatNamed _
    · exact error _

theorem inlineFormat (format : Option String) :
    Gives (· ∈ fileFormats) (inlineFormat id format) := by
  rw [DataPipeline.inlineFormat]
  split
  · exact formatNamed _
  · exact ok (by decide)

theorem chooseMode (mode : Option String) {default : String} (hdefault : default ∈ writingModes) :
    Gives (· ∈ writingModes) (chooseMode id mode default) := by
  rw [DataPipeline.chooseMode]
  split
  · exact ok hdefault
  · split
    · rename_i hknown
      exact ok (List.contains_iff_mem.1 hknown)
    · exact error _

/-- Between bounds that a word can hold nothing is cut off. -/
theorem within {min max : Nat} (hmax : max < 4294967296) (value : Int64) :
    Gives (Takes value min max) (within id field min max value) := by
  rw [DataPipeline.within]
  split
  · rename_i h
    have hbound : value.toInt.toNat < 4294967296 := by omega
    have hword : (UInt32.ofNat value.toInt.toNat).toNat = value.toInt.toNat :=
      UInt32.toNat_ofNat_of_lt' hbound
    exact ok ⟨by omega, by omega, by omega⟩
  · exact error _

theorem bulkBatch (size : Option Int64) :
    Gives (Takes (size.getD 2000) 1 10000) (bulkBatch id size) := by
  cases size with
  | none => exact ok ⟨by decide, by decide, by decide⟩
  | some n => exact within (by decide) n

end Gives

/-! ## Ends of conversions -/

theorem providerOfPath_hasContent (path : String) : Text.HasContent (providerOfPath path) := by
  rw [providerOfPath]
  split <;> decide

theorem chooseProvider_hasContent (provider : Option String) (path : String) :
    Text.HasContent (chooseProvider provider path) := by
  rw [chooseProvider]
  split
  · rename_i p hp
    exact (Text.isBlank_lower p).trans (Text.isBlank_of_content hp)
  · exact providerOfPath_hasContent path

theorem inlineLocation_hasContent (id : String) (path : Option String) :
    Text.HasContent (inlineLocation id path) := by
  have hdefault : Text.HasContent "inline/" := by decide
  exact Text.hasContent_getD ((hdefault.append id).append ".json") path

namespace Dict.GivesText

variable {options : Dict Json} {key key' text : String}

theorem insert (h : Text.HasContent text) : (options.insert key (.str text)).GivesText key :=
  ⟨text, by simp [Dict.find?_insert], h⟩

theorem insert_of_ne (h : options.GivesText key) (hne : key ≠ key') (v : Json) :
    (options.insert key' v).GivesText key := by
  obtain ⟨s, hs, hgiven⟩ := h
  exact ⟨s, by rw [Dict.find?_insert, if_neg hne, hs], hgiven⟩

theorem setText (h : options.GivesText key) (hne : key ≠ key') (value : Option String) :
    (setText options key' value).GivesText key := by
  cases value with
  | none => exact h
  | some s => exact h.insert_of_ne hne _

theorem connectionOptions {url : String} (h : Text.HasContent url) (s : DatabaseSettings) :
    (connectionOptions url s).GivesText "url" :=
  (((insert h).setText (by decide) _).setText (by decide) _).setText (by decide) _

end Dict.GivesText

theorem ne_jdbc_of_mem_fileFormats {format : String} (h : format ∈ fileFormats) :
    format ≠ "jdbc" := by
  rintro rfl
  revert h
  decide

/-- Nothing is asked of the options of an end that is not a database. -/
theorem ConversionInput.WellFormed.of_format {n : Node} {t : ConversionInput}
    (hkind : n.kind ≠ .database) (hprovider : Text.HasContent t.provider)
    (hpath : Text.HasContent t.path) (hformat : t.format ∈ fileFormats) : t.WellFormed n := by
  have hjdbc := ne_jdbc_of_mem_fileFormats hformat
  exact ⟨hprovider, hpath, .inr hformat, by simp [hjdbc, hkind], by simp [hjdbc], by simp [hjdbc]⟩

theorem ConversionOutput.WellFormed.of_format {n : Node} {t : ConversionOutput}
    (hkind : n.kind ≠ .database) (hprovider : Text.HasContent t.provider)
    (hpath : Text.HasContent t.path) (hformat : t.format ∈ fileFormats)
    (hmode : t.mode ∈ writingModes) : t.WellFormed n := by
  have hjdbc := ne_jdbc_of_mem_fileFormats hformat
  exact ⟨hprovider, hpath, .inr hformat, by simp [hjdbc, hkind], hmode, by simp [hjdbc],
    by simp [hjdbc]⟩

namespace Gives

variable {n : Node}

theorem readFile (s : ReadFileSettings) (hn : n.kind ≠ .database) :
    Gives (ConversionInput.WellFormed n) (s.input id) :=
  required.bind fun path hpath => (chooseFormat _ _).bind fun _ hformat =>
    pure (.of_format hn (chooseProvider_hasContent _ path) hpath hformat)

theorem inlineInput (s : InlineInputSettings) (hn : n.kind ≠ .database) :
    Gives (ConversionInput.WellFormed n) (s.input id) := by
  have hprovider : Text.HasContent "inline" := by decide
  exact (inlineFormat _).bind fun _ hformat =>
    pure (.of_format hn hprovider (inlineLocation_hasContent id s.path) hformat)

/-- The records come from a query or else from a table, which also names the input. -/
theorem databaseInput (s : DatabaseSettings) (hn : n.kind = .database) :
    Gives (ConversionInput.WellFormed n) (s.input id) := by
  refine required.bind fun url hurl => ?_
  have hprovider : Text.HasContent "jdbc" := by decide
  have haddress := Dict.GivesText.connectionOptions hurl s
  have hdone (path : String) (options : Dict Json) (hpath : Text.HasContent path)
      (hurl : options.GivesText "url")
      (hrecords : options.GivesText "query" ∨ options.GivesText "dbtable") :
      ConversionInput.WellFormed n
        ⟨"jdbc", "jdbc", path, options, declared s.columns, none⟩ :=
    ⟨hprovider, hpath, .inl rfl, by simp [hn], fun _ => hurl, fun _ => hrecords⟩
  dsimp only
  split
  · rename_i query hquery
    have hname : Text.HasContent ((Text.content s.table).getD "query") :=
      Text.hasContent_getD (by decide) _
    exact ok (hdone _ _ hname (haddress.insert_of_ne (by decide) _)
      (.inl (.insert (Text.isBlank_of_content hquery))))
  · rename_i table htable _
    have hname : Text.HasContent table := Text.isBlank_of_content htable
    exact ok (hdone _ _ hname (haddress.insert_of_ne (by decide) _) (.inr (.insert hname)))
  · exact error _

theorem writeFile (s : WriteFileSettings) (hn : n.kind ≠ .database) :
    Gives (ConversionOutput.WellFormed n) (s.output id) :=
  required.bind fun path hpath => (chooseFormat _ _).bind fun _ hformat =>
    (chooseMode _ (by decide)).bind fun _ hmode =>
      pure (.of_format hn (chooseProvider_hasContent _ path) hpath hformat hmode)

theorem inlineOutput (s : InlineOutputSettings) (hn : n.kind ≠ .database) :
    Gives (ConversionOutput.WellFormed n) (s.output id) := by
  refine (inlineFormat _).bind fun _ hformat => (chooseMode _ (by decide)).bind fun _ hmode => ?_
  have hprovider := Text.hasContent_getD (by decide : Text.HasContent "local") s.provider
  exact pure (.of_format hn hprovider (inlineLocation_hasContent id s.path) hformat hmode)

theorem databaseOutput (s : DatabaseSettings) (hn : n.kind = .database) :
    Gives (ConversionOutput.WellFormed n) (s.output id) := by
  refine required.bind fun url hurl => required.bind fun table htable =>
    (chooseMode _ (by decide)).bind fun _ hmode => ?_
  have hprovider : Text.HasContent "jdbc" := by decide
  have hoptions := Dict.GivesText.connectionOptions hurl s
  exact pure ⟨hprovider, htable, .inl rfl, by simp [hn], hmode,
    fun _ => hoptions.insert_of_ne (by decide) _, fun _ => .insert htable⟩

/-! ### Clauses -/

theorem eq_of_nonEmpty {as bs : List α} (h : nonEmpty as = some bs) : as = bs ∧ bs ≠ [] := by
  rw [nonEmpty] at h
  split at h
  · cases h
  · rename_i hempty
    obtain rfl := Option.some.inj h
    exact ⟨rfl, by simpa using hempty⟩

/-- A clause is made of the rows that are left, if there are any. -/
theorem ne_nil_of_map_nonEmpty {as : List α} {f : List α → β} (rows : β → List α) {b : β}
    (hrows : ∀ as, rows (f as) = as) (h : (nonEmpty as).map f = some b) : rows b ≠ [] := by
  obtain ⟨bs, hbs, rfl⟩ := Option.map_eq_some_iff.1 h
  rw [hrows]
  exact (eq_of_nonEmpty hbs).2

theorem conditionClause (s : FilterSettings) :
    Gives (fun o => ∀ f, o = some f → f.conditions ≠ []) (s.conditionClause id) :=
  bind_any fun _ => pure fun _ h =>
    ne_nil_of_map_nonEmpty FilterClause.conditions (fun _ => rfl) h

theorem aggregationClause (a : Aggregation) :
    Gives (fun o => ∀ c, o = some c → c.aggregates ≠ []) (a.clause id) :=
  bind_any fun _ => pure fun _ h =>
    ne_nil_of_map_nonEmpty AggregationClause.aggregates (fun _ => rfl) h

theorem filter (s : FilterSettings) : Gives Clauses.WellFormed (s.clauses id) := by
  have horder : s.orderClause ≠ some [] := fun h => (eq_of_nonEmpty h).2 rfl
  refine (conditionClause s).bind fun filter hfilter => ?_
  dsimp only
  split
  · exact pure ⟨hfilter, horder, by simp⟩
  · exact (aggregationClause _).bind fun _ haggregation => pure ⟨hfilter, horder, haggregation⟩

/-- Without a filter there are no clauses. -/
theorem clausesOf {P : Clauses → Prop} (hnone : P {})
    (hfilter : ∀ {id : String} (s : FilterSettings), Gives P (s.clauses id)) {n : Option Node} :
    Gives P (clausesOf n) := by
  cases n with
  | none => exact ok hnone
  | some n =>
    rw [DataPipeline.clausesOf, Node.clauses]
    split
    · exact hfilter _
    · exact ok hnone

/-! ### Other tasks -/

theorem command (runner : String) (operation : FileOperation) (s : FileOperationSettings) :
    Gives FileCommand.WellFormed (s.command id runner operation) := by
  refine required.bind fun source hsource => ?_
  dsimp only
  split
  · rename_i hhas
    have hoperation : operation ≠ .delete := by simpa [FileOperation.hasDestination] using hhas
    refine bind (P := fun o => ∃ path, o = some path ∧ Text.HasContent path)
      (map fun path hpath => ⟨path, rfl, required path hpath⟩) fun _ hdestination => ?_
    exact pure ⟨hsource, fun _ => hdestination, fun h => absurd h hoperation⟩
  · rename_i hhas
    have hoperation : operation = .delete := by simpa [FileOperation.hasDestination] using hhas
    exact pure ⟨hsource, fun h => absurd hoperation h, fun _ => rfl⟩

theorem hasContent_of_mem_givenFields {fields : List String} :
    ∀ f ∈ givenFields fields, Text.HasContent f := by
  intro f hf
  obtain ⟨g, hg, rfl⟩ := List.mem_map.1 hf
  have hgiven : Text.isBlank g = false := by simpa using (List.mem_filter.1 hg).2
  exact Text.isBlank_of_content (o := some g) (by simp [Text.content, hgiven])

theorem query (s : SalesforceReadSettings) :
    Gives (SalesforceQuery.WellFormed s) (s.query id) := by
  refine required.bind fun object hobject => ?_
  have hdefault : Text.HasContent "salesforce/" := by decide
  have hpath := Text.hasContent_getD ((hdefault.append object).append ".csv") s.filePath
  dsimp only
  split
  · exact error_bind _ _
  · rename_i hasks
    refine (bulkBatch _).bind fun _ hbatch => pure ⟨hobject, ?_, hasContent_of_mem_givenFields,
      fun _ hq => Text.isBlank_of_content hq, ?_, hbatch⟩
    · exact hpath
    · by_contra hnone
      obtain ⟨hquery, hfields⟩ := not_or.1 hnone
      exact hasks (by simpa using ⟨not_not.1 hquery, not_not.1 hfields⟩)

theorem load (s : SalesforceWriteSettings) : Gives (SalesforceLoad.WellFormed s) (s.load id) := by
  refine required.bind fun _ hobject => required.bind fun _ hpath => bind_any fun operation => ?_
  dsimp only
  split
  · exact error_bind _ _
  · rename_i hexternal
    refine (bulkBatch _).bind fun _ hbatch => pure ⟨hobject, hpath, hasContent_of_mem_givenFields,
      fun hupsert => ?_, hbatch⟩
    cases hfield : Text.content s.externalIdField with
    | none =>
      obtain rfl : operation = .upsert := hupsert
      simp [hfield] at hexternal
    | some f => exact ⟨f, rfl, Text.isBlank_of_content hfield⟩

theorem timer {dagId : String} (hdag : Text.HasContent dagId) (s : SchedulerSettings) :
    Gives (Timer.WellFormed s) (s.timer id dagId) := by
  have hstart : Gives (fun t => ∃ start, Timestamp.parse t = .ok start) (s.checkedStart id) := by
    refine bind_any fun t => ?_
    split
    · rename_i start hparse
      exact ok ⟨start, hparse⟩
    · exact error _
  refine hstart.bind fun _ hstart => (within (by decide) _).bind fun _ hinterval =>
    bind_any fun _ => ?_
  have htarget := Text.hasContent_getD hdag s.targetDagId
  dsimp only
  split
  · rename_i hlimit
    exact pure ⟨htarget, hstart, hinterval, hlimit ▸ .none⟩
  · rename_i n hlimit
    refine bind (P := fun o => ∃ k, o = some k ∧ Takes n 1 4294967295 k)
      (map fun k hk => ⟨k, rfl, within (by decide) n k hk⟩) ?_
    rintro o ⟨k, rfl, hk⟩
    exact pure ⟨htarget, hstart, hinterval, hlimit ▸ .some hk⟩

end Gives

/-! ## Nodes -/

theorem eq_ok_of_map_some {a : α} (h : some <$> x = .ok (some a)) : x = .ok a := by
  cases x with
  | error e => cases h
  | ok b =>
    obtain rfl : b = a := Option.some.inj (Except.ok.inj h)
    rfl

namespace Node

variable {n : Node}

theorem wellFormed_of_conversionInput {t : ConversionInput}
    (h : n.conversionInput = .ok (some t)) : t.WellFormed n := by
  cases hs : n.settings with
  | readFile s =>
    have hn : n.kind ≠ .database := by simp [kind, hs, Settings.kind]
    exact Gives.readFile s hn t (eq_ok_of_map_some (by simpa only [conversionInput, hs] using h))
  | inlineInput s =>
    have hn : n.kind ≠ .database := by simp [kind, hs, Settings.kind]
    exact Gives.inlineInput s hn t (eq_ok_of_map_some (by simpa only [conversionInput, hs] using h))
  | database s =>
    have hn : n.kind = .database := by simp [kind, hs, Settings.kind]
    simp only [conversionInput, hs] at h
    split at h
    · exact Gives.databaseInput s hn t (eq_ok_of_map_some h)
    · cases h
  | _ => simp [conversionInput, hs] at h

theorem wellFormed_of_conversionOutput {t : ConversionOutput}
    (h : n.conversionOutput = .ok (some t)) : t.WellFormed n := by
  cases hs : n.settings with
  | writeFile s =>
    have hn : n.kind ≠ .database := by simp [kind, hs, Settings.kind]
    exact Gives.writeFile s hn t (eq_ok_of_map_some (by simpa only [conversionOutput, hs] using h))
  | inlineOutput s =>
    have hn : n.kind ≠ .database := by simp [kind, hs, Settings.kind]
    exact Gives.inlineOutput s hn t
      (eq_ok_of_map_some (by simpa only [conversionOutput, hs] using h))
  | database s =>
    have hn : n.kind = .database := by simp [kind, hs, Settings.kind]
    simp only [conversionOutput, hs] at h
    split at h
    · exact Gives.databaseOutput s hn t (eq_ok_of_map_some h)
    · cases h
  | _ => simp [conversionOutput, hs] at h

theorem wellFormed_of_clausesOf {f : Option Node} {c : Clauses} (h : clausesOf f = .ok c) :
    c.WellFormed :=
  Gives.clausesOf ⟨by simp, by simp, by simp⟩ Gives.filter c h

theorem wellFormed_of_fileCommand {runner : String} {t : FileCommand}
    (h : n.fileCommand runner = .ok (some t)) : t.WellFormed := by
  rw [fileCommand] at h
  split at h
  · exact Gives.command runner _ _ t (eq_ok_of_map_some h)
  · exact Gives.command runner _ _ t (eq_ok_of_map_some h)
  · exact Gives.command runner _ _ t (eq_ok_of_map_some h)
  · obtain ⟨operation, -, h⟩ := exists_of_bind_eq_ok h
    exact Gives.command runner _ _ t (eq_ok_of_map_some h)
  · cases h

theorem wellFormed_of_salesforceQuery {t : SalesforceQuery}
    (h : n.salesforceQuery = .ok (some t)) :
    ∃ s, n.settings = .salesforceRead s ∧ t.WellFormed s := by
  rw [salesforceQuery] at h
  split at h
  · rename_i s hs
    exact ⟨s, hs, Gives.query s t (eq_ok_of_map_some h)⟩
  · cases h

theorem wellFormed_of_salesforceLoad {t : SalesforceLoad} (h : n.salesforceLoad = .ok (some t)) :
    ∃ s, n.settings = .salesforceWrite s ∧ t.WellFormed s := by
  rw [salesforceLoad] at h
  split at h
  · rename_i s hs
    exact ⟨s, hs, Gives.load s t (eq_ok_of_map_some h)⟩
  · cases h

theorem wellFormed_of_timer {dagId : String} (hdag : Text.HasContent dagId) {t : Timer}
    (h : n.timer dagId = .ok (some t)) : ∃ s, n.settings = .scheduler s ∧ t.WellFormed s := by
  rw [timer] at h
  split at h
  · rename_i s hs
    exact ⟨s, hs, Gives.timer hdag s t (eq_ok_of_map_some h)⟩
  · cases h

end Node

/-- The id of a DAG is given or made from a name, with something in front. -/
theorem PlanOptions.hasContent_dagId (o : PlanOptions) : Text.HasContent o.dagId := by
  rw [dagId]
  split
  · rename_i id hid
    simpa [Text.HasContent] using (Option.filter_eq_some_iff.1 hid).2
  · have hdefault : Text.HasContent "dag_" := by decide
    exact hdefault.append _

end DataPipeline
