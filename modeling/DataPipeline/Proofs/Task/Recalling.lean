import DataPipeline.Proofs.Task.Remapping

/-!
# Databases and inline records that are mapped again

The document of the end that a database is mapped to has the table as the path, and all else among
the options; that of inline records has the rows under a key of its own. Read as settings of the
same kind these documents are mapped again: the table comes back from the path and the address from
the options, while nothing comes back from the other options, from the query or from the rows. What
is lost is what the settings said beyond that: a driver other than the one that is inferred from the
address, a query, which the path does not stand for, and all rows.

## Main definitions

* `recalled`: the options that come back
* `ConversionInput.again`, `ConversionOutput.again`: the ends to which the documents are mapped
* `Settings.besideAccess`: a document together with the access of a database
* `Settings.Recalled`: settings that say nothing that is lost

## Main results

* `DatabaseSettings.recalled_texts_eq_self_iff`: which options of a database come back
* `ConversionInput.ofJson_database` and its like: what the document of an end is read as
* `Node.remaps_recalled`: the end is mapped to itself exactly if nothing is lost
-/
namespace DataPipeline

open Json (Rearranges)

variable {id url key : String} {options : Dict Json} {es : List (String × Option String)}

/-! ## Options that come back -/

/-- Texts change no options exactly if they are among them. -/
theorem setTexts_eq_self_iff (hes : (es.map (·.1)).Nodup) :
    setTexts options es = options ↔
      ∀ key text, (key, some text) ∈ es → options.find? key = some (.str text) := by
  constructor
  · intro h key text htext
    rw [← h]
    exact find?_setTexts_of_mem hes htext
  · intro h
    refine Dict.ext_find? fun key => ?_
    by_cases hkey : ∃ text, (key, some text) ∈ es
    · obtain ⟨text, htext⟩ := hkey
      rw [find?_setTexts_of_mem hes htext, h key text htext]
    · exact find?_setTexts_of_forall_not_mem hes (not_exists.1 hkey)

/-- The options of a mapped database when they are mapped again. The driver is inferred anew, and
the path is the table. -/
def recalled (options : Dict Json) (path : String) : Dict Json :=
  setTexts options [("driver", driverAmong options), ("dbtable", some path)]

theorem recalled_eq_self_iff {path : String} :
    recalled options path = options ↔
      (∀ driver, driverAmong options = some driver →
        options.find? "driver" = some (.str driver)) ∧
        options.find? "dbtable" = some (.str path) := by
  have hkeys : ([("driver", driverAmong options), ("dbtable", some path)].map (·.1)).Nodup := by
    simp
  refine (setTexts_eq_self_iff hkeys).trans ?_
  constructor
  · intro h
    exact ⟨fun driver hdriver => h _ _ (hdriver ▸ .head _), h _ _ (.tail _ (.head _))⟩
  · rintro ⟨hdriver, htable⟩ key text htext
    simp only [List.mem_cons, Prod.mk.injEq, List.not_mem_nil, or_false, Option.some.injEq] at htext
    rcases htext with ⟨rfl, hinferred⟩ | ⟨rfl, rfl⟩
    · exact hdriver text hinferred.symm
    · exact htable

namespace DatabaseSettings

variable {s : DatabaseSettings}

/-- No driver but the one that is inferred, and no query unless the options name as the table what
the path does. -/
structure Recalled (s : DatabaseSettings) (url : String) : Prop where
  driver (own inferred : String) :
    Text.content s.driver = some own → driverOfUrl url = some inferred → own = inferred
  query (query : String) : s.access = .read → Text.content s.query = some query →
    s.options.find? "dbtable" = some (.str s.place)

theorem find?_texts_url (s : DatabaseSettings) (url : String) :
    (setTexts s.options (s.texts url)).find? "url" = some (.str url) :=
  find?_setTexts_of_mem (s.nodup_texts url) (.head _)

theorem driverAmong_texts (s : DatabaseSettings) (url : String) :
    driverAmong (setTexts s.options (s.texts url)) = driverOfUrl url := by
  rw [driverAmong, s.find?_texts_url]
  rfl

theorem find?_texts_driver {driver : String} (h : driverOfUrl url = some driver) :
    (setTexts s.options (s.texts url)).find? "driver" =
      some (.str ((Text.content s.driver).getD driver)) := by
  refine find?_setTexts_of_mem (s.nodup_texts url) (.tail _ (List.mem_cons.2 (.inl ?_)))
  cases hown : Text.content s.driver with
  | none => rw [h]; rfl
  | some own => rfl

/-- A query leaves the table to the options of the user. -/
theorem find?_texts_table_of_query {query : String} (hread : s.access = .read)
    (hquery : Text.content s.query = some query) :
    (setTexts s.options (s.texts url)).find? "dbtable" = s.options.find? "dbtable" := by
  refine find?_setTexts_of_forall_not_mem (s.nodup_texts url) fun text htext => ?_
  simp [texts, hread, hquery] at htext

theorem find?_texts_table {table : String} (htable : Text.content s.table = some table)
    (hquery : s.access = .read → Text.content s.query = none) :
    (setTexts s.options (s.texts url)).find? "dbtable" = some (.str s.place) := by
  refine find?_setTexts_of_mem (s.nodup_texts url) ?_
  have hnone : (if s.access = .read then Text.content s.query else none) = none := by
    split
    · rename_i hread
      exact hquery hread
    · rfl
  simp [texts, hnone, htable, place]

/-- The driver that is inferred is among the options exactly if no field says another. -/
theorem find?_texts_driver_iff :
    (∀ driver, driverOfUrl url = some driver →
      (setTexts s.options (s.texts url)).find? "driver" = some (.str driver)) ↔
        ∀ own inferred, Text.content s.driver = some own → driverOfUrl url = some inferred →
          own = inferred := by
  constructor
  · intro h own inferred hown hinferred
    have hfind := (find?_texts_driver hinferred).symm.trans (h inferred hinferred)
    rw [hown, Option.getD_some, Option.some.injEq, Json.str.injEq] at hfind
    exact hfind
  · intro h inferred hinferred
    rw [find?_texts_driver hinferred]
    cases hown : Text.content s.driver with
    | none => rfl
    | some own => rw [h own inferred hown hinferred, Option.getD_some]

/-- The path is among the options as the table exactly if no query takes its place. -/
theorem find?_texts_table_iff
    (h : Text.content s.table = none → s.access = .read ∧ Text.content s.query ≠ none) :
    (setTexts s.options (s.texts url)).find? "dbtable" = some (.str s.place) ↔
      ∀ query, s.access = .read → Text.content s.query = some query →
        s.options.find? "dbtable" = some (.str s.place) := by
  constructor
  · intro hfind query hread hquery
    exact (find?_texts_table_of_query hread hquery).symm.trans hfind
  · intro hall
    by_cases hquery : s.access = .read ∧ Text.content s.query ≠ none
    · obtain ⟨hread, hsome⟩ := hquery
      obtain ⟨query, hquery⟩ := Option.ne_none_iff_exists'.1 hsome
      rw [find?_texts_table_of_query hread hquery]
      exact hall query hread hquery
    · obtain ⟨table, htable⟩ := Option.ne_none_iff_exists'.1 fun hnone => hquery (h hnone)
      refine find?_texts_table htable fun hread => ?_
      exact not_not.1 fun hsome => hquery ⟨hread, hsome⟩

/-- The options of a database come back exactly if what the settings say comes back. -/
theorem recalled_texts_eq_self_iff
    (h : Text.content s.table = none → s.access = .read ∧ Text.content s.query ≠ none) :
    recalled (setTexts s.options (s.texts url)) s.place = setTexts s.options (s.texts url) ↔
      s.Recalled url := by
  rw [recalled_eq_self_iff, driverAmong_texts, find?_texts_driver_iff, find?_texts_table_iff h]
  exact ⟨fun h => ⟨h.1, h.2⟩, fun h => ⟨h.driver, h.query⟩⟩

end DatabaseSettings

/-! ## Ends that are mapped again -/

/-- The input to which the document of an input is mapped again, for a node of the kind. -/
def ConversionInput.again (k : Kind) (r : ConversionInput) : ConversionInput :=
  if k = .database then { r with options := recalled r.options r.path }
  else { r with rows := some [] }

/-- The output to which the document of an output to a database is mapped again. -/
def ConversionOutput.again (r : ConversionOutput) : ConversionOutput :=
  { r with options := recalled r.options r.path }

/-- The access as a member of a document. -/
def Access.members (a : Access) : List (String × Json) := [("access", .str a.name)]

/-- The access of settings, if they have one, as a member of a document. -/
def Settings.accessMembers : Settings → List (String × Json)
  | database s => s.access.members
  | _ => []

/-- A document with the access of the settings beside what it has. -/
def Settings.besideAccess (s : Settings) : Json → Json
  | .obj ms => .obj (ms ++ s.accessMembers)
  | j => j

theorem Settings.besideAccess_inlineInput (s : InlineInputSettings) (ms : List (String × Json)) :
    (inlineInput s).besideAccess (.obj ms) = .obj ms :=
  congrArg Json.obj (List.append_nil ms)

/-- Settings of which nothing is lost in the end that they stand for. -/
def Settings.Recalled (id : String) : Settings → Prop
  | inlineInput s => s.rows = []
  | database s => ∀ url, databaseAddress id s = .ok url → s.Recalled url
  | _ => True

/-! ### Mapping what was read -/

/-- Settings that leave all to the options of a mapped database but the table, which is its path,
and the mode. -/
structure DatabaseSettings.Spells (s : DatabaseSettings) (path : String) (options : Dict Json) :
    Prop where
  connectionUrl : s.connectionUrl = none
  table : s.table = some path
  query : s.query = none
  driver : s.driver = none
  username : s.username = none
  secretName : s.secretName = none
  options : s.options = options

namespace DatabaseSettings.Spells

variable {s : DatabaseSettings} {path : String} (h : s.Spells path options)
include h

theorem databaseAddress_eq (hurl : options.find? "url" = some (.str url))
    (hcontent : Text.IsContent url) : databaseAddress id s = .ok url := by
  rw [databaseAddress, h.connectionUrl, h.options, hurl]
  exact required_of_isContent hcontent

theorem connectionOptions_insert (hurl : options.find? "url" = some (.str url)) :
    (connectionOptions url s).insert "dbtable" (.str path) = recalled options path := by
  have hsame : options.insert "url" (.str url) = options := by
    have hkeys : ([("url", some url)].map (·.1)).Nodup := by simp
    refine (setTexts_eq_self_iff hkeys).2 fun key text htext => ?_
    obtain ⟨rfl, rfl⟩ : key = "url" ∧ text = url := by simpa using htext
    exact hurl
  have hnone : Text.content none = none := rfl
  have hinferred : (none <|> driverOfUrl url : Option String) = driverOfUrl url := rfl
  have hamong : driverAmong options = driverOfUrl url := by
    rw [driverAmong, hurl]
    rfl
  rw [connectionOptions, h.options, h.driver, h.username, h.secretName, hsame, hnone, hinferred]
  simp only [recalled, hamong, setTexts_cons, setTexts_nil, setText_none, setText_some]

theorem input_eq (hurl : options.find? "url" = some (.str url))
    (hcontent : Text.IsContent url) (hpath : Text.IsContent path) :
    s.input id = .ok
      { provider := "jdbc", format := "jdbc", path := path, options := recalled options path
        columns := declared s.columns, rows := none } := by
  have htable : Text.content s.table = some path := (congrArg Text.content h.table).trans hpath
  have hquery : Text.content s.query = none := congrArg Text.content h.query
  simp only [input, h.databaseAddress_eq hurl hcontent, htable, hquery, bind, Except.bind,
    h.connectionOptions_insert hurl]
  rfl

theorem output_eq {mode : String} (hmode : s.mode = some mode) (hmem : mode ∈ writingModes)
    (hurl : options.find? "url" = some (.str url)) (hcontent : Text.IsContent url)
    (hpath : Text.IsContent path) :
    s.output id = .ok
      { provider := "jdbc", format := "jdbc", path := path, mode := mode
        options := recalled options path } := by
  have htable : required id "table" s.table = .ok path := h.table ▸ required_of_isContent hpath
  have hchosen : chooseMode id s.mode "append" = .ok mode := hmode ▸ chooseMode_of_mem hmem _
  simp only [output, h.databaseAddress_eq hurl hcontent, htable, hchosen, bind, Except.bind,
    h.connectionOptions_insert hurl]
  rfl

end DatabaseSettings.Spells

/-! ### Reading the documents -/

/-- An object with distinct keys shows a record whose fields it has, if the record keeps all other
members. -/
theorem Layout.shown_rest {ρ : Type} {l : Layout ρ (Dict Json → ρ)} {extra : ρ → Dict Json} {r : ρ}
    {ms : List (String × Json)} (hms : (ms.map (·.1)).Nodup)
    (hfields : l.Each (fun _ => Field.Reads (Json.obj ms).member) r)
    (hextra : extra r = Codec.rest l.slots ms) : l.Shown extra (Json.obj ms).member r where
  fields := hfields
  apart _ hkey := hextra ▸ find?_rest_of_mem_keys hkey
  rest _ hkey := hextra ▸ find?_rest hms hkey

section

variable {t : Json → Json} (ht : Rearranges t)
include ht

theorem Field.reads_columns {ρ : Type} {v : View} {get : ρ → List Column} {s : ρ}
    (hv : v "schema" = (declared (get s)).map fun cs => t (Column.codec.list.toJson cs)) :
    (items "schema" Column.codec get).Reads v (get s) := by
  cases hs : get s with
  | nil => exact reads_of_absent rfl rfl (hv.trans (congrArg _ (congrArg declared hs)))
  | cons c cs =>
    have hsurvives : Column.codec.list.Survives (c :: cs) := .list fun c _ => c.survives
    refine reads_of_survivesBy rfl (hsurvives.survivesBy ht) (hv.trans ?_)
    rw [hs]
    rfl

/-- The keys of a database that the document of no end has. -/
def DatabaseSettings.unsaid : List String :=
  ["label", "connection_url", "table", "query", "driver", "username", "secret_name"]

/-- An object that has access, path and options, and perhaps mode and columns, is read as settings
of a database that spell them out. -/
theorem DatabaseSettings.ofJson_spelled {ms : List (String × Json)} {s : DatabaseSettings}
    {path : String} (hms : (ms.map (·.1)).Nodup) (hs : s.Spells path options)
    (hlabel : s.label = none) (hextra : s.extra = Codec.rest layout.slots ms)
    (hoptions : ∀ j ∈ options.values, t j = j)
    (hfree : ∀ key ∈ unsaid, (Json.obj ms).member key = none)
    (haccess : (Json.obj ms).member "access" = some (t (.str s.access.name)))
    (hpath : (Json.obj ms).member "path" = some (t (.str path)))
    (hmode : (Json.obj ms).member "mode" = s.mode.map fun mode => t (.str mode))
    (hdict : (Json.obj ms).member "options" = some (t (Codec.dict.toJson options)))
    (hcolumns : (Json.obj ms).member "schema" =
      (declared s.columns).map fun cs => t (Column.codec.list.toJson cs)) :
    Settings.ofJson .database (.obj ms) = .ok (.database s) := by
  have habsent {name : String} {get : DatabaseSettings → Option String}
      (hkey : (Json.obj ms).member name = none) (hget : get s = none) :
      (Field.optional name .text get).Reads (Json.obj ms).member (get s) :=
    hget ▸ Field.reads_of_absent rfl rfl hkey
  refine Settings.ofJson_eq_inject hms (Layout.shown_rest hms
    ⟨⟨⟨⟨⟨⟨⟨⟨⟨⟨⟨trivial, ?label⟩, ?access⟩, ?url⟩, ?table⟩, ?query⟩, ?driver⟩, ?username⟩, ?secret⟩,
      ?mode⟩, ?options⟩, ?columns⟩ hextra)
  case label => exact habsent (hfree _ (by decide)) hlabel
  case access =>
    exact Field.reads_of_survivesBy rfl ((Access.survives s.access).survivesBy ht) haccess
  case url => exact habsent (hfree _ (by decide)) hs.connectionUrl
  case table =>
    refine .given "path" _ (by decide) hpath (fun key hkey hne => ?_) ?_
    · obtain rfl : key = "table" := by
        rcases List.mem_cons.1 hkey with rfl | hkey
        · rfl
        · exact absurd (List.mem_singleton.1 hkey) hne
      exact hfree _ (by decide)
    · have hread : Codec.text.optional.SurvivesBy t (some path) :=
        Codec.SurvivesBy.some ((Codec.survives_text path).survivesBy ht) fun h => by cases h
      exact hread.trans (congrArg Except.ok hs.table.symm)
  case query => exact habsent (hfree _ (by decide)) hs.query
  case driver => exact habsent (hfree _ (by decide)) hs.driver
  case username => exact habsent (hfree _ (by decide)) hs.username
  case secret => exact habsent (hfree _ (by decide)) hs.secretName
  case mode =>
    cases hget : s.mode with
    | none => exact habsent (hmode.trans (by rw [hget]; rfl)) hget
    | some mode => exact Field.reads_text ht hget (hmode.trans (by rw [hget]; rfl))
  case options => exact Field.reads_dict ht hs.options hoptions hdict
  case columns => exact Field.reads_columns ht hcolumns

/-- An object that has format and path, and perhaps columns, is read as settings of inline records
that spell them out, without rows. -/
theorem InlineInputSettings.ofJson_spelled {ms : List (String × Json)} {s : InlineInputSettings}
    {format path : String} (hms : (ms.map (·.1)).Nodup) (hlabel : s.label = none)
    (hformat : s.format = some format) (hpath : s.path = some path) (hrows : s.rows = [])
    (hextra : s.extra = Codec.rest layout.slots ms)
    (hfree : ∀ key ∈ ["label", "rows"], (Json.obj ms).member key = none)
    (hmformat : (Json.obj ms).member "format" = some (t (.str format)))
    (hmpath : (Json.obj ms).member "path" = some (t (.str path)))
    (hcolumns : (Json.obj ms).member "schema" =
      (declared s.columns).map fun cs => t (Column.codec.list.toJson cs)) :
    Settings.ofJson .inlineInput (.obj ms) = .ok (.inlineInput s) := by
  refine Settings.ofJson_eq_inject hms (Layout.shown_rest hms
    ⟨⟨⟨⟨⟨trivial, ?label⟩, ?format⟩, ?path⟩, ?rows⟩, ?columns⟩ hextra)
  case label => exact Field.reads_of_absent rfl (congrArg some hlabel.symm) (hfree _ (by decide))
  case format => exact Field.reads_text ht hformat hmformat
  case path => exact Field.reads_text ht hpath hmpath
  case rows => exact Field.reads_of_absent rfl (congrArg some hrows.symm) (hfree _ (by decide))
  case columns => exact Field.reads_columns ht hcolumns

end

/-! ### The documents of ends -/

/-- What stands under the keys of a rearranged record that has the access beside it. -/
theorem Access.exists_view {ρ : Type} {l : Layout ρ ρ} {t : Json → Json} (ht : Rearranges t)
    (hkeys : l.keys.Nodup) (haccess : "access" ∉ l.keys) (r : ρ) (a : Access) :
    ∃ ms, t (.obj (l.toMembers r ++ a.members)) = .obj ms ∧ (ms.map (·.1)).Nodup ∧
      (Json.obj ms).member "access" = some (t (.str a.name)) ∧
        (∀ key, key ≠ "access" →
          (Json.obj ms).member key = (Dict.lookup key (l.toMembers r)).map t) ∧
          ∀ key, key ∉ "access" :: l.keys → (Json.obj ms).member key = none := by
  have hnodup : ((l.toMembers r ++ a.members).map (·.1)).Nodup :=
    l.nodup_members (d := ⟨a.members, List.pairwise_singleton _ _⟩) hkeys
      fun _ hm => List.mem_singleton.1 hm ▸ haccess
  obtain ⟨ms, hms, hdistinct, hv⟩ := ht.exists_view hnodup
  have hother (key : String) (hkey : key ≠ "access") :
      (Json.obj ms).member key = (Dict.lookup key (l.toMembers r)).map t := by
    have hnone : Dict.lookup key a.members = none := if_neg hkey
    rw [hv, Dict.lookup_append, hnone, Option.or_none]
  refine ⟨ms, hms, hdistinct, ?_, hother, fun key hkey => ?_⟩
  · rw [hv, Dict.lookup_append, Layout.lookup_toMembers_eq_none haccess]
    rfl
  · obtain ⟨hne, hnot⟩ := List.ne_and_not_mem_of_not_mem_cons hkey
    rw [hother key hne, Layout.lookup_toMembers_eq_none hnot]
    rfl

theorem ConversionInput.lookup_schema (r : ConversionInput) :
    Dict.lookup "schema" (layout.toMembers r) = r.columns.map Column.codec.list.toJson := by
  obtain ⟨provider, format, path, options, columns, rows⟩ := r
  cases columns <;> cases rows <;> rfl

section

variable {t : Json → Json} (ht : Rearranges t) {a : Access}
include ht

/-- The document of an input with an access beside it is read as settings of a database that spell
out path, options and columns. -/
theorem ConversionInput.ofJson_database {r : ConversionInput} (hcolumns : r.columns ≠ some [])
    (hoptions : ∀ j ∈ r.options.values, t j = j) :
    ∃ s : DatabaseSettings,
      Settings.ofJson .database (t (.obj (layout.toMembers r ++ a.members))) = .ok (.database s) ∧
        s.Spells r.path r.options ∧ s.access = a ∧ declared s.columns = r.columns := by
  obtain ⟨ms, hms, hkeys, haccess, hv, hnone⟩ :=
    Access.exists_view (l := layout) ht (by decide) (by decide) r a
  let s : DatabaseSettings :=
    { access := a, table := some r.path, options := r.options, columns := r.columns.getD []
      extra := Codec.rest DatabaseSettings.layout.slots ms }
  have hspells : s.Spells r.path r.options := ⟨rfl, rfl, rfl, rfl, rfl, rfl, rfl⟩
  have hdeclared : declared s.columns = r.columns := declared_getD hcolumns
  have hfree : ∀ key ∈ "mode" :: DatabaseSettings.unsaid, key ∉ "access" :: layout.keys := by
    decide
  refine ⟨s, ?_, hspells, rfl, hdeclared⟩
  rw [hms]
  refine DatabaseSettings.ofJson_spelled ht hkeys hspells rfl rfl hoptions
    (fun key hkey => hnone key (hfree key (List.mem_cons_of_mem _ hkey))) haccess
    (hv "path" (by decide)) (hnone _ (hfree _ List.mem_cons_self)) (hv "options" (by decide)) ?_
  rw [hv "schema" (by decide), lookup_schema, hdeclared, Option.map_map]
  rfl

/-- The document of an output with an access beside it is read as settings of a database that spell
out path, mode and options. -/
theorem ConversionOutput.ofJson_database {r : ConversionOutput}
    (hoptions : ∀ j ∈ r.options.values, t j = j) :
    ∃ s : DatabaseSettings,
      Settings.ofJson .database (t (.obj (layout.toMembers r ++ a.members))) = .ok (.database s) ∧
        s.Spells r.path r.options ∧ s.access = a ∧ s.mode = some r.mode := by
  obtain ⟨ms, hms, hkeys, haccess, hv, hnone⟩ :=
    Access.exists_view (l := layout) ht (by decide) (by decide) r a
  let s : DatabaseSettings :=
    { access := a, table := some r.path, mode := some r.mode, options := r.options
      extra := Codec.rest DatabaseSettings.layout.slots ms }
  have hspells : s.Spells r.path r.options := ⟨rfl, rfl, rfl, rfl, rfl, rfl, rfl⟩
  have hfree : ∀ key ∈ "schema" :: DatabaseSettings.unsaid, key ∉ "access" :: layout.keys := by
    decide
  refine ⟨s, ?_, hspells, rfl, rfl⟩
  rw [hms]
  exact DatabaseSettings.ofJson_spelled ht hkeys hspells rfl rfl hoptions
    (fun key hkey => hnone key (hfree key (List.mem_cons_of_mem _ hkey))) haccess
    (hv "path" (by decide)) (hv "mode" (by decide)) (hv "options" (by decide))
    (hnone _ (hfree _ List.mem_cons_self))

/-- The document of an input is read as settings of inline records that spell out format, path and
columns, and have no rows. -/
theorem ConversionInput.ofJson_inlineInput {r : ConversionInput} (hcolumns : r.columns ≠ some []) :
    ∃ s : InlineInputSettings,
      Settings.ofJson .inlineInput (t (codec.toJson r)) = .ok (.inlineInput s) ∧
        s.format = some r.format ∧ s.path = some r.path ∧ s.rows = [] ∧
          declared s.columns = r.columns := by
  obtain ⟨ms, hms, hkeys, hv⟩ := ht.exists_view (layout.nodup_toMembers (r := r) (by decide))
  let s : InlineInputSettings :=
    { format := some r.format, path := some r.path, columns := r.columns.getD []
      extra := Codec.rest InlineInputSettings.layout.slots ms }
  have hdeclared : declared s.columns = r.columns := declared_getD hcolumns
  have hother : ∀ key ∈ ["label", "rows"], key ∉ layout.keys := by decide
  refine ⟨s, ?_, rfl, rfl, rfl, hdeclared⟩
  refine (congrArg (Settings.ofJson .inlineInput) hms).trans ?_
  refine InlineInputSettings.ofJson_spelled ht hkeys rfl rfl rfl rfl rfl (fun key hkey => ?_)
    (hv "format") (hv "path") ?_
  · rw [hv, Layout.lookup_toMembers_eq_none (hother key hkey)]
    rfl
  · rw [hv, lookup_schema, hdeclared, Option.map_map]
    rfl

end

/-! ## Nodes -/

theorem ConversionInput.again_eq_self_iff {r : ConversionInput} :
    r.again .database = r ↔ recalled r.options r.path = r.options := by
  constructor
  · intro h
    exact congrArg options h
  · intro h
    rw [again, if_pos rfl, h]

theorem ConversionOutput.again_eq_self_iff {r : ConversionOutput} :
    r.again = r ↔ recalled r.options r.path = r.options := by
  constructor
  · intro h
    exact congrArg options h
  · intro h
    rw [again, h]

namespace DatabaseSettings

variable {s : DatabaseSettings}

theorem isContent_place (s : DatabaseSettings) : Text.IsContent s.place := by
  rw [place]
  cases htable : Text.content s.table with
  | some table => exact Text.isContent_of_content htable
  | none =>
    unfold Text.IsContent
    decide

theorem recalled_iff (hurl : databaseAddress id s = .ok url) :
    (Settings.database s).Recalled id ↔ s.Recalled url := by
  constructor
  · intro h
    exact h url hurl
  · intro h url' hurl'
    exact Except.ok.inj (hurl.symm.trans hurl') ▸ h

end DatabaseSettings

section

variable {t : Json → Json} {e : NodeEnvelope} {n : Node} (ht : Rearranges t)
include ht

theorem Node.remaps_databaseInput {s : DatabaseSettings} {r : ConversionInput}
    (hread : s.access = .read) (hr : s.input id = .ok r)
    (hoptions : ∀ j ∈ r.options.values, t j = j) (htype : e.type = Kind.database.name)
    (hdata : e.data = t ((Settings.database s).besideAccess (ConversionInput.codec.toJson r))) :
    ∃ m, ofEnvelope e = .ok m ∧ m.conversionInput = .ok (some (r.again .database)) ∧
      (r.again .database = r ↔ (Settings.database s).Recalled id) := by
  obtain ⟨url, hurl, hquery, rfl⟩ := Gives.databaseInput_at hread r hr
  obtain ⟨s', hs', hspells, haccess, hcolumns⟩ :=
    ConversionInput.ofJson_database ht (a := s.access) (declared_ne s.columns) hoptions
  obtain ⟨m, hm, hsettings⟩ := exists_of_settings htype (hdata ▸ hs')
  refine ⟨m, hm, ?_, ?_⟩
  · have hinput : s'.input m.id = .ok ((s.inputAt url).again .database) := by
      refine (hspells.input_eq (s.find?_texts_url url) ?_ s.isContent_place).trans ?_
      · exact Text.isContent_of_content (content_of_required hurl)
      · rw [hcolumns]
        rfl
    simp only [conversionInput, hsettings, haccess.trans hread, if_true, hinput]
    rfl
  · rw [ConversionInput.again_eq_self_iff, DatabaseSettings.recalled_iff hurl]
    exact DatabaseSettings.recalled_texts_eq_self_iff fun hnone => ⟨hread, hquery hnone⟩

theorem Node.remaps_databaseOutput {s : DatabaseSettings} {r : ConversionOutput}
    (hwrite : s.access = .write) (hr : s.output id = .ok r)
    (hoptions : ∀ j ∈ r.options.values, t j = j) (htype : e.type = Kind.database.name)
    (hdata : e.data = t ((Settings.database s).besideAccess (ConversionOutput.codec.toJson r))) :
    ∃ m, ofEnvelope e = .ok m ∧ m.conversionOutput = .ok (some r.again) ∧
      (r.again = r ↔ (Settings.database s).Recalled id) := by
  obtain ⟨url, hurl, htable, hmode, hat⟩ := Gives.databaseOutput_at hwrite r hr
  obtain ⟨s', hs', hspells, haccess, hmode'⟩ :=
    ConversionOutput.ofJson_database ht (a := s.access) hoptions
  obtain ⟨m, hm, hsettings⟩ := exists_of_settings htype (hdata ▸ hs')
  have hfind : r.options.find? "url" = some (.str url) := hat ▸ s.find?_texts_url url
  refine ⟨m, hm, ?_, ?_⟩
  · have houtput : s'.output m.id = .ok r.again := by
      refine (hspells.output_eq hmode' hmode hfind ?_ (Text.isContent_of_content htable)).trans ?_
      · exact Text.isContent_of_content (content_of_required hurl)
      · rw [hat]
        rfl
    simp only [conversionOutput, hsettings, haccess.trans hwrite, if_true, houtput]
    rfl
  · rw [ConversionOutput.again_eq_self_iff, DatabaseSettings.recalled_iff hurl, hat]
    exact DatabaseSettings.recalled_texts_eq_self_iff fun hnone => by simp [htable] at hnone

theorem Node.remaps_inlineInput {s : InlineInputSettings} {r : ConversionInput}
    (hr : s.input id = .ok r) (htype : e.type = Kind.inlineInput.name)
    (hdata : e.data = t (ConversionInput.codec.toJson r)) :
    ∃ m, ofEnvelope e = .ok m ∧ m.conversionInput = .ok (some (r.again .inlineInput)) ∧
      (r.again .inlineInput = r ↔ s.rows = []) := by
  obtain ⟨format, hformat, rfl⟩ := Gives.inlineInput_at s r hr
  obtain ⟨s', hs', hformat', hpath, hrows, hcolumns⟩ :=
    ConversionInput.ofJson_inlineInput ht (r := s.inputAs id format) (declared_ne s.columns)
  obtain ⟨m, hm, hsettings⟩ := exists_of_settings htype (hdata ▸ hs')
  refine ⟨m, hm, ?_, ?_⟩
  · have hchosen : inlineFormat m.id s'.format = .ok format :=
      hformat' ▸ inlineFormat_of_mem hformat
    have hlocation : inlineLocation m.id s'.path = inlineLocation id s.path := by
      have hcontent : Text.content s'.path = some (inlineLocation id s.path) :=
        (congrArg Text.content hpath).trans (isContent_inlineLocation id s.path)
      rw [inlineLocation, hcontent, Option.getD_some]
    have hinput : s'.input m.id = .ok ((s.inputAs id format).again .inlineInput) := by
      simp only [InlineInputSettings.input, hchosen, hlocation, hrows, hcolumns, bind, Except.bind]
      rfl
    simp only [conversionInput, hsettings, hinput]
    rfl
  · constructor
    · intro h
      exact (Option.some.inj (congrArg ConversionInput.rows h)).symm
    · intro h
      rw [InlineInputSettings.inputAs, h]
      rfl

end

namespace Node

/-- The document of the end that a database or inline records are mapped to, in whatever order its
keys are, is read as settings of a node of the same kind. This node is mapped to the same end if
and only if nothing that the settings say is lost, and else to the end with the options that come
back, or without rows. -/
theorem remaps_recalled {t : Json → Json} (ht : Rearranges t) (n : Node) (e : NodeEnvelope)
    (htype : e.type = n.kind.name) :
    (n.kind = .inlineInput ∨ n.kind = .database → ∀ r, n.conversionInput = .ok (some r) →
      (∀ j ∈ r.options.values, t j = j) →
        e.data = t (n.settings.besideAccess (ConversionInput.codec.toJson r)) →
          ∃ m, ofEnvelope e = .ok m ∧ m.conversionInput = .ok (some (r.again n.kind)) ∧
            (r.again n.kind = r ↔ n.settings.Recalled n.id)) ∧
      (n.kind = .database → ∀ r, n.conversionOutput = .ok (some r) →
        (∀ j ∈ r.options.values, t j = j) →
          e.data = t (n.settings.besideAccess (ConversionOutput.codec.toJson r)) →
            ∃ m, ofEnvelope e = .ok m ∧ m.conversionOutput = .ok (some r.again) ∧
              (r.again = r ↔ n.settings.Recalled n.id)) := by
  rw [kind] at htype
  constructor
  · intro hkind r hr hoptions hdata
    rw [kind] at hkind ⊢
    cases hs : n.settings with
    | inlineInput s =>
      simp only [conversionInput, hs] at hr
      rw [hs] at htype hdata
      exact remaps_inlineInput ht (eq_ok_of_map_some hr) htype
        (hdata.trans (congrArg t (Settings.besideAccess_inlineInput _ _)))
    | database s =>
      simp only [conversionInput, hs] at hr
      rw [hs] at htype hdata
      split at hr
      · rename_i hread
        exact remaps_databaseInput ht hread (eq_ok_of_map_some hr) hoptions htype hdata
      · cases hr
    | _ =>
      rw [hs] at hkind
      rcases hkind with hkind | hkind <;> cases hkind
  · intro hkind r hr hoptions hdata
    rw [kind] at hkind
    cases hs : n.settings with
    | database s =>
      simp only [conversionOutput, hs] at hr
      rw [hs] at htype hdata
      split at hr
      · rename_i hwrite
        exact remaps_databaseOutput ht hwrite (eq_ok_of_map_some hr) hoptions htype hdata
      · cases hr
    | _ =>
      rw [hs] at hkind
      cases hkind

/-- A sink that leaves the driver to its address, and inline records of which there is one. -/
def salesSink : Node :=
  { id := "out", settings := .database
      { access := .write, connectionUrl := some " jdbc:postgresql://db/sales "
        table := some "orders", username := some "loader" } }

def salesRow : Node := { id := "in", settings := .inlineInput { rows := [.int 1] } }

/-- The output to the database is mapped to itself, the input from the record to one without it. -/
theorem remaps_recalled_sales :
    (∃ r, salesSink.conversionOutput = .ok (some r) ∧
      ∃ m, ofEnvelope { salesSink.toEnvelope with
          data := (salesSink.settings.besideAccess (ConversionOutput.codec.toJson r)).sorted } =
            .ok m ∧ m.conversionOutput = .ok (some r)) ∧
      ∃ r, salesRow.conversionInput = .ok (some r) ∧
        ∃ m, ofEnvelope { salesRow.toEnvelope with
            data := (ConversionInput.codec.toJson r).sorted } = .ok m ∧
          m.conversionInput = .ok (some { r with rows := some [] }) ∧ r.rows ≠ some [] := by
  obtain ⟨r, hr, hoptions⟩ : ∃ r, salesSink.conversionOutput = .ok (some r) ∧
      ∀ j ∈ r.options.values, j.sorted = j := ⟨_, rfl, by decide +kernel⟩
  obtain ⟨q, hq, hnone, hrows⟩ : ∃ q, salesRow.conversionInput = .ok (some q) ∧
      (∀ j ∈ q.options.values, j.sorted = j) ∧ q.rows = some [.int 1] :=
    ⟨_, rfl, by decide +kernel, rfl⟩
  have hrecalled : salesSink.settings.Recalled salesSink.id := by
    intro url hurl
    refine ⟨fun own inferred hown _ => ?_, fun query hread _ => ?_⟩
    · cases hown
    · cases hread
  let e : NodeEnvelope := { salesSink.toEnvelope with
    data := (salesSink.settings.besideAccess (ConversionOutput.codec.toJson r)).sorted }
  obtain ⟨m, hm, hmapped, hsame⟩ :=
    (remaps_recalled Json.rearranges_sorted salesSink e rfl).2 rfl r hr hoptions rfl
  let e' : NodeEnvelope := { salesRow.toEnvelope with
    data := (ConversionInput.codec.toJson q).sorted }
  have he' : e'.data = (salesRow.settings.besideAccess (ConversionInput.codec.toJson q)).sorted :=
    congrArg Json.sorted (Settings.besideAccess_inlineInput _ _).symm
  obtain ⟨m', hm', hmapped', -⟩ :=
    (remaps_recalled Json.rearranges_sorted salesRow e' rfl).1 (.inl rfl) q hq hnone he'
  refine ⟨⟨r, hr, m, hm, ?_⟩, q, hq, m', hm', hmapped', ?_⟩
  · rw [hmapped, hsame.2 hrecalled]
  · rw [hrows]
    decide

/-- A sink of which the user says the driver. -/
def tunedSink : Node :=
  { id := "out", settings := .database
      { access := .write, connectionUrl := some "jdbc:mysql://db/shop", table := some "orders"
        driver := some "org.mariadb.jdbc.Driver" } }

/-- The driver does not come back. -/
theorem not_remaps_tunedSink :
    ∃ r, tunedSink.conversionOutput = .ok (some r) ∧
      ∃ m, ofEnvelope { tunedSink.toEnvelope with
          data := (tunedSink.settings.besideAccess (ConversionOutput.codec.toJson r)).sorted } =
            .ok m ∧ m.conversionOutput ≠ .ok (some r) := by
  obtain ⟨r, hr, hoptions⟩ : ∃ r, tunedSink.conversionOutput = .ok (some r) ∧
      ∀ j ∈ r.options.values, j.sorted = j := ⟨_, rfl, by decide +kernel⟩
  let e : NodeEnvelope := { tunedSink.toEnvelope with
    data := (tunedSink.settings.besideAccess (ConversionOutput.codec.toJson r)).sorted }
  have he : e.data =
      (tunedSink.settings.besideAccess (ConversionOutput.codec.toJson r)).sorted := rfl
  obtain ⟨m, hm, hmapped, hsame⟩ :=
    remaps_databaseOutput Json.rearranges_sorted rfl (eq_ok_of_map_some hr) hoptions rfl he
  refine ⟨r, hr, m, hm, fun hback => ?_⟩
  have hagain : r.again = r := Option.some.inj (Except.ok.inj (hmapped.symm.trans hback))
  have hdriver := (hsame.1 hagain "jdbc:mysql://db/shop" rfl).driver _ _ rfl (by rfl)
  exact absurd hdriver (by decide)

end Node

end DataPipeline
