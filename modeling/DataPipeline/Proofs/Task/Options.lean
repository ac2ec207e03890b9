import DataPipeline.Proofs.Task.WellFormed

/-!
# Options of conversions

What is found among the options to which the options of the user are mapped. The defaults of a
format stand behind them, so that they are found only where the user has set nothing. What the
fields of a database say stands before them, and so does the driver that is inferred from the
address: it is the one thing that takes the place of an option of the user without having been said
anywhere.

## Main definitions

* `setTexts`: options overlaid by texts, of which some may be absent
* `DatabaseSettings.texts`: the texts that a database lays over the options of the user
* `DatabaseSettings.inputAt`, `DatabaseSettings.outputAt`: the ends that a database stands for
* `Settings.userOptions`, `Settings.ownOptions`: the options of the user, and those for which the
  settings have a field of its own
* `Node.MapsTo`: the node is mapped to an end with the options
* `Node.Infers`: the option is a driver that is inferred from the address

## Main results

* `find?_withDefaults`, `find?_setTexts`: looking into options
* `Gives.databaseInput_at`, `Gives.databaseOutput_at`: what a database is mapped to
* `Node.find?_of_mapsTo`: an option of the user is kept, unless it is inferred
-/
namespace DataPipeline

variable {id key : String} {v : Json} {options d : Dict Json} {es : List (String × Option String)}

/-! ## Defaults -/

theorem find?_insertNew (d : Dict Json) (k key : String) (v : Json) :
    (d.insertNew k v).find? key = (d.find? key).or (if key = k then some v else none) := by
  rw [Dict.insertNew, Dict.contains]
  by_cases hk : key = k
  · subst hk
    cases hfind : d.find? key with
    | none => simp [Dict.find?_insert]
    | some w => simp [hfind]
  · split <;> simp [Dict.find?_insert, hk]

/-- Defaults are found behind the options. -/
theorem find?_withDefaults (options : Dict Json) (defaults : List (String × Json)) (key : String) :
    (withDefaults options defaults).find? key =
      (options.find? key).or (Dict.lookup key defaults) := by
  induction defaults generalizing options with
  | nil => exact Option.or_none.symm
  | cons e defaults ih =>
    have hstep : withDefaults options (e :: defaults) =
        withDefaults (options.insertNew e.1 e.2) defaults := rfl
    rw [hstep, ih, find?_insertNew, Option.or_assoc, Dict.lookup]
    by_cases hk : key = e.1 <;> simp [hk]

/-! ## Texts that are laid over options -/

/-- Lays texts over options; absent texts change nothing. -/
def setTexts (options : Dict Json) (es : List (String × Option String)) : Dict Json :=
  es.foldl (fun d e => setText d e.1 e.2) options

theorem setText_none : setText options key none = options := rfl

theorem setText_some (text : String) :
    setText options key (some text) = options.insert key (.str text) := rfl

theorem setTexts_nil : setTexts options [] = options := rfl

theorem setTexts_cons (e : String × Option String) :
    setTexts options (e :: es) = setTexts (setText options e.1 e.2) es := rfl

theorem find?_setText (options : Dict Json) (k : String) (o : Option String) (key : String) :
    (setText options k o).find? key =
      ((if key = k then o else none).map Json.str).or (options.find? key) := by
  cases o with
  | none => simp [setText_none]
  | some s =>
    rw [setText_some, Dict.find?_insert]
    split <;> rfl

/-- Of texts under distinct keys the one under the key is found, if it is there. -/
theorem find?_setTexts (hes : (es.map (·.1)).Nodup) (options : Dict Json) (key : String) :
    (setTexts options es).find? key =
      ((Dict.lookup key es).join.map Json.str).or (options.find? key) := by
  induction es generalizing options with
  | nil => rfl
  | cons e es ih =>
    obtain ⟨hnew, hes⟩ := List.nodup_cons.1 hes
    rw [setTexts_cons, ih hes, find?_setText, Dict.lookup]
    by_cases hk : key = e.1
    · have hnone : Dict.lookup key es = none :=
        Dict.lookup_eq_none_iff.2 fun f hf heq =>
          hnew (List.mem_map.2 ⟨f, hf, heq.trans hk⟩)
      simp [hk, hk ▸ hnone]
    · simp [hk]

theorem find?_setTexts_of_mem (hes : (es.map (·.1)).Nodup) {text : String}
    (h : (key, some text) ∈ es) : (setTexts options es).find? key = some (.str text) := by
  rw [find?_setTexts hes, (Dict.lookup_eq_some_iff hes).2 h]
  rfl

/-- Where no text is laid over them, options are found as before. -/
theorem find?_setTexts_of_forall_not_mem (hes : (es.map (·.1)).Nodup)
    (h : ∀ text, (key, some text) ∉ es) : (setTexts options es).find? key = options.find? key := by
  have hnone : (Dict.lookup key es).join = none := by
    refine Option.eq_none_iff_forall_not_mem.2 fun text htext => h text ?_
    exact (Dict.lookup_eq_some_iff hes).1 (Option.join_eq_some_iff.1 htext)
  rw [find?_setTexts hes, hnone]
  rfl

/-! ## Options of mapped ends -/

/-- The texts that a database lays over the options of the user: its address, the driver, which may
be inferred, user and secret, and the query or the table that it stands for. -/
def DatabaseSettings.texts (url : String) (s : DatabaseSettings) : List (String × Option String) :=
  let query := if s.access = .read then Text.content s.query else none
  [("url", some url), ("driver", Text.content s.driver <|> driverOfUrl url),
    ("user", Text.content s.username), ("password_secret", Text.content s.secretName),
    ("query", query), ("dbtable", if query.isSome then none else Text.content s.table)]

theorem DatabaseSettings.nodup_texts (url : String) (s : DatabaseSettings) :
    ((s.texts url).map (·.1)).Nodup := by
  have hkeys : (s.texts url).map (·.1) =
      ["url", "driver", "user", "password_secret", "query", "dbtable"] := rfl
  rw [hkeys]
  decide

/-- What names a database: its table, or that there is a query. -/
def DatabaseSettings.place (s : DatabaseSettings) : String := (Text.content s.table).getD "query"

/-- The input from a database at an address. -/
def DatabaseSettings.inputAt (s : DatabaseSettings) (url : String) : ConversionInput where
  provider := "jdbc"
  format := "jdbc"
  path := s.place
  options := setTexts s.options (s.texts url)
  columns := declared s.columns
  rows := none

/-- The output to a database at an address. -/
def DatabaseSettings.outputAt (s : DatabaseSettings) (url mode : String) : ConversionOutput where
  provider := "jdbc"
  format := "jdbc"
  path := s.place
  mode := mode
  options := setTexts s.options (s.texts url)

/-- The input from inline records in a format. -/
def InlineInputSettings.inputAs (s : InlineInputSettings) (id format : String) :
    ConversionInput where
  provider := "inline"
  format := format
  path := inlineLocation id s.path
  options := withDefaults Dict.empty (inputDefaults format)
  columns := declared s.columns
  rows := some s.rows

namespace Gives

theorem options_readFile (s : ReadFileSettings) :
    Gives (fun r => r.options = withDefaults s.options (inputDefaults r.format)) (s.input id) :=
  bind_any fun _ => bind_any fun _ => pure rfl

theorem options_writeFile (s : WriteFileSettings) :
    Gives (fun r => r.options = withDefaults s.options (outputDefaults r.format)) (s.output id) :=
  bind_any fun _ => bind_any fun _ => bind_any fun _ => pure rfl

theorem options_inlineOutput (s : InlineOutputSettings) :
    Gives (fun r => r.options = withDefaults s.options (outputDefaults r.format)) (s.output id) :=
  bind_any fun _ => bind_any fun _ => pure rfl

/-- Inline records are mapped to the input in a known format. -/
theorem inlineInput_at (s : InlineInputSettings) :
    Gives (fun r => ∃ format ∈ fileFormats, r = s.inputAs id format) (s.input id) :=
  (inlineFormat _).bind fun format hformat => pure ⟨format, hformat, rfl⟩

/-- A database that can be read is mapped to the input at its address, and has a query if it has no
table. -/
theorem databaseInput_at {s : DatabaseSettings} (h : s.access = .read) :
    Gives (fun r => ∃ url, databaseAddress id s = .ok url ∧
      (Text.content s.table = none → Text.content s.query ≠ none) ∧ r = s.inputAt url)
      (s.input id) := by
  have haddress : Gives (databaseAddress id s = .ok ·) (databaseAddress id s) := fun _ h => h
  refine haddress.bind fun url hurl => ?_
  dsimp only
  split
  · rename_i query hquery
    refine pure ⟨url, hurl, fun _ => by simp [hquery], ?_⟩
    simp only [DatabaseSettings.inputAt, DatabaseSettings.place, DatabaseSettings.texts, h, hquery,
      if_true]
    rfl
  · rename_i table htable hquery
    refine pure ⟨url, hurl, fun hnone => by simp [htable] at hnone, ?_⟩
    simp only [DatabaseSettings.inputAt, DatabaseSettings.place, DatabaseSettings.texts, h, hquery,
      htable, if_true]
    rfl
  · exact error _

/-- A database that can be written is mapped to the output at its address. -/
theorem databaseOutput_at {s : DatabaseSettings} (h : s.access = .write) :
    Gives (fun r => ∃ url, databaseAddress id s = .ok url ∧ Text.content s.table = some r.path ∧
      r.mode ∈ writingModes ∧ r = s.outputAt url r.mode) (s.output id) := by
  have haddress : Gives (databaseAddress id s = .ok ·) (databaseAddress id s) := fun _ h => h
  have hrequired : Gives (fun table => Text.content s.table = some table)
      (DataPipeline.required id "table" s.table) := fun _ h => content_of_required h
  refine haddress.bind fun url hurl => hrequired.bind fun table htable =>
    (chooseMode _ (by decide)).bind fun mode hmode => pure ⟨url, hurl, htable, hmode, ?_⟩
  simp only [DatabaseSettings.outputAt, DatabaseSettings.place, DatabaseSettings.texts, h, htable]
  rfl

end Gives

/-! ## Options of the user -/

/-- The options that the user has set. -/
def Settings.userOptions : Settings → Dict Json
  | readFile s => s.options
  | writeFile s => s.options
  | inlineOutput s => s.options
  | database s => s.options
  | _ => Dict.empty

/-- The options for which the settings have a field of its own, with what is in the fields. -/
def Settings.ownOptions : Settings → List (String × Option String)
  | database s =>
    [("driver", Text.content s.driver), ("user", Text.content s.username),
      ("password_secret", Text.content s.secretName), ("dbtable", Text.content s.table),
      ("query", Text.content s.query)]
  | _ => []

/-- The driver that is inferred from the address among options. -/
def driverAmong (options : Dict Json) : Option String :=
  ((options.find? "url").bind Json.text?).bind driverOfUrl

/-- A text that a database lays over an option other than the address is that of a field, or it is
the driver that is inferred because no field says it. -/
theorem DatabaseSettings.infers_of_mem_texts {s : DatabaseSettings} {url text : String}
    (h : (key, some text) ∈ s.texts url) (hkey : key ≠ "url")
    (hown : ∀ t, (key, some t) ∉ (Settings.database s).ownOptions) :
    key = "driver" ∧ driverOfUrl url = some text := by
  simp only [Settings.ownOptions, List.mem_cons, Prod.mk.injEq, List.not_mem_nil, or_false] at hown
  simp only [texts, List.mem_cons, Prod.mk.injEq, List.not_mem_nil, or_false] at h
  rcases h with ⟨hk, -⟩ | ⟨rfl, hdriver⟩ | ⟨rfl, huser⟩ | ⟨rfl, hsecret⟩ | ⟨rfl, hquery⟩ |
    ⟨rfl, htable⟩
  · exact absurd hk hkey
  · refine ⟨rfl, ?_⟩
    cases hfield : Text.content s.driver with
    | none => simpa [hfield] using hdriver.symm
    | some driver => exact absurd (.inl ⟨rfl, hfield.symm⟩) (hown driver)
  · exact absurd (.inr (.inl ⟨rfl, huser⟩)) (hown text)
  · exact absurd (.inr (.inr (.inl ⟨rfl, hsecret⟩))) (hown text)
  · obtain ⟨-, hfield⟩ := Option.ite_none_right_eq_some.1 hquery.symm
    exact absurd (.inr (.inr (.inr (.inr ⟨rfl, hfield.symm⟩)))) (hown text)
  · obtain ⟨-, hfield⟩ := Option.ite_none_left_eq_some.1 htable.symm
    exact absurd (.inr (.inr (.inr (.inl ⟨rfl, hfield.symm⟩)))) (hown text)

namespace Node

variable {n : Node}

/-- The node is mapped to an end with the options. -/
inductive MapsTo (n : Node) : Dict Json → Prop
  | input {r : ConversionInput} (h : n.conversionInput = .ok (some r)) : n.MapsTo r.options
  | output {r : ConversionOutput} (h : n.conversionOutput = .ok (some r)) : n.MapsTo r.options

/-- The option is the driver of a database, and the address says which one. -/
def Infers (n : Node) (options : Dict Json) (key driver : String) : Prop :=
  n.kind = .database ∧ key = "driver" ∧ driverAmong options = some driver

/-- Defaults of a format or texts of a database are all that a mapper adds. -/
theorem MapsTo.cases_options (h : n.MapsTo options) :
    (n.kind ≠ .database ∧ ∃ defaults, options = withDefaults n.settings.userOptions defaults) ∨
      ∃ s url, n.settings = .database s ∧ databaseAddress n.id s = .ok url ∧
        options = setTexts s.options (s.texts url) := by
  cases h with
  | @input r h =>
    cases hs : n.settings with
    | readFile s =>
      simp only [conversionInput, hs] at h
      exact .inl ⟨by simp [kind, hs, Settings.kind], _,
        Gives.options_readFile s r (eq_ok_of_map_some h)⟩
    | inlineInput s =>
      simp only [conversionInput, hs] at h
      obtain ⟨format, -, hr⟩ := Gives.inlineInput_at s r (eq_ok_of_map_some h)
      exact .inl ⟨by simp [kind, hs, Settings.kind], _, congrArg ConversionInput.options hr⟩
    | database s =>
      simp only [conversionInput, hs] at h
      split at h
      · rename_i hread
        obtain ⟨url, hurl, -, hr⟩ := Gives.databaseInput_at hread r (eq_ok_of_map_some h)
        exact .inr ⟨s, url, rfl, hurl, congrArg ConversionInput.options hr⟩
      · cases h
    | _ => simp [conversionInput, hs] at h
  | @output r h =>
    cases hs : n.settings with
    | writeFile s =>
      simp only [conversionOutput, hs] at h
      exact .inl ⟨by simp [kind, hs, Settings.kind], _,
        Gives.options_writeFile s r (eq_ok_of_map_some h)⟩
    | inlineOutput s =>
      simp only [conversionOutput, hs] at h
      exact .inl ⟨by simp [kind, hs, Settings.kind], _,
        Gives.options_inlineOutput s r (eq_ok_of_map_some h)⟩
    | database s =>
      simp only [conversionOutput, hs] at h
      split at h
      · rename_i hwrite
        obtain ⟨url, hurl, -, -, hr⟩ := Gives.databaseOutput_at hwrite r (eq_ok_of_map_some h)
        exact .inr ⟨s, url, rfl, hurl, congrArg ConversionOutput.options hr⟩
      · cases h
    | _ => simp [conversionOutput, hs] at h

/-- An option of the user for which no field of its own says anything is mapped as it is. Only the
driver of a database is replaced, by the one that its address stands for. -/
theorem find?_of_mapsTo (h : n.MapsTo options) (hkey : key ≠ "url")
    (hv : n.settings.userOptions.find? key = some v)
    (hown : ∀ text, (key, some text) ∉ n.settings.ownOptions) :
    ((∀ driver, ¬ n.Infers options key driver) → options.find? key = some v) ∧
      ∀ driver, n.Infers options key driver → options.find? key = some (.str driver) := by
  rcases h.cases_options with ⟨hkind, defaults, hoptions⟩ | ⟨s, url, hs, -, hoptions⟩
  · have hfind : options.find? key = some v := by
      rw [hoptions, find?_withDefaults, hv, Option.some_or]
    exact ⟨fun _ => hfind, fun driver hinfers => absurd hinfers.1 hkind⟩
  · rw [hs] at hv hown
    have hkind : n.kind = .database := by rw [kind, hs, Settings.kind]
    have hurl : options.find? "url" = some (.str url) := by
      rw [hoptions]
      exact find?_setTexts_of_mem (s.nodup_texts url) (.head _)
    have hdriver : driverAmong options = driverOfUrl url := by
      rw [driverAmong, hurl]
      rfl
    constructor
    · intro hnot
      rw [hoptions, find?_setTexts_of_forall_not_mem (s.nodup_texts url) fun text htext => ?_]
      · exact hv
      · obtain ⟨hk, hinferred⟩ := s.infers_of_mem_texts htext hkey hown
        exact hnot text ⟨hkind, hk, hdriver.trans hinferred⟩
    · rintro driver ⟨-, rfl, hinferred⟩
      rw [hdriver] at hinferred
      rw [hoptions]
      refine find?_setTexts_of_mem (s.nodup_texts url) (.tail _ (List.mem_cons.2 (.inl ?_)))
      cases hfield : Text.content s.driver with
      | some own => exact absurd (by simp [Settings.ownOptions, hfield]) (hown own)
      | none => rw [hinferred]; rfl

/-- A reader of a file that has no header. -/
def headlessReader : Node :=
  { id := "in", settings := .readFile
      { path := some "orders.csv", options := ⟨[("header", .bool false)], by decide⟩ } }

/-- A reader of a database for which the user has set the driver among the options. -/
def tunedReader : Node :=
  { id := "db", settings := .database
      { connectionUrl := some "jdbc:mysql://db/shop", table := some "orders"
        options := ⟨[("driver", .str "org.mariadb.jdbc.Driver"), ("fetchsize", .int 100)],
          by decide⟩ } }

/-- The default of the format does not replace the header, nor do the texts of the database the
fetch size; the driver is replaced. -/
theorem find?_of_mapsTo_readers :
    (∃ options, headlessReader.MapsTo options ∧
      options.find? "header" = some (.bool false)) ∧
      ∃ options, tunedReader.MapsTo options ∧ options.find? "fetchsize" = some (.int 100) ∧
        options.find? "driver" = some (.str "com.mysql.cj.jdbc.Driver") := by
  obtain ⟨r, hr⟩ : ∃ r, headlessReader.conversionInput = .ok (some r) := ⟨_, rfl⟩
  obtain ⟨t, ht, hinferred⟩ : ∃ t, tunedReader.conversionInput = .ok (some t) ∧
      driverAmong t.options = some "com.mysql.cj.jdbc.Driver" := ⟨_, rfl, by decide +kernel⟩
  have hheader : r.options.find? "header" = some (.bool false) := by
    refine (find?_of_mapsTo (.input hr) (by decide) rfl fun _ h => by cases h).1 ?_
    rintro driver ⟨hkind, -⟩
    cases hkind
  have hsize : t.options.find? "fetchsize" = some (.int 100) := by
    refine (find?_of_mapsTo (.input ht) (by decide) rfl ?_).1 ?_
    · simp [tunedReader, Settings.ownOptions]
    · rintro driver ⟨-, hkey, -⟩
      exact absurd hkey (by decide)
  have hdriver : t.options.find? "driver" = some (.str "com.mysql.cj.jdbc.Driver") := by
    refine (find?_of_mapsTo (.input ht) (by decide) rfl ?_).2 _ ⟨rfl, rfl, hinferred⟩
    simp [tunedReader, Settings.ownOptions, Text.content]
  exact ⟨⟨_, .input hr, hheader⟩, _, .input ht, hsize, hdriver⟩

/-- The driver that the user has set is not among the options to which the node is mapped. -/
theorem tunedReader_mapsTo :
    tunedReader.settings.userOptions.find? "driver" = some (.str "org.mariadb.jdbc.Driver") ∧
      (∀ text, ("driver", some text) ∉ tunedReader.settings.ownOptions) ∧
      ∃ options, tunedReader.MapsTo options ∧
        options.find? "driver" ≠ some (.str "org.mariadb.jdbc.Driver") := by
  obtain ⟨t, ht, hdriver⟩ : ∃ t, tunedReader.conversionInput = .ok (some t) ∧
      t.options.find? "driver" = some (.str "com.mysql.cj.jdbc.Driver") :=
    ⟨_, rfl, by decide +kernel⟩
  refine ⟨rfl, by simp [tunedReader, Settings.ownOptions, Text.content], _, .input ht, ?_⟩
  rw [hdriver]
  decide

end Node

end DataPipeline
