import DataPipeline.Proofs.Codec.Overlay
import DataPipeline.Proofs.Settings.Inherited

/-!
# Settings over which a view is laid

The settings of every kind are an open record, so that what holds of overlaid records holds of
them. One kind alone reads a field under a further key: a database node takes its table from `path`
too and writes it as `table`. A view with a text under `path` can therefore be laid over such
settings once and not twice.

## Main definitions

* `Kind.aliases`: the keys under which fields of a kind are read but not written
* `Settings.Shown`: the view is read as the settings

## Main results

* `Settings.ofJson_eq_ok_iff`: the objects that are read as settings
* `Settings.Shown.member_of_over`, `Settings.Shown.over_over`, `Settings.Shown.over_again`: settings
  after a view was laid over them
* `Settings.Shown.ofJson_eq_duplicate`: the table of a database twice
-/
namespace DataPipeline

open Json (Sorted)

/-! ## Keys that are read but not written -/

namespace Kind

/-- The keys under which fields of the kind are read but not written. -/
def aliases (k : Kind) : List String := k.form.layout.aliases

theorem aliases_eq_nil {k : Kind} (h : k ≠ .database) : k.aliases = [] := by
  cases k with
  | database => exact absurd rfl h
  | _ => rfl

theorem aliases_database : Kind.database.aliases = ["path"] := rfl

/-- To leave the further keys free is to leave `path` free, if the kind is a database. -/
theorem free_aliases_iff {k : Kind} {v : View} :
    v.Free k.aliases ↔ (k = .database → v "path" = none) := by
  by_cases h : k = .database
  · subst h
    simp [View.Free, aliases_database]
  · simp [View.Free, aliases_eq_nil h, h]

end Kind

/-! ## Settings -/

namespace Settings

variable {k : Kind} {s s' : Settings} {u v w : View} {d : Dict Json} {key : String}

/-- The view is read as the settings. -/
def Shown (v : View) (k : Kind) (s : Settings) : Prop :=
  ∃ r : k.form.Record, k.form.inject r = s ∧ k.form.layout.Sound k.form.extra r ∧
    k.form.layout.Shown k.form.extra v r

theorem member_toJson_inject (k : Kind) (r : k.form.Record) :
    (k.form.inject r).toJson.member = k.form.layout.written k.form.extra r := by
  rw [toJson, k.form.toDocument_inject]
  rfl

/-- An object that shows a record is read as settings with it. -/
theorem ofJson_eq_inject {ms : List (String × Json)} {r : k.form.Record}
    (hms : (ms.map (·.1)).Nodup) (hr : k.form.layout.Shown k.form.extra (Json.obj ms).member r) :
    Settings.ofJson k (.obj ms) = .ok (k.form.inject r) := by
  have hnull : Json.obj ms ≠ .null := fun h => by cases h
  have hread : (Codec.openRecord k.form.name k.form.layout k.form.extra).ofJson (.obj ms) = .ok r :=
    (k.form.lawful.ofJson_eq_ok_iff hms).2 hr
  rw [ofJson, if_neg hnull, k.form.ofDocument_eq, hread]
  rfl

/-- A sorted object is read as settings exactly if it shows them. -/
theorem ofJson_eq_ok_iff (hd : Sorted (.ofDict d)) :
    Settings.ofJson k (.ofDict d) = .ok s ↔ Shown d.find? k s := by
  constructor
  · intro h
    have hnull : Json.ofDict d ≠ .null := fun h => by cases h
    rw [ofJson, if_neg hnull, k.form.ofDocument_eq] at h
    obtain ⟨r, hr, rfl⟩ := exists_of_map_eq_ok h
    exact ⟨r, rfl, (k.form.lawful.sound_of_ofJson hd hr).1,
      (k.form.lawful.ofJson_eq_ok_iff d.nodup_keys).1 hr⟩
  · rintro ⟨r, rfl, -, hr⟩
    exact ofJson_eq_inject d.nodup_keys hr

/-- What is written of sound settings is read as them. -/
theorem Sound.shown (h : s.Sound) : Shown s.toJson.member s.kind s := by
  obtain ⟨k, r, rfl, hr⟩ := h
  rw [k.form.kind_inject, member_toJson_inject]
  exact ⟨r, rfl, hr, hr.shown_written k.form.lawful⟩

namespace Shown

theorem kind_eq (h : Shown v k s) : s.kind = k := by
  obtain ⟨r, rfl, -⟩ := h
  exact k.form.kind_inject r

/-- The values under keys that the kind does not know. -/
theorem member_toJson (h : Shown v k s) (hkey : key ∉ k.keys) : s.toJson.member key = v key := by
  obtain ⟨r, rfl, hr, hv⟩ := h
  rw [member_toJson_inject, hr.written_rest k.form.lawful hkey, hv.rest key hkey]

/-- Nothing is written under the further keys of a field. -/
theorem free_member_toJson (h : Shown v k s) : View.Free s.toJson.member k.aliases := by
  obtain ⟨r, rfl, hr, -⟩ := h
  rw [member_toJson_inject]
  exact hr.free_written k.form.lawful.keys

/-! ### Overlaid settings -/

/-- Under a key that is not overlaid the settings are written as before. -/
theorem member_of_over (h : Shown (v.over s.toJson.member) s.kind s') (hs : s.Sound)
    (hfree : v.Free s.kind.aliases) (hkey : v key = none) :
    s'.toJson.member key = s.toJson.member key := by
  obtain ⟨k, r, rfl, hr⟩ := hs
  rw [k.form.kind_inject] at h hfree
  obtain ⟨r', rfl, hr', hshown⟩ := h
  rw [member_toJson_inject] at hshown
  rw [member_toJson_inject, member_toJson_inject]
  exact hshown.written_of_over k.form.lawful hr hr' hfree hkey

/-- Two views that were laid over one after the other can be laid over at once. -/
theorem over_over (h : Shown (v.over w) k s) (h' : Shown (u.over s.toJson.member) k s')
    (hu : u.Free k.aliases) (hv : v.Free k.aliases) (hw : w.Free k.aliases) :
    Shown ((u.over v).over w) k s' := by
  obtain ⟨r, rfl, hr, hshown⟩ := h
  obtain ⟨r', rfl, hr', hshown'⟩ := h'
  rw [member_toJson_inject] at hshown'
  exact ⟨r', rfl, hr', hshown.over_over k.form.lawful hshown' hr hu hv hw⟩

end Shown

end Settings

/-! ## The table of a database -/

namespace DatabaseSettings

open Layout (Has)

variable {r : DatabaseSettings} {v w : View}

/-- The field that is read under `path` too. -/
def tableField : Field DatabaseSettings (Option String) :=
  (Field.optional "table" .text (·.table)).alsoReadAs "path"

theorem has_tableField : Has tableField layout := by
  repeat constructor

theorem eq_of_mem_aliases {β : Type} {f : Field DatabaseSettings β} (hf : Has f layout)
    {key : String} (hkey : key ∈ f.aliases) : key = "path" ∧ f.name = "table" := by
  have hpath : key ∈ ["path"] := Layout.mem_aliases_iff.2 ⟨β, f, hf, hkey⟩
  obtain rfl := List.mem_singleton.1 hpath
  have hslot : f.slot = tableField.slot :=
    Layout.eq_of_answersTo lawful.keys hf.slot_mem has_tableField.slot_mem
      (Field.answersTo_iff.2 (List.mem_cons_of_mem _ hkey)) (by decide)
  exact ⟨rfl, congrArg Slot.name hslot⟩

theorem written_table (hr : layout.Sound (·.extra) r) :
    layout.written (·.extra) r "table" = r.table.map .str := by
  refine (has_tableField.written_name lawful.keys hr).trans ?_
  have hget : tableField.get r = r.table := rfl
  rw [hget]
  cases r.table with
  | none => rfl
  | some t => exact congrArg some (Json.rearranges_sorted.str t)

/-- What stands under `path` is read into the table. -/
theorem table_eq {j : Json} (h : layout.Shown (·.extra) (v.over w) r) (hv : v "path" = some j) :
    r.table = j.text? := by
  have hpath : "path" ∈ tableField.keys := by decide
  obtain ⟨hread, -⟩ := (h.reads has_tableField).of_some hpath (View.over_of_some hv)
  exact Codec.eq_of_ofJson_text hread

end DatabaseSettings

namespace Settings.Shown

variable {k : Kind} {s : Settings} {v w : View} {d : Dict Json} {table : String}

/-- A view that was laid over can be laid over again, unless it names the table of a database under
the other key. -/
theorem over_again (h : Shown (v.over w) k s)
    (honce : k = .database → ∀ table, v "path" ≠ some (.str table)) :
    Shown (v.over s.toJson.member) k s := by
  obtain ⟨r, rfl, hr, hshown⟩ := h
  rw [member_toJson_inject]
  refine ⟨r, rfl, hr, hshown.over_again k.form.lawful hr fun f hf key hkey hv => ?_⟩
  by_cases hk : k = .database
  · subst hk
    obtain ⟨rfl, hname⟩ := DatabaseSettings.eq_of_mem_aliases hf hkey
    obtain ⟨j, hj⟩ := Option.ne_none_iff_exists'.1 hv
    have htext : j.text? = none := by
      cases j with
      | str table => exact absurd hj (honce rfl table)
      | _ => rfl
    rw [hname]
    refine (DatabaseSettings.written_table hr).trans ?_
    rw [DatabaseSettings.table_eq hshown hj, htext]
    rfl
  · have hnone : key ∈ k.aliases := Layout.mem_aliases_iff.2 ⟨_, f, hf, hkey⟩
    rw [Kind.aliases_eq_nil hk] at hnone
    cases hnone

/-- The table of a database that was given as `path` stands there twice when it is given so
again. -/
theorem ofJson_eq_duplicate (h : Shown (v.over w) .database s)
    (hv : v "path" = some (.str table)) (hd : d.find? = v.over s.toJson.member) :
    Settings.ofJson .database (.ofDict d) = .error (.duplicateField "table") := by
  obtain ⟨r, rfl, hr, hshown⟩ := h
  rw [member_toJson_inject] at hd
  have hwritten : DatabaseSettings.layout.written (·.extra) r "table" = some (.str table) :=
    (DatabaseSettings.written_table hr).trans
      (congrArg (·.map Json.str) (DatabaseSettings.table_eq hshown hv))
  have hmember (key : String) : (Json.ofDict d).member key =
      v.over (DatabaseSettings.layout.written (·.extra) r) key := congrFun hd key
  have hrefused : DatabaseSettings.codec.ofJson (.ofDict d) = .error (.duplicateField "table") := by
    refine DatabaseSettings.lawful.ofJson_eq_duplicate d.nodup_keys DatabaseSettings.has_tableField
      rfl (fun g hg key hkey j hj => ?_) ?_ (by decide : "path" ∈ _) ?_
    · exact hshown.taken_again DatabaseSettings.lawful hr hg hkey
        ((hmember key).symm.trans hj)
    · intro hnone
      have hfree := (View.over_eq_none_iff.1 ((hmember "table").symm.trans hnone)).2
      rw [hwritten] at hfree
      cases hfree
    · intro hnone
      have hfree := (View.over_eq_none_iff.1 ((hmember "path").symm.trans hnone)).1
      rw [hv] at hfree
      cases hfree
  rw [ofJson, if_neg fun hnull => by cases hnull]
  exact congrArg (database <$> ·) hrefused

end Settings.Shown

end DataPipeline
