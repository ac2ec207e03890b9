import DataPipeline.Proofs.Codec.Open
import DataPipeline.Settings.Basic

/-!
# Records of settings

Every record of settings is lawful: no two of its fields share a key, and whatever it can be read
with survives. Rows and columns survive too, most of them whatever they hold; a row of conditions
may hold an untyped value, which must be a sorted one.
-/
namespace DataPipeline

open Codec DataPipeline.Field

/-! ## Rows -/

theorem Column.survives (c : Column) : codec.Survives c :=
  survives_record (by decide) rfl
    (Layout.keeps_make
      |>.field (keeps_required (survives_text _))
      |>.field (keeps_orElse (survives_text _))
      |>.field (keeps_orElse (survives_boolean _)))

theorem Junction.survives (o : Junction) : codec.Survives o :=
  survives_choice (by cases o <;> decide)

theorem Direction.survives (d : Direction) : codec.Survives d :=
  survives_choice (by cases d <;> decide)

theorem Access.survives (a : Access) : codec.Survives a :=
  survives_choice (by cases a <;> decide)

theorem SortKey.survives (s : SortKey) : codec.Survives s :=
  survives_record (by decide) rfl
    (Layout.keeps_make
      |>.field (keeps_orElse (survives_text _))
      |>.field (keeps_orElse (Direction.survives _)))

theorem Aggregate.survives (a : Aggregate) : codec.Survives a :=
  survives_record (by decide) rfl
    (Layout.keeps_make
      |>.field (keeps_orElse (survives_text _))
      |>.field (keeps_orElse (survives_text _)))

theorem Aggregation.survives (a : Aggregation) : codec.Survives a :=
  survives_record (by decide) rfl
    (Layout.keeps_make
      |>.field (keeps_items fun _ _ => survives_text _)
      |>.field (keeps_items fun _ _ => Aggregate.survives _))

theorem Condition.survives_of_given {c : Condition} (h : codec.Given c) : codec.Survives c := by
  have hgiven := each_of_given_record (by decide) (fun _ => rfl) h
  exact survives_record (by decide) rfl
    (Layout.keeps_make
      |>.field (keeps_orElse (survives_text _))
      |>.field (keeps_orElse (survives_text _))
      |>.field (keeps_any (sorted_of_given hgiven.2)))

theorem keeps_columns {ρ : Type} {name : String} {get : ρ → List Column} (cs : List Column) :
    (Field.items name Column.codec get).Keeps cs :=
  keeps_items fun c _ => c.survives

/-! ## Settings -/

theorem TerminalSettings.lawful : layout.Lawful (·.extra) where
  keys := by decide
  build _ := rfl
  restores _ _ := ⟨rfl, rfl⟩
  keeps _ _ := Layout.keeps_make |>.field (keeps_text _)

theorem ReadFileSettings.lawful : layout.Lawful (·.extra) where
  keys := by decide
  build _ := rfl
  restores _ _ := ⟨rfl, rfl⟩
  keeps _ h :=
    Layout.keeps_make
      |>.field (keeps_text _)
      |>.field (keeps_text _)
      |>.field (keeps_text _)
      |>.field (keeps_text _)
      |>.field (keeps_dict_of_given h.1.2)
      |>.field (keeps_columns _)

theorem WriteFileSettings.lawful : layout.Lawful (·.extra) where
  keys := by decide
  build _ := rfl
  restores _ _ := ⟨rfl, rfl⟩
  keeps _ h :=
    Layout.keeps_make
      |>.field (keeps_text _)
      |>.field (keeps_text _)
      |>.field (keeps_text _)
      |>.field (keeps_text _)
      |>.field (keeps_text _)
      |>.field (keeps_dict_of_given h.2)

theorem FileOperationSettings.lawful : layout.Lawful (·.extra) where
  keys := by decide
  build _ := rfl
  restores _ _ := ⟨rfl, rfl⟩
  keeps _ h :=
    Layout.keeps_make
      |>.field (keeps_text _)
      |>.field (keeps_text _)
      |>.field (keeps_text _)
      |>.field (keeps_text _)
      |>.field (keeps_dict_of_given h.1.2)
      |>.field (keeps_text _)

theorem InlineInputSettings.lawful : layout.Lawful (·.extra) where
  keys := by decide
  build _ := rfl
  restores _ _ := ⟨rfl, rfl⟩
  keeps _ h :=
    Layout.keeps_make
      |>.field (keeps_text _)
      |>.field (keeps_text _)
      |>.field (keeps_text _)
      |>.field (keeps_items_of_given h.1.2 fun _ hj => survives_any (sorted_of_given_any hj))
      |>.field (keeps_columns _)

theorem InlineOutputSettings.lawful : layout.Lawful (·.extra) where
  keys := by decide
  build _ := rfl
  restores _ _ := ⟨rfl, rfl⟩
  keeps _ h :=
    Layout.keeps_make
      |>.field (keeps_text _)
      |>.field (keeps_text _)
      |>.field (keeps_text _)
      |>.field (keeps_text _)
      |>.field (keeps_text _)
      |>.field (keeps_dict_of_given h.2)

theorem DatabaseSettings.lawful : layout.Lawful (·.extra) where
  keys := by decide
  build _ := rfl
  restores _ _ := ⟨rfl, rfl⟩
  keeps _ h :=
    Layout.keeps_make
      |>.field (keeps_text _)
      |>.field (keeps_orElse (Access.survives _))
      |>.field (keeps_text _)
      |>.field (keeps_alsoReadAs (keeps_text _))
      |>.field (keeps_text _)
      |>.field (keeps_text _)
      |>.field (keeps_text _)
      |>.field (keeps_text _)
      |>.field (keeps_text _)
      |>.field (keeps_dict_of_given h.1.2)
      |>.field (keeps_columns _)

theorem SalesforceReadSettings.lawful : layout.Lawful (·.extra) where
  keys := by decide
  build _ := rfl
  restores _ _ := ⟨rfl, rfl⟩
  keeps _ _ :=
    Layout.keeps_make
      |>.field (keeps_text _)
      |>.field (keeps_text _)
      |>.field (keeps_text _)
      |>.field (keeps_items fun _ _ => survives_text _)
      |>.field (keeps_boolean _)
      |>.field (keeps_int64 _)
      |>.field (keeps_text _)

theorem SalesforceWriteSettings.lawful : layout.Lawful (·.extra) where
  keys := by decide
  build _ := rfl
  restores _ _ := ⟨rfl, rfl⟩
  keeps _ _ :=
    Layout.keeps_make
      |>.field (keeps_text _)
      |>.field (keeps_text _)
      |>.field (keeps_text _)
      |>.field (keeps_text _)
      |>.field (keeps_items fun _ _ => survives_text _)
      |>.field (keeps_boolean _)
      |>.field (keeps_int64 _)
      |>.field (keeps_text _)

theorem FilterSettings.lawful : layout.Lawful (·.extra) where
  keys := by decide
  build _ := rfl
  restores _ _ := ⟨rfl, rfl⟩
  keeps _ h :=
    Layout.keeps_make
      |>.field (keeps_text _)
      |>.field (keeps_optional fun o _ => ⟨o.survives, fun h => by cases h⟩)
      |>.field (keeps_items_of_given h.1.1.2 fun _ => Condition.survives_of_given)
      |>.field (keeps_items fun s _ => s.survives)
      |>.field (keeps_optional fun a _ => ⟨a.survives, fun h => by cases h⟩)

theorem SchedulerSettings.lawful : layout.Lawful (·.extra) where
  keys := by decide
  build _ := rfl
  restores _ _ := ⟨rfl, rfl⟩
  keeps _ _ :=
    Layout.keeps_make
      |>.field (keeps_text _)
      |>.field (keeps_text _)
      |>.field (keeps_text _)
      |>.field (keeps_int64 _)
      |>.field (keeps_text _)
      |>.field (keeps_int64 _)
      |>.field (keeps_boolean _)

end DataPipeline
