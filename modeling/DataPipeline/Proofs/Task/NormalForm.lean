import DataPipeline.Proofs.Task.WellFormed
import Mathlib.Data.List.ReduceOption

/-!
# Normal forms of clauses

A filter node is mapped to clauses exactly if none of its rows is faulty; rows without a field are
never faulty. The clauses are the rows that have a field, in their order and each in normal form.
Every clause depends on its own part of the settings alone, and the settings that are built from
clauses are mapped to these clauses again.

The three kinds of rows and the names to group by are treated alike: a row has a text that says
whether it is finished, and a normal form that trims this text.

## Main definitions

* `finishedRows`: the normal forms of the rows that are finished
* `Condition.Faulty`, `Aggregate.Faulty`, `FilterSettings.Faulty`: what cannot be mapped
* `FilterSettings.Normalized`: the clauses are made of the finished rows
* `Clauses.settings`: settings built from clauses

## Main results

* `Normalizes.mapM_eq_ok`, `Normalizes.exists_mapM_eq_error`: rows that are mapped one by one
* `Trims.finishedRows_finishedRows`: normal forms are settled
* `FilterSettings.clauses_eq_ok`, `FilterSettings.exists_clauses_eq_error`: what a filter is mapped
  to
* `Node.normalizes_clauses`: the clauses of a filter node
-/
namespace DataPipeline

variable {α ε : Type} {nodeId : String}

/-! ## Rows -/

/-- The normal forms of the rows in whose field there is something. -/
def finishedRows (field : α → String) (normal : α → α) (rows : List α) : List α :=
  (rows.filter fun a => !Text.isBlank (field a)).map normal

/-- A row by row mapper drops rows without a field, refuses faulty ones, and puts the others into
normal form. -/
structure Normalizes (f : α → Except ε (Option α)) (field : α → String) (normal : α → α)
    (Faulty : α → Prop) : Prop where
  eq_none (a : α) : Text.isBlank (field a) = true → f a = .ok none
  eq_some (a : α) : Text.isBlank (field a) = false → ¬ Faulty a → f a = .ok (some (normal a))
  eq_error (a : α) : Faulty a → ∃ e, f a = .error e

namespace Normalizes

variable {f : α → Except ε (Option α)} {field : α → String} {normal : α → α} {Faulty : α → Prop}
  {rows : List α} (h : Normalizes f field normal Faulty)
include h

theorem mapM_eq_ok (hrows : ∀ a ∈ rows, ¬ Faulty a) :
    ∃ os, rows.mapM f = .ok os ∧ os.reduceOption = finishedRows field normal rows := by
  induction rows with
  | nil => exact ⟨[], rfl, rfl⟩
  | cons a rows ih =>
    obtain ⟨ha, hrows⟩ := List.forall_mem_cons.1 hrows
    obtain ⟨os, hos, hreduce⟩ := ih hrows
    cases hfield : Text.isBlank (field a) with
    | true =>
      refine ⟨none :: os, ?_, ?_⟩
      · rw [List.mapM_cons, h.eq_none a hfield, hos]
        rfl
      · rw [List.reduceOption_cons_of_none, hreduce]
        simp [finishedRows, hfield]
    | false =>
      refine ⟨some (normal a) :: os, ?_, ?_⟩
      · rw [List.mapM_cons, h.eq_some a hfield ha, hos]
        rfl
      · rw [List.reduceOption_cons_of_some, hreduce]
        simp [finishedRows, hfield]

/-- One faulty row is enough. -/
theorem exists_mapM_eq_error (hrow : ∃ a ∈ rows, Faulty a) : ∃ e, rows.mapM f = .error e := by
  obtain ⟨a, ha, hfaulty⟩ := hrow
  induction rows with
  | nil => cases ha
  | cons b rows ih =>
    rw [List.mapM_cons]
    cases hb : f b with
    | error e => exact ⟨e, rfl⟩
    | ok o =>
      rcases List.mem_cons.1 ha with rfl | ha
      · obtain ⟨e, he⟩ := h.eq_error a hfaulty
        rw [hb] at he
        cases he
      · obtain ⟨e, he⟩ := ih ha
        rw [he]
        exact ⟨e, rfl⟩

end Normalizes

/-- The normal form trims the field, and is its own normal form. -/
structure Trims (field : α → String) (normal : α → α) : Prop where
  field_normal (a : α) : field (normal a) = Text.trim (field a)
  normal_normal (a : α) : normal (normal a) = normal a

/-- What is finished stays so, and rows in normal form stay as they are. -/
theorem Trims.finishedRows_finishedRows {field : α → String} {normal : α → α}
    (h : Trims field normal) (rows : List α) :
    finishedRows field normal (finishedRows field normal rows) =
      finishedRows field normal rows := by
  have hfield (a : α) : Text.isBlank (field (normal a)) = Text.isBlank (field a) := by
    rw [h.field_normal, Text.isBlank_trim]
  induction rows with
  | nil => rfl
  | cons a rows ih =>
    cases ha : Text.isBlank (field a) with
    | true => simpa [finishedRows, ha] using ih
    | false => simpa [finishedRows, ha, hfield, h.normal_normal] using ih

theorem exists_of_mem_finishedRows {field : α → String} {normal : α → α} {rows : List α} {b : α}
    (h : b ∈ finishedRows field normal rows) :
    ∃ a ∈ rows, Text.isBlank (field a) = false ∧ normal a = b := by
  obtain ⟨a, ha, hb⟩ := List.mem_map.1 h
  obtain ⟨hmem, hfield⟩ := List.mem_filter.1 ha
  exact ⟨a, hmem, by simpa using hfield, hb⟩

theorem nonEmpty_eq_none_iff {items : List α} : nonEmpty items = none ↔ items = [] := by
  cases items <;> simp [nonEmpty]

theorem getD_nonEmpty (items : List α) : (nonEmpty items).getD [] = items := by
  cases items <;> rfl

/-! ### Conditions -/

namespace Condition

variable {c : Condition}

/-- The operator, trimmed and in small letters. -/
def keyword (c : Condition) : String := Text.lower (Text.trim c.operator)

/-- The operator compares with a value. -/
def NeedsValue (c : Condition) : Prop :=
  c.keyword ∈ comparisonOperators ∨ c.keyword ∈ membershipOperators

/-- A condition with a field, of which the operator is blank or unknown, or lacks its value. -/
inductive Faulty (c : Condition) : Prop
  | blank (hfield : Text.isBlank c.field = false) (h : Text.isBlank c.operator = true)
  | unknown (hfield : Text.isBlank c.field = false) (hunary : c.keyword ∉ nullChecks)
      (h : ¬ c.NeedsValue)
  | valueless (hfield : Text.isBlank c.field = false) (hneeds : c.NeedsValue)
      (h : c.value = none ∨ c.value = some .null)

/-- The value, unless the operator is on the field alone. -/
def keptValue (c : Condition) : Option Json := if c.keyword ∈ nullChecks then none else c.value

/-- The condition trimmed, with its operator in small letters and the value that it keeps. -/
def normal (c : Condition) : Condition := ⟨Text.trim c.field, c.keyword, c.keptValue⟩

theorem value_normal (c : Condition) : c.normal.value = c.keptValue := by rw [normal]

theorem keptValue_of_mem (h : c.keyword ∈ nullChecks) : c.keptValue = none := by
  simp only [keptValue, h, if_true]

theorem keptValue_of_not_mem (h : c.keyword ∉ nullChecks) : c.keptValue = c.value := by
  simp only [keptValue, h, if_false]

theorem keyword_normal (c : Condition) : c.normal.keyword = c.keyword := by
  have hword : c.normal.keyword = Text.lower (Text.trim (Text.lower (Text.trim c.operator))) := rfl
  rw [hword, Text.trim_lower, Text.trim_trim, Text.lower_lower]
  rfl

theorem keptValue_normal (c : Condition) : c.normal.keptValue = c.keptValue := by
  by_cases h : c.keyword ∈ nullChecks
  · rw [keptValue_of_mem (c.keyword_normal.symm ▸ h), keptValue_of_mem h]
  · rw [keptValue_of_not_mem (c.keyword_normal.symm ▸ h), value_normal]

theorem trims : Trims (·.field) normal where
  field_normal _ := rfl
  normal_normal c := by
    have htrim : Text.trim c.normal.field = Text.trim c.field := Text.trim_trim c.field
    rw [normal, htrim, keyword_normal, keptValue_normal, normal]

/-- No operator needs a value and does without one. -/
theorem NeedsValue.not_mem (h : c.NeedsValue) : c.keyword ∉ nullChecks := by
  have hapart : ∀ word ∈ comparisonOperators ++ membershipOperators, word ∉ nullChecks := by decide
  exact hapart c.keyword (List.mem_append.2 h)

/-- What is faulty in normal form was faulty before. -/
theorem Faulty.of_normal (h : c.normal.Faulty) : c.Faulty := by
  have hfield : Text.isBlank c.normal.field = Text.isBlank c.field := Text.isBlank_trim c.field
  have hneeds : c.normal.NeedsValue ↔ c.NeedsValue := by
    rw [NeedsValue, NeedsValue, keyword_normal]
  cases h with
  | blank h hblank =>
    refine .blank (hfield ▸ h) ?_
    have hoperator : Text.isBlank c.normal.operator = Text.isBlank c.operator :=
      (Text.isBlank_lower _).trans (Text.isBlank_trim c.operator)
    exact hoperator ▸ hblank
  | unknown h hunary hunknown =>
    exact .unknown (hfield ▸ h) (c.keyword_normal ▸ hunary) (hneeds.not.1 hunknown)
  | valueless h hgiven hvalue =>
    have hneeded := hneeds.1 hgiven
    have hsame : c.normal.value = c.value :=
      c.value_normal.trans (keptValue_of_not_mem hneeded.not_mem)
    exact .valueless (hfield ▸ h) hneeded (hsame ▸ hvalue)

theorem operand_eq_ok (hfield : Text.isBlank c.field = false) (h : ¬ c.Faulty) :
    c.operand nodeId c.keyword = .ok c.keptValue := by
  rw [operand]
  by_cases hunary : c.keyword ∈ nullChecks
  · rw [keptValue_of_mem hunary, if_pos (List.contains_iff_mem.2 hunary)]
  · have hneeds : c.NeedsValue := not_not.1 fun hunknown => h (.unknown hfield hunary hunknown)
    have hcompares : (comparisonOperators.contains c.keyword ||
        membershipOperators.contains c.keyword) = true := by
      simpa [NeedsValue] using hneeds
    simp only [List.contains_iff_mem, hunary, if_false, hcompares, if_true,
      keptValue_of_not_mem hunary]
    split
    · rename_i hvalue
      exact absurd (.valueless hfield hneeds (.inl hvalue)) h
    · rename_i hvalue
      exact absurd (.valueless hfield hneeds (.inr hvalue)) h
    · rename_i v _ hvalue
      rw [hvalue]

theorem exists_operand_eq_error
    (h : c.keyword ∉ nullChecks ∧ ¬ c.NeedsValue ∨
      c.NeedsValue ∧ (c.value = none ∨ c.value = some .null)) :
    ∃ e, c.operand nodeId c.keyword = .error e := by
  rw [operand]
  rcases h with ⟨hunary, hunknown⟩ | ⟨hneeds, hvalue⟩
  · have hnot : (comparisonOperators.contains c.keyword ||
        membershipOperators.contains c.keyword) = false := by
      simpa [NeedsValue] using hunknown
    simp only [List.contains_iff_mem, hunary, if_false, hnot]
    exact ⟨_, rfl⟩
  · have hcompares : (comparisonOperators.contains c.keyword ||
        membershipOperators.contains c.keyword) = true := by
      simpa [NeedsValue] using hneeds
    simp only [List.contains_iff_mem, hneeds.not_mem, if_false, hcompares, if_true]
    rcases hvalue with hvalue | hvalue <;> rw [hvalue] <;> exact ⟨_, rfl⟩

theorem normalizes (nodeId : String) : Normalizes (normalize nodeId) (·.field) normal Faulty where
  eq_none c hfield := by
    simp only [normalize, hfield, if_true]
    rfl
  eq_some c hfield h := by
    have hoperator : (Text.lower (Text.trim c.operator)).isEmpty = false := by
      rw [Text.isEmpty_lower_trim]
      exact Bool.eq_false_iff.2 fun hblank => h (.blank hfield hblank)
    have hvalue : c.operand nodeId (Text.lower (Text.trim c.operator)) = .ok c.keptValue :=
      operand_eq_ok hfield h
    simp only [normalize, hfield, hoperator, hvalue]
    rfl
  eq_error c h := by
    have hfield : Text.isBlank c.field = false := by cases h <;> assumption
    cases hblank : Text.isBlank c.operator with
    | true =>
      have hempty : (Text.lower (Text.trim c.operator)).isEmpty = true :=
        (Text.isEmpty_lower_trim c.operator).trans hblank
      simp only [normalize, hfield, hempty]
      exact ⟨_, rfl⟩
    | false =>
      have hempty : (Text.lower (Text.trim c.operator)).isEmpty = false :=
        (Text.isEmpty_lower_trim c.operator).trans hblank
      obtain ⟨e, he⟩ : ∃ e, c.operand nodeId (Text.lower (Text.trim c.operator)) = .error e := by
        refine exists_operand_eq_error ?_
        cases h with
        | blank _ hoperator => exact absurd hoperator (by simp [hblank])
        | unknown _ hunary hunknown => exact .inl ⟨hunary, hunknown⟩
        | valueless _ hneeds hvalue => exact .inr ⟨hneeds, hvalue⟩
      simp only [normalize, hfield, hempty, he]
      exact ⟨_, rfl⟩

end Condition

/-! ### Keys, aggregates and names -/

/-- The key trimmed. -/
def SortKey.normal (k : SortKey) : SortKey := ⟨Text.trim k.field, k.direction⟩

theorem SortKey.trims : Trims (·.field) normal where
  field_normal _ := rfl
  normal_normal k := congrArg (mk · k.direction) (Text.trim_trim k.field)

theorem Text.trims : Trims id Text.trim where
  field_normal _ := rfl
  normal_normal := Text.trim_trim

namespace Aggregate

variable {a : Aggregate}

/-- The function, trimmed and in small letters. -/
def keyword (a : Aggregate) : String := Text.lower (Text.trim a.function)

/-- An aggregate with a field, of which the function is unknown. -/
structure Faulty (a : Aggregate) : Prop where
  field : Text.isBlank a.field = false
  unknown : a.keyword ∉ aggregateNames

/-- The aggregate trimmed, with its function in small letters. -/
def normal (a : Aggregate) : Aggregate := ⟨Text.trim a.field, a.keyword⟩

theorem keyword_normal (a : Aggregate) : a.normal.keyword = a.keyword := by
  have hword : a.normal.keyword = Text.lower (Text.trim (Text.lower (Text.trim a.function))) := rfl
  rw [hword, Text.trim_lower, Text.trim_trim, Text.lower_lower, keyword]

theorem trims : Trims (·.field) normal where
  field_normal _ := rfl
  normal_normal a := by
    have htrim : Text.trim a.normal.field = Text.trim a.field := Text.trim_trim a.field
    rw [normal, htrim, keyword_normal, normal]

theorem Faulty.of_normal (h : a.normal.Faulty) : a.Faulty where
  field := (Text.isBlank_trim a.field).symm.trans h.field
  unknown := a.keyword_normal ▸ h.unknown

theorem normalizes (nodeId : String) : Normalizes (normalize nodeId) (·.field) normal Faulty where
  eq_none a hfield := by
    rw [normalize, if_pos hfield]
  eq_some a hfield h := by
    have hknown : aggregateNames.contains (Text.lower (Text.trim a.function)) = true :=
      List.contains_iff_mem.2 (not_not.1 fun hunknown => h ⟨hfield, hunknown⟩)
    simp only [normalize, hfield, hknown, if_true, normal, keyword]
    rfl
  eq_error a h := by
    have hunknown : aggregateNames.contains (Text.lower (Text.trim a.function)) = false :=
      Bool.eq_false_iff.2 fun hknown => h.unknown (List.contains_iff_mem.1 hknown)
    simp only [normalize, h.field, hunknown]
    exact ⟨_, rfl⟩

end Aggregate

/-! ## Filters -/

/-- The aggregates with a field, in normal form. -/
def Aggregation.finished (a : Aggregation) : List Aggregate :=
  finishedRows (·.field) Aggregate.normal a.aggregates

/-- The names to group by, trimmed and without blank ones. -/
def Aggregation.groups (a : Aggregation) : List String := finishedRows id Text.trim a.groupBy

namespace FilterSettings

variable {s q : FilterSettings} {c d : Clauses}

/-- The conditions with a field, in normal form. -/
def finishedConditions (s : FilterSettings) : List Condition :=
  finishedRows (·.field) Condition.normal s.conditions

/-- The keys with a field, in normal form. -/
def finishedKeys (s : FilterSettings) : List SortKey :=
  finishedRows (·.field) SortKey.normal s.orderBy

/-- One of the rows is faulty. -/
inductive Faulty (s : FilterSettings) : Prop
  | condition (c : Condition) (hc : c ∈ s.conditions) (h : c.Faulty)
  | aggregate (a : Aggregation) (ha : s.aggregation = some a) (g : Aggregate)
      (hg : g ∈ a.aggregates) (h : g.Faulty)

/-- The clauses are made of the finished rows; a clause without rows is absent. -/
structure Normalized (s : FilterSettings) (c : Clauses) : Prop where
  filter_eq_none : c.filter = none ↔ s.finishedConditions = []
  filter (f : FilterClause) :
    c.filter = some f → f = ⟨s.operator.getD .all, s.finishedConditions⟩
  orderBy_eq_none : c.orderBy = none ↔ s.finishedKeys = []
  orderBy (keys : List SortKey) : c.orderBy = some keys → keys = s.finishedKeys
  aggregation_eq_none : c.aggregation = none ↔ ∀ a, s.aggregation = some a → a.finished = []
  aggregation (g : AggregationClause) :
    c.aggregation = some g → ∃ a, s.aggregation = some a ∧ g = ⟨a.groups, a.finished⟩

/-- The clauses of a filter without faults. -/
def normal (s : FilterSettings) : Clauses where
  filter := (nonEmpty s.finishedConditions).map fun cs => ⟨s.operator.getD .all, cs⟩
  orderBy := nonEmpty s.finishedKeys
  aggregation := s.aggregation.bind fun a => (nonEmpty a.finished).map fun as => ⟨a.groups, as⟩

theorem conditionClause_eq_ok (h : ∀ c ∈ s.conditions, ¬ c.Faulty) :
    s.conditionClause nodeId = .ok s.normal.filter := by
  obtain ⟨os, hos, hrows⟩ := (Condition.normalizes nodeId).mapM_eq_ok h
  simp only [conditionClause, hos, hrows, bind, Except.bind]
  rfl

theorem aggregationClause_eq_ok {a : Aggregation} (h : ∀ g ∈ a.aggregates, ¬ g.Faulty) :
    a.clause nodeId = .ok ((nonEmpty a.finished).map fun as => ⟨a.groups, as⟩) := by
  obtain ⟨os, hos, hrows⟩ := (Aggregate.normalizes nodeId).mapM_eq_ok h
  simp only [Aggregation.clause, hos, hrows, bind, Except.bind]
  rfl

theorem clauses_eq_ok (h : ¬ s.Faulty) : s.clauses nodeId = .ok s.normal := by
  have hfilter : s.conditionClause nodeId = .ok s.normal.filter :=
    conditionClause_eq_ok fun c hc hfaulty => h (.condition c hc hfaulty)
  have haggregation (a : Aggregation) (ha : s.aggregation = some a) :
      a.clause nodeId = .ok ((nonEmpty a.finished).map fun as => ⟨a.groups, as⟩) :=
    aggregationClause_eq_ok fun g hg hfaulty => h (.aggregate a ha g hg hfaulty)
  cases ha : s.aggregation with
  | none =>
    simp only [clauses, hfilter, ha, bind, Except.bind, normal]
    rfl
  | some a =>
    simp only [clauses, hfilter, ha, haggregation a ha, bind, Except.bind, normal]
    rfl

theorem exists_clauses_eq_error (h : s.Faulty) : ∃ e, s.clauses nodeId = .error e := by
  cases hfilter : s.conditionClause nodeId with
  | error e =>
    simp only [clauses, hfilter, bind, Except.bind]
    exact ⟨e, rfl⟩
  | ok filter =>
    cases h with
    | condition c hc hfaulty =>
      obtain ⟨e, he⟩ := (Condition.normalizes nodeId).exists_mapM_eq_error ⟨c, hc, hfaulty⟩
      simp only [conditionClause, he, bind, Except.bind] at hfilter
      cases hfilter
    | aggregate a ha g hg hfaulty =>
      obtain ⟨e, he⟩ := (Aggregate.normalizes nodeId).exists_mapM_eq_error ⟨g, hg, hfaulty⟩
      simp only [clauses, hfilter, ha, Aggregation.clause, he, bind, Except.bind]
      exact ⟨e, rfl⟩

theorem clauses_eq_ok_iff : s.clauses nodeId = .ok c ↔ ¬ s.Faulty ∧ c = s.normal := by
  by_cases h : s.Faulty
  · obtain ⟨e, he⟩ : ∃ e, s.clauses nodeId = .error e := exists_clauses_eq_error h
    simp [he, h]
  · rw [clauses_eq_ok h, Except.ok.injEq, eq_comm]
    exact (and_iff_right h).symm

/-! ### Normal clauses -/

theorem normalized_normal (s : FilterSettings) : s.Normalized s.normal where
  filter_eq_none := Option.map_eq_none_iff.trans nonEmpty_eq_none_iff
  filter f hf := by
    obtain ⟨cs, hcs, rfl⟩ := Option.map_eq_some_iff.1 hf
    rw [(Gives.eq_of_nonEmpty hcs).1]
  orderBy_eq_none := nonEmpty_eq_none_iff
  orderBy keys hkeys := (Gives.eq_of_nonEmpty hkeys).1.symm
  aggregation_eq_none := by
    refine Option.bind_eq_none_iff.trans (forall₂_congr fun a _ => ?_)
    exact Option.map_eq_none_iff.trans nonEmpty_eq_none_iff
  aggregation g hg := by
    obtain ⟨a, ha, hg⟩ := Option.bind_eq_some_iff.1 hg
    obtain ⟨as, has, rfl⟩ := Option.map_eq_some_iff.1 hg
    exact ⟨a, ha, by rw [(Gives.eq_of_nonEmpty has).1]⟩

end FilterSettings

/-- The settings that have what is in the clauses. -/
def Clauses.settings (c : Clauses) : FilterSettings where
  operator := c.filter.map (·.operator)
  conditions := (c.filter.map (·.conditions)).getD []
  orderBy := c.orderBy.getD []
  aggregation := c.aggregation.map fun g => ⟨g.groupBy, g.aggregates⟩

namespace FilterSettings

variable {s : FilterSettings}

theorem conditions_settings (s : FilterSettings) :
    s.normal.settings.conditions = s.finishedConditions := by
  simp only [Clauses.settings, normal, Option.map_map, Function.comp_def, Option.map_id']
  exact getD_nonEmpty _

theorem exists_of_aggregation_settings {a : Aggregation}
    (h : s.normal.settings.aggregation = some a) :
    ∃ b, s.aggregation = some b ∧ b.finished ≠ [] ∧ a = ⟨b.groups, b.finished⟩ := by
  obtain ⟨g, hg, rfl⟩ := Option.map_eq_some_iff.1 h
  obtain ⟨b, hb, hg⟩ := Option.bind_eq_some_iff.1 hg
  obtain ⟨as, has, rfl⟩ := Option.map_eq_some_iff.1 hg
  obtain ⟨rfl, hne⟩ := Gives.eq_of_nonEmpty has
  exact ⟨b, hb, hne, rfl⟩

theorem not_faulty_settings (h : ¬ s.Faulty) : ¬ s.normal.settings.Faulty := by
  intro hfaulty
  cases hfaulty with
  | condition c hc hfaulty =>
    rw [conditions_settings] at hc
    obtain ⟨b, hb, -, rfl⟩ := exists_of_mem_finishedRows hc
    exact h (.condition b hb hfaulty.of_normal)
  | aggregate a ha g hg hfaulty =>
    obtain ⟨b, hb, -, rfl⟩ := exists_of_aggregation_settings ha
    obtain ⟨k, hk, -, rfl⟩ := exists_of_mem_finishedRows hg
    exact h (.aggregate b hb k hk hfaulty.of_normal)

theorem filter_normal_settings (s : FilterSettings) :
    s.normal.settings.normal.filter = s.normal.filter := by
  have hconditions : s.normal.settings.finishedConditions = s.finishedConditions := by
    rw [finishedConditions, conditions_settings]
    exact Condition.trims.finishedRows_finishedRows s.conditions
  have hleft : s.normal.settings.normal.filter = (nonEmpty s.finishedConditions).map
      fun cs => ⟨s.normal.settings.operator.getD .all, cs⟩ := by rw [← hconditions]; rfl
  have hright : s.normal.filter = (nonEmpty s.finishedConditions).map
      fun cs => ⟨s.operator.getD .all, cs⟩ := rfl
  rw [hleft, hright]
  cases hrows : nonEmpty s.finishedConditions with
  | none => rfl
  | some cs =>
    have hoperator : s.normal.settings.operator = some (s.operator.getD .all) := by
      rw [Clauses.settings, hright, hrows]
      rfl
    rw [hoperator]
    rfl

theorem orderBy_normal_settings (s : FilterSettings) :
    s.normal.settings.normal.orderBy = s.normal.orderBy := by
  have horder : s.normal.settings.orderBy = s.finishedKeys := getD_nonEmpty _
  have hkeys : s.normal.settings.finishedKeys = s.finishedKeys := by
    rw [finishedKeys, horder]
    exact SortKey.trims.finishedRows_finishedRows s.orderBy
  exact congrArg nonEmpty hkeys

theorem aggregation_normal_of_some {a : Aggregation} (h : s.aggregation = some a) :
    s.normal.aggregation = (nonEmpty a.finished).map fun as => ⟨a.groups, as⟩ := by
  rw [normal, h]
  rfl

theorem aggregation_normal_settings (s : FilterSettings) :
    s.normal.settings.normal.aggregation = s.normal.aggregation := by
  cases ha : s.normal.settings.aggregation with
  | none =>
    have hnone : s.normal.aggregation = none := Option.map_eq_none_iff.1 ha
    rw [normal, ha, hnone]
    rfl
  | some a =>
    obtain ⟨b, hb, -, rfl⟩ := exists_of_aggregation_settings ha
    have hfinished : (⟨b.groups, b.finished⟩ : Aggregation).finished = b.finished :=
      Aggregate.trims.finishedRows_finishedRows b.aggregates
    have hgroups : (⟨b.groups, b.finished⟩ : Aggregation).groups = b.groups :=
      Text.trims.finishedRows_finishedRows b.groupBy
    rw [aggregation_normal_of_some ha, aggregation_normal_of_some hb, hfinished, hgroups]

/-- Normal clauses are those of the settings that are built from them. -/
theorem normal_settings (s : FilterSettings) : s.normal.settings.normal = s.normal := by
  have heta (c : Clauses) : c = ⟨c.filter, c.orderBy, c.aggregation⟩ := rfl
  rw [heta s.normal.settings.normal, filter_normal_settings, orderBy_normal_settings,
    aggregation_normal_settings]

end FilterSettings

/-! ## Nodes -/

namespace Node

/-- A filter node is refused if and only if one of its rows is faulty. Otherwise its clauses are
made of the finished rows. Each of them is the same for every filter with the same part of the
settings, and a filter node that is built from the clauses has these clauses again. -/
theorem normalizes_clauses (n : Node) {s : FilterSettings} (hn : n.settings = .filter s) :
    ((∃ e, clausesOf (some n) = .error e) ↔ s.Faulty) ∧
      ∀ c, clausesOf (some n) = .ok c →
        s.Normalized c ∧
          (∀ m q d, m.settings = .filter q → clausesOf (some m) = .ok d →
            (s.operator = q.operator → s.conditions = q.conditions → c.filter = d.filter) ∧
              (s.orderBy = q.orderBy → c.orderBy = d.orderBy) ∧
                (s.aggregation = q.aggregation → c.aggregation = d.aggregation)) ∧
            ∀ m : Node, m.settings = .filter c.settings → clausesOf (some m) = .ok c := by
  have hclauses {m : Node} {q : FilterSettings} (hm : m.settings = .filter q) :
      clausesOf (some m) = q.clauses m.id := by
    rw [clausesOf, clauses, hm]
  rw [hclauses hn]
  refine ⟨⟨?_, FilterSettings.exists_clauses_eq_error⟩, fun c hc => ?_⟩
  · rintro ⟨e, he⟩
    by_contra h
    rw [FilterSettings.clauses_eq_ok h] at he
    cases he
  obtain ⟨hfaulty, rfl⟩ := FilterSettings.clauses_eq_ok_iff.1 hc
  refine ⟨s.normalized_normal, fun m q d hm hd => ?_, fun m hm => ?_⟩
  · rw [hclauses hm] at hd
    obtain ⟨-, rfl⟩ := FilterSettings.clauses_eq_ok_iff.1 hd
    refine ⟨fun hoperator hconditions => ?_, fun horder => ?_, fun haggregation => ?_⟩
    · simp only [FilterSettings.normal, FilterSettings.finishedConditions, hoperator, hconditions]
    · simp only [FilterSettings.normal, FilterSettings.finishedKeys, horder]
    · simp only [FilterSettings.normal, haggregation]
  · rw [hclauses hm]
    exact FilterSettings.clauses_eq_ok_iff.2
      ⟨FilterSettings.not_faulty_settings hfaulty, s.normal_settings.symm⟩

/-- A filter with unfinished rows, and one whose only row has an operator that is not known. -/
def visitFilter : Node :=
  { id := "visits", settings := .filter
      { conditions := [⟨" age ", " GTE ", some (.int 18)⟩, {}, ⟨"name", "Is_Null", some (.int 1)⟩]
        orderBy := [⟨" age ", .descending⟩]
        aggregation := some ⟨["city"], [⟨" ", "median"⟩]⟩ } }

def strayFilter : Node :=
  { id := "stray", settings := .filter { conditions := [⟨"age", "=>", some (.int 18)⟩] } }

def visitClauses : Clauses :=
  { filter := some ⟨.all, [⟨"age", "gte", some (.int 18)⟩, ⟨"name", "is_null", none⟩]⟩
    orderBy := some [⟨"age", .descending⟩] }

/-- Unfinished rows and a lone grouping leave no trace; a row that is not known is refused. -/
theorem normalizes_clauses_visits :
    clausesOf (some visitFilter) = .ok visitClauses ∧
      (∀ m : Node, m.settings = .filter visitClauses.settings →
        clausesOf (some m) = .ok visitClauses) ∧
      ∃ e, clausesOf (some strayFilter) = .error e := by
  have hclauses : clausesOf (some visitFilter) = .ok visitClauses := by rfl
  obtain ⟨-, -, hagain⟩ := (normalizes_clauses visitFilter rfl).2 visitClauses hclauses
  refine ⟨hclauses, hagain, (normalizes_clauses strayFilter rfl).1.2 ?_⟩
  refine .condition ⟨"age", "=>", some (.int 18)⟩ (.head _) (.unknown ?_ ?_ ?_)
  · decide
  · decide +kernel
  · unfold Condition.NeedsValue
    decide +kernel

end Node

end DataPipeline
