import DataPipeline.Proofs.Settings.Records
import DataPipeline.Proofs.Task.WellFormed
import Mathlib.Data.List.ReduceOption

/-!
# Tasks that are read again

The engine reads a task from the document that was written for it. Every record of a task survives
this, whatever the record holds, up to its untyped values. They must come through a rearrangement as
they are, and a condition must not compare with `null`, since this is how a condition without a
value is read. The mappers make no such condition.

## Main definitions

* `Task.untyped`: the untyped values of a task
* `Task.Definite`: no condition of a task compares with `null`

## Main results

* `Task.ofJson_toJson`: a definite task is read again as a task of its kind
* `Node.definite_of_clausesOf`: the mappers make definite clauses
-/
namespace DataPipeline

open Codec DataPipeline.Field Json

variable {s : Json → Json}

/-! ## Untyped values -/

def ConversionInput.untyped (t : ConversionInput) : List Json := t.options.values ++ t.rows.getD []

def FilterClause.untyped (f : FilterClause) : List Json := f.conditions.filterMap (·.value)

def Conversion.untyped (t : Conversion) : List Json :=
  t.input.untyped ++ t.output.options.values ++ t.filter.elim [] FilterClause.untyped ++
    t.resources.extra.values

def Task.untyped : Task → List Json
  | .conversion t => t.untyped
  | .fileCommand t => t.options.values
  | .salesforceQuery _ | .salesforceLoad _ | .timer _ => []

/-- No condition compares with `null`. -/
def FilterClause.Definite (f : FilterClause) : Prop := ∀ c ∈ f.conditions, c.value ≠ some .null

def Task.Definite : Task → Prop
  | .conversion t => ∀ f, t.filter = some f → f.Definite
  | _ => True

/-! ## Choices -/

theorem FileOperation.survives (o : FileOperation) : codec.Survives o :=
  survives_choice (by cases o <;> decide)

theorem LoadOperation.survives (o : LoadOperation) : codec.Survives o :=
  survives_choice (by cases o <;> decide)

theorem TimerUnit.survives (u : TimerUnit) : codec.Survives u :=
  survives_choice (by cases u <;> decide)

/-! ## Records without untyped values -/

theorem AggregationClause.survives (a : AggregationClause) : codec.Survives a :=
  survives_record (by decide) rfl
    (Layout.keeps_make
      |>.field (keeps_required (.list fun _ _ => survives_text _))
      |>.field (keeps_required (.list fun a _ => a.survives)))

theorem SalesforceQuery.survives (t : SalesforceQuery) : codec.Survives t :=
  survives_record (by decide) rfl
    (Layout.keeps_make
      |>.field (keeps_required (survives_text _))
      |>.field (keeps_text _)
      |>.field (keeps_items fun _ _ => survives_text _)
      |>.field (keeps_required (survives_boolean _))
      |>.field (keeps_required (survives_word32 _))
      |>.field (keeps_required (survives_text _)))

theorem SalesforceLoad.survives (t : SalesforceLoad) : codec.Survives t :=
  survives_record (by decide) rfl
    (Layout.keeps_make
      |>.field (keeps_required (survives_text _))
      |>.field (keeps_required (LoadOperation.survives _))
      |>.field (keeps_text _)
      |>.field (keeps_items fun _ _ => survives_text _)
      |>.field (keeps_required (survives_boolean _))
      |>.field (keeps_required (survives_word32 _))
      |>.field (keeps_required (survives_text _)))

theorem Timer.survives (t : Timer) : codec.Survives t :=
  survives_record (by decide) rfl
    (Layout.keeps_make
      |>.field (keeps_required (survives_text _))
      |>.field (keeps_required (survives_text _))
      |>.field (keeps_required (survives_word32 _))
      |>.field (keeps_required (TimerUnit.survives _))
      |>.field (keeps_optional fun n _ => ⟨survives_word32 n, fun h => by cases h⟩)
      |>.field (keeps_required (survives_boolean _)))

/-! ## Records with untyped values -/

section

variable (hs : Rearranges s)
include hs

theorem Resources.survivesBy {t : Resources} (h : ∀ j ∈ t.extra.values, s j = j) :
    codec.SurvivesBy s t :=
  survivesBy_record hs (by decide) rfl
    (Layout.keepsBy_make
      |>.kept hs (keeps_orElse (survives_text _))
      |>.kept hs (keeps_orElse (survives_text _))
      |>.kept hs (keeps_orElse (survives_word32 _))
      |>.kept hs (keeps_orElse (survives_word32 _))
      |>.field (keepsBy_dict hs h))

theorem Condition.survivesBy {c : Condition} (h : ∀ j, c.value = some j → s j = j ∧ j ≠ .null) :
    codec.SurvivesBy s c :=
  survivesBy_record hs (by decide) rfl
    (Layout.keepsBy_make
      |>.kept hs (keeps_orElse (survives_text _))
      |>.kept hs (keeps_orElse (survives_text _))
      |>.field (keepsBy_optional hs fun j hj => ⟨survivesBy_any (h j hj).1, fun hnull =>
        (h j hj).2 (Except.ok.inj hnull).symm⟩))

theorem FilterClause.survivesBy {f : FilterClause} (hf : f.Definite)
    (h : ∀ j ∈ f.untyped, s j = j) : codec.SurvivesBy s f := by
  have hconditions : ∀ c ∈ f.conditions, Condition.codec.SurvivesBy s c := by
    intro c hc
    refine Condition.survivesBy hs fun j hj => ⟨h j (List.mem_filterMap.2 ⟨c, hc, hj⟩), ?_⟩
    rintro rfl
    exact hf c hc hj
  exact survivesBy_record hs (by decide) rfl
    (Layout.keepsBy_make
      |>.kept hs (keeps_required (Junction.survives _))
      |>.field (keepsBy_required (.list hs hconditions)))

theorem ConversionInput.survivesBy {t : ConversionInput} (h : ∀ j ∈ t.untyped, s j = j) :
    codec.SurvivesBy s t := by
  obtain ⟨hoptions, hrows⟩ := List.forall_mem_append.1 h
  refine survivesBy_record hs (by decide) rfl
    (Layout.keepsBy_make
      |>.kept hs (keeps_required (survives_text _))
      |>.kept hs (keeps_required (survives_text _))
      |>.kept hs (keeps_required (survives_text _))
      |>.field ?options
      |>.kept hs (keeps_optional fun _ _ => ⟨.list fun c _ => c.survives, fun h => by cases h⟩)
      |>.field ?rows)
  case options => exact keepsBy_required (survivesBy_dict hs hoptions)
  case rows =>
    refine keepsBy_optional hs fun rows heq => ⟨.list hs fun j hj => survivesBy_any ?_,
      fun h => by cases h⟩
    obtain heq : t.rows = some rows := heq
    rw [heq] at hrows
    exact hrows j hj

theorem ConversionOutput.survivesBy {t : ConversionOutput} (h : ∀ j ∈ t.options.values, s j = j) :
    codec.SurvivesBy s t :=
  survivesBy_record hs (by decide) rfl
    (Layout.keepsBy_make
      |>.kept hs (keeps_required (survives_text _))
      |>.kept hs (keeps_required (survives_text _))
      |>.kept hs (keeps_required (survives_text _))
      |>.kept hs (keeps_required (survives_text _))
      |>.field (by exact keepsBy_required (survivesBy_dict hs h)))

theorem Conversion.survivesBy {t : Conversion} (hdefinite : ∀ f, t.filter = some f → f.Definite)
    (h : ∀ j ∈ t.untyped, s j = j) : codec.SurvivesBy s t := by
  obtain ⟨h, hresources⟩ := List.forall_mem_append.1 h
  obtain ⟨h, hfilter⟩ := List.forall_mem_append.1 h
  obtain ⟨hinput, houtput⟩ := List.forall_mem_append.1 h
  refine survivesBy_record hs (by decide) rfl
    (Layout.keepsBy_make
      |>.field ?input
      |>.field ?output
      |>.field ?filter
      |>.kept hs (keeps_optional fun _ _ => ⟨.list fun k _ => k.survives, fun h => by cases h⟩)
      |>.kept hs (keeps_optional fun a _ => ⟨a.survives, fun h => by cases h⟩)
      |>.field ?resources
      |>.kept hs (keeps_required (survives_text _)))
  case input => exact keepsBy_required (ConversionInput.survivesBy hs hinput)
  case output => exact keepsBy_required (ConversionOutput.survivesBy hs houtput)
  case filter =>
    refine keepsBy_optional hs fun f hf => ⟨?_, fun h => by cases h⟩
    obtain hf : t.filter = some f := hf
    rw [hf] at hfilter
    exact FilterClause.survivesBy hs (hdefinite f hf) hfilter
  case resources => exact keepsBy_required (Resources.survivesBy hs hresources)

theorem FileCommand.survivesBy {t : FileCommand} (h : ∀ j ∈ t.options.values, s j = j) :
    codec.SurvivesBy s t :=
  survivesBy_record hs (by decide) rfl
    (Layout.keepsBy_make
      |>.kept hs (keeps_required (FileOperation.survives _))
      |>.kept hs (keeps_required (survives_text _))
      |>.kept hs (keeps_text _)
      |>.field (by exact keepsBy_required (survivesBy_dict hs h))
      |>.kept hs (keeps_required (survives_text _)))

/-- A task is read again as a task of its kind. -/
theorem Task.ofJson_toJson {t : Task} (ht : t.Definite) (h : ∀ j ∈ t.untyped, s j = j) :
    ofJson t.kind (s t.toJson) = .ok t := by
  cases t with
  | conversion t => exact congrArg (conversion <$> ·) (Conversion.survivesBy hs ht h)
  | fileCommand t => exact congrArg (fileCommand <$> ·) (FileCommand.survivesBy hs h)
  | salesforceQuery t => exact congrArg (salesforceQuery <$> ·) (t.survives s hs)
  | salesforceLoad t => exact congrArg (salesforceLoad <$> ·) (t.survives s hs)
  | timer t => exact congrArg (timer <$> ·) (t.survives s hs)

end

/-! ## What the mappers make -/

namespace Gives

variable {id : String}

theorem operand (operator : String) (c : Condition) :
    Gives (· ≠ some .null) (c.operand id operator) := by
  rw [Condition.operand]
  split
  · exact ok (by simp)
  · split
    · split
      · exact error _
      · exact error _
      · rename_i hnull _
        exact ok fun heq => hnull (Option.some.inj heq)
    · exact error _

theorem condition (c : Condition) :
    Gives (fun o => ∀ d, o = some d → d.value ≠ some .null) (c.normalize id) := by
  rw [Condition.normalize]
  split
  · exact pure (by simp)
  · dsimp only
    split
    · exact error_bind _ _
    · refine (operand _ c).bind fun value hvalue => pure fun d hd => ?_
      obtain rfl := Option.some.inj hd
      exact hvalue

/-- The conditions of the clause are those that are left in normal form. -/
theorem conditionClause_definite (s : FilterSettings) :
    Gives (fun o => ∀ f, o = some f → f.Definite) (s.conditionClause id) := by
  intro o ho
  obtain ⟨rows, hrows, ho⟩ := exists_of_bind_eq_ok ho
  obtain rfl := Except.ok.inj ho
  intro f hf c hc
  obtain ⟨conditions, hconditions, rfl⟩ := Option.map_eq_some_iff.1 hf
  obtain rfl := (eq_of_nonEmpty hconditions).1
  obtain ⟨d, -, hd⟩ := exists_of_mem_mapM hrows (List.reduceOption_mem_iff.1 hc)
  exact condition d _ hd c rfl

theorem clauses_definite (s : FilterSettings) :
    Gives (fun c => ∀ f, c.filter = some f → f.Definite) (s.clauses id) := by
  refine (conditionClause_definite s).bind fun filter hfilter => ?_
  dsimp only
  split
  · exact pure hfilter
  · exact bind_any fun _ => pure hfilter

end Gives

theorem Node.definite_of_clausesOf {n : Option Node} {c : Clauses} (h : clausesOf n = .ok c) :
    ∀ f, c.filter = some f → f.Definite :=
  Gives.clausesOf (by simp) Gives.clauses_definite c h

end DataPipeline
