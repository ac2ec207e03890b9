import DataPipeline.Proofs.Task.Required

/-!
# Whom an error names

Whatever a mapper objects to in the settings of a node, the error carries the id of that node. Here
it does not matter which fields are missing.

## Main results

* `Node.complains_conversionInput`, `Node.complains_conversionOutput`, `Node.complains_clauses`,
  `Node.complains_task`: the mappers of a node
-/
namespace DataPipeline.Node

variable (n : Node)

theorem complains_conversionInput : Complains n.id (fun _ => True) n.conversionInput := by
  rw [conversionInput]
  split
  · exact .map (.readFile (by simp) (by simp))
  · exact .map (.inlineInput _)
  · split
    · exact .map (.databaseInput (.databaseAddress (by simp)) (by simp))
    · exact .ok _
  · exact .ok _

theorem complains_conversionOutput : Complains n.id (fun _ => True) n.conversionOutput := by
  rw [conversionOutput]
  split
  · exact .map (.writeFile (by simp) (by simp))
  · exact .map (.inlineOutput _)
  · split
    · exact .map (.databaseOutput (.databaseAddress (by simp)) (by simp))
    · exact .ok _
  · exact .ok _

theorem complains_clauses : Complains n.id (fun _ => True) n.clauses := by
  rw [clauses]
  split
  · exact .filter trivial trivial _
  · exact .ok _

theorem complains_fileCommand (runner : String) :
    Complains n.id (fun _ => True) (n.fileCommand runner) := by
  rw [fileCommand]
  split
  · exact .map (.command _ (by simp) (by simp))
  · exact .map (.command _ (by simp) (by simp))
  · exact .map (.command _ (by simp) (by simp))
  · exact .bind (.namedOperation (by simp)) fun _ _ => .map (.command _ (by simp) (by simp))
  · exact .ok _

theorem complains_salesforceQuery : Complains n.id (fun _ => True) n.salesforceQuery := by
  rw [salesforceQuery]
  split
  · exact .map (.query (by simp) (by simp))
  · exact .ok _

theorem complains_salesforceLoad : Complains n.id (fun _ => True) n.salesforceLoad := by
  rw [salesforceLoad]
  split
  · exact .map (.load (by simp) (by simp) (by simp))
  · exact .ok _

theorem complains_timer (dagId : String) : Complains n.id (fun _ => True) (n.timer dagId) := by
  rw [timer]
  split
  · exact .map (.timer _ (by simp))
  · exact .ok _

theorem complains_task (options : PlanOptions) (dagId : String) :
    Complains n.id (fun _ => True) (n.task options dagId) := by
  refine .bind (n.complains_fileCommand _) fun command _ => ?_
  cases command with
  | some t => exact .pure _
  | none =>
    refine .bind n.complains_salesforceQuery fun query _ => ?_
    cases query with
    | some t => exact .pure _
    | none =>
      refine .bind n.complains_salesforceLoad fun load _ => ?_
      cases load with
      | some t => exact .pure _
      | none =>
        refine .bind (n.complains_timer dagId) fun timer _ => ?_
        cases timer with
        | some t => exact .pure _
        | none => exact .pure _

end DataPipeline.Node
