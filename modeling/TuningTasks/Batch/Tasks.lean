import TuningTasks.Batch.Pipeline
import TuningTasks.Operator
import TuningTasks.Settings

/-!
Building tasks from recorded invocations, one request each, in order. An invocation whose shape the
factory rejects is skipped with a warning; any other failure ends the work.
-/
namespace TuningTasks

variable {σ : Type}

structure Skip where
  invocation : Invocation
  reason : String
deriving DecidableEq, Inhabited

structure Materialized where
  tasks : List Task := []
  skipped : List Skip := []
deriving DecidableEq, Inhabited

/-- An override in the settings wins over the operator's first template. -/
def Settings.templateFor (settings : Settings) (operator : String) : Option String :=
  (settings.template? operator).or (Operator.defaultTemplate? operator)

def Invocation.request (invocation : Invocation) (settings : Settings) (target : Target) :
    TaskRequest :=
  ⟨invocation.operator, invocation.signature, target, settings.templateFor invocation.operator⟩

def Factory.materialize (factory : Factory σ) (settings : Settings) (target : Target) :
    List Invocation → Routine σ Materialized
  | [] => return {}
  | invocation :: rest => do
      match ← Routine.catchFailure (factory (invocation.request settings target)) with
      | .ok task =>
          let later ← factory.materialize settings target rest
          return { later with tasks := task :: later.tasks }
      | .error failure =>
          if failure.isRecoverable then
            .emit (.skipped invocation failure.message)
            let later ← factory.materialize settings target rest
            return { later with skipped := ⟨invocation, failure.message⟩ :: later.skipped }
          else .fail (failure.atOperator invocation.operator)

end TuningTasks
