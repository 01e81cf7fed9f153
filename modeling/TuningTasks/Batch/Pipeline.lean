import TuningTasks.PassConfig
import TuningTasks.Process.Routine
import TuningTasks.Target.Resolution
import TuningTasks.Task

/-!
What a batch is given by its user: a lowering pipeline, a task factory and a target resolver. Each
is code over the shared state, so it may dispatch, log, fail, panic and use threads.
-/
namespace TuningTasks

universe u v

/-- Lowering is run for the dispatches it makes; a configuration holds for one call only. -/
structure Pipeline (σ : Type) (Program : Type u) (Params : Type v) where
  lower : Program → TargetPair → Params → PassConfig → Routine σ Unit
  clearFunctions : Code σ (Except Panic Unit)
  /-- Forgets the fallback state, in a pipeline that runs without tuned schedules. -/
  clearFallback : Option (Code σ (Except Panic Unit))

abbrev Factory (σ : Type) := TaskRequest → Routine σ Task

abbrev Resolver (σ : Type) := Target → Option Target → Routine σ TargetPair

variable {σ : Type}

def Factory.passthrough : Factory σ := fun request => pure (Task.ofRequest request)

def Resolver.canonical : Resolver σ := fun target host =>
  Routine.ofExcept (TargetPair.canonical target host)

end TuningTasks
