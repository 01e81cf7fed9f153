import TuningTasks.Batch.Pipeline
import TuningTasks.Settings

/-!
Lowering passes. Each program of a batch is lowered on a thread of its own between two clears of the
function cache; around each pass the function cache is cleared on the driving thread too, and after
it the fallback state, whatever became of the pass.
-/
namespace TuningTasks

universe u v
variable {σ : Type} {Program : Type u} {Params : Type v}

namespace Failure

def wrapped (failure : Failure) : Failure :=
  if failure.kind = .loweringFailure then failure
  else
    { failure with
      kind := .loweringFailure
      message := "lowering failed (" ++ failure.kind.name ++ "): " ++ failure.message }

def threadRefused (index : Nat) (reason : String) : Failure :=
  { kind := .internal
    message := "failed to spawn lowering thread: " ++ reason
    program := some index }

def passPanicked (index : Nat) (panic : Panic) : Failure :=
  { kind := .loweringFailure
    message := "lowering thread panicked: " ++ panic.text.getD "unknown panic payload"
    program := some index }

end Failure

namespace Pipeline

/-- Lowers one program on the current thread, between two clears of the function cache. -/
def pass (pipeline : Pipeline σ Program Params) (pair : TargetPair) (program : Program)
    (params : Params) : Routine σ Unit := do
  .panicking pipeline.clearFunctions
  let config := PassConfig.ofTarget pair.target
  if let some backend := config.auxiliaryBackend then
    .emit (.auxiliaryLowering backend)
  let lowered ← Routine.catchFailure (pipeline.lower program pair params config)
  .panicking pipeline.clearFunctions
  match lowered with
  | .ok () => return
  | .error failure => .fail failure.wrapped

end Pipeline

def Settings.passThread (settings : Settings) (index : Nat) : Thread where
  name := some (settings.threadPrefix ++ "-" ++ toString index)
  inPass := true

/-- Runs a pass on a fresh thread, muted if logs are suppressed, and waits for its end; a panic there
is a failure here. -/
def isolated (settings : Settings) (index : Nat) (body : Routine σ Unit) :
    Code σ (Except Failure Unit) := do
  match ← .perform (.spawn settings.stackSize) with
  | .error reason => return .error (.threadRefused index reason)
  | .ok () =>
      match ← Code.onThread (settings.passThread index)
          (Routine.quietly settings.suppressLogs body).run with
      | .ok () => return .ok ()
      | .error (.failure failure) => return .error failure
      | .error (.panic panic) => return .error (.passPanicked index panic)

def Pipeline.passes (pipeline : Pipeline σ Program Params) (settings : Settings)
    (pair : TargetPair) : (index : Nat) → List (Program × Params) → Routine σ Unit
  | _, [] => return
  | index, (program, params) :: rest => do
      .panicking pipeline.clearFunctions
      let traced ← ExceptT.lift (isolated settings index (pipeline.pass pair program params))
      .panicking pipeline.clearFunctions
      if let some clear := pipeline.clearFallback then
        .panicking clear
      match traced with
      | .ok () => pipeline.passes settings pair (index + 1) rest
      | .error failure => .fail (failure.atProgram index)

end TuningTasks
