import TuningTasks.Batch.Report

/-!
Waiting for a batch that runs in the background, with or without a time limit. The answer depends on
how the batch ended and on whether the limit ran out first; the batch runs to its end either way.
-/
namespace TuningTasks

universe u v
variable {σ α : Type} {Program : Type u} {Params : Type v}

namespace Failure

def timedOut (micros : Nat) : Failure :=
  { kind := .timeout
    message := "task extraction timed out after " ++ toString (micros / 1000) ++ "ms" }

def joinFailure (task : Nat) (panic : Panic) : Failure :=
  { kind := .internal
    message := "task extraction join failure: task " ++ toString task ++ " panicked" ++
      match panic.text with
      | some text => " with message " ++ Text.quoted text
      | none => "" }

end Failure

/-- How a wait for a background task ends: limits are in microseconds. -/
inductive Waited (α : Type)
  | ended (result : Except Exit α)
  | elapsed (micros : Nat)

/-- Without a limit a wait ends with the task, whatever the clock says. -/
def Waited.of (limit : Option Nat) (elapsed : Bool) (result : Except Exit α) : Waited α :=
  match limit, elapsed with
  | some micros, true => .elapsed micros
  | _, _ => .ended result

def awaited (task : Nat) : Waited α → Except Failure α
  | .elapsed micros => .error (.timedOut micros)
  | .ended (.ok value) => .ok value
  | .ended (.error (.failure failure)) => .error failure
  | .ended (.error (.panic panic)) => .error (.joinFailure task panic)

namespace Extractor

/-- The batch is a background task of the given number, on a thread of its own; `elapsed` tells
whether the limit ran out first. -/
def reportAwaited (extractor : Extractor σ Program Params) (task : Nat) (programs : List Program)
    (params : List Params) (filter : Option Filter) (target : Target) (host : Option Target)
    (limit : Option Nat) (elapsed : Code σ Bool) : Routine σ Report := do
  let ended ← ExceptT.lift
    (Code.onThread {} (extractor.report programs params filter target host).run)
  .ofExcept (awaited task (.of limit (← ExceptT.lift elapsed) ended))

end Extractor

end TuningTasks
